/-!
# Plain text — what a text shows where there is no terminal

A terminal obeys control characters and control sequences in place of showing them. Where there is
none they are left out, and white space is kept. A sequence begins with the escape character; what
follows decides where it ends (`Sequence.next`). The escape character always begins a new sequence,
and the characters of cancel and substitute always end one.

White space within a short sequence or a control sequence shows, and so does the text after it, up
to the next control character; there the sequence goes on. A sequence that is not ended takes in
the rest of the text.
-/

namespace GrammarTarget.Text

/-- What a reader of terminal text is within. -/
inductive Sequence where
  | ground
  | escape
  /-- A short sequence that waits for its last character. -/
  | short
  /-- A control sequence: parameters, then a last character from `@` on. -/
  | control
  | deviceEntry
  | deviceParameters
  | deviceMiddle
  /-- The data of a device command, or another command with data. -/
  | data
  | systemCommand
  deriving DecidableEq, Repr

/-- The character that begins a sequence. -/
def escapeChar : Char := '\x1b'

/-- Whether the number of a character lies between two bounds, both included. -/
def isWithin (first last : Nat) (c : Char) : Bool :=
  first ≤ c.toNat && c.toNat ≤ last

/-- Whether a character is beyond ASCII. Such a character is shown, or skipped, as a whole. -/
def isWide (c : Char) : Bool :=
  0x80 ≤ c.toNat

/-- Whether a character is white space that lays text out: tab, line feed, form feed or carriage
    return. -/
def isLayout (c : Char) : Bool :=
  c == '\t' || c == '\n' || c == '\x0c' || c == '\r'

/-- Whether a character shows by itself, outside of any sequence. -/
def isShown (c : Char) : Bool :=
  isWide c || isLayout c || isWithin 0x20 0x7E c

/-- Whether a character ends the data of a command: the byte 9C occurs in its encoding. -/
def endsData (c : Char) : Bool :=
  (String.utf8EncodeChar c).contains 0x9C

namespace Sequence

/-- What a reader is within after the escape character and one character more, which tells the kind
    of the sequence. -/
def afterEscape (c : Char) : Sequence :=
  if isWithin 0x20 0x2F c then short
  else if c = '[' then control
  else if c = ']' then systemCommand
  else if c = 'P' then deviceEntry
  else if c = 'X' || c = '^' || c = '_' then data
  else if isWithin 0x30 0x7E c then ground
  else escape

/-- What a reader is within after a character at the beginning of a device command. -/
def afterDevice (c : Char) : Sequence :=
  if isWithin 0x20 0x2F c then deviceMiddle
  else if isWithin 0x30 0x3F c then deviceParameters
  else if isWithin 0x40 0x7E c then data
  else deviceEntry

/-- What a reader is within after a character among the parameters of a device command. Digits,
    colons and semicolons go on with them. -/
def afterParameters (c : Char) : Sequence :=
  if isWithin 0x20 0x2F c then deviceMiddle
  else if isWithin 0x3C 0x7E c then data
  else deviceParameters

/-- What the reader is within after a character. -/
def next (s : Sequence) (c : Char) : Sequence :=
  -- a new sequence, or the end of any: no sequence takes these characters in
  if c = escapeChar then escape
  else if c = '\x18' || c = '\x1a' then ground
  else
    match s with
    | ground           => ground
    | escape           => afterEscape c
    | short            => if isWithin 0x30 0x7E c then ground else short
    | control          => if isWithin 0x40 0x7E c then ground else control
    | deviceEntry      => afterDevice c
    | deviceParameters => afterParameters c
    | deviceMiddle     => if isWithin 0x30 0x7E c then data else deviceMiddle
    | data             => if endsData c then ground else data
    | systemCommand    => if c = '\x07' then ground else systemCommand

/-- Whether a character shows that is read within `s`. -/
def shows (s : Sequence) (c : Char) : Bool :=
  match s with
  | ground                   => isShown c
  | escape | short | control => isLayout c
  | _                        => false

end Sequence

/-- The characters that show of a text that is read within `s`; while `showing` is set, text shows
    whatever it is within. -/
def plainFrom (s : Sequence) (showing : Bool) : List Char → List Char
  | []      => []
  | c :: cs =>
    if showing && isShown c then c :: plainFrom (if isWide c then .ground else s) true cs
    else if s.shows c then c :: plainFrom (s.next c) true cs
    else plainFrom (s.next c) false cs

/-- What a text shows where there is no terminal. -/
def plain (text : String) : String :=
  String.ofList (plainFrom .ground true text.toList)

end GrammarTarget.Text
