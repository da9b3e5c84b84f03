/-!
# Escapes — code points written out in string and character literals

The escape of a code point is `\u`, a brace, its hexadecimal digits in capitals and a closing
brace. There are as many digits as the number needs, but at least four. Any number of 32 bits is
written so, also one that is no character.
-/

namespace GrammarTarget.Escape

/-- The digits of a number in base sixteen, with capitals from ten on. -/
def hexAlphabet : List Char :=
  ['0', '1', '2', '3', '4', '5', '6', '7', '8', '9', 'A', 'B', 'C', 'D', 'E', 'F']

/-- The hexadecimal digit of a number below sixteen. -/
def hexDigit (d : Nat) : Char :=
  hexAlphabet.getD d '0'

/-- The last `width` hexadecimal digits of a number, the most significant first. -/
def hexDigits : (width n : Nat) → List Char
  | 0,         _ => []
  | width + 1, n => hexDigits width (n / 16) ++ [hexDigit (n % 16)]

/-- How many digits an escape has: the least number from four on that is enough, for a code point
    of at most 32 bits. -/
def hexWidth (n : Nat) : Nat :=
  if n < 0x10000 then 4
  else if n < 0x100000 then 5
  else if n < 0x1000000 then 6
  else if n < 0x10000000 then 7
  else 8

/-- The escape of a code point as characters: an opening, the digits and a closing brace. -/
def escapeChars (codePoint : UInt32) : List Char :=
  ['\\', 'u', '{'] ++ hexDigits (hexWidth codePoint.toNat) codePoint.toNat ++ ['}']

/-- The escape of a code point, as it stands in a literal. -/
def escape (codePoint : UInt32) : String :=
  String.ofList (escapeChars codePoint)

/-- Writes the escape of a code point after a text. -/
def append (text : String) (codePoint : UInt32) : String :=
  text ++ escape codePoint

/-! ## Digits -/

/-- A row of digits is as long as it was asked to be, so leading zeros are kept. -/
@[simp] theorem length_hexDigits (width n : Nat) : (hexDigits width n).length = width := by
  induction width generalizing n with
  | zero          => rfl
  | succ width ih => simp [hexDigits, ih]

end GrammarTarget.Escape
