/-!
# Lines — the first line of a text

A line ends at a line feed, and a carriage return right before it belongs to the end of the line
(`firstLine`). Where lines are told apart by the line feed alone the carriage return is part of the
line (`untilLineFeed`).
-/

namespace GrammarTarget.Text

/-- The characters up to the first line feed, without a carriage return right before it. -/
def firstLineChars : List Char → List Char
  | []                => []
  | '\n' :: _         => []
  | '\r' :: '\n' :: _ => []
  | c :: cs           => c :: firstLineChars cs

/-- The first line of a text, where either line end is known. -/
def firstLine (text : String) : String :=
  String.ofList (firstLineChars text.toList)

/-- The first line of a text, where a line feed alone ends a line. -/
def untilLineFeed (text : String) : String :=
  String.ofList (text.toList.takeWhile (· != '\n'))

end GrammarTarget.Text
