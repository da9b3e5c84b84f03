/-!
# Columns — text filled up with blanks to a width

A text that is as wide as its column, or wider, is left as it is. Width counts characters.
-/

namespace GrammarTarget.Text

/-- A text of blanks, which fills a column up. -/
def blanks (count : Nat) : String :=
  String.ofList (List.replicate count ' ')

/-- The text at the left of a column, with blanks behind it. -/
def alignLeft (width : Nat) (text : String) : String :=
  text ++ blanks (width - text.length)

/-- The text at the right of a column, with blanks before it. -/
def alignRight (width : Nat) (text : String) : String :=
  blanks (width - text.length) ++ text

end GrammarTarget.Text
