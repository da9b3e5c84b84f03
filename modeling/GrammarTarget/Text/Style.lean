/-!
# Styles — text with terminal escape sequences around it

A style switches an attribute on before the text and resets it after the text. Styles nest: the
inner one resets only its own attribute.
-/

namespace GrammarTarget.Text

/-- The control sequence that sets an attribute of what is printed. -/
def control (code : String) : String :=
  "\x1b[" ++ code ++ "m"

/-- The text in bold face. Every attribute is reset after it. -/
def bold (text : String) : String :=
  control "1" ++ text ++ control "0"

/-- The text in bright yellow. The colour is reset after it. -/
def brightYellow (text : String) : String :=
  control "93" ++ text ++ control "39"

end GrammarTarget.Text
