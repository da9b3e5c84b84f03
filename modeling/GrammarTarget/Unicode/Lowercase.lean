import GrammarTarget.Unicode.Cased
import GrammarTarget.Unicode.CaseIgnorable
import GrammarTarget.Unicode.LowercaseMapping

/-!
# Lower case text

The full lower case mapping of the Unicode standard, without a locale. Every character is mapped
on its own, except for the capital sigma: at the end of a word it becomes the final sigma. Two
characters are special: U+0130 becomes the letter i with a dot above it, and U+03A3 is the capital
sigma.
-/

namespace GrammarTarget.Unicode

/-- The capital sigma, U+03A3. -/
def capitalSigma : Char := '\u03A3'

/-- The small sigma within a word, U+03C3. -/
def smallSigma : Char := '\u03C3'

/-- The small sigma at the end of a word, U+03C2. -/
def finalSigma : Char := '\u03C2'

/-- The capital I with a dot above, U+0130. -/
def dottedCapitalI : Char := '\u0130'

/-- The lower case of a character other than the capital sigma. -/
def lowerChar (c : Char) : List Char :=
  if c = dottedCapitalI then ['i', '\u0307'] else [simpleLower c]

/-- Whether the first character that is not case ignorable exists and is cased. -/
def startsCased : List Char → Bool
  | []      => false
  | c :: cs => if isCaseIgnorable c then startsCased cs else isCased c

/-- The lower case of a capital sigma between the text `before` it, read backwards, and the text
    `after` it: final if a cased letter comes before it and none after it. -/
def lowerSigma (before after : List Char) : Char :=
  if startsCased before && !startsCased after then finalSigma else smallSigma

/-- The lower case of a text whose characters to the left, read backwards, are `before`. -/
def lowerAfter (before : List Char) : List Char → List Char
  | []      => []
  | c :: cs =>
    (if c = capitalSigma then [lowerSigma before cs] else lowerChar c) ++
      lowerAfter (c :: before) cs

/-- The lower case of a text. -/
def lowercase (text : String) : String :=
  String.ofList (lowerAfter [] text.toList)

/-! ## Its equations -/

/-- A character is mapped with a view of the text on either side of it. -/
theorem lowerAfter_cons (before : List Char) (c : Char) (cs : List Char) :
    lowerAfter before (c :: cs) =
      (if c = capitalSigma then [lowerSigma before cs] else lowerChar c) ++
        lowerAfter (c :: before) cs := rfl

/-- At the beginning of a text nothing stands to the left. -/
@[simp] theorem toList_lowercase (text : String) :
    (lowercase text).toList = lowerAfter [] text.toList := by
  simp [lowercase]

end GrammarTarget.Unicode
