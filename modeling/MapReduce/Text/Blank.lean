/-! Blank characters: the characters with the Unicode White_Space property. Trimming removes them
from both ends of a text, and a text splits into words at runs of them. -/

namespace MapReduce.Text

/-- Whether a character has the Unicode White_Space property. -/
def isBlank (c : Char) : Bool :=
  let n := c.toNat
  (9 ≤ n && n ≤ 13) || n = 32 || n = 0x85 || n = 0xA0 || n = 0x1680 ||
    (0x2000 ≤ n && n ≤ 0x200A) || n = 0x2028 || n = 0x2029 || n = 0x202F || n = 0x205F ||
    n = 0x3000

/-- Every blank in the sense of core's ASCII class is blank here too. -/
theorem isBlank_of_isWhitespace (c : Char) (h : c.isWhitespace = true) : isBlank c = true := by
  simp only [Char.isWhitespace, Bool.or_eq_true, decide_eq_true_eq] at h
  rcases h with ((h | h) | h) | h <;> subst h <;> decide

/-- The text without blanks at either end. -/
def trim (s : String) : String :=
  String.ofList ((s.toList.dropWhile isBlank).reverse.dropWhile isBlank).reverse

/-- Whether a text is empty or all blank. -/
def isBlankText (s : String) : Bool := s.toList.all isBlank

/-- Splits characters into words at runs of blanks, adding to words gathered so far (reversed)
and the current word (reversed). -/
def splitWordsAux : List Char → List Char → List String → List String
  | [], cur, acc => (if cur.isEmpty then acc else String.ofList cur.reverse :: acc).reverse
  | c :: cs, cur, acc =>
    if isBlank c then
      splitWordsAux cs [] (if cur.isEmpty then acc else String.ofList cur.reverse :: acc)
    else splitWordsAux cs (c :: cur) acc

/-- The words of a text: the maximal runs of characters that are not blank. -/
def words (s : String) : List String := splitWordsAux s.toList [] []

end MapReduce.Text
