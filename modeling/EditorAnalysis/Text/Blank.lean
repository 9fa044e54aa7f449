/-
EditorAnalysis.Text.Blank — white space, and text without it at its ends.

Two sets are in use. `isBlank` is the larger one: Unicode white space together
with the four information separators U+001C to U+001F. A setting is blank, and a
version is padded, in this sense. `isPadding` leaves the separators out; a
numeral may be padded in this sense only.
-/

namespace EditorAnalysis.Text

/-- White space: Unicode's, and the information separators U+001C to U+001F. -/
def isBlank (c : Char) : Bool :=
  let n := c.toNat
  (0x09 ≤ n && n ≤ 0x0D) || (0x1C ≤ n && n ≤ 0x20) || n == 0x85 || n == 0xA0
    || n == 0x1680 || (0x2000 ≤ n && n ≤ 0x200A) || n == 0x2028 || n == 0x2029
    || n == 0x202F || n == 0x205F || n == 0x3000

/-- White space that may surround a numeral: `isBlank` without the information
separators. -/
def isPadding (c : Char) : Bool :=
  isBlank c && !(0x1C ≤ c.toNat && c.toNat ≤ 0x1F)

/-- The characters without the longest run satisfying `p` at either end. -/
def trimWhile (p : Char → Bool) (cs : List Char) : List Char :=
  ((cs.dropWhile p).reverse.dropWhile p).reverse

/-- The characters without white space at either end. -/
def trimChars (cs : List Char) : List Char := trimWhile isBlank cs

/-- The text without white space at either end. -/
def trim (s : String) : String := String.ofList (trimChars s.toList)

/-- A text is blank when it holds nothing but white space; the empty text is. -/
def isBlankText (s : String) : Bool := s.toList.all isBlank

end EditorAnalysis.Text
