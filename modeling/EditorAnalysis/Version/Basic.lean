/-
EditorAnalysis.Version.Basic — versions as triples of numbers.

A version text is up to three numerals between dots. Missing numbers are zero,
dots at the end are dropped, and anything after the third number and a dot is
ignored. Versions are ordered number by number, the major number first.
-/
import EditorAnalysis.Text.Blank
import EditorAnalysis.Text.Numeral
import EditorAnalysis.Text.Search

namespace EditorAnalysis

/-- A version: major, minor and patch number. -/
structure Version where
  /-- Raised by incompatible releases. -/
  major : Nat
  /-- Raised by new features. -/
  minor : Nat
  /-- Raised by fixes. -/
  patch : Nat
deriving DecidableEq, Repr

namespace Version

/-! ## Order -/

/-- One version is before another when it is smaller at the first number in
which the two differ. -/
protected def Before (v w : Version) : Prop :=
  v.major < w.major ∨ (v.major = w.major ∧
    (v.minor < w.minor ∨ (v.minor = w.minor ∧ v.patch < w.patch)))

instance : LT Version := ⟨Version.Before⟩

instance : LE Version := ⟨fun v w => v < w ∨ v = w⟩

instance (v w : Version) : Decidable (v < w) :=
  inferInstanceAs (Decidable (_ ∨ _))

instance (v w : Version) : Decidable (v ≤ w) :=
  inferInstanceAs (Decidable (_ ∨ _))

/-! ## Text -/

/-- The pieces of a text between its dots; a text without a dot is one piece. -/
def pieces (cs : List Char) : List (List Char) := Text.splitOn '.' cs

/-- The characters without the dots at their end. -/
def dropTrailingDots (cs : List Char) : List Char :=
  (cs.reverse.dropWhile (· == '.')).reverse

/-- The version whose numbers are given, most significant first; missing ones
are zero and surplus ones are ignored. -/
def ofNumbers (numbers : List Nat) : Version :=
  ⟨numbers.getD 0 0, numbers.getD 1 0, numbers.getD 2 0⟩

/-- Reads the version written in `cs`. -/
def ofChars? (cs : List Char) : Option Version :=
  let body := dropTrailingDots (Text.trimChars cs)
  if body.isEmpty then none
  else (((pieces body).take 3).mapM Text.Numeral.read?).map ofNumbers

/-- Reads the version written in a text. -/
def parse? (text : String) : Option Version := ofChars? text.toList

/-- The three numbers between dots. -/
def render (v : Version) : String :=
  toString v.major ++ "." ++ toString v.minor ++ "." ++ toString v.patch

instance : ToString Version := ⟨render⟩

/-! ## Reading back what is written -/

/-- Every number of the version is read from its shortest numeral. -/
def Readable (v : Version) : Prop :=
  ∀ n ∈ [v.major, v.minor, v.patch], Text.Numeral.read? (Text.Numeral.write n) = some n

/-- A version that was read has readable numbers: each is zero or was read from a piece
of the text. -/
theorem readable_of_ofChars? {cs : List Char} {v : Version} (h : ofChars? cs = some v) :
    v.Readable := by
  simp only [ofChars?] at h
  split at h
  · simp at h
  · obtain ⟨numbers, hnumbers, rfl⟩ := Option.map_eq_some_iff.mp h
    have hread : ∀ i, Text.Numeral.read? (Text.Numeral.write (numbers.getD i 0))
        = some (numbers.getD i 0) := by
      intro i
      rw [List.getD_eq_getElem?_getD]
      cases hi : numbers[i]? with
      | none => decide
      | some n =>
        obtain ⟨piece, _, hpiece⟩ :=
          Text.Numeral.exists_read?_of_mapM hnumbers n (List.mem_of_getElem? hi)
        exact Text.Numeral.read?_write_of_read? hpiece
    intro n hn
    simp only [ofNumbers, List.mem_cons, List.not_mem_nil, or_false] at hn
    rcases hn with rfl | rfl | rfl
    · exact hread 0
    · exact hread 1
    · exact hread 2

theorem readable_of_parse? {text : String} {v : Version} (h : parse? text = some v) :
    v.Readable :=
  readable_of_ofChars? h

theorem toList_render (v : Version) :
    v.render.toList = Text.Numeral.write v.major ++ '.' ::
      (Text.Numeral.write v.minor ++ '.' :: Text.Numeral.write v.patch) := by
  simp [render, Text.Numeral.write, String.toList_append]

theorem pieces_render (v : Version) :
    pieces v.render.toList = [Text.Numeral.write v.major, Text.Numeral.write v.minor,
      Text.Numeral.write v.patch] := by
  have hdot := Text.Numeral.dot_not_mem_write
  rw [pieces, toList_render, Text.splitOn_append _ (hdot _), Text.splitOn_append _ (hdot _),
      Text.splitOn_of_not_mem (hdot _)]

end Version

end EditorAnalysis
