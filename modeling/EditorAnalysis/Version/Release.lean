/-
EditorAnalysis.Version.Release — releases of any number of components.

A release is a list of numbers. Trailing zeros carry no weight: `1.2` and
`1.2.0` are the same release. Releases are compared number by number after the
zeros at the end are dropped, a shorter release being before its extensions.
-/
import EditorAnalysis.Version.Basic

namespace EditorAnalysis

/-- The components of a release, most significant first. -/
abbrev Release := List Nat

namespace Release

/-- A release without the zeros at its end. -/
def significant (r : Release) : Release :=
  (r.reverse.dropWhile (· == 0)).reverse

/-- Lexicographic comparison: the first difference decides, and a list is before
its proper extensions. -/
def compareNumbers : List Nat → List Nat → Ordering
  | [], [] => .eq
  | [], _ :: _ => .lt
  | _ :: _, [] => .gt
  | a :: as, b :: bs => (compare a b).then (compareNumbers as bs)

/-- Compares two releases, zeros at the end disregarded. -/
def order (r s : Release) : Ordering :=
  compareNumbers (significant r) (significant s)

/-- A release is at least another. -/
def atLeast (r minimum : Release) : Bool := order minimum r != .gt

/-- The numbers between dots. -/
def render (r : Release) : String := ".".intercalate (r.map toString)

/-- Reads numerals between dots. -/
def parse? (text : String) : Option Release :=
  (Version.pieces text.toList).mapM Text.Numeral.read?

end Release

/-- The release a version names. -/
def Version.release (v : Version) : Release := [v.major, v.minor, v.patch]

/-- The release that the version's text is read as, if it can be read. -/
def Version.release? (v : Version) : Option Release := Release.parse? v.render

theorem Version.release?_eq_of_readable {v : Version} (h : v.Readable) :
    v.release? = some v.release := by
  have hmajor := h v.major (by simp)
  have hminor := h v.minor (by simp)
  have hpatch := h v.patch (by simp)
  rw [release?, Release.parse?, pieces_render]
  simp [hmajor, hminor, hpatch, release]

end EditorAnalysis
