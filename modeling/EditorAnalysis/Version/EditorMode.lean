/-
EditorAnalysis.Version.EditorMode — which versions can analyse an unsaved buffer
in place of its file.

Editor mode arrived on two release branches at different times, and every later
major version has it.
-/
import EditorAnalysis.Version.Release

namespace EditorAnalysis.EditorMode

/-- The first release with editor mode on the branch of a major version that
gained it along the way. -/
def firstRelease? : Nat → Option Release
  | 1 => some [1, 12, 27]
  | 2 => some [2, 1, 17]
  | _ => none

/-- From this major version on, every release has editor mode. -/
def firstUnconditionalMajor : Nat := 3

/-- Whether the version has editor mode. On a branch that gained it along the way the
version is compared as a release, and for that its text is read again; a text that
cannot be read leaves the question open. -/
def supportedBy? (v : Version) : Option Bool :=
  if firstUnconditionalMajor ≤ v.major then some true
  else match firstRelease? v.major with
    | none => some false
    | some minimum => v.release?.map (·.atLeast minimum)

/-- Whether the version written in the text has editor mode; a missing or unreadable
version has not. -/
def supported? (text : Option String) : Option Bool :=
  match text.bind Version.parse? with
  | none => some false
  | some v => supportedBy? v

/-- The question is never left open: a version that was read once is read again. -/
theorem isSome_supported? (text : Option String) : (supported? text).isSome := by
  unfold supported?
  split
  · rfl
  · rename_i v hv
    obtain ⟨s, _, hs⟩ := Option.bind_eq_some_iff.mp hv
    unfold supportedBy?
    split
    · rfl
    · split
      · rfl
      · simp [Version.release?_eq_of_readable (Version.readable_of_parse? hs)]

/-- The version written in the text has editor mode. -/
def supported (text : Option String) : Bool := (supported? text).get (isSome_supported? text)

end EditorAnalysis.EditorMode
