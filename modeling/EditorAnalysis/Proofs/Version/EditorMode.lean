/-
EditorAnalysis.Proofs.Version.EditorMode — which version texts have editor mode.

The decision reads a text as a version, writes the version out again, reads that
as a release and compares releases. What comes of it is an answer for every text, and
yes exactly for the versions at or above the first release on their branch
(`AboveMinimum`), so that a later version on the same branch never loses editor mode.
-/
import EditorAnalysis.Version.EditorMode
import EditorAnalysis.Proofs.Version.Order

namespace EditorAnalysis.EditorMode

/-- The version lies at or above the first release with editor mode on its branch. -/
def AboveMinimum (v : Version) : Prop :=
  3 ≤ v.major ∨ (v.major = 1 ∧ (⟨1, 12, 27⟩ : Version) ≤ v)
    ∨ (v.major = 2 ∧ (⟨2, 1, 17⟩ : Version) ≤ v)

/-- A later version on the same branch stays above the minimum. -/
theorem AboveMinimum.of_le {v w : Version} (hv : AboveMinimum v) (hle : v ≤ w)
    (hmajor : v.major = w.major) : AboveMinimum w := by
  rcases hv with h | ⟨h, hmin⟩ | ⟨h, hmin⟩
  · exact .inl (hmajor ▸ h)
  · exact .inr (.inl ⟨hmajor ▸ h, Version.le_trans hmin hle⟩)
  · exact .inr (.inr ⟨hmajor ▸ h, Version.le_trans hmin hle⟩)

/-- The decision on a version whose numbers can be read back. -/
theorem exists_supportedBy?_eq {v : Version} (hv : v.Readable) :
    ∃ answer, supportedBy? v = some answer ∧ (answer = true ↔ AboveMinimum v) := by
  have hrelease := Version.release?_eq_of_readable hv
  unfold supportedBy? AboveMinimum firstUnconditionalMajor
  split
  · rename_i h
    exact ⟨true, rfl, by simp [h]⟩
  · rename_i h
    match hmajor : v.major with
    | 0 => exact ⟨false, rfl, by simp⟩
    | 1 =>
      have hmin : v.release.atLeast [1, 12, 27] = true ↔ (⟨1, 12, 27⟩ : Version) ≤ v :=
        Version.atLeast_release_iff v ⟨1, 12, 27⟩
      exact ⟨v.release.atLeast [1, 12, 27], by simp [firstRelease?, hrelease], by simpa using hmin⟩
    | 2 =>
      have hmin : v.release.atLeast [2, 1, 17] = true ↔ (⟨2, 1, 17⟩ : Version) ≤ v :=
        Version.atLeast_release_iff v ⟨2, 1, 17⟩
      exact ⟨v.release.atLeast [2, 1, 17], by simp [firstRelease?, hrelease], by simpa using hmin⟩
    | n + 3 => omega

/-- The decision on a text, read off the version it holds. -/
theorem exists_supported?_eq (text : Option String) :
    ∃ answer, supported? text = some answer ∧
      (answer = true ↔ ∃ v, text.bind Version.parse? = some v ∧ AboveMinimum v) := by
  unfold supported?
  split
  · rename_i h
    exact ⟨false, rfl, by simp [h]⟩
  · rename_i v hv
    obtain ⟨s, _, hs⟩ := Option.bind_eq_some_iff.mp hv
    obtain ⟨answer, hanswer, hiff⟩ := exists_supportedBy?_eq (Version.readable_of_parse? hs)
    exact ⟨answer, hanswer, by simp [hv, hiff]⟩

theorem supported_iff (text : Option String) :
    supported text = true ↔ ∃ v, text.bind Version.parse? = some v ∧ AboveMinimum v := by
  obtain ⟨answer, hanswer, hiff⟩ := exists_supported?_eq text
  rw [← hiff]
  simp [supported, hanswer]

/-- **Editor mode by version.** Every text gets an answer. The answer is yes exactly when
the text holds a version of a major number from 3 on, or one at or above 1.12.27 or
2.1.17 on those branches; and a version that has editor mode passes it on to every later
version with the same major number. -/
theorem supported_exactly_above_minimum :
    (∀ text : Option String, ∃ answer : Bool,
      supported? text = some answer ∧ supported text = answer ∧
      (answer = true ↔ ∃ v : Version, text.bind Version.parse? = some v ∧
        (3 ≤ v.major ∨ (v.major = 1 ∧ (⟨1, 12, 27⟩ : Version) ≤ v)
          ∨ (v.major = 2 ∧ (⟨2, 1, 17⟩ : Version) ≤ v)))) ∧
    (∀ (s t : String) (v w : Version), Version.parse? s = some v → Version.parse? t = some w →
      v.major = w.major → v ≤ w → supported (some s) = true → supported (some t) = true) := by
  constructor
  · intro text
    refine ⟨supported text, ?_, rfl, supported_iff text⟩
    simp [supported]
  · intro s t v w hs ht hmajor hle hsupported
    obtain ⟨v', hv', habove⟩ := (supported_iff _).mp hsupported
    obtain rfl : v = v' := Option.some.inj (hs.symm.trans hv')
    exact (supported_iff _).mpr ⟨w, ht, habove.of_le hle hmajor⟩

theorem supported_exactly_above_minimum_at_first_release :
    Version.parse? " 1.12.27" = some ⟨1, 12, 27⟩ ∧ Version.parse? "1.100." = some ⟨1, 100, 0⟩ ∧
    (⟨1, 12, 27⟩ : Version) ≤ ⟨1, 100, 0⟩ ∧ supported (some " 1.12.27") = true ∧
    supported (some "1.100.") = true := by
  have hs : Version.parse? " 1.12.27" = some ⟨1, 12, 27⟩ := by decide +kernel
  have ht : Version.parse? "1.100." = some ⟨1, 100, 0⟩ := by decide +kernel
  have hle : (⟨1, 12, 27⟩ : Version) ≤ ⟨1, 100, 0⟩ := by decide
  have hsupported : supported (some " 1.12.27") = true := by decide +kernel
  exact ⟨hs, ht, hle, hsupported,
    supported_exactly_above_minimum.2 _ _ _ _ hs ht rfl hle hsupported⟩

end EditorAnalysis.EditorMode
