/-
EditorAnalysis.Proofs.Command.KnownVersion — what looking for the tool's version leaves.

A detector is asked when the settings know no version and name a tool; what it answers
is kept as an assignment would keep it. `resolveVersion_of_wanted` and
`resolveVersion_of_not_wanted` say so for every detector, and `live` adds nothing to that
but an entry of the journal.
-/
import EditorAnalysis.Command

namespace EditorAnalysis

namespace Settings

/-! ## Keeping a version -/

/-- A version is kept as the assignment of the field keeps it. -/
theorem assign_detectedVersion (s : Settings) (version : Option String) :
    s.assign .detectedVersion ((version.map Datum.text).getD .null)
      = .ok (s.rememberVersion version) := by
  cases version with
  | none => rfl
  | some v =>
    by_cases hv : Text.isBlankText v = true <;>
      simp [assign, blankAsUnset, asOptionalText, rememberVersion, Option.filter, hv, Except.map]

theorem rememberVersion_of_not_blank (s : Settings) {v : String}
    (hv : Text.isBlankText v = false) :
    s.rememberVersion (some v) = { s with detectedVersion := some v } := by
  simp [rememberVersion, Option.filter, hv]

theorem rememberVersion_of_none_blank (s : Settings) {version : Option String}
    (hv : ∀ v ∈ version, Text.isBlankText v = false) :
    s.rememberVersion version = { s with detectedVersion := version } := by
  cases version with
  | none => rfl
  | some v => exact s.rememberVersion_of_not_blank (hv v rfl)

/-- Nothing and a blank text leave an unknown version unknown. -/
theorem rememberVersion_of_unknown {s : Settings} (hs : s.detectedVersion = none)
    {version : Option String} (hv : ∀ v ∈ version, Text.isBlankText v = true) :
    s.rememberVersion version = s := by
  have hfilter : version.filter (fun v => !Text.isBlankText v) = none := by
    rw [Option.filter_eq_none_iff]
    intro v hmem
    simp [hv v hmem]
  rw [rememberVersion, hfilter, ← hs]

end Settings

namespace Command

/-! ## Asking for a version -/

/-- The settings know no version and name a tool. -/
def VersionWanted (s : Settings) : Prop := s.detectedVersion = none ∧ s.toolPath ≠ ""

instance (s : Settings) : Decidable (VersionWanted s) :=
  inferInstanceAs (Decidable (_ ∧ _))

variable {σ : Type}

/-- A version that is not wanted is not asked for, and nothing changes. -/
theorem resolveVersion_eq_of_not_wanted (detector : Detector σ) {p : Progress σ}
    (h : ¬ VersionWanted p.settings) :
    resolveVersion detector p = (p.settings.detectedVersion, p) := by
  unfold resolveVersion
  split
  · rename_i hknown
    rw [hknown]
  · rename_i hunknown
    split
    · rw [hunknown]
    · rename_i htool
      exact absurd ⟨hunknown, htool⟩ h

theorem resolveVersion_of_not_wanted (detector : Detector σ) {p : Progress σ}
    (h : ¬ VersionWanted p.settings) : (resolveVersion detector p).2 = p := by
  rw [resolveVersion_eq_of_not_wanted detector h]

/-- A version that is wanted is asked for once, and the settings keep the answer. -/
theorem resolveVersion_of_wanted (detector : Detector σ) {p : Progress σ}
    (h : VersionWanted p.settings) :
    (resolveVersion detector p).2.settings
        = p.settings.rememberVersion (detector p.settings.toolPath p.world).version ∧
      (resolveVersion detector p).2.world = (detector p.settings.toolPath p.world).world := by
  obtain ⟨hunknown, htool⟩ := h
  cases hfound : (detector p.settings.toolPath p.world).version with
  | none =>
    rw [Settings.rememberVersion_of_unknown hunknown (by simp)]
    simp [resolveVersion, hunknown, htool, hfound]
  | some version => simp [resolveVersion, hunknown, htool, hfound]

theorem version_resolveVersion_of_wanted (detector : Detector σ) {p : Progress σ}
    (h : VersionWanted p.settings) :
    (resolveVersion detector p).1 = (detector p.settings.toolPath p.world).version := by
  obtain ⟨hunknown, htool⟩ := h
  cases hfound : (detector p.settings.toolPath p.world).version <;>
    simp [resolveVersion, hunknown, htool, hfound]

theorem live_settings (detector : Detector σ) (map : String → String) (copy file : Option String)
    (p : Progress σ) :
    (live detector map copy file p).2.settings = (resolveVersion detector p).2.settings := rfl

end Command

end EditorAnalysis
