/-
EditorAnalysis.Proofs.Message — which version a tool check leaves in the settings.

A message is accepted when the tool names itself in it and the version that it holds can be
read, wherever in the message the two stand. An accepted message leaves its version in the
settings and a refused one leaves none, so no version of an earlier check outlives a later one
(`validate_keeps_reported_version`).

The version is kept by an assignment, and that turns a blank text into no version at all. It
has nothing to turn here: what a message is found to hold begins with a digit.
-/
import EditorAnalysis.Message
import EditorAnalysis.Proofs.Command.KnownVersion
import EditorAnalysis.Proofs.Text.Search
import EditorAnalysis.Proofs.Version.Introduced

namespace EditorAnalysis.Message

theorem namesTool_iff {message : String} :
    Version.namesTool message = true ↔ "PHPStan".toList <:+: message.toList :=
  Text.occursIn_iff

theorem reportedVersion?_eq_some_iff {message version : String} :
    reportedVersion? message = some version ↔ Version.extract? message = some version ∧
      (∃ v, Version.parse? version = some v) ∧ "PHPStan".toList <:+: message.toList := by
  rw [reportedVersion?, Option.filter_eq_some_iff, Bool.and_eq_true, namesTool_iff,
      Option.isSome_iff_exists]

/-- A message is accepted if it reports a version. -/
theorem accepted_verdict (message : String) :
    (verdict message).accepted = (reportedVersion? message).isSome := by
  unfold verdict
  split
  · rename_i h
    exact h.symm
  · rename_i h
    rw [Bool.not_eq_true] at h
    exact h.symm

theorem accepted_iff {message : String} : (verdict message).accepted = true ↔
    "PHPStan".toList <:+: message.toList ∧
      ∃ v, (Version.extract? message).bind Version.parse? = some v := by
  simp only [accepted_verdict, Option.isSome_iff_exists, reportedVersion?_eq_some_iff,
    Option.bind_eq_some_iff]
  constructor
  · rintro ⟨version, hextract, ⟨v, hv⟩, hname⟩
    exact ⟨hname, v, version, hextract, hv⟩
  · rintro ⟨hname, v, version, hextract, hv⟩
    exact ⟨version, hextract, ⟨v, hv⟩, hname⟩

/-- What an accepted message reports is the version found in it. -/
theorem reportedVersion?_eq (message : String) : reportedVersion? message =
    if (verdict message).accepted then Version.extract? message else none := by
  rw [accepted_verdict]
  cases hreported : reportedVersion? message with
  | none => rfl
  | some version => exact (reportedVersion?_eq_some_iff.mp hreported).1.symm

/-- No reported version is lost on its way into the settings. -/
theorem settings_validate (message : String) (s : Settings) :
    (validate message s).2 = { s with detectedVersion := reportedVersion? message } :=
  s.rememberVersion_of_none_blank fun _ hversion =>
    Version.not_isBlankText_of_extract? (reportedVersion?_eq_some_iff.mp hversion).1

/-- **What a tool check leaves.** A message is accepted if and only if the tool names itself in
it and the version that it holds can be read. The settings then know that version, which is a
piece of the message; after a message that is refused they know none, whatever they knew before.
Nothing else in them changes, and the assignment that keeps the version is never refused. -/
theorem validate_keeps_reported_version (message : String) (s : Settings) :
    let outcome := validate message s
    let version := if outcome.1.accepted then Version.extract? message else none
    (outcome.1.accepted = true ↔ "PHPStan".toList <:+: message.toList ∧
      ∃ v, (Version.extract? message).bind Version.parse? = some v) ∧
    outcome.2 = { s with detectedVersion := version } ∧
    outcome.2.detectedVersion.isSome = outcome.1.accepted ∧
    (∀ text ∈ outcome.2.detectedVersion, text.toList <:+: message.toList ∧
      ∃ v, Version.parse? text = some v) ∧
    s.assign .detectedVersion ((version.map Datum.text).getD .null) = .ok outcome.2 := by
  intro outcome version
  have hversion : reportedVersion? message = version := reportedVersion?_eq message
  have hsettings : outcome.2 = { s with detectedVersion := reportedVersion? message } :=
    settings_validate message s
  have hkept : outcome.2.detectedVersion = reportedVersion? message :=
    congrArg Settings.detectedVersion hsettings
  refine ⟨accepted_iff, hversion ▸ hsettings, ?_, fun text htext => ?_, ?_⟩
  · rw [hkept]
    exact (accepted_verdict message).symm
  · obtain ⟨hextract, hparse, -⟩ := reportedVersion?_eq_some_iff.mp (hkept ▸ htext)
    exact ⟨Version.infix_of_extract? hextract, hparse⟩
  · rw [← hversion]
    exact s.assign_detectedVersion (reportedVersion? message)

/-- The name stands behind the version, on another line. The settings knew another version, and
the check leaves the one that the message begins with. -/
theorem validate_keeps_reported_version_of_bare_version :
    let message := "\t2.1.17. is installed\nby PHPStan\n"
    let s : Settings := { toolPath := "phpstan", detectedVersion := some "1.0", level := 7 }
    (validate message s).1.accepted = true ∧
      (validate message s).2 = { s with detectedVersion := some "2.1.17." } ∧
      ("2.1.17.".toList <:+: message.toList ∧ ∃ v, Version.parse? "2.1.17." = some v) := by
  intro message s
  obtain ⟨-, hsettings, -, hpiece, -⟩ := validate_keeps_reported_version message s
  have haccepted : (validate message s).1.accepted = true := by decide +kernel
  have hextract : Version.extract? message = some "2.1.17." := by decide +kernel
  rw [haccepted, if_pos rfl, hextract] at hsettings
  exact ⟨haccepted, hsettings, hpiece "2.1.17." (by rw [hsettings]; rfl)⟩

end EditorAnalysis.Message
