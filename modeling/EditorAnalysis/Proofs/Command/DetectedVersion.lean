/-
EditorAnalysis.Proofs.Command.DetectedVersion — which detected versions can be read.

A tool check keeps a version only if it can be read. Looking for the version keeps whatever
was extracted from the tool's output, and that can be read exactly when its numbers are
numerals (`stored_version_parses_iff`). A version that cannot be read, such as `1..2`, is
kept all the same, and then nobody asks the tool again (`stored_version_unreadable`).
-/
import EditorAnalysis.Message
import EditorAnalysis.Proofs.Command.KnownVersion
import EditorAnalysis.Proofs.Detection

namespace EditorAnalysis.Command

open Host

/-- Looking for the version leaves the settings as they are but for the version, which is the
answer. An answer that was not known before is not blank. -/
theorem resolveVersion_running (programs : Programs) (p : Progress Surroundings) :
    let answer := resolveVersion (Detection.running programs) p
    answer.2.settings = { p.settings with detectedVersion := answer.1 } ∧
      (p.settings.detectedVersion = none → ∀ v ∈ answer.1, Text.isBlankText v = false) := by
  intro answer
  by_cases hwanted : VersionWanted p.settings
  · have hanswer : answer.1 = (Detection.running programs p.settings.toolPath p.world).version :=
      version_resolveVersion_of_wanted _ hwanted
    have hblank : ∀ v ∈ answer.1, Text.isBlankText v = false := fun v hv =>
      Detection.not_isBlankText_of_version_running (hanswer.symm.trans hv)
    have hsettings : answer.2.settings = p.settings.rememberVersion answer.1 :=
      hanswer ▸ (resolveVersion_of_wanted _ hwanted).1
    exact ⟨hsettings.trans (Settings.rememberVersion_of_none_blank _ hblank), fun _ => hblank⟩
  · have hanswer : answer = (p.settings.detectedVersion, p) :=
      resolveVersion_eq_of_not_wanted _ hwanted
    rw [hanswer]
    refine ⟨rfl, fun hunknown v hv => ?_⟩
    rw [hunknown] at hv
    cases hv

/-- A tool that touches no file leaves the world as it is. -/
theorem world_resolveVersion_running {programs : Programs}
    (hquiet : Detection.LeavesFiles programs) (p : Progress Surroundings) :
    (resolveVersion (Detection.running programs) p).2.world = p.world := by
  by_cases hwanted : VersionWanted p.settings
  · rw [(resolveVersion_of_wanted _ hwanted).2, Detection.world_running hquiet]
  · rw [resolveVersion_of_not_wanted _ hwanted]

/-- **Which detected versions can be read.** Let the settings know no version and name a
tool. When the tool is run and ends well in time, the settings keep the version that its
output holds, if any. Of the versions that are kept those can be read whose numbers are
written in ASCII digits, at least one and at most 4300 for each, dots at the end and
everything behind the third number aside. -/
theorem stored_version_parses_iff (programs : Programs) {p : Progress Surroundings}
    (hwanted : VersionWanted p.settings) :
    let stored := (resolveVersion (Detection.running programs) p).2.settings.detectedVersion
    (∀ completed output,
      (Execution.run programs p.world
        (Detection.request p.settings.toolPath Detection.defaultLimit)).1 = .ok completed →
      completed.stoppedAt = none → completed.status = 0 → completed.output = some output →
      stored = Version.extract? output) ∧
    ∀ version ∈ stored,
      ((Version.parse? version).isSome = true ↔ Version.HasNumerals version.toList) := by
  intro stored
  have hstored : stored = (Detection.running programs p.settings.toolPath p.world).version := by
    rw [← version_resolveVersion_of_wanted _ hwanted]
    exact congrArg Settings.detectedVersion (resolveVersion_running programs p).1
  constructor
  · intro completed output hrun htime hstatus houtput
    rw [hstored, Detection.version_running_of_run hrun,
        Detection.judge_of_success htime hstatus, houtput]
    rfl
  · intro version hversion
    rw [hstored] at hversion
    obtain ⟨output, hextract⟩ := Detection.exists_extract?_of_version_running hversion
    exact Version.parse?_isSome_iff_of_isDotted (Version.isDotted_of_extract? hextract)

/-- A tool of the system, named by its path, in surroundings that hold nothing else. -/
def lookingFor (tool : String) : Progress Surroundings :=
  { settings := { toolPath := tool }
    world := { tree := ⟨[]⟩, directory := [], searchPath := [], environment := [] } }

/-- The tool prints a version with a dot at its end, which can be read. -/
theorem stored_version_parses_iff_of_trailing_dot :
    let p := lookingFor "/bin/phpstan"
    let programs := Detection.printing "PHPStan 1.12.27.\n"
    VersionWanted p.settings ∧
    (resolveVersion (Detection.running programs) p).2.settings.detectedVersion
      = some "1.12.27." ∧
    ((Version.parse? "1.12.27.").isSome = true ↔ Version.HasNumerals "1.12.27.".toList) := by
  intro p programs
  have hwanted : VersionWanted p.settings := by decide
  let completed : Execution.Completed :=
    { command := ["/bin/phpstan", "--version"], status := 0, output := some "PHPStan 1.12.27.\n"
      diagnostics := none }
  have hrun : (Execution.run programs p.world
      (Detection.request p.settings.toolPath Detection.defaultLimit)).1 = .ok completed := by
    decide +kernel
  obtain ⟨houtput, hparses⟩ := stored_version_parses_iff programs hwanted
  have hstored : (resolveVersion (Detection.running programs) p).2.settings.detectedVersion
      = some "1.12.27." := by
    rw [houtput completed _ hrun rfl rfl rfl]
    decide +kernel
  exact ⟨hwanted, hstored, hparses _ hstored⟩

/-- Two dots follow each other in what the tool prints. A tool check refuses that version.
Looking for it keeps it, though it cannot be read, and the next look asks no tool. -/
theorem stored_version_unreadable :
    let p := lookingFor "/bin/phpstan"
    let found := (resolveVersion (Detection.running (Detection.printing "PHPStan 1..2\n")) p).2
    found.settings.detectedVersion = some "1..2" ∧ Version.parse? "1..2" = none ∧
      ¬ VersionWanted found.settings ∧
      (Message.validate "PHPStan 1..2\n" {}).2.detectedVersion = none := by
  decide +kernel

end EditorAnalysis.Command
