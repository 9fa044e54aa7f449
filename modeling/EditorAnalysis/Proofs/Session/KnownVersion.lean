/-
EditorAnalysis.Proofs.Session.KnownVersion — when a session asks for the tool's version.

A session works with two detectors, one for requests and one for all other steps. Both
are wrapped to write down which tools they are asked about (`Detector.recording`), so
that a run shows every question. `next_of_asks`, `next_of_not_asks` and
`asked_next_of_writes` say what one step does; what a run does follows with
`exists_turning_step`, which finds the step at which a session gains or loses a property.
-/
import EditorAnalysis.Session
import EditorAnalysis.Proofs.Command.KnownVersion
import Mathlib.Data.List.Induction

namespace EditorAnalysis

variable {σ : Type}

/-- The detector, which also writes down every tool that it is asked about. -/
def Detector.recording (d : Detector σ) : Detector (σ × List String) := fun tool w =>
  { version := (d tool w.1).version
    journal := (d tool w.1).journal
    world := ((d tool w.1).world, w.2 ++ [tool]) }

namespace Session

/-! ## Steps and runs -/

/-- The step looks for the tool's version: it wants to know it, or whether a buffer can be
analysed in place of its file. -/
def Step.mayAsk : Step → Bool
  | .resolveVersion => true
  | .live .. => true
  | .request r _ => r.onTheFly
  | _ => false

/-- The step writes to the settings: it assigns to a field, or judges the message of a tool
check. -/
def Step.writes : Step → Bool
  | .assign .. => true
  | .validate _ => true
  | _ => false

variable (given running : Detector σ) (map : String → String)

/-- The session after a step. -/
def next (s : Session (σ × List String)) (step : Step) : Session (σ × List String) :=
  (s.perform given.recording running.recording map step).2.2

/-- The session after a run. -/
def run (s : Session (σ × List String)) (steps : List Step) : Session (σ × List String) :=
  steps.foldl (next given running map) s

/-- The tools that the detectors have been asked about, first to last. -/
def asked (s : Session (σ × List String)) : List String := s.world.2

/-- The step asks a detector: it looks for a version that the settings do not know, and
they name a tool. -/
def Asks (s : Session (σ × List String)) (step : Step) : Prop :=
  step.mayAsk = true ∧ s.settings.detectedVersion = none ∧ s.settings.toolPath ≠ ""

instance (s : Session (σ × List String)) (step : Step) : Decidable (s.Asks step) :=
  inferInstanceAs (Decidable (_ ∧ _ ∧ _))

/-- What the step's detector answers when it is asked. -/
def answer (s : Session (σ × List String)) : Step → Option String
  | .request .. => (running s.settings.toolPath s.world.1).version
  | _ => (given s.settings.toolPath s.world.1).version

/-- The step asks a detector and is answered with a text that is not blank. -/
def FindsOut (s : Session (σ × List String)) (step : Step) (version : String) : Prop :=
  s.Asks step ∧ answer given running s step = some version ∧ Text.isBlankText version = false

instance (s : Session (σ × List String)) (step : Step) (version : String) :
    Decidable (FindsOut given running s step version) :=
  inferInstanceAs (Decidable (_ ∧ _ ∧ _))

/-! ## One step -/

/-- A step that asks writes the tool down once, and the settings keep the answer. -/
theorem next_of_asks {s : Session (σ × List String)} {step : Step} (h : s.Asks step) :
    (next given running map s step).settings
        = s.settings.rememberVersion (answer given running s step) ∧
      (next given running map s step).asked = s.asked ++ [s.settings.toolPath] := by
  obtain ⟨hmay, hwanted⟩ := h
  have hasked : ∀ d : Detector σ,
      (Command.resolveVersion d.recording s.progress).2.settings
          = s.settings.rememberVersion (d s.settings.toolPath s.world.1).version ∧
        (Command.resolveVersion d.recording s.progress).2.world.2
          = s.asked ++ [s.settings.toolPath] := by
    intro d
    obtain ⟨hsettings, hworld⟩ :=
      Command.resolveVersion_of_wanted d.recording (p := s.progress) hwanted
    exact ⟨hsettings, congrArg Prod.snd hworld⟩
  cases step with
  | resolveVersion => exact hasked given
  | live copy file => exact hasked given
  | request r useShared =>
    have hlive : r.onTheFly = true := hmay
    simp only [next, perform, Command.ofRequest, hlive, if_true]
    exact hasked running
  | _ => cases hmay

/-- A step that neither asks nor writes leaves the settings alone. -/
theorem next_of_not_asks {s : Session (σ × List String)} {step : Step} (h : ¬ s.Asks step)
    (hwrites : step.writes = false) :
    (next given running map s step).settings = s.settings ∧
      (next given running map s step).asked = s.asked := by
  have hquiet : ∀ d : Detector σ, step.mayAsk = true →
      (Command.resolveVersion d.recording s.progress).2 = s.progress := fun d hmay =>
    Command.resolveVersion_of_not_wanted d.recording (p := s.progress) fun hw => h ⟨hmay, hw⟩
  cases step with
  | resolveVersion =>
    have hprogress := hquiet given rfl
    exact ⟨congrArg (·.settings) hprogress, congrArg (·.world.2) hprogress⟩
  | live copy file =>
    have hprogress := hquiet given rfl
    exact ⟨congrArg (·.settings) hprogress, congrArg (·.world.2) hprogress⟩
  | request r useShared =>
    by_cases hlive : r.onTheFly = true
    · have hprogress := hquiet running hlive
      simp only [next, perform, Command.ofRequest, hlive, if_true]
      exact ⟨congrArg (·.settings) hprogress, congrArg (·.world.2) hprogress⟩
    · simp only [next, perform, Command.ofRequest, hlive]
      exact ⟨rfl, rfl⟩
  | register g useShared => cases useShared <;> exact ⟨rfl, rfl⟩
  | sharedOptions => exact ⟨rfl, rfl⟩
  | batch paths => exact ⟨rfl, rfl⟩
  | targets file root sources => exact ⟨rfl, rfl⟩
  | assign name value => cases hwrites
  | validate message => cases hwrites

theorem asked_next_of_writes (s : Session (σ × List String)) {step : Step}
    (h : step.writes = true) : (next given running map s step).asked = s.asked := by
  cases step with
  | assign name value =>
    simp only [next, perform]
    split <;> rfl
  | validate message => rfl
  | _ => cases h

theorem asked_next_of_not_asks {s : Session (σ × List String)} {step : Step}
    (h : ¬ s.Asks step) : (next given running map s step).asked = s.asked := by
  cases hwrites : step.writes with
  | true => exact asked_next_of_writes given running map s hwrites
  | false => exact (next_of_not_asks given running map h hwrites).2

theorem settings_next_of_findsOut {s : Session (σ × List String)} {step : Step}
    {version : String} (h : FindsOut given running s step version) :
    (next given running map s step).settings
      = { s.settings with detectedVersion := some version } := by
  obtain ⟨hasks, hanswer, hblank⟩ := h
  rw [(next_of_asks given running map hasks).1, hanswer,
      Settings.rememberVersion_of_not_blank _ hblank]

/-- Only a write or a version that was found out changes the settings. -/
theorem settings_next_of_not_findsOut {s : Session (σ × List String)} {step : Step}
    (hwrites : step.writes = false) (h : ¬ ∃ version, FindsOut given running s step version) :
    (next given running map s step).settings = s.settings := by
  by_cases hasks : s.Asks step
  · rw [(next_of_asks given running map hasks).1]
    refine Settings.rememberVersion_of_unknown hasks.2.1 fun v hv => ?_
    by_contra hblank
    exact h ⟨v, hasks, hv, by simpa using hblank⟩
  · exact (next_of_not_asks given running map hasks hwrites).1

/-! ## Runs -/

@[simp] theorem run_nil (s : Session (σ × List String)) : run given running map s [] = s := rfl

@[simp] theorem run_append_singleton (s : Session (σ × List String)) (steps : List Step)
    (step : Step) : run given running map s (steps ++ [step])
      = next given running map (run given running map s steps) step := by
  simp [run]

/-- A property that a run loses is lost at one of its steps. -/
theorem exists_turning_step {P : Session (σ × List String) → Prop}
    {s : Session (σ × List String)} (hstart : P s) {steps : List Step}
    (hend : ¬ P (run given running map s steps)) :
    ∃ older turn newer, steps = older ++ turn :: newer ∧ P (run given running map s older) ∧
      ¬ P (next given running map (run given running map s older) turn) := by
  induction steps using List.reverseRecOn with
  | nil =>
    rw [run_nil] at hend
    exact absurd hstart hend
  | append_singleton steps step ih =>
    rw [run_append_singleton] at hend
    by_cases hsteps : P (run given running map s steps)
    · exact ⟨steps, step, [], rfl, hsteps, hend⟩
    · obtain ⟨older, turn, newer, rfl, holder, hturn⟩ := ih hsteps
      exact ⟨older, turn, newer ++ [step], by simp, holder, hturn⟩

/-- A known version becomes unknown only by a write. -/
theorem exists_write_of_forgotten {s : Session (σ × List String)}
    (hknown : s.settings.detectedVersion ≠ none) {steps : List Step}
    (hend : (run given running map s steps).settings.detectedVersion = none) :
    ∃ older write newer, steps = older ++ write :: newer ∧ write.writes = true ∧
      (run given running map s (older ++ [write])).settings.detectedVersion = none := by
  obtain ⟨older, turn, newer, rfl, holder, hturn⟩ := exists_turning_step given running map
    (P := fun s => s.settings.detectedVersion ≠ none) hknown (not_not.mpr hend)
  refine ⟨older, turn, newer, rfl, ?_, by rw [run_append_singleton]; exact not_not.mp hturn⟩
  by_contra hwrites
  refine hturn ?_
  rw [settings_next_of_not_findsOut given running map (by simpa using hwrites)]
  · exact holder
  · rintro ⟨version, hasks, -⟩
    exact holder hasks.2.1

/-- An unknown version becomes known only by a write or when it is found out. -/
theorem exists_turn_of_learned {s : Session (σ × List String)}
    (hunknown : s.settings.detectedVersion = none) {steps : List Step}
    (hend : (run given running map s steps).settings.detectedVersion ≠ none) :
    ∃ older turn newer, steps = older ++ turn :: newer ∧
      (turn.writes = true ∨
        ∃ version, FindsOut given running (run given running map s older) turn version) ∧
      (run given running map s (older ++ [turn])).settings.detectedVersion ≠ none := by
  obtain ⟨older, turn, newer, rfl, holder, hturn⟩ := exists_turning_step given running map
    (P := fun s => s.settings.detectedVersion = none) hunknown hend
  refine ⟨older, turn, newer, rfl, ?_, by rw [run_append_singleton]; exact hturn⟩
  by_contra hneither
  obtain ⟨hwrites, hfinds⟩ := not_or.mp hneither
  refine hturn ?_
  rw [settings_next_of_not_findsOut given running map (by simpa using hwrites) hfinds]
  exact holder

/-- **When the tool is asked for its version.** In every run of a session, with any
detectors:

* a step asks exactly when it looks for a version that is not known and a tool is named,
  and then it asks once, about that tool;
* an answer that is not blank is kept as it stands, and no later step asks before a write
  has made the version unknown again;
* any other answer leaves the version unknown, so that the next step that looks for it
  asks again, unless a write or another answer has made it known;
* a step that neither writes nor finds out a version leaves every setting alone. -/
theorem asked_until_known (s : Session (σ × List String)) (steps : List Step) (step : Step) :
    let before := run given running map s steps
    let after := run given running map s (steps ++ [step])
    ((before.Asks step → after.asked = before.asked ++ [before.settings.toolPath]) ∧
      (¬ before.Asks step → after.asked = before.asked)) ∧
    (∀ version, FindsOut given running before step version →
      after.settings = { before.settings with detectedVersion := some version } ∧
      ∀ between last, (run given running map after between).Asks last →
        ∃ older write newer, between = older ++ write :: newer ∧ write.writes = true ∧
          (run given running map after (older ++ [write])).settings.detectedVersion = none) ∧
    (before.Asks step →
      (∀ version ∈ answer given running before step, Text.isBlankText version = true) →
      after.settings = before.settings ∧ after.settings.detectedVersion = none ∧
      ∀ between last, last.mayAsk = true →
        (run given running map after between).settings.toolPath ≠ "" →
        (run given running map after between).Asks last ∨
        ∃ older turn newer, between = older ++ turn :: newer ∧
          (turn.writes = true ∨
            ∃ version, FindsOut given running (run given running map after older) turn version) ∧
          (run given running map after (older ++ [turn])).settings.detectedVersion ≠ none) ∧
    (step.writes = false → (¬ ∃ version, FindsOut given running before step version) →
      after.settings = before.settings) := by
  intro before after
  have hafter : after = next given running map before step := run_append_singleton ..
  refine ⟨⟨fun hasks => ?_, fun hasks => ?_⟩, fun version hfinds => ⟨?_, fun between last hasks => ?_⟩,
    fun hasks hblank => ?_, fun hwrites hfinds => ?_⟩
  · rw [hafter]
    exact (next_of_asks given running map hasks).2
  · rw [hafter]
    exact asked_next_of_not_asks given running map hasks
  · rw [hafter]
    exact settings_next_of_findsOut given running map hfinds
  · refine exists_write_of_forgotten given running map ?_ hasks.2.1
    rw [hafter, settings_next_of_findsOut given running map hfinds]
    simp
  · have hsettings : after.settings = before.settings := by
      rw [hafter, (next_of_asks given running map hasks).1,
          Settings.rememberVersion_of_unknown hasks.2.1 hblank]
    have hunknown : after.settings.detectedVersion = none := hsettings ▸ hasks.2.1
    refine ⟨hsettings, hunknown, fun between last hmay htool => ?_⟩
    by_cases hend : (run given running map after between).settings.detectedVersion = none
    · exact .inl ⟨hmay, hend, htool⟩
    · exact .inr (exists_turn_of_learned given running map hunknown hend)
  · rw [hafter]
    exact settings_next_of_not_findsOut given running map hwrites hfinds

/-- A session whose tool does not tell its version when it is asked for the first time. -/
def reluctant : Session (Script × List String) :=
  { settings := { toolPath := "phpstan" }, world := (⟨[none, some "1.12.27"], []⟩, []) }

theorem asked_until_known_of_reluctant :
    let go := run Script.detector Script.detector id
    let failed := go reluctant ([] ++ [.live none none])
    let found := go reluctant ([.live none none] ++ [.resolveVersion])
    let quiet := go reluctant ([] ++ [.sharedOptions])
    reluctant.Asks (.live none none) ∧ failed.asked = ["phpstan"] ∧
      failed.settings = reluctant.settings ∧
      ((go failed [.sharedOptions]).Asks .resolveVersion ∨
        ∃ older turn newer, [.sharedOptions] = older ++ turn :: newer ∧
          (turn.writes = true ∨ ∃ version,
            FindsOut Script.detector Script.detector (go failed older) turn version) ∧
          (go failed (older ++ [turn])).settings.detectedVersion ≠ none) ∧
    FindsOut Script.detector Script.detector failed .resolveVersion "1.12.27" ∧
      found.settings = { failed.settings with detectedVersion := some "1.12.27" } ∧
    (go found [.assign "detected_version" .null]).Asks .resolveVersion ∧
      (∃ older write newer, [.assign "detected_version" .null] = older ++ write :: newer ∧
        write.writes = true ∧
        (go found (older ++ [write])).settings.detectedVersion = none) ∧
    ¬ reluctant.Asks .sharedOptions ∧ quiet.asked = [] ∧
      quiet.settings = reluctant.settings := by
  intro go failed found quiet
  have hlive : reluctant.Asks (.live none none) := by decide +kernel
  have hblank : ∀ version ∈ answer Script.detector Script.detector reluctant (.live none none),
      Text.isBlankText version = true := by decide +kernel
  have hfound : FindsOut Script.detector Script.detector failed .resolveVersion "1.12.27" := by
    decide +kernel
  have hforgotten : (go found [.assign "detected_version" .null]).Asks .resolveVersion := by
    decide +kernel
  have htool : (go failed [.sharedOptions]).settings.toolPath ≠ "" := by decide +kernel
  have hquiet : ¬ reluctant.Asks .sharedOptions := fun h => by cases h.1
  obtain ⟨⟨hasked, -⟩, -, hfails, -⟩ :=
    asked_until_known Script.detector Script.detector id reluctant [] (.live none none)
  obtain ⟨-, hfinds, -, -⟩ :=
    asked_until_known Script.detector Script.detector id reluctant [.live none none] .resolveVersion
  obtain ⟨⟨-, hnot⟩, -, -, hframe⟩ :=
    asked_until_known Script.detector Script.detector id reluctant [] .sharedOptions
  obtain ⟨hsettings, -, hagain⟩ := hfails hlive hblank
  obtain ⟨hkept, hlost⟩ := hfinds _ hfound
  exact ⟨hlive, hasked hlive, hsettings, hagain [.sharedOptions] .resolveVersion rfl htool, hfound,
    hkept, hforgotten, hlost _ _ hforgotten, hquiet, hnot hquiet,
    hframe rfl fun ⟨_, h⟩ => hquiet h.1⟩

end Session

end EditorAnalysis
