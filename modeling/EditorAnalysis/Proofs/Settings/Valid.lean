/-
EditorAnalysis.Proofs.Settings.Valid — what holds of the settings at all times.

Every field reads its value from a datum by a rule of its own, and what the rules let
through is what `Valid` says. The defaults are valid (`valid_default`), an assignment keeps
the settings valid (`Valid.assign`) and touches one field (`get_assign_of_ne`), and so do
construction, which assigns field by field (`valid_of_ofData`), and any run of changes.
-/
import EditorAnalysis.Proofs.Command.KnownVersion
import EditorAnalysis.Proofs.Outcome
import EditorAnalysis.Proofs.Text.Blank

namespace EditorAnalysis.Settings

/-! ## What the rules let through -/

theorem isTrimmed_of_asText {d : Datum} {v : String} (h : asText (trimmed d) = .ok v) :
    Text.IsTrimmed v := by
  cases d with
  | text s =>
    obtain rfl : Text.trim s = v := Except.ok.inj h
    exact Text.isTrimmed_trim s
  | _ => cases h

/-- An optional text is missing, or it has a character that is not white space. -/
def Substantial (text : Option String) : Prop :=
  ∀ s ∈ text, ∃ c ∈ s.toList, Text.isBlank c = false

theorem substantial_none : Substantial none := by
  intro s hs
  cases hs

theorem substantial_of_asOptionalText {d : Datum} {v : Option String}
    (h : asOptionalText (blankAsUnset d) = .ok v) : Substantial v := by
  cases d with
  | null =>
    obtain rfl := Except.ok.inj h
    exact substantial_none
  | text s =>
    rw [blankAsUnset] at h
    split at h
    · obtain rfl := Except.ok.inj h
      exact substantial_none
    · rename_i hblank
      obtain rfl := Except.ok.inj h
      intro s' hs'
      obtain rfl := Option.some.inj hs'
      exact Text.isBlankText_eq_false_iff.mp (by simpa using hblank)
  | _ => cases h

theorem bounds_of_between {least greatest n m : Int} (h : between least greatest n = .ok m) :
    least ≤ m ∧ m ≤ greatest := by
  unfold between at h
  split at h
  · cases h
  · split at h
    · cases h
    · obtain rfl := Except.ok.inj h
      omega

theorem lt_of_aboveBound {bound n m : Int} (h : aboveBound bound n = .ok m) : bound < m := by
  unfold aboveBound at h
  split at h
  · obtain rfl := Except.ok.inj h
    assumption
  · cases h

/-! ## Valid settings -/

/-- What holds of every field. -/
structure Valid (s : Settings) : Prop where
  /-- The rule level is one of ten. -/
  level : 0 ≤ s.level ∧ s.level ≤ 9
  /-- The time limit is not used up from the start. -/
  timeoutMs : 0 < s.timeoutMs
  /-- Some message is reported. -/
  maxMessagesPerFile : 0 < s.maxMessagesPerFile
  /-- The executable's path has no white space at its ends. -/
  toolPath : Text.IsTrimmed s.toolPath
  /-- The memory limit has no white space at its ends. -/
  memoryLimit : Text.IsTrimmed s.memoryLimit
  /-- A known version is not blank. -/
  detectedVersion : Substantial s.detectedVersion
  /-- A given configuration file is not blank. -/
  configFile : Substantial s.configFile
  /-- A given autoload file is not blank. -/
  autoloadFile : Substantial s.autoloadFile

theorem valid_default : Valid {} where
  level := by decide
  timeoutMs := by decide
  maxMessagesPerFile := by decide
  toolPath := by decide
  memoryLimit := by decide
  detectedVersion := substantial_none
  configFile := substantial_none
  autoloadFile := substantial_none

/-- An assignment lets only valid values through. -/
theorem Valid.assign {s later : Settings} (hs : s.Valid) {f : Field} {d : Datum}
    (h : s.assign f d = .ok later) : later.Valid := by
  cases f with
  | toolPath =>
    obtain ⟨v, hv, rfl⟩ := Outcome.map_eq_ok_iff.mp h
    exact { hs with toolPath := isTrimmed_of_asText hv }
  | detectedVersion =>
    obtain ⟨v, hv, rfl⟩ := Outcome.map_eq_ok_iff.mp h
    exact { hs with detectedVersion := substantial_of_asOptionalText hv }
  | level =>
    obtain ⟨v, hv, rfl⟩ := Outcome.map_eq_ok_iff.mp h
    obtain ⟨n, -, hn⟩ := Outcome.bind_eq_ok_iff.mp hv
    exact { hs with level := bounds_of_between hn }
  | configFile =>
    obtain ⟨v, hv, rfl⟩ := Outcome.map_eq_ok_iff.mp h
    exact { hs with configFile := substantial_of_asOptionalText hv }
  | autoloadFile =>
    obtain ⟨v, hv, rfl⟩ := Outcome.map_eq_ok_iff.mp h
    exact { hs with autoloadFile := substantial_of_asOptionalText hv }
  | memoryLimit =>
    obtain ⟨v, hv, rfl⟩ := Outcome.map_eq_ok_iff.mp h
    exact { hs with memoryLimit := isTrimmed_of_asText hv }
  | analyzeFullProject =>
    obtain ⟨v, -, rfl⟩ := Outcome.map_eq_ok_iff.mp h
    exact { hs with }
  | timeoutMs =>
    obtain ⟨v, hv, rfl⟩ := Outcome.map_eq_ok_iff.mp h
    obtain ⟨n, -, hn⟩ := Outcome.bind_eq_ok_iff.mp hv
    exact { hs with timeoutMs := lt_of_aboveBound hn }
  | maxMessagesPerFile =>
    obtain ⟨v, hv, rfl⟩ := Outcome.map_eq_ok_iff.mp h
    obtain ⟨n, -, hn⟩ := Outcome.bind_eq_ok_iff.mp hv
    exact { hs with maxMessagesPerFile := lt_of_aboveBound hn }

/-- An assignment touches the field that it names and no other. -/
theorem get_assign_of_ne {s later : Settings} {f g : Field} {d : Datum}
    (h : s.assign f d = .ok later) (hg : g ≠ f) : later.get g = s.get g := by
  cases f <;> obtain ⟨v, -, rfl⟩ := Outcome.map_eq_ok_iff.mp h <;>
    cases g <;> first | rfl | exact absurd rfl hg

/-! ## Construction -/

theorem valid_take {data : List (String × Datum)} {progress : Settings × List Issue}
    (h : progress.1.Valid) (f : Field) : (take data progress f).1.Valid := by
  unfold take
  split
  · exact h
  · split
    · rename_i hassign
      exact h.assign hassign
    · exact h

theorem valid_of_ofData {data : List (String × Datum)} {s : Settings}
    (h : ofData data = .ok s) : s.Valid := by
  have hall : ∀ (fields : List Field) (progress : Settings × List Issue), progress.1.Valid →
      (fields.foldl (take (Assoc.ofList data)) progress).1.Valid := by
    intro fields
    induction fields with
    | nil => exact fun _ hvalid => hvalid
    | cons f rest ih => exact fun progress hvalid => ih _ (valid_take hvalid f)
  unfold ofData at h
  simp only at h
  split at h
  · obtain rfl := Except.ok.inj h
    exact hall Field.all ({}, []) valid_default
  · cases h

/-! ## Runs of changes -/

/-- What may be done to settings once they are there. -/
inductive Change where
  /-- Assigns a value to a field. -/
  | assign (field : Field) (value : Datum)
  /-- Keeps the tool's version, or forgets it. -/
  | remember (version : Option String)

/-- The settings after a change, and why it was refused, if it was. -/
def Change.run (s : Settings) : Change → Settings × Option Fault
  | .assign f d =>
    match s.assignNamed f.name d with
    | .ok later => (later, none)
    | .error fault => (s, some fault)
  | .remember version => (s.rememberVersion version, none)

/-- The settings after changes, first to last. -/
def after (s : Settings) (changes : List Change) : Settings :=
  changes.foldl (fun s change => (change.run s).1) s

theorem ofName?_name (f : Field) : Field.ofName? f.name = some f := by
  cases f <;> rfl

/-- A change of a field goes through, and is the assignment, or it is refused, and nothing
happens. -/
theorem run_assign (s : Settings) (f : Field) (d : Datum) :
    (∃ later, s.assign f d = .ok later ∧ Change.run s (.assign f d) = (later, none)) ∨
      ∃ reason, s.assign f d = .error reason ∧
        Change.run s (.assign f d) = (s, some (.settingsRefused [⟨f.name, reason⟩])) := by
  rw [Change.run, assignNamed, ofName?_name]
  cases hassign : s.assign f d with
  | ok later => exact .inl ⟨later, rfl, by simp [hassign]⟩
  | error reason => exact .inr ⟨reason, rfl, by simp [hassign]⟩

theorem Valid.run {s : Settings} (hs : s.Valid) (change : Change) : (change.run s).1.Valid := by
  cases change with
  | assign f d =>
    rcases run_assign s f d with ⟨later, hassign, hrun⟩ | ⟨reason, -, hrun⟩
    · rw [hrun]
      exact hs.assign hassign
    · rwa [hrun]
  | remember version => exact hs.assign (assign_detectedVersion s version)

theorem Valid.after {s : Settings} (hs : s.Valid) (changes : List Change) :
    (s.after changes).Valid := by
  induction changes generalizing s with
  | nil => exact hs
  | cons change rest ih => exact ih (hs.run change)

/-- **The settings stay valid.** Settings that were constructed from any data are valid, and
stay so through every run of changes, whether these succeed or are refused. At any time an
assignment that is refused leaves all fields as they are, and one that succeeds leaves all
other fields as they are. -/
theorem valid_after_of_ofData {data : List (String × Datum)} {s : Settings}
    (h : ofData data = .ok s) (changes : List Change) :
    (s.after changes).Valid ∧
    ∀ f d, let outcome := Change.run (s.after changes) (.assign f d)
      (outcome.2 ≠ none → outcome.1 = s.after changes) ∧
      (outcome.2 = none → ∀ g, g ≠ f → outcome.1.get g = (s.after changes).get g) := by
  refine ⟨(valid_of_ofData h).after changes, ?_⟩
  intro f d outcome
  rcases run_assign (s.after changes) f d with ⟨later, hassign, hrun⟩ | ⟨reason, -, hrun⟩
  · have houtcome : outcome = (later, none) := hrun
    rw [houtcome]
    exact ⟨fun hrefused => absurd rfl hrefused, fun _ g hg => get_assign_of_ne hassign hg⟩
  · have houtcome : outcome = (s.after changes, some (.settingsRefused [⟨f.name, reason⟩])) := hrun
    rw [houtcome]
    exact ⟨fun _ => rfl, fun hdone => by cases hdone⟩

/-- A run with a refused and a successful assignment of texts that need trimming or
reading. -/
theorem valid_after_padded_texts :
    let data : List (String × Datum) := [("tool_path", .text " phpstan\t"), ("level", .text "7")]
    let s : Settings := { toolPath := "phpstan", level := 7 }
    let changes : List Change :=
      [.assign .level (.integer 12), .assign .configFile (.text "  "), .remember (some " ")]
    let refused := Change.run (s.after changes) (.assign .timeoutMs (.text "0"))
    let done := Change.run (s.after changes) (.assign .memoryLimit (.text " 1G"))
    ofData data = .ok s ∧ (s.after changes).Valid ∧
      (refused.2 ≠ none ∧ refused.1 = s.after changes) ∧
      (done.2 = none ∧ Field.level ≠ .memoryLimit ∧
        done.1.get .level = (s.after changes).get .level) := by
  intro data s changes refused done
  have hdata : ofData data = .ok s := by rfl
  have hrefused : refused.2 ≠ none := by decide +kernel
  have hdone : done.2 = none := by decide +kernel
  obtain ⟨hvalid, houtcome⟩ := valid_after_of_ofData hdata changes
  exact ⟨hdata, hvalid, ⟨hrefused, (houtcome .timeoutMs (.text "0")).1 hrefused⟩, hdone, by decide,
    (houtcome .memoryLimit (.text " 1G")).2 hdone .level (by decide)⟩

end EditorAnalysis.Settings
