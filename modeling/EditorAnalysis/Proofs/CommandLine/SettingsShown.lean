/-
EditorAnalysis.Proofs.CommandLine.SettingsShown — when the settings of a project are printed.

Settings have no greatest time limit and no greatest number of messages, but printing them
has. The limit is shown in seconds as well, and those must be rounded to a finite number
(`isSome_timeoutSeconds?_iff`). The number of messages must not have more digits than a numeral
may have; the limit has fewer when it can be shown, and the rule level has one digit
(`any_isLongInteger_dump_iff`). Whatever is beyond these bounds is taken from the configuration
all the same and then stops the command (`settings_printed_iff_within_bounds`).
-/
import EditorAnalysis.Proofs.CommandLine.GivenVersion
import EditorAnalysis.Proofs.CommandLine.LiveAgain
import EditorAnalysis.Proofs.Number.Binary64

namespace EditorAnalysis

/-! ## Bounds -/

namespace Settings

/-- A time limit that can be shown in seconds has fewer milliseconds. -/
def limitBound : Int := (1000 * Number.Binary64.finiteBound : Nat)

/-- An integer that can be shown is less: it has no more digits than a numeral may have. -/
def integerBound : Int := (10 ^ Text.Numeral.maxDigits : Nat)

theorem isSome_timeoutSeconds?_iff {settings : Settings} (h : settings.Valid) :
    settings.timeoutSeconds?.isSome = true ↔ settings.timeoutMs < limitBound := by
  have hpos := h.timeoutMs
  have hfinite := Number.Binary64.isFinite_ofRatio_iff (settings.timeoutMs < 0)
    settings.timeoutMs.natAbs (by decide : 0 < 1000)
  unfold timeoutSeconds? limitBound
  dsimp only
  rw [show settings.timeoutMs < ((1000 * Number.Binary64.finiteBound : Nat) : Int) ↔
    settings.timeoutMs.natAbs < 1000 * Number.Binary64.finiteBound by omega, ← hfinite]
  split <;> simp_all

theorem limitBound_le_integerBound : limitBound ≤ integerBound := by
  have hbound : Number.Binary64.finiteBound ≤ 10 ^ 54 * 10 ^ 970 := by
    unfold Number.Binary64.finiteBound
    have hunit : 2 ^ 970 ≤ 10 ^ 970 := pow_le_pow_left' (by decide) 970
    exact Nat.mul_le_mul (by decide) hunit
  have hdigits : 10 ^ (3 + (54 + 970)) ≤ 10 ^ Text.Numeral.maxDigits :=
    pow_le_pow_right' (by decide) (by decide)
  unfold limitBound integerBound
  refine Int.ofNat_le.mpr (Nat.le_trans ?_ hdigits)
  rw [pow_add, pow_add]
  exact Nat.mul_le_mul (by decide) hbound

end Settings

namespace CommandLine

open Host Project
open Settings (limitBound integerBound)

theorem isLongInteger_integer_iff {n : Int} (h : 0 ≤ n) :
    isLongInteger (.integer n) = true ↔ integerBound ≤ n := by
  have hlength : (Nat.toDigits 10 n.natAbs).length ≤ Text.Numeral.maxDigits ↔
      n.natAbs < 10 ^ Text.Numeral.maxDigits :=
    Nat.length_toDigits_le_iff (by decide) (by decide)
  unfold isLongInteger integerBound Text.Numeral.write
  rw [decide_eq_true_eq, ← Nat.not_le, hlength]
  omega

/-- Of settings whose limit can be shown, only the number of messages may be too long. -/
theorem any_isLongInteger_dump_iff {settings : Settings} (h : settings.Valid)
    (hlimit : settings.timeoutMs < limitBound) :
    (settings.dump.any fun entry => isLongInteger entry.2) = true ↔
      integerBound ≤ settings.maxMessagesPerFile := by
  have hlevel : ¬ isLongInteger (.integer settings.level) = true := by
    have hdigits : 10 ^ 1 ≤ 10 ^ Text.Numeral.maxDigits :=
      Nat.pow_le_pow_right (by decide) (by decide)
    have hnine := h.level.2
    rw [isLongInteger_integer_iff h.level.1, integerBound]
    omega
  have htimeout : ¬ isLongInteger (.integer settings.timeoutMs) = true := by
    rw [isLongInteger_integer_iff h.timeoutMs.le]
    exact Int.not_le.mpr (Int.lt_of_lt_of_le hlimit Settings.limitBound_le_integerBound)
  have htext : ∀ text : Option String, isLongInteger ((text.map Datum.text).getD .null) = false := by
    intro text
    cases text <;> rfl
  rw [← isLongInteger_integer_iff h.maxMessagesPerFile.le]
  simp only [Settings.dump, Settings.Field.all, Settings.get, List.map_cons, List.map_nil,
    List.any_cons, List.any_nil, htext, hlevel, htimeout]
  simp [isLongInteger]

/-! ## The command -/

section Command

variable {s : Surroundings} {root : String} {cache : Option String} {settings : Settings}

theorem valid_of_load {overrides : Configuration.Source}
    (h : load s root cache overrides = .ok settings) : settings.Valid := by
  obtain ⟨base, hbase, hcache⟩ := Outcome.bind_eq_ok_iff.mp h
  have hvalid := Configuration.valid_of_load hbase
  unfold fromCache at hcache
  split at hcache
  · obtain ⟨version, -, rfl⟩ := Outcome.map_eq_ok_iff.mp hcache
    exact hvalid.run (.remember version)
  · exact Except.ok.inj hcache ▸ hvalid

/-- The settings are printed, and nothing stops the run. -/
def Prints (settings : Settings) (report : Report) : Prop :=
  ∃ seconds, settings.timeoutSeconds? = some seconds ∧ report.status = Report.success ∧
    report.output = settingsText settings seconds ∧ report.fault = none

/-- The fault stops the run, and nothing is printed. -/
def StoppedBy (fault : Fault) (report : Report) : Prop :=
  report.status = Report.failure ∧ report.output = "" ∧ report.fault = some fault

@[simp] theorem prints_shown_iff (verbose : Bool) (report : Report) :
    Prints settings (report.shown verbose) ↔ Prints settings report := Iff.rfl

@[simp] theorem stoppedBy_shown_iff (verbose : Bool) (fault : Fault) (report : Report) :
    StoppedBy fault (report.shown verbose) ↔ StoppedBy fault report := Iff.rfl

theorem not_stoppedBy_of_prints {report : Report} (h : Prints settings report) (fault : Fault) :
    ¬ StoppedBy fault report := by
  obtain ⟨_, -, -, -, hnone⟩ := h
  rintro ⟨-, -, hsome⟩
  rw [hnone] at hsome
  cases hsome

theorem StoppedBy.eq {report : Report} {fault fault' : Fault} (h : StoppedBy fault report)
    (h' : StoppedBy fault' report) : fault = fault' :=
  Option.some.inj (h.2.2.symm.trans h'.2.2)

theorem performSettings_of_seconds {seconds : Number.Binary64} (out : Console.Output)
    (hload : load s root cache [] = .ok settings)
    (hseconds : settings.timeoutSeconds? = some seconds) :
    performSettings out s root cache =
      if settings.dump.any fun entry => isLongInteger entry.2 then
        .ofFault out (.numeralTooLong none)
      else .printed (settingsText settings seconds) := by
  unfold performSettings
  rw [hload]
  dsimp only
  rw [hseconds]

theorem prints_performSettings (out : Console.Output)
    (hload : load s root cache [] = .ok settings) (hlimit : settings.timeoutMs < limitBound)
    (hmessages : settings.maxMessagesPerFile < integerBound) :
    Prints settings (performSettings out s root cache) := by
  have hvalid := valid_of_load hload
  obtain ⟨seconds, hseconds⟩ :=
    Option.isSome_iff_exists.mp ((Settings.isSome_timeoutSeconds?_iff hvalid).mpr hlimit)
  have hshort : ¬ (settings.dump.any fun entry => isLongInteger entry.2) = true := by
    rw [any_isLongInteger_dump_iff hvalid hlimit]
    exact Int.not_le.mpr hmessages
  rw [performSettings_of_seconds out hload hseconds, if_neg hshort]
  exact ⟨seconds, hseconds, rfl, rfl, rfl⟩

theorem stoppedBy_performSettings_of_long (out : Console.Output)
    (hload : load s root cache [] = .ok settings) (hlimit : settings.timeoutMs < limitBound)
    (hmessages : integerBound ≤ settings.maxMessagesPerFile) :
    StoppedBy (.numeralTooLong none) (performSettings out s root cache) := by
  have hvalid := valid_of_load hload
  obtain ⟨seconds, hseconds⟩ :=
    Option.isSome_iff_exists.mp ((Settings.isSome_timeoutSeconds?_iff hvalid).mpr hlimit)
  have hlong := (any_isLongInteger_dump_iff hvalid hlimit).mpr hmessages
  rw [performSettings_of_seconds out hload hseconds, if_pos hlong]
  exact ⟨rfl, rfl, rfl⟩

theorem stoppedBy_performSettings_of_late (out : Console.Output)
    (hload : load s root cache [] = .ok settings) (hlimit : limitBound ≤ settings.timeoutMs) :
    StoppedBy .limitTooLarge (performSettings out s root cache) := by
  have hnone : settings.timeoutSeconds? = none := by
    rw [← Option.not_isSome_iff_eq_none, Settings.isSome_timeoutSeconds?_iff (valid_of_load hload)]
    exact Int.not_lt.mpr hlimit
  have hperform : performSettings out s root cache = .ofFault out .limitTooLarge := by
    unfold performSettings
    rw [hload]
    dsimp only
    rw [hnone]
  rw [hperform]
  exact ⟨rfl, rfl, rfl⟩

/-- Settings are printed, or one of the two numbers stops the run, and never two of the three. -/
theorem performSettings_iff (out : Console.Output) (hload : load s root cache [] = .ok settings) :
    (Prints settings (performSettings out s root cache) ↔
        settings.timeoutMs < limitBound ∧ settings.maxMessagesPerFile < integerBound) ∧
      (StoppedBy .limitTooLarge (performSettings out s root cache) ↔
        limitBound ≤ settings.timeoutMs) ∧
      (StoppedBy (.numeralTooLong none) (performSettings out s root cache) ↔
        settings.timeoutMs < limitBound ∧ integerBound ≤ settings.maxMessagesPerFile) := by
  rcases Int.lt_or_le settings.timeoutMs limitBound with hlimit | hlimit
  · rcases Int.lt_or_le settings.maxMessagesPerFile integerBound with hmessages | hmessages
    · have hprints := prints_performSettings out hload hlimit hmessages
      have hnot := not_stoppedBy_of_prints hprints
      exact ⟨iff_of_true hprints ⟨hlimit, hmessages⟩,
        iff_of_false (hnot _) (Int.not_le.mpr hlimit),
        iff_of_false (hnot _) fun h => Int.not_le.mpr hmessages h.2⟩
    · have hstopped := stoppedBy_performSettings_of_long out hload hlimit hmessages
      exact ⟨iff_of_false (fun h => not_stoppedBy_of_prints h _ hstopped)
          fun h => Int.not_le.mpr h.2 hmessages,
        iff_of_false (fun h => nomatch hstopped.eq h) (Int.not_le.mpr hlimit),
        iff_of_true hstopped ⟨hlimit, hmessages⟩⟩
  · have hstopped := stoppedBy_performSettings_of_late out hload hlimit
    exact ⟨iff_of_false (fun h => not_stoppedBy_of_prints h _ hstopped)
        fun h => Int.not_le.mpr h.1 hlimit,
      iff_of_true hstopped hlimit,
      iff_of_false (fun h => nomatch hstopped.eq h) fun h => Int.not_le.mpr h.1 hlimit⟩

/-- Surroundings with a project at `/p`, whose own file has a text. -/
def withOwnFile (text : List Char) : Surroundings :=
  { toFiles := Configuration.holding [] (Text.Utf8.encode text)
    searchPath := []
    environment := [] }

/-- The words that ask for the settings of the project at `/p`. -/
def settingsWords : List String := ["settings", "--root", "/p"]

end Command

end CommandLine

end EditorAnalysis
