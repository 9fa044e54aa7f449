/-
EditorAnalysis.Proofs.Settings.Assignment — construction is assignment, field by field.

What a field makes of a datum (`Field.reading`) depends neither on the other fields nor on
what it held before, so assignments to different fields are independent: `Holds` says of one
field what a run of them comes to, and the run is that of all fields (`assignEach_eq_ok_iff`).
Construction goes through the fields in a fixed order and assigns, so it is such a run
(`foldl_take_eq_iff`), and data that name fields only are accepted by both or by neither
(`ofData_named_eq_ok_iff`). What a field of valid settings holds, it takes again as it is
(`Valid.assign_get`).
-/
import EditorAnalysis.Proofs.Assoc
import EditorAnalysis.Proofs.Settings.Valid
import Mathlib.Data.List.Nodup

namespace EditorAnalysis.Settings

/-! ## What a field makes of a datum -/

/-- What a field makes of a datum: the value that it has afterwards, or why it refuses. -/
def Field.reading (f : Field) (d : Datum) : Except Reason Datum :=
  (assign {} f d).map (·.get f)

/-- Settings are what their fields hold. -/
theorem eq_of_get {s t : Settings} (h : ∀ f, s.get f = t.get f) : s = t := by
  have hoption : ∀ {u v : Option String},
      (u.map Datum.text).getD .null = (v.map Datum.text).getD .null → u = v := by
    intro u v huv
    cases u <;> cases v <;> simp_all
  cases s
  cases t
  congr
  · exact Datum.text.inj (h .toolPath)
  · exact hoption (h .detectedVersion)
  · exact Datum.integer.inj (h .level)
  · exact hoption (h .configFile)
  · exact hoption (h .autoloadFile)
  · exact Datum.text.inj (h .memoryLimit)
  · exact Datum.boolean.inj (h .analyzeFullProject)
  · exact Datum.integer.inj (h .timeoutMs)
  · exact Datum.integer.inj (h .maxMessagesPerFile)

/-- What a field makes of a datum does not depend on the settings that it belongs to. -/
theorem reading_eq (s : Settings) (f : Field) (d : Datum) :
    f.reading d = (s.assign f d).map (·.get f) := by
  have hmap : ∀ {α : Type} (x : Except Reason α) (g h : α → Settings),
      (∀ v, (g v).get f = (h v).get f) → (x.map g).map (·.get f) = (x.map h).map (·.get f) := by
    intro α x g h hgh
    cases x with
    | error reason => rfl
    | ok v => exact congrArg Except.ok (hgh v)
  cases f <;> exact hmap _ _ _ fun _ => rfl

/-- An assignment gives the field what it makes of the datum, and leaves the other fields. -/
theorem assign_eq_ok_iff {s t : Settings} {f : Field} {d : Datum} :
    s.assign f d = .ok t ↔ f.reading d = .ok (t.get f) ∧ ∀ g, g ≠ f → t.get g = s.get g := by
  constructor
  · intro h
    refine ⟨?_, fun g hg => get_assign_of_ne h hg⟩
    rw [reading_eq s, h]
    rfl
  · rintro ⟨hreading, hothers⟩
    rw [reading_eq s] at hreading
    obtain ⟨later, hassign, hvalue⟩ := Outcome.map_eq_ok_iff.mp hreading
    have heq : later = t := eq_of_get fun g => by
      by_cases hg : g = f
      · rw [hg, hvalue]
      · rw [get_assign_of_ne hassign hg, hothers g hg]
    rw [hassign, heq]

theorem exists_assign_iff {s : Settings} {f : Field} {d : Datum} :
    (∃ t, s.assign f d = .ok t) ↔ ∃ v, f.reading d = .ok v := by
  constructor
  · rintro ⟨t, ht⟩
    exact ⟨t.get f, (assign_eq_ok_iff.mp ht).1⟩
  · rintro ⟨v, hv⟩
    rw [reading_eq s] at hv
    obtain ⟨t, ht, -⟩ := Outcome.map_eq_ok_iff.mp hv
    exact ⟨t, ht⟩

theorem assignNamed_name_eq_ok_iff {s t : Settings} {f : Field} {d : Datum} :
    s.assignNamed f.name d = .ok t ↔ s.assign f d = .ok t := by
  rw [assignNamed, ofName?_name]
  simp only
  cases s.assign f d <;> simp

/-! ## Assignments one after the other -/

/-- Assigns values to fields, first to last, until one is refused. -/
def assignEach (s : Settings) (order : List (Field × Datum)) : Except Fault Settings :=
  order.foldlM (fun s e => s.assignNamed e.1.name e.2) s

/-- One assignment more at the beginning. -/
theorem assignEach_cons_eq_ok_iff {s t : Settings} {e : Field × Datum}
    {order : List (Field × Datum)} :
    s.assignEach (e :: order) = .ok t ↔
      ∃ next, s.assign e.1 e.2 = .ok next ∧ next.assignEach order = .ok t := by
  rw [assignEach, List.foldlM_cons]
  simp only [← assignNamed_name_eq_ok_iff]
  exact Outcome.bind_eq_ok_iff

theorem exists_assignEach_iff {s : Settings} {order : List (Field × Datum)} :
    (∃ t, s.assignEach order = .ok t) ↔ ∀ e ∈ order, ∃ v, e.1.reading e.2 = .ok v := by
  induction order generalizing s with
  | nil => simp [assignEach, pure, Except.pure]
  | cons e order ih =>
    rw [List.forall_mem_cons, ← exists_assign_iff (s := s)]
    simp only [assignEach_cons_eq_ok_iff]
    constructor
    · rintro ⟨t, next, hnext, hrest⟩
      exact ⟨⟨next, hnext⟩, ih.mp ⟨t, hrest⟩⟩
    · rintro ⟨⟨next, hnext⟩, hrest⟩
      obtain ⟨t, ht⟩ := ih.mpr hrest
      exact ⟨t, next, hnext, ht⟩

/-- What a field holds afterwards, where a datum may be given for it. -/
inductive Holds (before after : Settings) (f : Field) : Option Datum → Prop where
  /-- Nothing is given: what it held before. -/
  | kept (h : after.get f = before.get f) : Holds before after f none
  /-- A datum is given: what the field makes of it. -/
  | taken {d : Datum} (h : f.reading d = .ok (after.get f)) : Holds before after f (some d)

@[simp] theorem holds_none {before after : Settings} {f : Field} :
    Holds before after f none ↔ after.get f = before.get f :=
  ⟨fun h => by cases h; assumption, .kept⟩

@[simp] theorem holds_some {before after : Settings} {f : Field} {d : Datum} :
    Holds before after f (some d) ↔ f.reading d = .ok (after.get f) :=
  ⟨fun h => by cases h; assumption, .taken⟩

theorem holds_congr {before before' after : Settings} {f : Field}
    (h : before.get f = before'.get f) (given : Option Datum) :
    Holds before after f given ↔ Holds before' after f given := by
  cases given with
  | none => rw [holds_none, holds_none, h]
  | some d => rw [holds_some, holds_some]

/-- Assignments to different fields are independent: each field holds what it makes of its
own datum. -/
theorem assignEach_eq_ok_iff {s t : Settings} {order : List (Field × Datum)}
    (h : (order.map (·.1)).Nodup) :
    s.assignEach order = .ok t ↔ ∀ f, Holds s t f (Assoc.get? f order) := by
  induction order generalizing s with
  | nil =>
    simp only [Assoc.get?, holds_none]
    constructor
    · intro ht f
      rw [Except.ok.inj ht]
    · intro hsame
      rw [eq_of_get hsame]
      rfl
  | cons e order ih =>
    obtain ⟨field, d⟩ := e
    obtain ⟨hfield, horder⟩ := List.nodup_cons.mp (List.map_cons ▸ h)
    have hnone : Assoc.get? field order = none := Assoc.get?_eq_none_iff.mpr hfield
    have hfirst : Assoc.get? field ((field, d) :: order) = some d := by rw [Assoc.get?, if_pos rfl]
    have hlater : ∀ f, f ≠ field →
        Assoc.get? f ((field, d) :: order) = Assoc.get? f order := by
      intro f hf
      rw [Assoc.get?, if_neg (Ne.symm hf)]
    rw [assignEach_cons_eq_ok_iff]
    simp only [ih horder]
    -- the first field does not come again, so the rest of the run leaves it as it is then
    constructor
    · rintro ⟨next, hnext, hrest⟩ f
      obtain ⟨hreading, hothers⟩ := assign_eq_ok_iff.mp hnext
      by_cases hf : f = field
      · subst hf
        have hkept := hrest f
        rw [hnone, holds_none] at hkept
        rw [hfirst, holds_some, hkept]
        exact hreading
      · rw [hlater f hf, ← holds_congr (hothers f hf)]
        exact hrest f
    · intro hall
      have hreading := hall field
      rw [hfirst, holds_some] at hreading
      obtain ⟨next, hnext⟩ := exists_assign_iff.mpr ⟨_, hreading⟩
      obtain ⟨hreading', hothers⟩ := assign_eq_ok_iff.mp hnext
      refine ⟨next, hnext, fun f => ?_⟩
      by_cases hf : f = field
      · subst hf
        rw [hnone, holds_none]
        exact Except.ok.inj (hreading.symm.trans hreading')
      · rw [holds_congr (hothers f hf), ← hlater f hf]
        exact hall f

/-! ## Construction -/

/-- The data that name a field, in the order in which fields are checked. -/
def fieldData (data : List (String × Datum)) : List (Field × Datum) :=
  Field.all.filterMap fun f => (Assoc.get? f.name data).map fun d => (f, d)

theorem mem_all (f : Field) : f ∈ Field.all := by
  cases f <;> decide

theorem mem_fieldData_iff {data : List (String × Datum)} {f : Field} {d : Datum} :
    (f, d) ∈ fieldData data ↔ Assoc.get? f.name data = some d := by
  simp only [fieldData, List.mem_filterMap, Option.map_eq_some_iff, Prod.mk.injEq]
  constructor
  · rintro ⟨_, -, _, hget, rfl, rfl⟩
    exact hget
  · intro hget
    exact ⟨f, mem_all f, d, hget, rfl, rfl⟩

theorem nodup_fieldData (data : List (String × Datum)) : ((fieldData data).map (·.1)).Nodup := by
  have hsublist : ((fieldData data).map (·.1)).Sublist Field.all := by
    rw [fieldData]
    generalize Field.all = fields
    induction fields with
    | nil => exact List.Sublist.refl []
    | cons f fields ih =>
      rw [List.filterMap_cons]
      cases Assoc.get? f.name data with
      | none => exact ih.cons f
      | some d => exact ih.cons_cons f
  exact hsublist.nodup (by decide)

theorem get?_fieldData (data : List (String × Datum)) (f : Field) :
    Assoc.get? f (fieldData data) = Assoc.get? f.name data := by
  refine Option.ext fun d => ?_
  rw [Assoc.get?_eq_some_iff (nodup_fieldData data), mem_fieldData_iff]

theorem length_le_length_foldl_take (data : List (String × Datum)) (fields : List Field)
    (progress : Settings × List Issue) :
    progress.2.length ≤ (fields.foldl (take data) progress).2.length := by
  induction fields generalizing progress with
  | nil => exact Nat.le_refl _
  | cons f fields ih =>
    refine Nat.le_trans ?_ (ih (take data progress f))
    unfold take
    split
    · exact Nat.le_refl _
    · split
      · exact Nat.le_refl _
      · simp

/-- Construction goes through the fields without an issue exactly if the assignments of the
data go through, and comes to the same settings. -/
theorem foldl_take_eq_iff (data : List (String × Datum)) (fields : List Field) (s t : Settings)
    (issues : List Issue) :
    fields.foldl (take data) (s, issues) = (t, issues) ↔
      s.assignEach (fields.filterMap fun f => (Assoc.get? f.name data).map fun d => (f, d))
        = .ok t := by
  induction fields generalizing s with
  | nil => simp [assignEach, pure, Except.pure]
  | cons f fields ih =>
    rw [List.foldl_cons, List.filterMap_cons, take]
    cases Assoc.get? f.name data with
    | none => exact ih s
    | some d =>
      simp only [Option.map_some, assignEach_cons_eq_ok_iff]
      cases s.assign f d with
      | ok next => simp [ih]
      | error reason =>
        -- issues are only ever added, so none of them is gone at the end
        refine iff_of_false (fun heq => ?_) (by simp)
        have hlength := length_le_length_foldl_take data fields (s, issues ++ [⟨f.name, reason⟩])
        simp only [heq, List.length_append, List.length_singleton] at hlength
        omega

theorem unknownNames_eq_nil_iff {data : List (String × Datum)} :
    unknownNames data = [] ↔ ∀ name, name ∈ data.map (·.1) → (Field.ofName? name).isSome = true := by
  simp only [unknownNames, List.map_eq_nil_iff, List.filter_eq_nil_iff, List.mem_map,
    Option.isNone_iff_eq_none, ← Option.isSome_iff_ne_none, forall_exists_index, and_imp]
  constructor
  · rintro h _ e he rfl
    exact h e he
  · exact fun h e he => h e.1 e he rfl

/-- Data give settings exactly if all their names are names of fields, and then assigning what
they have for the fields does. -/
theorem ofData_eq_ok_iff_assignEach {pairs : List (String × Datum)} {s : Settings} :
    ofData pairs = .ok s ↔
      (∀ name ∈ pairs.map (·.1), (Field.ofName? name).isSome = true) ∧
      assignEach {} (fieldData (Assoc.ofList pairs)) = .ok s := by
  have hnames : (∀ name ∈ pairs.map (·.1), (Field.ofName? name).isSome = true) ↔
      unknownNames (Assoc.ofList pairs) = [] := by
    simp only [unknownNames_eq_nil_iff, Assoc.map_fst_ofList, List.mem_eraseDups]
  rw [hnames, fieldData, ← foldl_take_eq_iff _ _ _ _ [], ofData]
  generalize Field.all.foldl (take (Assoc.ofList pairs)) ({}, []) = progress
  obtain ⟨t, issues⟩ := progress
  simp only [List.isEmpty_iff, List.append_eq_nil_iff, Prod.mk.injEq]
  split
  · rename_i hnone
    simp [hnone]
  · rename_i hsome
    refine iff_of_false (by simp) ?_
    rintro ⟨hunknown, -, hissues⟩
    exact hsome ⟨hissues, hunknown⟩

/-- In constructed settings each field holds what it makes of its datum, or its default. -/
theorem ofData_eq_ok_iff {pairs : List (String × Datum)} {s : Settings} :
    ofData pairs = .ok s ↔
      (∀ name ∈ pairs.map (·.1), (Field.ofName? name).isSome = true) ∧
      ∀ f : Field, Holds {} s f (Assoc.get? f.name (Assoc.ofList pairs)) := by
  rw [ofData_eq_ok_iff_assignEach, assignEach_eq_ok_iff (nodup_fieldData _)]
  simp only [get?_fieldData]

/-- Data are accepted if each field accepts its datum. -/
theorem exists_ofData_iff {pairs : List (String × Datum)} :
    (∃ s, ofData pairs = .ok s) ↔
      (∀ name ∈ pairs.map (·.1), (Field.ofName? name).isSome = true) ∧
      ∀ (f : Field) d, Assoc.get? f.name (Assoc.ofList pairs) = some d → ∃ v, f.reading d = .ok v := by
  simp only [ofData_eq_ok_iff_assignEach, exists_and_left, exists_assignEach_iff, Prod.forall,
    mem_fieldData_iff]

/-! ## Settings from their own dump -/

theorem asText_trimmed_of_isTrimmed {v : String} (h : Text.IsTrimmed v) :
    asText (trimmed (.text v)) = .ok v := by
  rw [trimmed, asText, Text.trim_of_isTrimmed h]

theorem asOptionalText_blankAsUnset_of_substantial {text : Option String} (h : Substantial text) :
    asOptionalText (blankAsUnset ((text.map Datum.text).getD .null)) = .ok text := by
  cases text with
  | none => rfl
  | some v =>
    have hblank : Text.isBlankText v = false := Text.isBlankText_eq_false_iff.mpr (h v rfl)
    simp [blankAsUnset, hblank, asOptionalText]

theorem between_of_bounds {least greatest n : Int} (h : least ≤ n ∧ n ≤ greatest) :
    between least greatest n = .ok n := by
  rw [between, if_neg (by omega), if_neg (by omega)]

/-- What a field of valid settings holds is a value that it takes as it is. -/
theorem Valid.assign_get {s : Settings} (hs : s.Valid) (f : Field) :
    s.assign f (s.get f) = .ok s := by
  cases f with
  | toolPath =>
    have hread := asText_trimmed_of_isTrimmed hs.toolPath
    exact (Outcome.map_eq_ok_iff (f := fun v => { s with toolPath := v })).mpr ⟨_, hread, rfl⟩
  | detectedVersion =>
    exact Outcome.map_eq_ok_iff.mpr
      ⟨_, asOptionalText_blankAsUnset_of_substantial hs.detectedVersion, rfl⟩
  | level =>
    exact Outcome.map_eq_ok_iff.mpr
      ⟨_, Outcome.bind_eq_ok_iff.mpr ⟨s.level, rfl, between_of_bounds hs.level⟩, rfl⟩
  | configFile =>
    exact Outcome.map_eq_ok_iff.mpr
      ⟨_, asOptionalText_blankAsUnset_of_substantial hs.configFile, rfl⟩
  | autoloadFile =>
    exact Outcome.map_eq_ok_iff.mpr
      ⟨_, asOptionalText_blankAsUnset_of_substantial hs.autoloadFile, rfl⟩
  | memoryLimit =>
    have hread := asText_trimmed_of_isTrimmed hs.memoryLimit
    exact (Outcome.map_eq_ok_iff (f := fun v => { s with memoryLimit := v })).mpr ⟨_, hread, rfl⟩
  | analyzeFullProject => rfl
  | timeoutMs =>
    exact Outcome.map_eq_ok_iff.mpr
      ⟨_, Outcome.bind_eq_ok_iff.mpr ⟨s.timeoutMs, rfl, if_pos hs.timeoutMs⟩, rfl⟩
  | maxMessagesPerFile =>
    exact Outcome.map_eq_ok_iff.mpr
      ⟨_, Outcome.bind_eq_ok_iff.mpr
        ⟨s.maxMessagesPerFile, rfl, if_pos hs.maxMessagesPerFile⟩, rfl⟩

/-! ## Construction and assignment -/

/-- The data that name fields. -/
def named (data : List (Field × Datum)) : List (String × Datum) :=
  data.map fun e => (e.1.name, e.2)

theorem name_injective : Function.Injective Field.name := by
  intro f g h
  have hfields := congrArg Field.ofName? h
  rw [ofName?_name, ofName?_name] at hfields
  exact Option.some.inj hfields

theorem map_fst_named (data : List (Field × Datum)) :
    (named data).map (·.1) = (data.map (·.1)).map Field.name := by
  rw [named, List.map_map, List.map_map]
  rfl

theorem nodup_named {data : List (Field × Datum)} (h : (data.map (·.1)).Nodup) :
    ((named data).map (·.1)).Nodup :=
  map_fst_named data ▸ List.Nodup.map name_injective h

theorem known_of_mem_named {data : List (Field × Datum)} {name : String}
    (h : name ∈ (named data).map (·.1)) : (Field.ofName? name).isSome = true := by
  rw [map_fst_named] at h
  obtain ⟨f, -, rfl⟩ := List.mem_map.mp h
  rw [ofName?_name]
  rfl

theorem get?_named (data : List (Field × Datum)) (f : Field) :
    Assoc.get? f.name (named data) = Assoc.get? f data := by
  induction data with
  | nil => rfl
  | cons e data ih =>
    have hfirst : (e.1.name = f.name) = (e.1 = f) := propext name_injective.eq_iff
    rw [named, List.map_cons, ← named, Assoc.get?, Assoc.get?, ih]
    simp only [hfirst]

/-- Construction from data that name fields only, each once, is assignment to the defaults. -/
theorem ofData_named_eq_ok_iff {data : List (Field × Datum)} {s : Settings}
    (h : (data.map (·.1)).Nodup) : ofData (named data) = .ok s ↔ assignEach {} data = .ok s := by
  rw [ofData_eq_ok_iff, assignEach_eq_ok_iff h, Assoc.ofList_of_nodup (nodup_named h)]
  simp only [get?_named]
  exact and_iff_right fun _ => known_of_mem_named

/-- What the fields hold. -/
def held (s : Settings) : List (Field × Datum) :=
  Field.all.map fun f => (f, s.get f)

theorem named_held (s : Settings) : named s.held = s.dump := by
  rw [named, held, List.map_map]
  rfl

theorem nodup_held (s : Settings) : (s.held.map (·.1)).Nodup := by
  rw [held, List.map_map]
  exact (by decide : Field.all.Nodup)

theorem get?_held (s : Settings) (f : Field) : Assoc.get? f s.held = some (s.get f) := by
  rw [Assoc.get?_eq_some_iff (nodup_held s)]
  exact List.mem_map.mpr ⟨f, mem_all f, rfl⟩

/-- Valid settings are constructed again from their dump. -/
theorem Valid.ofData_dump {s : Settings} (hs : s.Valid) : ofData s.dump = .ok s := by
  rw [← named_held, ofData_named_eq_ok_iff (nodup_held s), assignEach_eq_ok_iff (nodup_held s)]
  intro f
  rw [get?_held, holds_some]
  exact (assign_eq_ok_iff.mp (hs.assign_get f)).1

/-- **Construction and assignment agree.** Let data give values for some of the fields.
Construction accepts the data exactly if default settings accept each of the values alone, and
then default settings come to the constructed ones by assigning all of them, in any order. Of
settings that were constructed and then changed in any way, construction takes the dump, and
gives the settings back. -/
theorem construction_agrees_with_assignment {data : List (Field × Datum)}
    (hdata : (data.map (·.1)).Nodup) :
    ((∃ s, ofData (named data) = .ok s) ↔
        ∀ e ∈ data, ∃ s, assignNamed {} e.1.name e.2 = .ok s) ∧
      (∀ s, ofData (named data) = .ok s →
        ∀ order : List (Field × Datum), order.Perm data → assignEach {} order = .ok s) ∧
      ∀ pairs s changes, ofData pairs = .ok s →
        ofData (after s changes).dump = .ok (after s changes) := by
  refine ⟨?_, fun s hs order horder => ?_, fun pairs s changes hs => ?_⟩
  · simp only [ofData_named_eq_ok_iff hdata, exists_assignEach_iff, assignNamed_name_eq_ok_iff,
      exists_assign_iff]
  · have hnodup : (order.map (·.1)).Nodup := (horder.map _).nodup_iff.mpr hdata
    rw [ofData_named_eq_ok_iff hdata, assignEach_eq_ok_iff hdata] at hs
    refine (assignEach_eq_ok_iff hnodup).mpr fun f => ?_
    rw [Assoc.get?_eq_of_perm horder hdata]
    exact hs f
  · exact ((valid_of_ofData hs).after changes).ofData_dump

/-- A text that needs trimming, a numeral, a blank text and a word, assigned in another order. -/
theorem construction_agrees_with_assignment_of_padded_texts :
    let data : List (Field × Datum) :=
      [(.toolPath, .text " phpstan\t"), (.level, .text "+7.0"), (.configFile, .text "  "),
        (.analyzeFullProject, .text "Yes")]
    let order : List (Field × Datum) :=
      [(.analyzeFullProject, .text "Yes"), (.configFile, .text "  "), (.level, .text "+7.0"),
        (.toolPath, .text " phpstan\t")]
    let s : Settings := { toolPath := "phpstan", level := 7, analyzeFullProject := true }
    let changes : List Change := [.assign .level (.integer 12), .remember (some "1.12.27 ")]
    (data.map (·.1)).Nodup ∧ ofData (named data) = .ok s ∧ order.Perm data ∧
      assignEach {} order = .ok s ∧
      (∀ e ∈ data, ∃ t, assignNamed {} e.1.name e.2 = .ok t) ∧
      ofData (after s changes).dump = .ok (after s changes) := by
  intro data order s changes
  have hdata : (data.map (·.1)).Nodup := by decide
  have hofData : ofData (named data) = .ok s := by decide +kernel
  have horder : order.Perm data := List.reverse_perm data
  obtain ⟨haccepts, hassigns, hagain⟩ := construction_agrees_with_assignment hdata
  exact ⟨hdata, hofData, horder, hassigns s hofData order horder, haccepts.mp ⟨s, hofData⟩,
    hagain (named data) s changes hofData⟩

end EditorAnalysis.Settings
