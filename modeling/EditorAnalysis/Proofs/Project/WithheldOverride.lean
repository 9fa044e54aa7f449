/-
EditorAnalysis.Proofs.Project.WithheldOverride — overrides that hold nothing.

An override that holds nothing is not taken for a value, and that is seen once names are in their
plain spelling and the last entry for a setting has won. So an entry that holds nothing does not
just go: it takes with it what an earlier entry for the same setting, in another spelling, held.
What is left are the `standing` overrides. Loading cannot tell them from all overrides, but for
the order in which it complains about unknown names: a name has the place of its first entry, and
that may be one that holds nothing (`load_standing`). So entries that hold nothing just go if no
value goes with them and no unknown name has its place from one of them (`load_valued`).
-/
import EditorAnalysis.Proofs.Project.Precedence

namespace EditorAnalysis

namespace Settings

/-! ## Construction from reordered data -/

/-- Data in another order are accepted and refused alike; only unknown names are named in another
order. -/
theorem ofData_of_perm {pairs others : List (String × Datum)} (hperm : others.Perm pairs)
    (hnodup : (pairs.map (·.1)).Nodup) :
    ofData others = ofData pairs ∨
      ∃ refused, ofData pairs = .error (refused ++ unknownNames pairs) ∧
        ofData others = .error (refused ++ unknownNames others) := by
  have hothers : (others.map (·.1)).Nodup := (hperm.map _).nodup_iff.mpr hnodup
  have htake : take others = take pairs := by
    funext progress f
    rw [take, take, Assoc.get?_eq_of_perm hperm hnodup]
  have hunknown : (unknownNames others).Perm (unknownNames pairs) := (hperm.filter _).map _
  rw [ofData, ofData, Assoc.ofList_of_nodup hnodup, Assoc.ofList_of_nodup hothers, htake]
  generalize Field.all.foldl (take pairs) ({}, []) = progress
  obtain ⟨s, refused⟩ := progress
  have hempty : (refused ++ unknownNames others).isEmpty
      = (refused ++ unknownNames pairs).isEmpty := by
    rw [Bool.eq_iff_iff, List.isEmpty_iff_length_eq_zero, List.isEmpty_iff_length_eq_zero,
        (hunknown.append_left refused).length_eq]
  simp only [hempty]
  split
  · exact .inl rfl
  · exact .inr ⟨refused, rfl, rfl⟩

theorem ofData_eq_of_perm {pairs others : List (String × Datum)} (hperm : others.Perm pairs)
    (hnodup : (pairs.map (·.1)).Nodup) (hunknown : unknownNames others = unknownNames pairs) :
    ofData others = ofData pairs := by
  rcases ofData_of_perm hperm hnodup with heq | ⟨refused, hrefused, hothers⟩
  · exact heq
  · rw [hrefused, hothers, hunknown]

/-- Unknown names depend on the names only. -/
theorem unknownNames_eq (pairs : List (String × Datum)) :
    unknownNames pairs
      = ((pairs.map (·.1)).filter fun name => (Field.ofName? name).isNone).map fun name =>
          ⟨name, .unknown⟩ := by
  rw [unknownNames, List.filter_map, List.map_map]
  rfl

end Settings

namespace Project.Configuration

open Host
open Settings (Field Issue unknownNames)

variable {fs : Files} {root : Path.Pure} {overrides : Source}

/-! ## What is left of the overrides -/

/-- The overrides without the entries that hold nothing. -/
def valued (overrides : Source) : Source :=
  (Assoc.ofList overrides).filter fun e => !e.2.isNull

/-- The overrides that hold something, but for those of settings whose last entry holds nothing. -/
def standing (overrides : Source) : Source :=
  (valued overrides).filter fun e =>
    setBy? (plainName e.1) (Assoc.ofList overrides) ≠ some .null

/-- A name is given both nothing and a value only if it is the name of a setting, and then a value
comes last. -/
def Unambiguous (overrides : Source) : Prop :=
  ∀ e ∈ Assoc.ofList overrides, ∀ e' ∈ Assoc.ofList overrides,
    plainName e.1 = plainName e'.1 → e.2.isNull ≠ e'.2.isNull →
      (Field.ofName? (plainName e.1)).isSome = true ∧
        setBy? (plainName e.1) (Assoc.ofList overrides) ≠ some .null

instance : Decidable (Unambiguous overrides) :=
  inferInstanceAs (Decidable (∀ e ∈ Assoc.ofList overrides, ∀ e' ∈ Assoc.ofList overrides,
    plainName e.1 = plainName e'.1 → e.2.isNull ≠ e'.2.isNull →
      (Field.ofName? (plainName e.1)).isSome = true ∧
        setBy? (plainName e.1) (Assoc.ofList overrides) ≠ some .null))

theorem ofList_valued : Assoc.ofList (valued overrides) = valued overrides :=
  Assoc.ofList_of_nodup ((List.filter_sublist.map _).nodup (Assoc.nodup_ofList overrides))

theorem ofList_standing : Assoc.ofList (standing overrides) = standing overrides :=
  Assoc.ofList_of_nodup (((List.filter_sublist.trans List.filter_sublist).map _).nodup
    (Assoc.nodup_ofList overrides))

/-- What is left for a name is its last entry, unless that holds nothing: then no entry is left. -/
theorem setBy?_standing (name : String) :
    setBy? name (standing overrides)
      = (setBy? name (Assoc.ofList overrides)).filter fun d => !d.isNull := by
  let test : String × Datum → Bool := fun e =>
    setBy? (plainName e.1) (Assoc.ofList overrides) ≠ some .null && !e.2.isNull
  have hstanding : standing overrides = (Assoc.ofList overrides).filter test := by
    rw [standing, valued, List.filter_filter]
  cases hlast : (Assoc.ofList overrides).reverse.find? (fun e => plainName e.1 == name) with
  | none =>
    have hset : setBy? name (Assoc.ofList overrides) = none := by rw [setBy?, hlast]; rfl
    have hnone := setBy?_eq_none_iff.mp hset
    rw [hset, Option.filter_none, setBy?_eq_none_iff, hstanding]
    exact fun e he => hnone e (List.mem_filter.mp he).1
  | some last =>
    have hset : setBy? name (Assoc.ofList overrides) = some last.2 := by rw [setBy?, hlast]; rfl
    have hname : plainName last.1 = name := by simpa using List.find?_some hlast
    rw [hset]
    cases hnull : last.2.isNull with
    | true =>
      rw [Datum.isNull_iff.mp hnull] at hset ⊢
      rw [Option.filter_some_neg (by simp [Datum.isNull]), setBy?_eq_none_iff, standing]
      rintro e he rfl
      simpa [hset] using (List.mem_filter.mp he).2
    | false =>
      have htest : test last = true := by
        have hvalue : last.2 ≠ .null := fun h => by simp [h, Datum.isNull] at hnull
        simp [test, hname, hset, hvalue, hnull]
      rw [Option.filter_some_pos (by simp [hnull]), hstanding, setBy?_filter_of_last hlast htest]

/-- Overrides that are left say the same, in another order maybe. -/
theorem effective_standing_perm : (effective (standing overrides)).Perm (effective overrides) := by
  refine Assoc.perm_of_get?_eq (nodup_effective _) (nodup_effective _) fun name => ?_
  rw [get?_effective, get?_effective, ofList_standing, setBy?_standing, Option.filter_filter]
  simp only [Bool.and_self]

/-- Where a value comes last, no value goes with the entries that hold nothing. -/
theorem standing_eq_valued (h : Unambiguous overrides) : standing overrides = valued overrides := by
  refine List.filter_eq_self.mpr fun e he => decide_eq_true ?_
  obtain ⟨he, hvalue⟩ := List.mem_filter.mp he
  intro hwithheld
  obtain ⟨last, hlast, hname, hnull⟩ := exists_mem_of_setBy? hwithheld
  have hmixed : e.2.isNull ≠ last.2.isNull := by
    rw [hnull]
    simpa [Datum.isNull] using hvalue
  exact (h e he last hlast hname.symm hmixed).2 hwithheld

/-- The overrides that hold something, under names that pass a test: entries may be left out before
names are in their plain spelling if those of one such name hold nothing together. -/
theorem filter_effective (test : String → Bool)
    (h : ∀ e ∈ Assoc.ofList overrides, ∀ e' ∈ Assoc.ofList overrides,
      plainName e.1 = plainName e'.1 → test (plainName e.1) = true → e.2.isNull = e'.2.isNull) :
    (effective overrides).filter (fun e => test e.1)
      = Assoc.ofList (((valued overrides).filter fun e => test (plainName e.1)).map fun e =>
          (plainName e.1, e.2)) := by
  let spelled : Source := (Assoc.ofList overrides).map fun e => (plainName e.1, e.2)
  have huniform : ∀ e ∈ spelled.filter (fun e => test e.1), ∀ e' ∈ spelled.filter fun e => test e.1,
      e.1 = e'.1 → (!e.2.isNull) = !e'.2.isNull := by
    intro e he e' he' hname
    obtain ⟨he, htest⟩ := List.mem_filter.mp he
    obtain ⟨given, hgiven, rfl⟩ := List.mem_map.mp he
    obtain ⟨given', hgiven', rfl⟩ := List.mem_map.mp (List.mem_filter.mp he').1
    exact congrArg _ (h given hgiven given' hgiven' hname htest)
  calc (effective overrides).filter (fun e => test e.1)
      = ((Assoc.ofList spelled).filter fun e => test e.1).filter fun e => !e.2.isNull :=
        List.filter_comm _ _ _
    _ = Assoc.ofList ((spelled.filter fun e => test e.1).filter fun e => !e.2.isNull) := by
        rw [Assoc.filter_ofList, Assoc.filter_ofList_of_uniform huniform]
    _ = _ := by
        rw [List.filter_comm, List.filter_map, List.filter_map]
        rfl

theorem valued_valued : valued (valued overrides) = valued overrides := by
  rw [valued, ofList_valued, valued, List.filter_filter]
  simp only [Bool.and_self]

/-- Unknown names keep their places. -/
theorem filter_unknown_effective_valued (h : Unambiguous overrides) :
    (effective (valued overrides)).filter (fun e => (Field.ofName? e.1).isNone)
      = (effective overrides).filter fun e => (Field.ofName? e.1).isNone := by
  have hvalue : ∀ e ∈ Assoc.ofList (valued overrides), e.2.isNull = false := by
    intro e he
    rw [ofList_valued] at he
    simpa using (List.mem_filter.mp he).2
  have huniform : ∀ e ∈ Assoc.ofList overrides, ∀ e' ∈ Assoc.ofList overrides,
      plainName e.1 = plainName e'.1 → (Field.ofName? (plainName e.1)).isNone = true →
        e.2.isNull = e'.2.isNull := by
    intro e he e' he' hname hunknown
    by_contra hmixed
    rw [Option.isNone_iff_eq_none] at hunknown
    have hknown := (h e he e' he' hname hmixed).1
    rw [hunknown] at hknown
    cases hknown
  rw [filter_effective (fun name => (Field.ofName? name).isNone) huniform,
      filter_effective (fun name => (Field.ofName? name).isNone) (fun e he e' he' _ _ =>
        (hvalue e he).trans (hvalue e' he').symm), valued_valued]

/-! ## Loading -/

/-- The same settings or the same fault, but for the order in which unknown names are listed. -/
inductive SameOutcome : Except Fault Settings → Except Fault Settings → Prop where
  /-- The same settings or the same fault. -/
  | same (outcome : Except Fault Settings) : SameOutcome outcome outcome
  /-- The same objections, but that unknown names come in another order. -/
  | reordered (root : String) (refused : List Issue) {unknown others : List Issue}
      (hunknown : ∀ issue ∈ unknown, issue.reason = .unknown) (hperm : others.Perm unknown) :
      SameOutcome (.error (.configurationRefused root (refused ++ unknown)))
        (.error (.configurationRefused root (refused ++ others)))

theorem merge_perm {tableEntries own others : Source}
    (h : (effective others).Perm (effective overrides)) :
    (merge tableEntries own others).Perm (merge tableEntries own overrides) := by
  refine Assoc.perm_of_get?_eq nodup_merge nodup_merge fun name => ?_
  rw [get?_merge, get?_merge, rawValue?_eq_or, Assoc.get?_eq_of_perm h (nodup_effective _),
      ← rawValue?_eq_or]

theorem anchorPaths_perm {source other : Source} (h : other.Perm source) :
    (anchorPaths root other).Perm (anchorPaths root source) := h.map _

theorem reason_of_mem_unknownNames {pairs : List (String × Datum)} {issue : Issue}
    (h : issue ∈ unknownNames pairs) : issue.reason = .unknown := by
  obtain ⟨_, -, rfl⟩ := List.mem_map.mp h
  rfl

/-- If a file cannot be read, the overrides do not matter; else they are one of the merged
sources. -/
theorem load_cases (fs : Files) (root : Path.Pure) :
    (∃ fault, ∀ overrides, load fs root overrides = .error fault) ∨
      ∃ tableEntries own, ∀ overrides, load fs root overrides
        = (Settings.ofData (anchorPaths root (merge tableEntries own overrides))).mapError
            (.configurationRefused root.toString) := by
  cases htable : projectSection fs root with
  | error fault =>
    refine .inl ⟨fault, fun overrides => ?_⟩
    rw [load, gather_eq_bind, htable]
    rfl
  | ok tableEntries =>
    cases hown : readToml fs (root.child ownFile).toString with
    | error fault =>
      refine .inl ⟨fault, fun overrides => ?_⟩
      rw [load, gather_eq_bind, htable, hown]
      rfl
    | ok own => exact .inr ⟨tableEntries, own, fun _ => load_eq_of_sources htable hown⟩

/-- Overrides that say the same in another order load alike. -/
theorem load_of_perm {others : Source} (h : (effective others).Perm (effective overrides)) :
    SameOutcome (load fs root overrides) (load fs root others) := by
  rcases load_cases fs root with ⟨fault, hfault⟩ | ⟨tableEntries, own, hload⟩
  · rw [hfault, hfault]
    exact .same _
  · have hperm : (anchorPaths root (merge tableEntries own others)).Perm
        (anchorPaths root (merge tableEntries own overrides)) := anchorPaths_perm (merge_perm h)
    rw [hload, hload]
    rcases Settings.ofData_of_perm hperm nodup_anchorPaths_merge with
      heq | ⟨refused, hrefused, hothers⟩
    · rw [heq]
      exact .same _
    · rw [hrefused, hothers]
      exact .reordered _ refused (fun _ => reason_of_mem_unknownNames) ((hperm.filter _).map _)

/-- Unknown names in the merged sources stand where the overrides put them. -/
theorem unknownNames_merge_congr {tableEntries own others : Source}
    (h : (effective others).filter (fun e => (Field.ofName? e.1).isNone)
      = (effective overrides).filter fun e => (Field.ofName? e.1).isNone) :
    unknownNames (anchorPaths root (merge tableEntries own others))
      = unknownNames (anchorPaths root (merge tableEntries own overrides)) := by
  rw [Settings.unknownNames_eq, Settings.unknownNames_eq, map_fst_anchorPaths, map_fst_anchorPaths,
      ← Settings.unknownNames_eq, ← Settings.unknownNames_eq, unknownNames, unknownNames, merge,
      merge, Assoc.filter_overlay (fun name => (Field.ofName? name).isNone), h,
      ← Assoc.filter_overlay (fun name => (Field.ofName? name).isNone)]

/-- Overrides that say the same, and unknown names in the same order, load to the same. -/
theorem load_eq_of_perm {others : Source} (h : (effective others).Perm (effective overrides))
    (hunknown : (effective others).filter (fun e => (Field.ofName? e.1).isNone)
      = (effective overrides).filter fun e => (Field.ofName? e.1).isNone) :
    load fs root overrides = load fs root others := by
  rcases load_cases fs root with ⟨fault, hfault⟩ | ⟨tableEntries, own, hload⟩
  · rw [hfault, hfault]
  · rw [hload, hload, Settings.ofData_eq_of_perm (anchorPaths_perm (merge_perm h))
      nodup_anchorPaths_merge (unknownNames_merge_congr hunknown)]

theorem load_standing : SameOutcome (load fs root overrides) (load fs root (standing overrides)) :=
  load_of_perm effective_standing_perm

theorem load_valued (h : Unambiguous overrides) :
    load fs root overrides = load fs root (valued overrides) :=
  load_eq_of_perm (standing_eq_valued h ▸ effective_standing_perm)
    (filter_unknown_effective_valued h)

/-- **Overrides that hold nothing are not given.** Whatever the files of a project hold, an
override that holds nothing leaves its setting to them: loading comes to the same without the
overrides for settings whose last entry holds nothing, and without all other entries that hold
nothing, but for the order in which unknown names are listed. If a name is given both nothing and a
value only where it is the name of a setting and the value comes last, loading comes to the very
same without the entries that hold nothing. -/
theorem load_without_withheld (fs : Files) (root : Path.Pure) (overrides : Source) :
    SameOutcome (load fs root overrides) (load fs root (standing overrides)) ∧
      (Unambiguous overrides → load fs root overrides = load fs root (valued overrides)) :=
  ⟨load_standing, load_valued⟩

/-- A setting is given nothing and then a value, and two others are left to the own file, one of
them in both spellings. -/
theorem load_without_withheld_of_settings_in_file :
    let own := Text.Utf8.encode "level = 7\nmemory-limit = '1G'\n".toList
    let fs := holding [] own
    let root := Path.Pure.ofString "/p"
    let overrides : Source :=
      [("memory-limit", .null), ("tool_path", .null), ("tool-path", .text "x"), ("level", .null),
        ("memory_limit", .null)]
    let s : Settings := { toolPath := "x", level := 7, memoryLimit := "1G" }
    Unambiguous overrides ∧ valued overrides = [("tool-path", .text "x")] ∧
      load fs root overrides = .ok s ∧ load fs root (valued overrides) = .ok s := by
  intro own fs root overrides s
  have hunambiguous : Unambiguous overrides := by decide +kernel
  have hload : load fs root overrides = .ok s := by decide +kernel
  obtain ⟨-, hvalued⟩ := load_without_withheld fs root overrides
  exact ⟨hunambiguous, by decide +kernel, hload, hvalued hunambiguous ▸ hload⟩

/-- An entry that holds nothing withdraws the value that another spelling gave before it, and it
keeps the place of an unknown name. -/
theorem load_of_mixed_spellings :
    let fs := holding [] []
    let root := Path.Pure.ofString "/p"
    let withdrawn : Source := [("tool-path", .text "x"), ("tool_path", .null)]
    let unknown : Source := [("foo-x", .null), ("bar", .integer 1), ("foo_x", .integer 2)]
    load fs root withdrawn = .ok {} ∧ load fs root (valued withdrawn) = .ok { toolPath := "x" } ∧
      load fs root unknown
        = .error (.configurationRefused "/p" [⟨"foo_x", .unknown⟩, ⟨"bar", .unknown⟩]) ∧
      load fs root (valued unknown)
        = .error (.configurationRefused "/p" [⟨"bar", .unknown⟩, ⟨"foo_x", .unknown⟩]) := by
  decide +kernel

end Project.Configuration

end EditorAnalysis
