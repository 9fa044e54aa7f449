/-
EditorAnalysis.Proofs.Project.Precedence — which source a setting comes from.

`rawValue?` says it for one name, without any merging: the overrides that hold something come
first, then the project's own file, then its section of the project file, and inside a source
the last spelling of the name counts. Merging comes to the same (`get?_merge`), since a search
in a list over another one is a search in the upper, then in the lower. A path is brought to
its place after that, whichever source it is from (`located`), and what a field makes of its
value does not depend on the other fields. So loading is settled field by field
(`load_by_precedence`).
-/
import EditorAnalysis.Proofs.Project.Configuration
import EditorAnalysis.Proofs.Settings.Assignment

namespace EditorAnalysis.Project.Configuration

open Host
open Settings (Field Holds)

/-! ## What a source says -/

/-- The value that a source has for a name, however it spells the name; of several spellings the
last counts. -/
def setBy? (name : String) (source : Source) : Option Datum :=
  (source.reverse.find? fun entry => plainName entry.1 == name).map (·.2)

theorem setBy?_eq_none_iff {name : String} {source : Source} :
    setBy? name source = none ↔ ∀ e ∈ source, plainName e.1 ≠ name := by
  simp [setBy?]

theorem exists_mem_of_setBy? {name : String} {source : Source} {d : Datum}
    (h : setBy? name source = some d) : ∃ e ∈ source, plainName e.1 = name ∧ e.2 = d := by
  obtain ⟨e, he, hd⟩ := Option.map_eq_some_iff.mp h
  exact ⟨e, List.mem_reverse.mp (List.mem_of_find?_eq_some he), by simpa using List.find?_some he,
    hd⟩

/-- A search among the entries that pass a test ends where the search among all entries does, if
that entry passes. -/
theorem setBy?_filter_of_last {test : String × Datum → Bool} {name : String} {source : Source}
    {last : String × Datum}
    (hlast : source.reverse.find? (fun e => plainName e.1 == name) = some last)
    (htest : test last = true) : setBy? name (source.filter test) = some last.2 := by
  obtain ⟨hname, newer, older, hsource, hnewer⟩ := List.find?_eq_some_iff_append.mp hlast
  have hfound : (source.filter test).reverse.find? (fun e => plainName e.1 == name)
      = some last := by
    rw [← List.filter_reverse, hsource, List.filter_append, List.filter_cons_of_pos htest]
    exact List.find?_eq_some_iff_append.mpr
      ⟨hname, _, _, rfl, fun e he => hnewer e (List.mem_filter.mp he).1⟩
  rw [setBy?, hfound, Option.map_some]

theorem get?_map_plainName (name : String) (entries : Source) :
    Assoc.get? name (entries.map fun (given, value) => (plainName given, value))
      = (entries.find? fun entry => plainName entry.1 == name).map (·.2) := by
  induction entries with
  | nil => rfl
  | cons entry rest ih =>
    rw [List.map_cons, Assoc.get?, List.find?_cons, ih]
    by_cases hname : plainName entry.1 = name
    · rw [if_pos hname, beq_iff_eq.mpr hname, Option.map_some]
    · rw [if_neg hname, beq_eq_false_iff_ne.mpr hname]

theorem get?_plain (name : String) (source : Source) :
    Assoc.get? name (plain source) = setBy? name source := by
  rw [plain, Assoc.get?_ofList, ← List.map_reverse, get?_map_plainName, setBy?]

theorem nodup_plain (source : Source) : ((plain source).map (·.1)).Nodup :=
  Assoc.nodup_ofList _

theorem get?_effective (name : String) (overrides : Source) :
    Assoc.get? name (effective overrides)
      = (setBy? name (Assoc.ofList overrides)).filter fun d => !d.isNull := by
  rw [effective, Assoc.get?_filter_snd (fun d => !d.isNull) (nodup_plain _), get?_plain]

theorem nodup_effective (overrides : Source) : ((effective overrides).map (·.1)).Nodup :=
  (List.filter_sublist.map _).nodup (nodup_plain _)

/-! ## All sources -/

/-- The value for a name from the highest source that has one: the overrides, where nothing does
not count as a value, then the own file, then the section of the project file. -/
def rawValue? (tableEntries own overrides : Source) (name : String) : Option Datum :=
  ((setBy? name (Assoc.ofList overrides)).filter fun d => !d.isNull).or
    ((setBy? name own).or (setBy? name tableEntries))

variable {fs : Files} {root : Path.Pure} {tableEntries own overrides : Source}

theorem nodup_merge : ((merge tableEntries own overrides).map (·.1)).Nodup :=
  Assoc.nodup_overlay (Assoc.nodup_overlay (nodup_plain tableEntries) _) _

theorem get?_merge (name : String) :
    Assoc.get? name (merge tableEntries own overrides)
      = rawValue? tableEntries own overrides name := by
  rw [merge, Assoc.get?_overlay, Assoc.get?_overlay, Assoc.get?_reverse (nodup_effective _),
      Assoc.get?_reverse (nodup_plain _), get?_effective, get?_plain, get?_plain, rawValue?]

/-! ## Paths -/

/-- What a field is given for a value: the path of a file is joined to the root if it is relative,
and has its normal form in any case; everything else, blank texts among it, is taken as it is. -/
def located (root : Path.Pure) (f : Field) : Datum → Datum
  | .text s =>
    if f ∈ pathFields ∧ Text.isBlankText s = false then
      let path := Path.Pure.ofString s
      .text (if path.isAbsolute then path else root.join path).toString
    else .text s
  | d => d

theorem any_pathFields_iff {f : Field} :
    (pathFields.any fun g => g.name == f.name) = true ↔ f ∈ pathFields := by
  cases f <;> decide

theorem located_eq (root : Path.Pure) (f : Field) (d : Datum) :
    located root f d
      = if pathFields.any fun g => g.name == f.name then anchored root d else d := by
  cases d with
  | text s =>
    simp only [located, anchored, any_pathFields_iff]
    by_cases hfield : f ∈ pathFields
    · cases hblank : Text.isBlankText s with
      | true => simp [hfield]
      | false =>
        -- joining an absolute path to the root leaves the path
        by_cases habsolute : (Path.Pure.ofString s).isAbsolute = true <;>
          simp [hfield, habsolute, Path.Pure.join]
    · simp [hfield]
  | _ => simp [located, anchored]

theorem get?_anchorPaths (root : Path.Pure) (f : Field) (source : Source) :
    Assoc.get? f.name (anchorPaths root source)
      = (Assoc.get? f.name source).map (located root f) := by
  let place := fun name d => if pathFields.any fun g => g.name == name then anchored root d else d
  have hmap : anchorPaths root source = source.map fun e => (e.1, place e.1 e.2) := by
    refine List.map_congr_left fun e _ => ?_
    simp only [place]
    split <;> rfl
  have hlocated : located root f = place f.name := funext (located_eq root f)
  rw [hmap, hlocated, Assoc.get?_map]

theorem map_fst_anchorPaths (root : Path.Pure) (source : Source) :
    (anchorPaths root source).map (·.1) = source.map (·.1) := by
  rw [anchorPaths, List.map_map]
  refine List.map_congr_left fun e _ => ?_
  simp only [Function.comp_apply]
  split <;> rfl

theorem nodup_anchorPaths_merge :
    ((anchorPaths root (merge tableEntries own overrides)).map (·.1)).Nodup :=
  (map_fst_anchorPaths root _).symm ▸ nodup_merge

/-! ## Loading -/

/-- All names that have a value are names of fields. -/
def KnownNames (tableEntries own overrides : Source) : Prop :=
  ∀ name, (rawValue? tableEntries own overrides name).isSome = true →
    (Field.ofName? name).isSome = true

theorem knownNames_iff :
    KnownNames tableEntries own overrides ↔
      ∀ name ∈ (anchorPaths root (merge tableEntries own overrides)).map (·.1),
        (Field.ofName? name).isSome = true := by
  have hkeys : ∀ name, (rawValue? tableEntries own overrides name).isSome = true ↔
      name ∈ (merge tableEntries own overrides).map (·.1) := by
    intro name
    rw [← get?_merge, Option.isSome_iff_ne_none, Ne, Assoc.get?_eq_none_iff, not_not]
  simp only [KnownNames, map_fst_anchorPaths, hkeys]

/-- What the merged sources have for a field. -/
theorem get?_merged (f : Field) :
    Assoc.get? f.name (Assoc.ofList (anchorPaths root (merge tableEntries own overrides)))
      = (rawValue? tableEntries own overrides f.name).map (located root f) := by
  rw [Assoc.ofList_of_nodup nodup_anchorPaths_merge, get?_anchorPaths, get?_merge]

/-- Where both files can be read, the settings are constructed from the merged sources. -/
theorem load_eq_of_sources (htable : projectSection fs root = .ok tableEntries)
    (hown : readToml fs (root.child ownFile).toString = .ok own) :
    load fs root overrides
      = (Settings.ofData (anchorPaths root (merge tableEntries own overrides))).mapError
          (.configurationRefused root.toString) := by
  have hgather : gather fs root overrides
      = .ok (anchorPaths root (merge tableEntries own overrides)) := by
    rw [gather_eq_bind, htable, hown]
    rfl
  rw [load, hgather]
  simp only
  cases Settings.ofData (anchorPaths root (merge tableEntries own overrides)) <;> rfl

theorem load_eq_ok_iff (htable : projectSection fs root = .ok tableEntries)
    (hown : readToml fs (root.child ownFile).toString = .ok own) {s : Settings} :
    load fs root overrides = .ok s ↔
      Settings.ofData (anchorPaths root (merge tableEntries own overrides)) = .ok s := by
  rw [load_eq_of_sources htable hown]
  cases Settings.ofData (anchorPaths root (merge tableEntries own overrides)) <;>
    simp [Except.mapError]

/-- Loaded settings, field by field. -/
theorem load_eq_ok_iff_holds (htable : projectSection fs root = .ok tableEntries)
    (hown : readToml fs (root.child ownFile).toString = .ok own) {s : Settings} :
    load fs root overrides = .ok s ↔
      KnownNames tableEntries own overrides ∧
      ∀ f : Field, Holds {} s f
        ((rawValue? tableEntries own overrides f.name).map (located root f)) := by
  rw [load_eq_ok_iff htable hown, Settings.ofData_eq_ok_iff, ← knownNames_iff]
  simp only [get?_merged]

theorem exists_load_iff (htable : projectSection fs root = .ok tableEntries)
    (hown : readToml fs (root.child ownFile).toString = .ok own) :
    (∃ s, load fs root overrides = .ok s) ↔
      KnownNames tableEntries own overrides ∧
      ∀ (f : Field) d, rawValue? tableEntries own overrides f.name = some d →
        ∃ v, f.reading (located root f d) = .ok v := by
  simp only [load_eq_ok_iff htable hown, Settings.exists_ofData_iff, ← knownNames_iff,
    get?_merged, Option.map_eq_some_iff, forall_exists_index, and_imp, forall_apply_eq_imp_iff₂]

/-! ## Overrides -/

theorem rawValue?_eq_or (name : String) :
    rawValue? tableEntries own overrides name
      = (Assoc.get? name (effective overrides)).or (rawValue? tableEntries own [] name) := by
  rw [get?_effective]
  rfl

theorem plainName_name (f : Field) : plainName f.name = f.name := by
  cases f <;> rfl

/-- Overrides that go by the names of the fields are taken as they stand. -/
theorem effective_named {data : List (Field × Datum)} (h : (data.map (·.1)).Nodup) :
    effective (Settings.named data)
      = Settings.named (data.filter fun e => !e.2.isNull) := by
  have hspelled : (Settings.named data).map (fun (name, value) => (plainName name, value))
      = Settings.named data := by
    rw [Settings.named, List.map_map]
    exact List.map_congr_left fun e _ => Prod.ext (plainName_name e.1) rfl
  rw [effective, plain, Assoc.ofList_of_nodup (Settings.nodup_named h), hspelled,
      Assoc.ofList_of_nodup (Settings.nodup_named h), Settings.named, Settings.named,
      List.filter_map]
  rfl

/-- Only the overrides that hold something matter. -/
theorem load_congr_effective {others : Source} (h : effective overrides = effective others) :
    load fs root overrides = load fs root others := by
  rw [load, load, gather_eq_bind, gather_eq_bind]
  simp only [merge, h]

theorem exists_sources_of_load {s : Settings} (h : load fs root overrides = .ok s) :
    ∃ tableEntries own, projectSection fs root = .ok tableEntries ∧
      readToml fs (root.child ownFile).toString = .ok own := by
  unfold load at h
  split at h
  · cases h
  · rename_i hgather
    rw [gather_eq_bind] at hgather
    obtain ⟨tableEntries, htable, hrest⟩ := Outcome.bind_eq_ok_iff.mp hgather
    obtain ⟨own, hown, -⟩ := Outcome.bind_eq_ok_iff.mp hrest
    exact ⟨tableEntries, own, htable, hown⟩

/-- A field holds what it makes of its override. -/
theorem reading_of_override {s : Settings} {f : Field} {d : Datum}
    (hload : load fs root overrides = .ok s)
    (hoverride : Assoc.get? f.name (effective overrides) = some d) :
    f.reading (located root f d) = .ok (s.get f) := by
  obtain ⟨tableEntries, own, htable, hown⟩ := exists_sources_of_load hload
  have hraw : rawValue? tableEntries own overrides f.name = some d := by
    rw [rawValue?_eq_or, hoverride, Option.some_or]
  have hholds := ((load_eq_ok_iff_holds htable hown).mp hload).2 f
  rw [hraw] at hholds
  exact Settings.holds_some.mp hholds

/-- Overrides that go by the names of the fields bring no unknown name in. -/
theorem KnownNames.of_overrides {data : List (Field × Datum)}
    (hoverrides : effective overrides = Settings.named data)
    (hknown : KnownNames tableEntries own []) : KnownNames tableEntries own overrides := by
  intro name hname
  rw [rawValue?_eq_or, hoverrides, Option.isSome_or, Bool.or_eq_true] at hname
  rcases hname with hname | hname
  · rw [Option.isSome_iff_ne_none, Ne, Assoc.get?_eq_none_iff, not_not] at hname
    exact Settings.known_of_mem_named hname
  · exact hknown name hname

/-- Overrides that the fields accept do not spoil a configuration. -/
theorem exists_load_of_overrides {data : List (Field × Datum)}
    (hoverrides : effective overrides = Settings.named data)
    (hdata : ∀ e ∈ data, ∃ v, e.1.reading (located root e.1 e.2) = .ok v)
    (hload : ∃ s, load fs root [] = .ok s) : ∃ s, load fs root overrides = .ok s := by
  obtain ⟨base, hbase⟩ := hload
  obtain ⟨tableEntries, own, htable, hown⟩ := exists_sources_of_load hbase
  obtain ⟨hknown, haccepted⟩ := (exists_load_iff htable hown).mp ⟨base, hbase⟩
  refine (exists_load_iff htable hown).mpr ⟨hknown.of_overrides hoverrides, fun f d hd => ?_⟩
  rw [rawValue?_eq_or, hoverrides, Settings.get?_named, Option.or_eq_some_iff] at hd
  rcases hd with hd | ⟨-, hd⟩
  · exact hdata (f, d) (Assoc.mem_of_get? hd)
  · exact haccepted f d hd

/-! ## Which source counts -/

/-- **Which source a setting comes from.** Let the project's two files be read. Loading succeeds
exactly if every name that has a value is known, and every field takes its value from the
highest source that has one, brought to its place. Then each field holds what it makes of that
value, or its default if no source has one. -/
theorem load_by_precedence (htable : projectSection fs root = .ok tableEntries)
    (hown : readToml fs (root.child ownFile).toString = .ok own) (overrides : Source) :
    ((∃ s, load fs root overrides = .ok s) ↔
        KnownNames tableEntries own overrides ∧
        ∀ (f : Field) d, rawValue? tableEntries own overrides f.name = some d →
          ∃ v, f.reading (located root f d) = .ok v) ∧
      ∀ s, load fs root overrides = .ok s →
        ∀ f : Field, match rawValue? tableEntries own overrides f.name with
          | some d => f.reading (located root f d) = .ok (s.get f)
          | none => s.get f = ({} : Settings).get f := by
  refine ⟨exists_load_iff htable hown, fun s hload f => ?_⟩
  have hholds := ((load_eq_ok_iff_holds htable hown).mp hload).2 f
  cases hraw : rawValue? tableEntries own overrides f.name <;> simpa [hraw] using hholds

/-- The three sources disagree, each spells a name in two ways, and an override holds nothing. -/
theorem load_by_precedence_of_three_sources :
    let project := Text.Utf8.encode
      "[tool.phpstan-bridge]\nlevel = 3\nmemory-limit = ' 1G'\nconfig_file = 'a.neon'\n".toList
    let own := Text.Utf8.encode "level = '5'\ntimeout-ms = 10\ntimeout_ms = 20\n".toList
    let fs := holding project own
    let root := Path.Pure.ofString "/p"
    let tableEntries : Source :=
      [("level", .integer 3), ("memory-limit", .text " 1G"), ("config_file", .text "a.neon")]
    let ownEntries : Source :=
      [("level", .text "5"), ("timeout-ms", .integer 10), ("timeout_ms", .integer 20)]
    let overrides : Source :=
      [("tool_path", .text "old"), ("tool-path", .text "new "), ("level", .null)]
    let s : Settings :=
      { toolPath := "new", level := 5, memoryLimit := "1G", configFile := "/p/a.neon"
        timeoutMs := 20 }
    projectSection fs root = .ok tableEntries ∧
      readToml fs (root.child ownFile).toString = .ok ownEntries ∧
      load fs root overrides = .ok s ∧
      Field.level.reading (.text "5") = .ok (s.get .level) ∧
      s.get .autoloadFile = ({} : Settings).get .autoloadFile := by
  intro project own fs root tableEntries ownEntries overrides s
  have htable : projectSection fs root = .ok tableEntries := by decide +kernel
  have hown : readToml fs (root.child ownFile).toString = .ok ownEntries := by decide +kernel
  have hload : load fs root overrides = .ok s :=
    (load_eq_ok_iff htable hown).mpr (by decide +kernel)
  obtain ⟨-, hfields⟩ := load_by_precedence htable hown overrides
  exact ⟨htable, hown, hload, hfields s hload .level, hfields s hload .autoloadFile⟩

/-- A path that is absolute is not joined to the root, and still it is not taken as it is: it is
brought to its normal form. -/
theorem load_normalizes_absolute_path :
    let fs := holding [] []
    let root := Path.Pure.ofString "/p"
    let given := "/etc//phpstan/./a.neon"
    let overrides : Source := [("config_file", .text given)]
    projectSection fs root = .ok [] ∧ readToml fs (root.child ownFile).toString = .ok [] ∧
      rawValue? [] [] overrides Field.configFile.name = some (.text given) ∧
      (Path.Pure.ofString given).isAbsolute = true ∧
      Field.configFile.reading (.text given) = .ok (.text given) ∧
      load fs root overrides = .ok { configFile := "/etc/phpstan/a.neon" } := by
  intro fs root given overrides
  have htable : projectSection fs root = .ok [] := by decide +kernel
  have hown : readToml fs (root.child ownFile).toString = .ok [] := by decide +kernel
  have hload : load fs root overrides = .ok { configFile := "/etc/phpstan/a.neon" } :=
    (load_eq_ok_iff htable hown).mpr (by decide +kernel)
  exact ⟨htable, hown, by decide +kernel, by decide +kernel, by decide +kernel, hload⟩

end EditorAnalysis.Project.Configuration
