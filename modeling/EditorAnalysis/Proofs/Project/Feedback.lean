/-
EditorAnalysis.Proofs.Project.Feedback — loaded settings, given back as overrides, are loaded again.

What a field holds after loading is a value that it would take as it is, and it would even be left
at its place: the path of a file has been taken from an absolute root, so it is absolute and in
its normal form, and the next load finds nothing to change in it (`located_get`). A field that
holds nothing is no override; it takes its value from the files once more, and that came to
nothing before.
-/
import EditorAnalysis.Proofs.Path.Normal
import EditorAnalysis.Proofs.Project.Precedence

namespace EditorAnalysis.Project.Configuration

open Host
open EditorAnalysis.Path (Pure)
open Settings (Field Holds)

variable {fs : Files} {root : Pure} {s : Settings} {f : Field}

/-! ## Values that stay where they are -/

/-- The datum is nothing, or the text of an absolute path in its normal form. -/
def InPlace (d : Datum) : Prop :=
  d = .null ∨ ∃ p : Pure, p.IsNormal ∧ p.isAbsolute = true ∧ d = .text p.toString

/-- A field that holds a path takes a text as it is, or holds nothing. -/
theorem reading_of_mem_pathFields {d v : Datum} (hf : f ∈ pathFields)
    (h : f.reading d = .ok v) :
    v = .null ∨ ∃ t, Text.isBlankText t = false ∧ d = .text t ∧ v = .text t := by
  have htaken : ∀ {text : Option String},
      Settings.asOptionalText (Settings.blankAsUnset d) = .ok text →
        (text.map Datum.text).getD .null = .null ∨
          ∃ t, Text.isBlankText t = false ∧ d = .text t ∧
            (text.map Datum.text).getD .null = .text t := by
    intro text htext
    cases d with
    | null =>
      obtain rfl := Except.ok.inj htext
      exact .inl rfl
    | text t =>
      cases hblank : Text.isBlankText t with
      | true =>
        rw [Settings.blankAsUnset, if_pos hblank] at htext
        obtain rfl := Except.ok.inj htext
        exact .inl rfl
      | false =>
        rw [Settings.blankAsUnset, if_neg (by simp [hblank])] at htext
        obtain rfl := Except.ok.inj htext
        exact .inr ⟨t, hblank, rfl, rfl⟩
    | _ => cases htext
  cases f with
  | configFile =>
    obtain ⟨_, hassign, rfl⟩ := Outcome.map_eq_ok_iff.mp h
    obtain ⟨text, htext, rfl⟩ := Outcome.map_eq_ok_iff.mp hassign
    exact htaken htext
  | autoloadFile =>
    obtain ⟨_, hassign, rfl⟩ := Outcome.map_eq_ok_iff.mp h
    obtain ⟨text, htext, rfl⟩ := Outcome.map_eq_ok_iff.mp hassign
    exact htaken htext
  | _ => simp [pathFields] at hf

theorem located_text {t : String} (hf : f ∈ pathFields) (hblank : Text.isBlankText t = false) :
    located root f (.text t) = .text (root.join (Pure.ofString t)).toString := by
  rw [located_eq, if_pos (any_pathFields_iff.mpr hf), anchored, if_neg (by simp [hblank])]

/-- What is not blank at its place was not blank before, and has been taken from the root. -/
theorem eq_of_located_eq_text {d : Datum} {t : String} (hf : f ∈ pathFields)
    (hblank : Text.isBlankText t = false) (h : located root f d = .text t) :
    ∃ given, t = (root.join (Pure.ofString given)).toString := by
  cases d with
  | text given =>
    cases hgiven : Text.isBlankText given with
    | true =>
      rw [located_eq, if_pos (any_pathFields_iff.mpr hf), anchored, if_pos hgiven] at h
      rw [← Datum.text.inj h, hgiven] at hblank
      cases hblank
    | false =>
      rw [located_text hf hgiven] at h
      exact ⟨given, (Datum.text.inj h).symm⟩
  | _ => cases h

/-- Under an absolute root, fields that hold paths hold them in place. -/
theorem inPlace_of_reading {d v : Datum} (hroot : root.IsNormal) (habsolute : root.isAbsolute = true)
    (hf : f ∈ pathFields) (h : f.reading (located root f d) = .ok v) : InPlace v := by
  rcases reading_of_mem_pathFields hf h with hv | ⟨t, hblank, hplace, hv⟩
  · exact .inl hv
  · obtain ⟨given, rfl⟩ := eq_of_located_eq_text hf hblank hplace
    exact .inr ⟨_, hroot.join (Path.Pure.isNormal_ofString given),
      Path.Pure.isAbsolute_join habsolute _, hv⟩

/-- What is in place is not moved again. -/
theorem located_of_inPlace {d : Datum} (h : f ∈ pathFields → InPlace d) :
    located root f d = d := by
  by_cases hf : f ∈ pathFields
  · rcases h hf with rfl | ⟨p, hnormal, habsolute, rfl⟩
    · rfl
    · cases hblank : Text.isBlankText p.toString with
      | true => simp [located, hblank]
      | false =>
        rw [located_text hf hblank, Path.Pure.ofString_toString hnormal, Pure.join, if_pos habsolute]
  · rw [located_eq, if_neg fun hany => hf (any_pathFields_iff.mp hany)]

/-! ## Loading again -/

theorem effective_dump (s : Settings) :
    effective s.dump = Settings.named (s.held.filter fun e => !e.2.isNull) := by
  rw [← Settings.named_held, effective_named (Settings.nodup_held s)]

theorem get?_effective_dump (s : Settings) (f : Field) :
    Assoc.get? f.name (effective s.dump)
      = if (s.get f).isNull then none else some (s.get f) := by
  rw [effective_dump, Settings.get?_named,
      Assoc.get?_filter_snd (fun d => !d.isNull) (Settings.nodup_held s), Settings.get?_held]
  cases hnull : (s.get f).isNull <;> simp [Option.filter, hnull]

theorem inPlace_of_load (hroot : root.IsNormal) (habsolute : root.isAbsolute = true)
    (hload : load fs root [] = .ok s) (hf : f ∈ pathFields) : InPlace (s.get f) := by
  obtain ⟨tableEntries, own, htable, hown⟩ := exists_sources_of_load hload
  have hholds := ((load_eq_ok_iff_holds htable hown).mp hload).2 f
  cases hraw : rawValue? tableEntries own [] f.name with
  | none =>
    rw [hraw, Option.map_none, Settings.holds_none] at hholds
    rw [hholds]
    cases f with
    | configFile => exact .inl rfl
    | autoloadFile => exact .inl rfl
    | _ => simp [pathFields] at hf
  | some d =>
    rw [hraw, Option.map_some, Settings.holds_some] at hholds
    exact inPlace_of_reading hroot habsolute hf hholds

/-- A field that holds something holds it again when it is given as an override, and a field that
holds nothing is left to the files. -/
theorem load_dump (hroot : root.IsNormal) (habsolute : root.isAbsolute = true)
    (hload : load fs root [] = .ok s) : load fs root s.dump = .ok s := by
  obtain ⟨tableEntries, own, htable, hown⟩ := exists_sources_of_load hload
  obtain ⟨hknown, hfields⟩ := (load_eq_ok_iff_holds htable hown).mp hload
  refine (load_eq_ok_iff_holds htable hown).mpr
    ⟨KnownNames.of_overrides (effective_dump s) hknown, fun f => ?_⟩
  rw [rawValue?_eq_or, get?_effective_dump]
  split
  · rw [Option.none_or]
    exact hfields f
  · have hplace : located root f (s.get f) = s.get f :=
      located_of_inPlace (inPlace_of_load hroot habsolute hload)
    rw [Option.some_or, Option.map_some, hplace, Settings.holds_some]
    exact (Settings.assign_eq_ok_iff.mp ((valid_of_load hload).assign_get f)).1

/-- **Loading again.** Let the settings of a project at an absolute root be loaded, whatever its
files hold. The configuration file and the autoload file, where there are any, then have absolute
paths in their normal form, and when the dump of the settings is given as overrides, loading
succeeds again and gives the same settings. -/
theorem load_fed_back {text : String} (habsolute : (Pure.ofString text).isAbsolute = true)
    (hload : load fs (Pure.ofString text) [] = .ok s) :
    (∀ path, s.configFile = some path ∨ s.autoloadFile = some path →
      (Pure.ofString path).isAbsolute = true ∧ Path.normalize path = path) ∧
    load fs (Pure.ofString text) s.dump = .ok s := by
  have hroot := Path.Pure.isNormal_ofString text
  refine ⟨fun path hpath => ?_, load_dump hroot habsolute hload⟩
  have hplace : InPlace (.text path) := by
    rcases hpath with hpath | hpath
    · have hconfig := inPlace_of_load (f := .configFile) hroot habsolute hload (by decide)
      rwa [Settings.get, hpath] at hconfig
    · have hautoload := inPlace_of_load (f := .autoloadFile) hroot habsolute hload (by decide)
      rwa [Settings.get, hpath] at hautoload
  rcases hplace with hnull | ⟨p, hnormal, hp, htext⟩
  · cases hnull
  · rw [Datum.text.inj htext, Path.Pure.ofString_toString hnormal]
    exact ⟨hp, Path.normalize_toString hnormal⟩

/-- The root and both paths are not in their normal form, one path is relative, and two values need
trimming or reading. -/
theorem load_fed_back_of_untidy_paths :
    let project := Text.Utf8.encode
      "[tool.phpstan-bridge]\nconfig-file = './/a/../b.neon'\nlevel = '5'\n".toList
    let own := Text.Utf8.encode
      "autoload_file = '///lib/./autoload.php/'\ntool-path = ' phpstan '\n".toList
    let fs := holding project own
    let root := Pure.ofString "//p/."
    let s : Settings :=
      { toolPath := "phpstan", level := 5, configFile := "//p/a/../b.neon"
        autoloadFile := "/lib/autoload.php" }
    root.isAbsolute = true ∧ load fs root [] = .ok s ∧
      ((Pure.ofString "//p/a/../b.neon").isAbsolute = true ∧
        Path.normalize "//p/a/../b.neon" = "//p/a/../b.neon") ∧
      load fs root s.dump = .ok s := by
  intro project own fs root s
  have habsolute : root.isAbsolute = true := by decide
  have hload : load fs root [] = .ok s := by decide +kernel
  obtain ⟨hpaths, hagain⟩ := load_fed_back habsolute hload
  exact ⟨habsolute, hload, hpaths _ (.inl rfl), hagain⟩

end EditorAnalysis.Project.Configuration
