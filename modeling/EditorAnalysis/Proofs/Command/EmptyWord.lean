/-
EditorAnalysis.Proofs.Command.EmptyWord — when a command holds an empty word.

No option is an empty word, so an empty word stands for a path, and the path is one of those
that the command names: files of the settings, the paths to analyse, a buffer's copy and its
file (`empty_mem_batch_iff`, `empty_mem_live_iff`). None of these is empty where it is named.
It has been mapped to nothing.

Mounts do that in one case. A path below a local root goes to a path with a separator in it. The
root itself goes to the remote root without the separators at its end, and of the root of a file
system nothing is left (`map_ofPairs_eq_empty_iff`).
-/
import EditorAnalysis.Command
import EditorAnalysis.Proofs.Mount.LongestRoot
import Mathlib.Data.List.TakeWhile

namespace EditorAnalysis

namespace Mount

/-! ## Paths that are mapped to nothing -/

/-- The path is the local root of the mount that decides about it, and the remote root of that
mount consists of separators. -/
def Vanishes (pairs : List Mount) (path : String) : Prop :=
  ∃ m, Decides pairs m path ∧ path = stripSeparators m.localRoot ∧
    ∀ c ∈ m.remoteRoot.toList, Path.isSeparator c = true

theorem stripSeparators_eq_empty_iff {path : String} :
    stripSeparators path = "" ↔ ∀ c ∈ path.toList, Path.isSeparator c = true := by
  rw [stripSeparators, String.ofList_eq_empty_iff, List.reverse_eq_nil_iff,
      List.dropWhile_eq_nil_iff]
  simp only [List.mem_reverse]

theorem map_ofPairs_eq_empty_iff (pairs : List Mount) {path : String} (hne : path ≠ "") :
    (PathMapper.ofPairs pairs).map path = "" ↔ Vanishes pairs path := by
  constructor
  · intro hempty
    rw [map_ofPairs] at hempty
    rcases mapPath_ordered_cases pairs path with ⟨m, hm, hmap⟩ | ⟨-, hmap⟩
    · rw [hempty] at hmap
      rcases hm.concerns.2 with hroot | ⟨s, rest, hs, hpath⟩
      · refine ⟨m, hm, hroot, stripSeparators_eq_empty_iff.mp ?_⟩
        exact Option.some.inj ((map?_stripped_root hroot).symm.trans hmap)
      · have hbelow : m.stripped.map? path = some _ := map?_below hs hpath
        rw [hbelow] at hmap
        simp at hmap
    · exact absurd (hmap.symm.trans hempty) hne
  · rintro ⟨m, hm, hroot, hremote⟩
    have hmap := Option.some.inj (hm.map?_eq.symm.trans (map?_stripped_root hroot))
    rw [hmap, stripSeparators_eq_empty_iff]
    exact hremote

end Mount

namespace Command

/-! ## Empty words -/

/-- The files of the settings that every command names. -/
def settingsPaths (s : Settings) : List String :=
  (Text.given? s.configFile).toList ++ (Text.given? s.autoloadFile).toList

/-- The paths that the end of a live command names: the buffer's copy, and its file if that is
analysed in its place. -/
def bufferPaths (inPlace : Bool) (copy file : Option String) : List String :=
  match Text.given? copy with
  | none => []
  | some copy => copy :: if inPlace then (Text.given? file).toList else []

variable {σ : Type} (map : String → String)

theorem empty_mem_shared_iff (s : Settings) :
    "" ∈ shared s map ↔ ∃ path ∈ settingsPaths s, map path = "" := by
  have hmemory : "" ≠ "--memory-limit=" ++ s.memoryLimit := Ne.symm (by simp)
  have hrule : "" ∈ ruleOptions s map ↔
      ∃ path ∈ (Text.given? s.configFile).toList, map path = "" := by
    cases hconfig : Text.given? s.configFile with
    | none => simp [ruleOptions, hconfig]
    | some file => simp [ruleOptions, hconfig, configOption, @eq_comm String ""]
  have hautoload : "" ∈ autoloadOptions s map ↔
      ∃ path ∈ (Text.given? s.autoloadFile).toList, map path = "" := by
    cases hautoload : Text.given? s.autoloadFile with
    | none => simp [autoloadOptions, hautoload]
    | some file => simp [autoloadOptions, hautoload, autoloadOption, @eq_comm String ""]
  have houtput : "" ∉ outputOptions := by decide
  have hanalyze : "" ≠ analyze := by decide
  simp only [shared, List.mem_cons, List.mem_append, hrule, hautoload, hanalyze, hmemory, houtput,
    false_or, or_false, settingsPaths, or_and_right, exists_or]

theorem empty_mem_liveTail_iff (inPlace : Bool) (copy file : Option String) :
    "" ∈ liveTail map inPlace copy file ↔ ∃ path ∈ bufferPaths inPlace copy file, map path = "" := by
  cases hcopy : Text.given? copy with
  | none => simp [liveTail, bufferPaths, hcopy]
  | some copy =>
    cases inPlace with
    | false => simp [liveTail, bufferPaths, hcopy, @eq_comm String ""]
    | true =>
      cases hfile : Text.given? file <;>
        simp [liveTail, bufferPaths, hcopy, hfile, copyOption, insteadOption, @eq_comm String ""]

theorem empty_mem_batch_iff (s : Settings) (paths : List (Option String)) :
    "" ∈ batch s map paths ↔
      ∃ path ∈ settingsPaths s ++ paths.filterMap id, map path = "" := by
  simp [batch, empty_mem_shared_iff, or_and_right, exists_or]

theorem empty_mem_live_iff (detector : Detector σ) (copy file : Option String)
    (p : Progress σ) :
    "" ∈ (live detector map copy file p).1 ↔
      ∃ path ∈ settingsPaths p.settings
        ++ bufferPaths (EditorMode.supported (resolveVersion detector p).1) copy file,
        map path = "" := by
  have hwords : (live detector map copy file p).1 = shared p.settings map
      ++ liveTail map (EditorMode.supported (resolveVersion detector p).1) copy file := rfl
  simp [hwords, empty_mem_shared_iff, empty_mem_liveTail_iff, or_and_right, exists_or]

/-! ## Paths that are named are not empty -/

theorem ne_empty_of_mem_given {text : Option String} {path : String}
    (h : path ∈ (Text.given? text).toList) : path ≠ "" :=
  (Text.given?_eq_some_iff.mp (Option.mem_toList.mp h)).2

theorem ne_empty_of_mem_settingsPaths {s : Settings} {path : String}
    (h : path ∈ settingsPaths s) : path ≠ "" := by
  rcases List.mem_append.mp h with h | h <;> exact ne_empty_of_mem_given h

theorem ne_empty_of_mem_bufferPaths {inPlace : Bool} {copy file : Option String} {path : String}
    (h : path ∈ bufferPaths inPlace copy file) : path ≠ "" := by
  unfold bufferPaths at h
  split at h
  · cases h
  · rename_i buffer hcopy
    rcases List.mem_cons.mp h with rfl | h
    · exact (Text.given?_eq_some_iff.mp hcopy).2
    · split at h
      · exact ne_empty_of_mem_given h
      · cases h

/-- Where all paths are non-empty, being mapped to nothing is vanishing. -/
theorem exists_map_eq_empty_iff (pairs : List Mount) {paths : List String}
    (hpaths : ∀ path ∈ paths, path ≠ "") :
    (∃ path ∈ paths, (PathMapper.ofPairs pairs).map path = "") ↔
      ∃ path ∈ paths, Mount.Vanishes pairs path := by
  constructor
  · rintro ⟨path, hmem, hempty⟩
    exact ⟨path, hmem, (Mount.map_ofPairs_eq_empty_iff pairs (hpaths path hmem)).mp hempty⟩
  · rintro ⟨path, hmem, hvanishes⟩
    exact ⟨path, hmem, (Mount.map_ofPairs_eq_empty_iff pairs (hpaths path hmem)).mpr hvanishes⟩

/-- **Where a path is lost.** A non-empty path is mapped to nothing exactly when it is the local
root of the mount that decides about it and the remote root of that mount consists of
separators. A batch or live command whose paths are not empty holds an empty word exactly when
one of the paths that it names is lost in this way. -/
theorem empty_word_iff_vanishes (pairs : List Mount) :
    (∀ path : String, path ≠ "" → ((PathMapper.ofPairs pairs).map path = "" ↔
      ∃ m, Mount.Decides pairs m path ∧ path = Mount.stripSeparators m.localRoot ∧
        ∀ c ∈ m.remoteRoot.toList, c = '/' ∨ c = '\\')) ∧
    (∀ (s : Settings) (paths : List (Option String)), some "" ∉ paths →
      ("" ∈ batch s (PathMapper.ofPairs pairs).map paths ↔
        ∃ path ∈ settingsPaths s ++ paths.filterMap id, Mount.Vanishes pairs path)) ∧
    ∀ (σ : Type) (detector : Detector σ) (copy file : Option String) (p : Progress σ),
      "" ∈ (live detector (PathMapper.ofPairs pairs).map copy file p).1 ↔
        ∃ path ∈ settingsPaths p.settings
          ++ bufferPaths (EditorMode.supported (resolveVersion detector p).1) copy file,
          Mount.Vanishes pairs path := by
  refine ⟨fun path hne => ?_, fun s paths hpaths => ?_, fun σ detector copy file p => ?_⟩
  · have hiff := Mount.map_ofPairs_eq_empty_iff pairs hne
    simpa [Mount.Vanishes, Path.isSeparator] using hiff
  · rw [empty_mem_batch_iff, exists_map_eq_empty_iff]
    intro path hmem
    rcases List.mem_append.mp hmem with hmem | hmem
    · exact ne_empty_of_mem_settingsPaths hmem
    · obtain ⟨given, hgiven, hid⟩ := List.mem_filterMap.mp hmem
      obtain rfl : given = some path := hid
      rintro rfl
      exact hpaths hgiven
  · rw [empty_mem_live_iff, exists_map_eq_empty_iff]
    intro path hmem
    rcases List.mem_append.mp hmem with hmem | hmem
    · exact ne_empty_of_mem_settingsPaths hmem
    · exact ne_empty_of_mem_bufferPaths hmem

theorem empty_word_iff_vanishes_of_whole_tree :
    let pairs : List Mount := [⟨"/proj/", "/"⟩, ⟨"/proj/vendor", "/opt"⟩]
    "/proj" ≠ "" ∧
    ((PathMapper.ofPairs pairs).map "/proj" = "" ↔
      ∃ m, Mount.Decides pairs m "/proj" ∧ "/proj" = Mount.stripSeparators m.localRoot ∧
        ∀ c ∈ m.remoteRoot.toList, c = '/' ∨ c = '\\') ∧
    some "" ∉ [none, some "/proj"] ∧
    ("" ∈ batch {} (PathMapper.ofPairs pairs).map [none, some "/proj"] ↔
      ∃ path ∈ settingsPaths {} ++ [none, some "/proj"].filterMap id,
        Mount.Vanishes pairs path) := by
  intro pairs
  have hne : "/proj" ≠ "" := by decide
  have hpaths : some "" ∉ [none, some "/proj"] := by decide
  exact ⟨hne, (empty_word_iff_vanishes pairs).1 _ hne, hpaths,
    (empty_word_iff_vanishes pairs).2.1 {} _ hpaths⟩

/-- A project that is the whole file system on the other side: its files keep their paths, and
the project itself has none. -/
theorem empty_word_for_root_mount :
    let map := (PathMapper.ofPairs [⟨"/proj", "/"⟩]).map
    map "/proj/src/a.php" = "/src/a.php" ∧ map "/proj" = "" ∧
      "" ∈ batch {} map [some "/proj"] := by
  decide +kernel

end Command

end EditorAnalysis
