/-
EditorAnalysis.Proofs.Command.Decoding — what a command says can be read off its words.

The parts of a command stand side by side with nothing between them, some may be missing, and a
path may look like any option. Still a reader that goes from left to right is never in doubt:
the word at which a part would begin decides whether the part is there, and the word behind an
option is taken as it is. So each reader is settled on its part followed by anything, and `read?`
accepts just what is written (`read?_eq_some_iff`).

Where the paths stand follows from the parts too: the files of the settings behind their options,
the paths to analyse behind all options. `MappedAt` says that two commands differ by one mapping
of the paths at their places, and goes through the parts one by one (`MappedAt.append`).
-/
import EditorAnalysis.Command
import EditorAnalysis.Mount
import EditorAnalysis.Proofs.Settings.Valid
import Mathlib.Data.List.Basic

namespace EditorAnalysis.Command

/-! ## What a command says -/

/-- By what the tool judges a file. -/
inductive Rule where
  /-- By its configuration file. -/
  | file (path : String)
  /-- By a rule level. -/
  | level (n : Int)
deriving DecidableEq, Repr

/-- What a batch command says. -/
structure Contents where
  /-- By what the tool judges a file. -/
  rule : Rule
  /-- A file that the tool loads first. -/
  autoload : Option String
  /-- How much memory the tool may use. -/
  memoryLimit : String
  /-- The paths to analyse. -/
  targets : List String
deriving DecidableEq, Repr

/-- What stands before a rule level in the same word. -/
def levelOption : String := "--level="

/-- What stands before a memory limit in the same word. -/
def memoryOption : String := "--memory-limit="

/-- The rule levels that there are. -/
def levels : List Int := [0, 1, 2, 3, 4, 5, 6, 7, 8, 9]

namespace Rule

/-- The level is one that there is. -/
def Known : Rule → Prop
  | file _ => True
  | level n => n ∈ levels

/-- The words of a rule. -/
def words : Rule → Command
  | file path => [configOption, path]
  | level n => [levelOption ++ toString n]

end Rule

/-- The words for a file that is loaded first. -/
def autoloadWords : Option String → Command
  | some file => [autoloadOption, file]
  | none => []

/-- The words of a batch command that says this. -/
def Contents.words (c : Contents) : Command :=
  analyze :: (c.rule.words ++ (autoloadWords c.autoload
    ++ (memoryOption ++ c.memoryLimit) :: (outputOptions ++ c.targets)))

/-! ## Reading words -/

/-- What stands behind an option in the same word. -/
def argument? (option word : String) : Option String :=
  (word.toList.dropPrefix? option.toList).map String.ofList

/-- Reads a rule, and leaves the words behind it. -/
def readRule? : Command → Option (Rule × Command)
  | [] => none
  | word :: words =>
    if word = configOption then
      match words with
      | [] => none
      | path :: words => some (.file path, words)
    else (levels.find? fun n => levelOption ++ toString n == word).map fun n => (.level n, words)

/-- Reads a file that is loaded first, if there is one, and leaves the words behind it. -/
def readAutoload : Command → Option String × Command
  | option :: file :: words =>
    if option = autoloadOption then (some file, words) else (none, option :: file :: words)
  | words => (none, words)

/-- Reads a memory limit, and leaves the words behind it. -/
def readMemoryLimit? : Command → Option (String × Command)
  | [] => none
  | word :: words => (argument? memoryOption word).map fun limit => (limit, words)

/-- Reads what a batch command says. -/
def read? : Command → Option Contents
  | [] => none
  | word :: words =>
    if word = analyze then
      (readRule? words).bind fun (rule, words) =>
        (readMemoryLimit? (readAutoload words).2).bind fun (memoryLimit, words') =>
          (words'.dropPrefix? outputOptions).map fun targets =>
            { rule, autoload := (readAutoload words).1, memoryLimit, targets }
    else none

theorem dropPrefix?_eq_some_iff {α : Type} [BEq α] [LawfulBEq α] {front words rest : List α} :
    words.dropPrefix? front = some rest ↔ words = front ++ rest := by
  simp [List.dropPrefix?_eq_some_iff]

theorem argument?_eq_some_iff {option word argument : String} :
    argument? option word = some argument ↔ word = option ++ argument := by
  simp only [argument?, Option.map_eq_some_iff, dropPrefix?_eq_some_iff, ← String.toList_inj,
    String.toList_append]
  constructor
  · rintro ⟨rest, hword, hrest⟩
    rw [hword, ← hrest, String.toList_ofList]
  · intro hword
    exact ⟨argument.toList, hword, String.toList_ofList⟩

/-- Every level is read from its own word only. -/
theorem find?_levels {n : Int} (h : n ∈ levels) :
    (levels.find? fun m => levelOption ++ toString m == levelOption ++ toString n) = some n := by
  revert n
  decide

theorem levelOption_append_ne (n : Int) : levelOption ++ toString n ≠ configOption := by
  intro h
  have hlist := congrArg String.toList h
  simp [levelOption, configOption] at hlist

theorem memoryOption_append_ne (limit : String) : memoryOption ++ limit ≠ autoloadOption := by
  intro h
  have hlist := congrArg String.toList h
  simp [memoryOption, autoloadOption] at hlist

theorem readRule?_eq_some_iff {words rest : Command} {rule : Rule} :
    readRule? words = some (rule, rest) ↔ rule.Known ∧ words = rule.words ++ rest := by
  constructor
  · intro h
    unfold readRule? at h
    split at h
    · cases h
    · split at h
      · rename_i hoption
        split at h
        · cases h
        · cases h
          exact ⟨trivial, by rw [hoption]; rfl⟩
      · obtain ⟨n, hn, heq⟩ := Option.map_eq_some_iff.mp h
        cases heq
        have hword := List.find?_some hn
        rw [beq_iff_eq] at hword
        exact ⟨List.mem_of_find?_eq_some hn, by rw [← hword]; rfl⟩
  · rintro ⟨hknown, rfl⟩
    cases rule with
    | file path => rfl
    | level n =>
      simp only [Rule.words, List.singleton_append, readRule?]
      rw [if_neg (levelOption_append_ne n), find?_levels hknown, Option.map_some]

theorem eq_of_readAutoload (words : Command) :
    words = autoloadWords (readAutoload words).1 ++ (readAutoload words).2 := by
  unfold readAutoload
  split
  · split
    · rename_i hoption
      rw [hoption]
      rfl
    · rfl
  · rfl

/-- Where no file is loaded first, the word of the memory limit comes next, which is not the
option for such a file. -/
theorem readAutoload_words (autoload : Option String) (limit : String) (rest : Command) :
    readAutoload (autoloadWords autoload ++ (memoryOption ++ limit) :: rest)
      = (autoload, (memoryOption ++ limit) :: rest) := by
  cases autoload with
  | some file => rfl
  | none =>
    cases rest with
    | nil => rfl
    | cons word rest =>
      rw [autoloadWords, List.nil_append, readAutoload, if_neg (memoryOption_append_ne limit)]

theorem readMemoryLimit?_eq_some_iff {words rest : Command} {limit : String} :
    readMemoryLimit? words = some (limit, rest) ↔ words = (memoryOption ++ limit) :: rest := by
  cases words with
  | nil => simp [readMemoryLimit?]
  | cons word words =>
    simp only [readMemoryLimit?, Option.map_eq_some_iff, argument?_eq_some_iff, Prod.mk.injEq,
      List.cons.injEq]
    constructor
    · rintro ⟨_, hword, rfl, hwords⟩
      exact ⟨hword, hwords⟩
    · rintro ⟨hword, hwords⟩
      exact ⟨limit, hword, rfl, hwords⟩

/-- The reader accepts what is written and nothing else. -/
theorem read?_eq_some_iff {words : Command} {c : Contents} :
    read? words = some c ↔ c.rule.Known ∧ words = c.words := by
  constructor
  · intro h
    unfold read? at h
    split at h
    · cases h
    · split at h
      · rename_i words hanalyze
        obtain ⟨⟨rule, behindRule⟩, hrule, h⟩ := Option.bind_eq_some_iff.mp h
        obtain ⟨⟨limit, behindLimit⟩, hlimit, h⟩ := Option.bind_eq_some_iff.mp h
        obtain ⟨targets, htargets, rfl⟩ := Option.map_eq_some_iff.mp h
        obtain ⟨hknown, hwords⟩ := readRule?_eq_some_iff.mp hrule
        refine ⟨hknown, ?_⟩
        rw [hanalyze, hwords, Contents.words, ← dropPrefix?_eq_some_iff.mp htargets,
          ← readMemoryLimit?_eq_some_iff.mp hlimit, ← eq_of_readAutoload]
      · cases h
  · rintro ⟨hknown, rfl⟩
    let behindLimit := outputOptions ++ c.targets
    let behindRule := autoloadWords c.autoload ++ (memoryOption ++ c.memoryLimit) :: behindLimit
    have hrule : readRule? (c.rule.words ++ behindRule) = some (c.rule, behindRule) :=
      readRule?_eq_some_iff.mpr ⟨hknown, rfl⟩
    have hautoload : readAutoload behindRule
        = (c.autoload, (memoryOption ++ c.memoryLimit) :: behindLimit) :=
      readAutoload_words c.autoload c.memoryLimit behindLimit
    have hlimit : readMemoryLimit? ((memoryOption ++ c.memoryLimit) :: behindLimit)
        = some (c.memoryLimit, behindLimit) := readMemoryLimit?_eq_some_iff.mpr rfl
    have htargets : behindLimit.dropPrefix? outputOptions = some c.targets :=
      dropPrefix?_eq_some_iff.mpr rfl
    rw [Contents.words, read?, if_pos rfl, hrule, Option.bind_some]
    simp only [hautoload, hlimit, htargets, Option.bind_some, Option.map_some]

/-! ## Where the paths stand -/

/-- The files of the settings, each with its place in every command: behind its option. -/
def settingsPlaces (s : Settings) : List (String × Nat) :=
  match Text.given? s.configFile, Text.given? s.autoloadFile with
  | some config, some autoload => [(config, 2), (autoload, 4)]
  | some config, none => [(config, 2)]
  | none, some autoload => [(autoload, 3)]
  | none, none => []

/-- The paths at the end of a live command, each with its places there. A file that is analysed
through its copy is named twice. -/
def bufferPlaces (inPlace : Bool) (copy file : Option String) : List (String × Nat) :=
  match Text.given? copy with
  | none => []
  | some copy =>
    match inPlace, Text.given? file with
    | true, some file => [(copy, 1), (file, 3), (file, 4)]
    | _, _ => [(copy, 0)]

/-- Places behind so many other words. -/
def behind (n : Nat) (places : List (String × Nat)) : List (String × Nat) :=
  places.map fun e => (e.1, n + e.2)

theorem map_snd_behind (n : Nat) (places : List (String × Nat)) :
    (behind n places).map (·.2) = (places.map (·.2)).map (n + ·) := by
  rw [behind, List.map_map, List.map_map]
  rfl

/-- The second command is the first one with the paths at their places mapped, each of them once,
and with all other words as they are. -/
structure MappedAt (places : List (String × Nat)) (map : String → String)
    (plain mapped : Command) : Prop where
  /-- Every path stands at its place. -/
  stands : ∀ e ∈ places, plain[e.2]? = some e.1
  /-- What stands at the places is mapped, and nothing else is. -/
  mapped_eq : mapped
    = plain.mapIdx fun i word => if i ∈ places.map (·.2) then map word else word

/-- Commands that are put together from parts, part by part. -/
theorem MappedAt.append {front back : List (String × Nat)} {map : String → String}
    {xs xs' ys ys' : Command} (hx : MappedAt front map xs xs') (hy : MappedAt back map ys ys') :
    MappedAt (front ++ behind xs.length back) map (xs ++ ys) (xs' ++ ys') where
  stands := by
    intro e he
    rcases List.mem_append.mp he with he | he
    · have hword := hx.stands e he
      rw [List.getElem?_append_left (List.getElem?_eq_some_iff.mp hword).1, hword]
    · obtain ⟨shifted, hshifted, rfl⟩ := List.mem_map.mp he
      rw [List.getElem?_append_right (Nat.le_add_right _ _), Nat.add_sub_cancel_left]
      exact hy.stands shifted hshifted
  mapped_eq := by
    have hfront : ∀ i ∈ front.map (·.2), i < xs.length := by
      intro i hi
      obtain ⟨e, he, rfl⟩ := List.mem_map.mp hi
      exact (List.getElem?_eq_some_iff.mp (hx.stands e he)).1
    have hplaces : ∀ i, i ∈ (front ++ behind xs.length back).map (·.2) ↔
        i ∈ front.map (·.2) ∨ ∃ j ∈ back.map (·.2), xs.length + j = i := by
      intro i
      rw [List.map_append, List.mem_append, map_snd_behind]
      exact or_congr_right List.mem_map
    rw [List.mapIdx_append, hx.mapped_eq, hy.mapped_eq]
    congr 1
    · -- the places of the second part lie behind the first one
      refine List.mapIdx_eq_mapIdx_iff.mpr fun i hi => ?_
      have hsame : i ∈ (front ++ behind xs.length back).map (·.2) ↔ i ∈ front.map (·.2) := by
        rw [hplaces]
        refine or_iff_left ?_
        rintro ⟨j, -, hj⟩
        omega
      simp only [hsame]
    · refine List.mapIdx_eq_mapIdx_iff.mpr fun i _ => ?_
      have hsame : i + xs.length ∈ (front ++ behind xs.length back).map (·.2) ↔
          i ∈ back.map (·.2) := by
        rw [hplaces]
        constructor
        · rintro (hi | ⟨j, hj, heq⟩)
          · have := hfront _ hi
            omega
          · rwa [show i = j by omega]
        · exact fun hi => .inr ⟨i, hi, Nat.add_comm _ _⟩
      simp only [hsame]

theorem mappedAt_shared (s : Settings) (map : String → String) :
    MappedAt (settingsPlaces s) map (shared s PathMapper.same.map) (shared s map) := by
  cases hconfig : Text.given? s.configFile <;> cases hautoload : Text.given? s.autoloadFile <;>
    constructor <;>
    simp [settingsPlaces, shared, ruleOptions, autoloadOptions, hconfig, hautoload,
      outputOptions, PathMapper.map]

/-- All words are paths. -/
theorem mappedAt_zipIdx (paths : List String) (map : String → String) :
    MappedAt paths.zipIdx map paths (paths.map map) where
  stands := fun _ he => List.mem_zipIdx_iff_getElem?.mp he
  mapped_eq := by
    refine (List.mapIdx_eq_iff.mpr fun i => ?_).symm
    rw [List.getElem?_map]
    cases hword : paths[i]? with
    | none => rfl
    | some path =>
      have hplace : i ∈ paths.zipIdx.map (·.2) :=
        List.mem_map.mpr ⟨(path, i), List.mem_zipIdx_iff_getElem?.mpr hword, rfl⟩
      rw [Option.map_some, Option.map_some, if_pos hplace]

theorem mappedAt_liveTail (map : String → String) (inPlace : Bool) (copy file : Option String) :
    MappedAt (bufferPlaces inPlace copy file) map (liveTail PathMapper.same.map inPlace copy file)
      (liveTail map inPlace copy file) := by
  cases hcopy : Text.given? copy <;> cases inPlace <;> cases hfile : Text.given? file <;>
    constructor <;> simp [bufferPlaces, liveTail, hcopy, hfile, PathMapper.map]

/-! ## Batch and live commands -/

theorem batch_eq_words (s : Settings) (map : String → String) (paths : List (Option String)) :
    batch s map paths = Contents.words
      { rule := match Text.given? s.configFile with
          | some file => .file (map file)
          | none => .level s.level
        autoload := (Text.given? s.autoloadFile).map map
        memoryLimit := s.memoryLimit
        targets := (paths.filterMap id).map map } := by
  cases hconfig : Text.given? s.configFile <;> cases hautoload : Text.given? s.autoloadFile <;>
    simp [batch, shared, ruleOptions, autoloadOptions, hconfig, hautoload, Contents.words,
      Rule.words, autoloadWords, levelOption, memoryOption]

theorem mem_levels {n : Int} (h : 0 ≤ n ∧ n ≤ 9) : n ∈ levels := by
  simp only [levels, List.mem_cons, List.not_mem_nil, or_false]
  omega

theorem given?_of_substantial {text : Option String} (h : Settings.Substantial text) :
    Text.given? text = text := by
  cases text with
  | none => rfl
  | some s =>
    obtain ⟨c, hc, -⟩ := h s rfl
    refine Text.given?_eq_some_iff.mpr ⟨rfl, ?_⟩
    rintro rfl
    cases hc

/-- **What a command says can be read off its words.** One reader, which knows neither the settings
nor the mapping, reads off every batch command for valid settings: the mapped configuration file
or, where there is none, the rule level; the mapped autoload file, if there is one; the memory
limit; and the mapped paths in order, without those that are not known. What these texts look
like does not matter. A mapping, moreover, is applied once to each path where it stands in a batch
or live command, and to nothing else. -/
theorem batch_decodes_and_maps_once (map : String → String) :
    (∀ s : Settings, s.Valid → ∀ paths : List (Option String),
      read? (batch s map paths) = some
        { rule := match s.configFile with
            | some file => .file (map file)
            | none => .level s.level
          autoload := s.autoloadFile.map map
          memoryLimit := s.memoryLimit
          targets := (paths.filterMap id).map map }) ∧
    (∀ (s : Settings) (paths : List (Option String)),
      MappedAt (settingsPlaces s
          ++ behind (shared s PathMapper.same.map).length (paths.filterMap id).zipIdx) map
        (batch s PathMapper.same.map paths) (batch s map paths)) ∧
    ∀ (σ : Type) (detector : Detector σ) (copy file : Option String) (p : Progress σ),
      MappedAt (settingsPlaces p.settings
          ++ behind (shared p.settings PathMapper.same.map).length
            (bufferPlaces (EditorMode.supported (resolveVersion detector p).1) copy file)) map
        (live detector PathMapper.same.map copy file p).1 (live detector map copy file p).1 := by
  refine ⟨fun s hs paths => ?_, fun s paths => ?_, fun σ detector copy file p => ?_⟩
  · rw [read?_eq_some_iff, batch_eq_words, given?_of_substantial hs.configFile,
      given?_of_substantial hs.autoloadFile]
    refine ⟨?_, rfl⟩
    cases s.configFile with
    | some file => trivial
    | none => exact mem_levels hs.level
  · have hpaths : batch s PathMapper.same.map paths
        = shared s PathMapper.same.map ++ paths.filterMap id := by
      rw [batch, show PathMapper.same.map = id from rfl, List.map_id]
    rw [hpaths, batch]
    exact (mappedAt_shared s map).append (mappedAt_zipIdx _ map)
  · exact (mappedAt_shared p.settings map).append (mappedAt_liveTail map _ copy file)

/-- A mapping that makes an option of every path. -/
theorem batch_decodes_and_maps_once_of_options :
    let map := fun path => "-" ++ path
    let s : Settings := { configFile := "a", autoloadFile := "-memory-limit=1", level := 7 }
    let paths := [some "c", none, some "", some "-level=3"]
    s.Valid ∧
    read? (batch s map paths) = some
      { rule := .file "-a", autoload := "--memory-limit=1", memoryLimit := "2G"
        targets := ["-c", "-", "--level=3"] } ∧
    MappedAt [("a", 2), ("-memory-limit=1", 4), ("c", 10), ("", 11), ("-level=3", 12)] map
      (batch s PathMapper.same.map paths) (batch s map paths) := by
  intro map s paths
  have hdata : Settings.ofData [("config_file", .text "a"),
      ("autoload_file", .text "-memory-limit=1"), ("level", .integer 7)] = .ok s := by
    decide +kernel
  have hs : s.Valid := Settings.valid_of_ofData hdata
  obtain ⟨hread, hmapped, -⟩ := batch_decodes_and_maps_once map
  exact ⟨hs, hread s hs paths, hmapped s paths⟩

end EditorAnalysis.Command
