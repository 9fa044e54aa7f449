/-
EditorAnalysis.Proofs.Execution — the program that was found, and the program that is started.

A program is looked up in the caller's directory and started in the directory of the request.
A path from the root names the same file in both (`Files.locate_seenFrom`). What is
looked up is such a path exactly when it was found by one (`FoundInFull`): the name is a path
from the root, or the directory of the search path in which it was found is. Neither a relative
name nor a relative directory of the search path is made a path from the root.
-/
import EditorAnalysis.Execution
import EditorAnalysis.Proofs.Host.Parent
import EditorAnalysis.Proofs.Outcome
import EditorAnalysis.Proofs.Path.Normal

namespace EditorAnalysis.Execution

open Host

variable {s : Surroundings} {name path : String} {arguments command : List String}

/-! ## Looking up -/

/-- The first directory of the search path that has a program of the name. -/
def firstHolding? (s : Surroundings) (name : String) : Option String :=
  s.searchPath.find? fun directory => runnable s.toFiles (nameIn directory name)

/-- The name is a path from the root, or it is looked up and found in a directory that the
search path names by one. -/
def FoundInFull (s : Surroundings) (name : String) : Prop :=
  Tree.isAbsolute name = true ∨
    namesPath name = false ∧
      ∃ directory, firstHolding? s name = some directory ∧ Tree.isAbsolute directory = true

theorem isAbsolute_of_namesPath_eq_false (h : namesPath path = false) :
    Tree.isAbsolute path = false :=
  Tree.isAbsolute_of_not_mem (by simpa [namesPath] using h)

theorem namesPath_of_isAbsolute (h : Tree.isAbsolute path = true) : namesPath path = true := by
  rw [← Bool.not_eq_false]
  intro hname
  rw [isAbsolute_of_namesPath_eq_false hname] at h
  cases h

/-- A name is found by a path from the root exactly where its directory is named by one. -/
theorem isAbsolute_nameIn (directory : String) (h : namesPath name = false) :
    Tree.isAbsolute (nameIn directory name) = Tree.isAbsolute directory := by
  by_cases hempty : directory = ""
  · subst hempty
    exact isAbsolute_of_namesPath_eq_false h
  · rw [nameIn]
    split
    · exact Tree.isAbsolute_append hempty name
    · rw [Tree.isAbsolute_append (by simp), Tree.isAbsolute_append hempty]

theorem runnable_of_lookUp? (h : lookUp? s name = some path) :
    runnable s.toFiles path = true := by
  unfold lookUp? at h
  split at h
  · split at h
    · obtain rfl := Option.some.inj h
      assumption
    · cases h
  · exact List.find?_some h

theorem lookUp?_eq_some_iff_of_bare (h : namesPath name = false) :
    lookUp? s name = some path ↔
      ∃ directory, firstHolding? s name = some directory ∧ nameIn directory name = path := by
  rw [lookUp?, if_neg (by simp [h]), List.find?_map, Option.map_eq_some_iff]
  rfl

/-- What is looked up is a path from the root exactly when it was found by one. -/
theorem isAbsolute_of_lookUp?_iff (hname : Tree.isAbsolute name = false)
    (h : lookUp? s name = some path) : Tree.isAbsolute path = true ↔ FoundInFull s name := by
  unfold FoundInFull
  rw [hname]
  cases hslash : namesPath name with
  | true =>
    -- a path is not looked up, and stays relative
    rw [lookUp?, if_pos hslash] at h
    split at h
    · obtain rfl := Option.some.inj h
      simp [hname]
    · cases h
  | false =>
    obtain ⟨directory, hfirst, rfl⟩ := (lookUp?_eq_some_iff_of_bare hslash).mp h
    simp [hfirst, isAbsolute_nameIn directory hslash]

theorem isAbsolute_toString_ofString (name : String) :
    Tree.isAbsolute (Path.Pure.ofString name).toString = Tree.isAbsolute name := by
  have hread := Path.Pure.ofString_toString (Path.Pure.isNormal_ofString name)
  have htext := Path.Pure.isAbsolute_ofString (Path.Pure.ofString name).toString
  rw [hread, Path.Pure.isAbsolute_ofString] at htext
  exact htext.symm

/-- A program's path is the text of a path from the root, or what was looked up. -/
theorem programPath_eq_ok_iff :
    programPath s name = .ok path ↔
      Tree.isAbsolute name = true ∧ (Path.Pure.ofString name).toString = path ∨
        Tree.isAbsolute name = false ∧ lookUp? s name = some path := by
  have habsolute : (Path.Pure.ofString name).isAbsolute = Tree.isAbsolute name :=
    Path.Pure.isAbsolute_ofString name
  unfold programPath
  dsimp only
  rw [habsolute]
  cases Tree.isAbsolute name with
  | true => simp
  | false => cases lookUp? s name <;> simp

theorem isAbsolute_of_programPath_iff (h : programPath s name = .ok path) :
    Tree.isAbsolute path = true ↔ FoundInFull s name := by
  rcases programPath_eq_ok_iff.mp h with ⟨hname, rfl⟩ | ⟨hname, hfound⟩
  · rw [isAbsolute_toString_ofString, hname]
    simp [FoundInFull, hname]
  · exact isAbsolute_of_lookUp?_iff hname hfound

/-! ## Starting -/

/-- Starting programs that leave the tree as it is leaves it as it is. -/
theorem tree_startFirst {programs : Programs} {i : Invocation} {tree : Tree}
    (h : ∀ path, (programs { i with path } tree).2 = tree) (paths : List String) :
    (startFirst programs i tree paths).2 = tree := by
  induction paths with
  | nil => rfl
  | cons path others ih =>
    cases others with
    | nil => exact h path
    | cons next others =>
      have hpath := h path
      rw [startFirst]
      split
      · rename_i hstarted
        rw [hstarted] at hpath
        exact hpath
      · rename_i failed hfailed
        rw [hfailed] at hpath
        obtain rfl : failed = tree := hpath
        split <;> rename_i hothers <;> rw [hothers] at ih <;> exact ih
      · simp

/-- An invocation has the path and the arguments of its command, and starts in its place. -/
theorem invocation_eq_ok {r : Request} {i : Invocation}
    (h : invocation s r = .ok (command, i)) :
    resolve s r.command = .ok command ∧ i.path = command.head?.getD "" ∧
      i.arguments = command.drop 1 ∧ startPlace s r = .ok i.directory := by
  obtain ⟨found, hresolve, hrest⟩ := Outcome.bind_eq_ok_iff.mp h
  obtain ⟨_, -, hplace⟩ := Outcome.bind_eq_ok_iff.mp hrest
  obtain ⟨place, hstart, hmake⟩ := Outcome.bind_eq_ok_iff.mp hplace
  obtain ⟨rfl, rfl⟩ := Prod.mk.inj (Except.ok.inj hmake)
  exact ⟨hresolve, rfl, rfl, hstart⟩

/-- One file is tried and no other, and it is the file that the path names from the caller's
directory. -/
def StartsFound (s : Surroundings) (r : Request) (i : Invocation) : Prop :=
  candidates s r i.path = [i.path] ∧
    (s.toFiles.seenFrom i.directory).locate i.path = s.toFiles.locate i.path

theorem startsFound_of_isAbsolute (s : Surroundings) (r : Request) {i : Invocation}
    (h : Tree.isAbsolute i.path = true) : StartsFound s r i :=
  ⟨if_pos (namesPath_of_isAbsolute h), Files.locate_seenFrom h i.directory⟩

theorem startsFound_in_place (s : Surroundings) (r : Request) {i : Invocation}
    (hpath : namesPath i.path = true) (hplace : i.directory = s.directory) :
    StartsFound s r i := by
  refine ⟨if_pos hpath, ?_⟩
  rw [hplace]
  rfl

/-- **What is found is what is started, if it was found in full.** The first word of a command
becomes a path from the root exactly when the word is one, or is a name that the search path
holds first in a directory which it names by one. That path is tried and no other, and it
names the same file from the directory of the request as from the caller's. A relative path
does so where the request has no directory of its own. -/
theorem first_word_absolute_iff_found_in_full
    (h : resolve s (name :: arguments) = .ok command) :
    ∃ path, command = path :: arguments ∧
      (Tree.isAbsolute path = true ↔ FoundInFull s name) ∧
      (Tree.isAbsolute name = false → runnable s.toFiles path = true) ∧
      ∀ r i, invocation s r = .ok (command, i) →
        i.path = path ∧ i.arguments = arguments ∧
          (FoundInFull s name ∨ namesPath path = true ∧ r.directory = none →
            StartsFound s r i) := by
  obtain ⟨path, hpath, rfl⟩ := Outcome.map_eq_ok_iff.mp h
  have habsolute := isAbsolute_of_programPath_iff hpath
  refine ⟨path, rfl, habsolute, fun hname => ?_, fun r i hinvocation => ?_⟩
  · rcases programPath_eq_ok_iff.mp hpath with ⟨hfull, -⟩ | ⟨-, hfound⟩
    · rw [hname] at hfull
      cases hfull
    · exact runnable_of_lookUp? hfound
  · obtain ⟨-, rfl, harguments, hplace⟩ := invocation_eq_ok hinvocation
    refine ⟨rfl, harguments, ?_⟩
    rintro (hfull | ⟨hslash, hnone⟩)
    · exact startsFound_of_isAbsolute s r (habsolute.mpr hfull)
    · rw [startPlace, hnone] at hplace
      exact startsFound_in_place s r hslash (Except.ok.inj hplace).symm

/-- A project at `/proj` that has the tool, with a directory `sub` in it that has another one.
The system has the tool too. -/
def projectWithTools (searchPath : List String) : Surroundings :=
  { tree := ⟨[(["usr"], .directory), (["usr", "bin"], .directory),
      (["usr", "bin", "phpstan"], .program "phpstan"), (["proj"], .directory),
      (["proj", "vendor"], .directory), (["proj", "vendor", "phpstan"], .file [] 0o755),
      (["proj", "sub"], .directory), (["proj", "sub", "vendor"], .directory),
      (["proj", "sub", "vendor", "phpstan"], .file [] 0o755)]⟩
    directory := ["proj"]
    searchPath
    environment := [] }

/-- The relative directory of the search path has no tool, so the system's tool is found. -/
theorem first_word_absolute_iff_found_in_full_of_second_directory :
    let s := projectWithTools ["tools", "/usr/bin"]
    let r : Request :=
      { command := ["phpstan", "--version"], directory := some (Path.Pure.ofString "sub") }
    resolve s ["phpstan", "--version"] = .ok ["/usr/bin/phpstan", "--version"] ∧
      FoundInFull s "phpstan" ∧
      ∃ i, invocation s r = .ok (["/usr/bin/phpstan", "--version"], i) ∧
        i.directory = ["proj", "sub"] ∧ StartsFound s r i := by
  intro s r
  have hresolve : resolve s ["phpstan", "--version"] = .ok ["/usr/bin/phpstan", "--version"] := by
    decide +kernel
  have hinvocation : invocation s r = .ok (["/usr/bin/phpstan", "--version"],
      { path := "/usr/bin/phpstan", arguments := ["--version"], directory := ["proj", "sub"]
        environment := [] }) := by
    decide +kernel
  obtain ⟨path, hpath, habsolute, -, hstarts⟩ := first_word_absolute_iff_found_in_full hresolve
  obtain ⟨rfl, -⟩ := List.cons.inj hpath
  have hfull : FoundInFull s "phpstan" := habsolute.mp (by decide +kernel)
  obtain ⟨-, -, hfound⟩ := hstarts r _ hinvocation
  exact ⟨hresolve, hfull, _, hinvocation, rfl, hfound (.inl hfull)⟩

/-- The tool of the project is asked for in `sub`, by a relative path and by its name with a
relative directory on the search path. Either way the project's tool is found and the other
one is started. -/
theorem other_file_started_of_relative_path :
    let s := projectWithTools ["vendor", "/usr/bin"]
    ∀ name ∈ ["vendor/phpstan", "phpstan"],
      let r : Request := { command := [name], directory := some (Path.Pure.ofString "sub") }
      let i : Invocation :=
        { path := "vendor/phpstan", arguments := [], directory := ["proj", "sub"]
          environment := [] }
      resolve s [name] = .ok ["vendor/phpstan"] ∧ Tree.isAbsolute "vendor/phpstan" = false ∧
        invocation s r = .ok (["vendor/phpstan"], i) ∧ candidates s r i.path = [i.path] ∧
        s.toFiles.locate i.path = .ok ["proj", "vendor", "phpstan"] ∧
        (s.toFiles.seenFrom i.directory).locate i.path
          = .ok ["proj", "sub", "vendor", "phpstan"] := by
  decide +kernel

end EditorAnalysis.Execution
