/-
EditorAnalysis.Proofs.Project.DamagedCache — which damage to a file of versions is fatal.

A file that is no JSON document, or a document of another shape, counts as empty: loading
finds no version, and the next save writes the file anew. That holds of every file that is
`Legible` (`never_fatal_iff_legible`). Bytes that are no UTF-8, an integer with too many digits
and values nested too deep stop loading and saving alike, each with a fault of its own, so such
a file stays as it is until somebody else removes it (`fatal_of_lone_byte`).
-/
import EditorAnalysis.Proofs.Host.Parent
import EditorAnalysis.Proofs.Project.VersionCache

namespace EditorAnalysis.Project.VersionCache

open Host
open Text.Utf8 (Bytes)

variable {fs : Files} {directory : Path.Pure} {content : Bytes} {mode : Nat}

/-- Loading gives a version that is not empty, or none; and a version that is not empty can
be saved and is then loaded. -/
def NeverFatal (fs : Files) (directory : Path.Pure) : Prop :=
  (∃ version, load fs directory = .ok version ∧ version ≠ some "") ∧
    ∀ v, v ≠ "" → ∃ saved, save fs directory (some v) = .ok saved ∧
      load saved directory = .ok (some v)

/-! ## Reading a file that is there -/

/-- Where the file is, the directory is, and making it changes nothing. -/
theorem prepare_of_look {name : String}
    (hnull : Char.ofNat 0 ∉ (Path.Pure.ofString name).toString.toList)
    (hfile : fs.look (path (Path.Pure.ofString name)) = .ok (.file content mode)) :
    prepare fs (Path.Pure.ofString name) = .ok fs := by
  obtain ⟨place, hlocate, -⟩ := Files.look_eq_ok_iff.mp hfile
  have hdirectory := Files.isDirectory_of_locate_child (by decide) (by decide)
    (Path.Pure.toString_ofString_ne_empty name) hlocate
  exact prepare_eq_ok_iff.mpr ⟨hnull, Files.makeDirectories_of_isDirectory hdirectory⟩

theorem exists_document?_of_malformed {cs : List Char}
    (h : ∀ fault, Json.read limits cs = .error fault → fault = .malformed) :
    ∃ document, document? cs = .ok document := by
  unfold document?
  split
  · exact ⟨_, rfl⟩
  · exact ⟨_, rfl⟩
  · rename_i hread
    exact absurd (h _ hread) (by simp)
  · rename_i hread
    exact absurd (h _ hread) (by simp)

theorem exists_fault_of_not_malformed {cs : List Char}
    (h : ¬ ∀ fault, Json.read limits cs = .error fault → fault = .malformed) :
    ∃ fault, document? cs = .error fault := by
  obtain ⟨fault, hread, hfault⟩ : ∃ fault, Json.read limits cs = .error fault ∧
      fault ≠ .malformed := by simpa using h
  cases fault with
  | malformed => exact absurd rfl hfault
  | numeralTooLong digits => exact ⟨.numeralTooLong (some digits), by rw [document?, hread]⟩
  | nestedTooDeep inside => exact ⟨.nestedTooDeep inside, by rw [document?, hread]⟩

/-- A file that is legible holds a document, or none. -/
theorem exists_holdsAt_of_legible (hfile : fs.look (path directory) = .ok (.file content mode))
    (h : Legible (Json.read limits) content) :
    ∃ place document, HoldsAt fs directory place document := by
  obtain ⟨place, hlocate, hplace⟩ := Files.look_eq_ok_iff.mp hfile
  obtain ⟨cs, hdecode, hread⟩ := h
  obtain ⟨document, hdocument⟩ := exists_document?_of_malformed hread
  exact ⟨place, document, hlocate, .inr ⟨content, mode, cs, hplace, hdecode, hdocument⟩⟩

/-- A file that is not legible gives no document but a fault. -/
theorem exists_fault_of_not_legible (hnull : Char.ofNat 0 ∉ directory.toString.toList)
    (hfile : fs.look (path directory) = .ok (.file content mode))
    (h : ¬ Legible (Json.read limits) content) :
    ∃ fault, readDocument fs directory = .error fault := by
  have htext := readText?_of_held (held_of_look (null_not_mem_path hnull) hfile)
  cases hdecode : Text.Utf8.decode? content with
  | none =>
    rw [hdecode] at htext
    exact ⟨.notUtf8, by rw [readDocument, htext]; rfl⟩
  | some cs =>
    rw [hdecode] at htext
    obtain ⟨fault, hdocument⟩ :=
      exists_fault_of_not_malformed (mt (legible_iff_of_decode? hdecode).mpr h)
    exact ⟨fault, by rw [readDocument, htext]; exact hdocument⟩

theorem versionIn_ne_empty (document : Option Json.Value) : versionIn document ≠ some "" := by
  unfold versionIn
  split
  · split
    · split
      · simp
      · rename_i units _ hunits
        have hne : units ≠ [] := by simpa using hunits
        exact fun h => Json.Units.toString_ne_empty hne (Option.some.inj h)
    · simp
  · simp

/-! ## Damage -/

/-- **Which files of versions are fatal.** Let there be a file of versions with any bytes at
all. Neither loading nor saving a version ever fails, and what is saved is loaded, exactly if
the bytes are legible. If they are not, loading fails, and so does saving whatever version. -/
theorem never_fatal_iff_legible {name : String}
    (hnull : Char.ofNat 0 ∉ (Path.Pure.ofString name).toString.toList)
    (hfile : fs.look (path (Path.Pure.ofString name)) = .ok (.file content mode)) :
    (NeverFatal fs (Path.Pure.ofString name) ↔ Legible (Json.read limits) content) ∧
      (¬ Legible (Json.read limits) content →
        ∃ fault, load fs (Path.Pure.ofString name) = .error fault ∧
          ∀ version, save fs (Path.Pure.ofString name) version = .error fault) := by
  have hready := prepare_of_look hnull hfile
  have hfatal : ¬ Legible (Json.read limits) content →
      ∃ fault, load fs (Path.Pure.ofString name) = .error fault ∧
        ∀ version, save fs (Path.Pure.ofString name) version = .error fault := by
    intro hnot
    obtain ⟨fault, hread⟩ := exists_fault_of_not_legible hnull hfile hnot
    refine ⟨fault, by rw [load, hread]; rfl, fun version => ?_⟩
    rw [save, hready]
    simp only [bind, Except.bind, hread]
  refine ⟨⟨fun hnever => ?_, fun hlegible => ⟨?_, fun v hv => ?_⟩⟩, hfatal⟩
  · by_contra hnot
    obtain ⟨fault, hload, -⟩ := hfatal hnot
    obtain ⟨⟨version, hloaded, -⟩, -⟩ := hnever
    rw [hload] at hloaded
    cases hloaded
  · obtain ⟨place, document, hholds⟩ := exists_holdsAt_of_legible hfile hlegible
    exact ⟨versionIn document, load_of_holdsAt hnull hholds, versionIn_ne_empty document⟩
  · obtain ⟨place, document, hholds⟩ := exists_holdsAt_of_legible hfile hlegible
    obtain ⟨saved, hsave, hsaved, hfound⟩ := save_of_holdsAt hready hholds (some v)
    refine ⟨saved, hsave, ?_⟩
    rw [load_of_holdsAt (prepare_eq_ok_iff.mp hsaved).1 hfound, versionIn_update,
        Text.given?_eq_some_iff.mpr ⟨rfl, hv⟩]

/-- Files with a file of versions in a directory of its own, and nothing else. -/
def holding (content : Bytes) : Files :=
  { tree := ⟨[(["cache"], .directory), (["cache", fileName], .file content Tree.defaultMode)]⟩
    directory := [] }

/-- A text that breaks off after an opening brace is no obstacle. -/
theorem never_fatal_iff_legible_of_broken_text :
    let fs := holding [0x7B]
    let directory := Path.Pure.ofString "cache"
    Char.ofNat 0 ∉ directory.toString.toList ∧
      fs.look (path directory) = .ok (.file [0x7B] Tree.defaultMode) ∧
      Legible (Json.read limits) [0x7B] ∧ NeverFatal fs directory := by
  intro fs directory
  have hnull : Char.ofNat 0 ∉ directory.toString.toList := by decide +kernel
  have hfile : fs.look (path directory) = .ok (.file [0x7B] Tree.defaultMode) := by
    decide +kernel
  have hlegible : Legible (Json.read limits) [0x7B] := by decide +kernel
  exact ⟨hnull, hfile, hlegible, (never_fatal_iff_legible hnull hfile).1.mpr hlegible⟩

/-- One byte that begins no character is fatal to loading and to every save. -/
theorem fatal_of_lone_byte :
    let fs := holding [0xFF]
    let directory := Path.Pure.ofString "cache"
    fs.look (path directory) = .ok (.file [0xFF] Tree.defaultMode) ∧
      load fs directory = .error .notUtf8 ∧
      (∀ version, save fs directory version = .error .notUtf8) ∧ ¬ NeverFatal fs directory := by
  intro fs directory
  have hfile : fs.look (path directory) = .ok (.file [0xFF] Tree.defaultMode) := by
    decide +kernel
  have hready : prepare fs directory = .ok fs := prepare_of_look (by decide +kernel) hfile
  have htext : readText? fs (path directory) = .error .notUtf8 := by decide +kernel
  have hread : readDocument fs directory = .error .notUtf8 := by
    rw [readDocument, htext]
    rfl
  have hload : load fs directory = .error .notUtf8 := by
    rw [load, hread]
    rfl
  refine ⟨hfile, hload, fun version => ?_, fun hnever => ?_⟩
  · rw [save, hready]
    simp only [bind, Except.bind, hread]
  · obtain ⟨⟨version, hloaded, -⟩, -⟩ := hnever
    rw [hload] at hloaded
    cases hloaded

end EditorAnalysis.Project.VersionCache
