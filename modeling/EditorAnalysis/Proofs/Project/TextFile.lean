/-
EditorAnalysis.Proofs.Project.TextFile — what bytes come to when they are read as a text.

A reader of files gives up for two kinds of reasons. The text does not follow its format, and
whoever reads it is prepared for that; or the bytes are no text at all, or the text is beyond
a limit. Bytes are `Legible` to a reader when only the first kind can happen.
-/
import EditorAnalysis.Project.TextFile
import EditorAnalysis.Proofs.Host.Refusal

namespace EditorAnalysis.Project

open Host
open Text.Utf8 (Bytes)

/-- The bytes are a text that the reader takes, or finds to be no document of its format. -/
def Legible {α : Type} (read : List Char → Except Text.ReadFault α) (bytes : Bytes) : Prop :=
  ∃ cs, Text.Utf8.decode? bytes = some cs ∧
    ∀ fault, read cs = .error fault → fault = .malformed

theorem not_legible_of_decode? {α : Type} {read : List Char → Except Text.ReadFault α}
    {bytes : Bytes} (h : Text.Utf8.decode? bytes = none) : ¬ Legible read bytes := by
  rintro ⟨cs, hcs, -⟩
  rw [h] at hcs
  cases hcs

theorem legible_iff_of_decode? {α : Type} {read : List Char → Except Text.ReadFault α}
    {bytes : Bytes} {cs : List Char} (h : Text.Utf8.decode? bytes = some cs) :
    Legible read bytes ↔ ∀ fault, read cs = .error fault → fault = .malformed := by
  simp [Legible, h]

instance {α : Type} (read : List Char → Except Text.ReadFault α) (bytes : Bytes) :
    Decidable (Legible read bytes) :=
  match h : Text.Utf8.decode? bytes with
  | none => isFalse (not_legible_of_decode? h)
  | some cs =>
    match hread : read cs with
    | .ok _ => isTrue ⟨cs, h, by simp [hread]⟩
    | .error fault =>
      decidable_of_iff (fault = .malformed) (by simp [legible_iff_of_decode? h, hread])

/-! ## Files -/

/-- What is at a path: a file with the bytes, or no file. -/
def Held (fs : Files) (path : String) : Option Bytes → Prop
  | none => fileExists fs path = .ok false
  | some bytes => fileExists fs path = .ok true ∧ fs.read path = .ok bytes

theorem held_of_look {fs : Files} {path : String} {content : Bytes} {mode : Nat}
    (hnull : Char.ofNat 0 ∉ path.toList) (h : fs.look path = .ok (.file content mode)) :
    Held fs path (some content) := by
  have hcontains : path.toList.contains (Char.ofNat 0) = false := by simpa using hnull
  constructor
  · rw [fileExists, hcontains, Files.isFile, h]
    rfl
  · rw [Files.read, h]
    rfl

theorem held_none_of_look {fs : Files} {path : String} (hnull : Char.ofNat 0 ∉ path.toList)
    (h : fs.look path = .error .noEntry) : Held fs path none := by
  have hcontains : path.toList.contains (Char.ofNat 0) = false := by simpa using hnull
  rw [Held, fileExists, hcontains, Files.isFile, h]
  rfl

theorem readText?_of_held_none {fs : Files} {path : String} (h : Held fs path none) :
    readText? fs path = .ok none := by
  have hexists : fileExists fs path = .ok false := h
  rw [readText?, hexists]

theorem readText?_of_held {fs : Files} {path : String} {bytes : Bytes}
    (h : Held fs path (some bytes)) :
    readText? fs path = match Text.Utf8.decode? bytes with
      | none => .error .notUtf8
      | some cs => .ok (some cs) := by
  rw [readText?, h.1, h.2]
  rfl

/-! ## Other files -/

section Put

variable {fs : Files} {place : Place} {content : Bytes} {mode : Nat} {path : String}

theorem fileExists_put (hend : fs.tree.IsEnd place) (hne : fs.locate path ≠ .ok place) :
    fileExists (fs.put place (.file content mode)) path = fileExists fs path := by
  rw [fileExists, fileExists, Files.isFile_put hend hne]

/-- A text stays as it is when a file is put elsewhere. -/
theorem readText?_put (hend : fs.tree.IsEnd place) (hne : fs.locate path ≠ .ok place) :
    readText? (fs.put place (.file content mode)) path = readText? fs path := by
  rw [readText?, readText?, fileExists_put hend hne]
  split
  · rfl
  · rfl
  · rename_i hexists
    have hfile : fs.isFile path = .ok true := by
      unfold fileExists at hexists
      split at hexists
      · cases hexists
      · cases hfound : fs.isFile path <;> simp_all [refusing]
    rw [Files.read_put hend hne hfile]

end Put

end EditorAnalysis.Project
