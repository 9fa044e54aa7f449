/-
EditorAnalysis.Project.TextFile — text files that may be missing.
-/
import EditorAnalysis.Fault
import EditorAnalysis.Host.Tree

namespace EditorAnalysis.Project

open Host

/-- A refusal of the operating system as a fault. -/
def refusing {α : Type} (path : String) : Except Errno α → Except Fault α
  | .ok a => .ok a
  | .error reason => .error (.refusedBySystem reason path)

/-- A file is at the path; no file has a null character in its path. -/
def fileExists (fs : Files) (path : String) : Except Fault Bool :=
  if path.toList.contains (Char.ofNat 0) then .ok false else refusing path (fs.isFile path)

/-- The characters of a text file, if there is a file at the path. -/
def readText? (fs : Files) (path : String) : Except Fault (Option (List Char)) :=
  match fileExists fs path with
  | .error fault => .error fault
  | .ok false => .ok none
  | .ok true =>
    match refusing path (fs.read path) with
    | .error fault => .error fault
    | .ok bytes =>
      match Text.Utf8.decode? bytes with
      | none => .error .notUtf8
      | some cs => .ok (some cs)

end EditorAnalysis.Project
