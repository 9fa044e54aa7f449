/-
EditorAnalysis.Shell.Image — which program a file stands for.

A file that begins with a number sign and an exclamation mark names the program
that reads it; that program gets the file's path and the arguments behind it.
Another file is no program by itself.
-/
import EditorAnalysis.Host.Process
import EditorAnalysis.Text.Octets

namespace EditorAnalysis.Shell

open Text (Octets)
open Host (Errno Files)

/-- A program of the system and the words it starts with. -/
structure Image where
  /-- The program's name in the system. -/
  program : String
  /-- The name under which it is started. -/
  name : Octets
  /-- Its arguments. -/
  arguments : List Octets

namespace Image

/-- How much of a file's first line is looked at. -/
def lineLimit : Nat := 255

/-- The program that a first line names, and an argument for it. -/
def interpreter? (content : Octets) : Option (Octets × Option Octets) :=
  let isBlank (c : Char) : Bool := c == ' ' || c == '\t'
  match content with
  | '#' :: '!' :: rest =>
    let line := ((rest.take lineLimit).takeWhile (· != '\n')).dropWhile isBlank
    let path := line.takeWhile fun c => !isBlank c
    let argument := (line.drop path.length).dropWhile isBlank
    let argument := (argument.reverse.dropWhile isBlank).reverse
    if path.isEmpty then none
    else some (path, if argument.isEmpty then none else some argument)
  | _ => none

/-- How many files may name one another. -/
def depth : Nat := 5

/-- The program that the file at a path stands for, started under a name with arguments. -/
def ofPath (fs : Files) : Nat → Octets → Octets → List Octets → Except Errno Image
  | 0, _, _, _ => .error .linkLoop
  | n + 1, path, name, arguments =>
    match fs.look (Octets.toString path) with
    | .error reason => .error reason
    | .ok (.program program) => .ok ⟨program, name, arguments⟩
    | .ok (.file content mode) =>
      if !Host.Tree.isExecutableMode mode then .error .denied
      else match interpreter? (Octets.ofBytes content) with
        | none => .error .badFormat
        | some (interpreter, argument) =>
          ofPath fs n interpreter interpreter (argument.toList ++ path :: arguments)
    | .ok _ => .error .denied

end Image

end EditorAnalysis.Shell
