/-
EditorAnalysis.Project.VersionCache — tool versions kept between runs.

A JSON file in a directory of the caller's choice holds the version last detected
for each tool. A file that is not JSON counts as empty; of its entries only those
that hold a text are kept.
-/
import EditorAnalysis.Json.Reader
import EditorAnalysis.Json.Writer
import EditorAnalysis.Project.TextFile

namespace EditorAnalysis.Project

open Host

namespace VersionCache

/-- Names and texts of the file. -/
abbrev Contents := List (Json.Units × Json.Units)

/-- The file's name. -/
def fileName : String := "tool-versions.json"

/-- The name of the entry for the tool. -/
def toolKey : Json.Units := Json.Units.ofString "phpstan"

/-- The path of the file in a directory. -/
def path (directory : Path.Pure) : String := (directory.child fileName).toString

/-- How much of a document is taken. -/
def limits : Json.Limits := { digits := some Text.Numeral.maxDigits, depth := some 989 }

/-- The document in a file's characters; nothing, if they are no document. One that is
beyond the limits is a fault. -/
def document? (cs : List Char) : Except Fault (Option Json.Value) :=
  match Json.read limits cs with
  | .ok v => .ok (some v)
  | .error .malformed => .ok none
  | .error (.numeralTooLong digits) => .error (.numeralTooLong (some digits))
  | .error (.nestedTooDeep inside) => .error (.nestedTooDeep inside)

/-- The document in the file, if there is one. -/
def readDocument (fs : Files) (directory : Path.Pure) : Except Fault (Option Json.Value) := do
  match ← readText? fs (path directory) with
  | none => return none
  | some cs => document? cs

/-- The entries of an object that hold a text. -/
def textEntries : Option Json.Value → Contents
  | some (.object entries) => entries.filterMap fun
    | (name, .string units) => some (name, units)
    | _ => none
  | _ => []

/-- The version among the entries of an object. -/
def versionIn : Option Json.Value → Option String
  | some (.object entries) =>
    match Assoc.get? toolKey entries with
    | some (.string units) => if units.isEmpty then none else some units.toString
    | _ => none
  | _ => none

/-- The version kept in a directory. -/
def load (fs : Files) (directory : Path.Pure) : Except Fault (Option String) :=
  (readDocument fs directory).map versionIn

/-- The entries with a version put in, or taken out. -/
def update (version : Option String) (contents : Contents) : Contents :=
  match version with
  | none => Assoc.erase toolKey contents
  | some v => Assoc.put toolKey (Json.Units.ofString v) contents

/-- The text of the file. -/
def write (contents : Contents) : String :=
  (Json.Value.object (contents.map fun (name, units) => (name, .string units))).indented

/-- Makes the directory, unless it is there. -/
def prepare (fs : Files) (directory : Path.Pure) : Except Fault Files :=
  if directory.toString.toList.contains (Char.ofNat 0) then .error .nullCharacter
  else match fs.makeDirectories directory with
    | .ok fs => .ok fs
    | .error (reason, path) => .error (.refusedBySystem reason path)

/-- Keeps a version in a directory, or forgets it. -/
def save (fs : Files) (directory : Path.Pure) (version : Option String) :
    Except Fault Files := do
  let fs ← prepare fs directory
  let contents := textEntries (← readDocument fs directory)
  refusing (path directory)
    (fs.write (path directory) (Text.Utf8.encode (write (update version contents)).toList))

end VersionCache

end EditorAnalysis.Project
