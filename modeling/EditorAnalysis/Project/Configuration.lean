/-
EditorAnalysis.Project.Configuration — the settings of a project.

Three sources give a project's settings, each over the one before: a section of
the project file, a file of its own, and overrides from the caller, of which those
that hold nothing do not count. A name may be spelled with hyphens or with
underscores. Paths of configuration and autoload files are taken from the
project's root.
-/
import EditorAnalysis.Project.TextFile
import EditorAnalysis.Settings.Basic
import EditorAnalysis.Toml.Reader

namespace EditorAnalysis.Project

open Host

namespace Configuration

/-- Names and values from a source. -/
abbrev Source := List (String × Datum)

/-- The file that describes the project as a whole. -/
def projectFile : String := "pyproject.toml"

/-- The file that holds these settings only. -/
def ownFile : String := "phpstan-bridge.toml"

/-- The table of the project file in which tools have their sections. -/
def toolTable : String := "tool"

/-! ## Sources -/

/-- The entries of a TOML file; a file that is missing has none. -/
def readToml (fs : Files) (path : String) : Except Fault Source :=
  match readText? fs path with
  | .error fault => .error fault
  | .ok none => .ok []
  | .ok (some cs) =>
    match Toml.read cs with
    | .ok entries => .ok entries
    | .error .malformed => .error (.configurationMalformed path)
    | .error (.numeralTooLong digits) => .error (.numeralTooLong (some digits))
    | .error (.nestedTooDeep inside) => .error (.nestedTooDeep inside)

/-- The section for these settings among the entries of the project file. -/
def sectionOf (path : String) (entries : Source) : Except Fault Source :=
  match Assoc.get? toolTable entries with
  | some (.table tools) =>
    match Assoc.get? Fault.sectionName tools with
    | none => .ok []
    | some (.table entries) => .ok entries
    | some _ => .error (.sectionNotTable path)
  | _ => .ok []

/-- The name of a setting, whichever way it is spelled. -/
def plainName (name : String) : String :=
  String.ofList (Text.replaceChar '-' '_' name.toList)

/-- A source with every name in its plain spelling; of two spellings of one name
the later wins. -/
def plain (source : Source) : Source :=
  Assoc.ofList (source.map fun (name, value) => (plainName name, value))

/-- The overrides that hold something. -/
def effective (overrides : Source) : Source :=
  (plain (Assoc.ofList overrides)).filter fun entry => !entry.2.isNull

/-- The sources one over the other, the lowest first. -/
def merge (tableEntries own overrides : Source) : Source :=
  Assoc.overlay (Assoc.overlay (plain tableEntries) (plain own)) (effective overrides)

/-! ## Paths -/

/-- The settings that hold paths in the project. -/
def pathFields : List Settings.Field := [.configFile, .autoloadFile]

/-- A path taken from the root; other values, blank texts among them, stay. -/
def anchored (root : Path.Pure) : Datum → Datum
  | .text s =>
    if Text.isBlankText s then .text s
    else .text (root.join (Path.Pure.ofString s)).toString
  | d => d

/-- The values of the path settings taken from the root. -/
def anchorPaths (root : Path.Pure) (source : Source) : Source :=
  source.map fun (name, value) =>
    if pathFields.any fun f => f.name == name then (name, anchored root value)
    else (name, value)

/-! ## Settings -/

/-- The merged sources of the project at a root. -/
def gather (fs : Files) (root : Path.Pure) (overrides : Source) : Except Fault Source := do
  let project := (root.child projectFile).toString
  let tableEntries ← sectionOf project (← readToml fs project)
  let own ← readToml fs (root.child ownFile).toString
  return anchorPaths root (merge tableEntries own overrides)

/-- The settings of the project at a root. -/
def load (fs : Files) (root : Path.Pure) (overrides : Source) : Except Fault Settings :=
  match gather fs root overrides with
  | .error fault => .error fault
  | .ok source =>
    match Settings.ofData source with
    | .ok settings => .ok settings
    | .error issues => .error (.configurationRefused root.toString issues)

end Configuration

end EditorAnalysis.Project
