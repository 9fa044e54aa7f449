/-
EditorAnalysis.Main — the program.

The files that a command line concerns are read from the disk, the run is performed on
them, and the files that it has changed are written back. What a tool does is found out
by performing its script.
-/
import EditorAnalysis.CommandLine.Footprint
import EditorAnalysis.Shell.Programs

namespace EditorAnalysis.Main

open Host

/-- The mode of a file on the disk: whoever asks may run it. -/
def diskMode : Nat := 0o755

/-- The surroundings with a file as it is on the disk, if there is one. -/
def withFile (s : Surroundings) (path : String) : IO Surroundings := do
  match ← (IO.FS.readBinFile path).toBaseIO with
  | .ok bytes =>
    let place := (s.resolve (Path.Pure.ofString path)).components
    return { s with tree := s.tree.plant place (.file bytes.toList diskMode) }
  | .error _ => return s

/-- The directories in which commands are looked up: none if an empty search path is set. -/
def searchPath : Option String → List String
  | none => Execution.defaultSearchPath
  | some text => if text = "" then [] else Execution.directoriesIn text

/-- The surroundings in which the program is started: its directory and its search
path, and the programs of the system. -/
def start : IO Surroundings := do
  let directory := Path.Pure.names (← IO.currentDir).toString.toList
  let path ← IO.getEnv "PATH"
  return { tree := Shell.systemTree.plant directory .directory
           directory
           searchPath := searchPath path
           environment := path.toList.map fun text => ("PATH", text) }

/-- The surroundings with the files that a request concerns. -/
def withFilesOf (s : Surroundings) (r : CommandLine.Request) : IO Surroundings := do
  let s ← (r.files s).foldlM withFile s
  (r.toolFiles s).foldlM withFile s

/-- Writes the files that a run has changed. -/
def writeChanges (before after : Tree) : IO Unit :=
  (CommandLine.changes before after).forM fun (place, content) => do
    IO.FS.createDirAll (⟨.root, place.dropLast⟩ : Path.Pure).toString
    IO.FS.writeBinFile (⟨.root, place⟩ : Path.Pure).toString (ByteArray.mk content.toArray)

/-- Prints what a run reports; the journal and a fault go to the diagnostics. -/
def print (r : CommandLine.Report) : IO Unit := do
  IO.print r.output
  r.journal.forM fun e => IO.eprintln (e.level.name ++ " " ++ e.message)
  match r.fault with
  | some fault => if r.output = "" then IO.eprintln fault.message
  | none =>
    if r.status = CommandLine.Report.unusable && r.output = "" then
      IO.eprintln "These words ask for nothing; --help shows which do."

end EditorAnalysis.Main

open EditorAnalysis in
/-- Runs a command line. -/
def main (words : List String) : IO UInt32 := do
  let s ← Main.start
  let s ← match CommandLine.read words with
    | .ok (_, request) => Main.withFilesOf s request
    | .error _ => pure s
  let out : Console.Output := if ← (← IO.getStdout).isTty then .terminal else .plain
  let detector := Detection.running Shell.programs
  let (report, after) := CommandLine.run detector out s words
  Main.writeChanges s.tree after.tree
  Main.print report
  return report.status.toUInt32
