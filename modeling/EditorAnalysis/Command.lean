/-
EditorAnalysis.Command — the words of the commands that run an analysis.

Every command begins with the shared options of the settings. A batch command
goes on with the paths to analyse; a live command analyses one unsaved buffer
from its temporary copy, in place of its file if the tool can do that. Every path
is turned into the path the analyser sees, by a function that is a parameter.
-/
import EditorAnalysis.Detection
import EditorAnalysis.Registry
import EditorAnalysis.Settings.Basic
import EditorAnalysis.Text.Given
import EditorAnalysis.Text.ShellWord
import EditorAnalysis.Version.EditorMode

namespace EditorAnalysis

/-- The words behind the tool's name. -/
abbrev Command := List String

namespace Command

/-! ## Words -/

/-- What the tool is to do. -/
def analyze : String := "analyze"

/-- Before the tool's configuration file. -/
def configOption : String := "-c"

/-- Before a file that the tool loads first. -/
def autoloadOption : String := "-a"

/-- Before a buffer's temporary copy. -/
def copyOption : String := "--tmp-file"

/-- Before the file for which the copy stands. -/
def insteadOption : String := "--instead-of"

/-- The options of every command, for a program to read what the tool prints. -/
def outputOptions : List String :=
  ["--error-format=checkstyle", "--no-progress", "--no-ansi", "--no-interaction"]

/-- The configuration file, or else the rule level. -/
def ruleOptions (s : Settings) (map : String → String) : List String :=
  match Text.given? s.configFile with
  | some file => [configOption, map file]
  | none => ["--level=" ++ toString s.level]

/-- The file that the tool loads first. -/
def autoloadOptions (s : Settings) (map : String → String) : List String :=
  match Text.given? s.autoloadFile with
  | some file => [autoloadOption, map file]
  | none => []

/-- The options that every command begins with. -/
def shared (s : Settings) (map : String → String) : Command :=
  analyze :: (ruleOptions s map ++ autoloadOptions s map
    ++ ("--memory-limit=" ++ s.memoryLimit) :: outputOptions)

/-- The command that analyses paths; paths that are not known are left out. -/
def batch (s : Settings) (map : String → String) (paths : List (Option String)) : Command :=
  shared s map ++ (paths.filterMap id).map map

/-- The end of a live command: the buffer in place of its file, if the tool
supports that and both are known, else the temporary copy alone. -/
def liveTail (map : String → String) (inPlace : Bool) (copy file : Option String) :
    List String :=
  match Text.given? copy with
  | none => []
  | some copy =>
    match inPlace, Text.given? file with
    | true, some file => [copyOption, map copy, insteadOption, map file, map file]
    | _, _ => [map copy]

/-- What a batch command should analyse: the whole project, or what the tool's
configuration file says, or the source directories. -/
def targets (s : Settings) (file root : Option String) (sources : List String) :
    List (Option String) :=
  if s.analyzeFullProject then [file, root]
  else if (Text.given? s.configFile).isSome then []
  else sources.map some

/-- The tool, if there is one, and the words behind it. -/
def withTool (tool : String) (command : Command) : List String :=
  if tool = "" then command else tool :: command

/-- The command line, as a shell reads it back. -/
def line (tool : String) (command : Command) : String :=
  Text.ShellWord.join (withTool tool command)

/-! ## Commands that may ask the tool -/

/-- The settings, the world and the journal of work in progress. -/
structure Progress (σ : Type) where
  /-- The settings. -/
  settings : Settings
  /-- The world in which detectors work. -/
  world : σ
  /-- What the journal was told, oldest first. -/
  journal : List Journal.Entry := []

variable {σ : Type}

/-- The tool's version: as the settings know it, or else as a detector finds it
out, in which case the settings keep it. -/
def resolveVersion (detector : Detector σ) (p : Progress σ) : Option String × Progress σ :=
  match p.settings.detectedVersion with
  | some version => (some version, p)
  | none =>
    if p.settings.toolPath = "" then (none, p)
    else
      let found := detector p.settings.toolPath p.world
      match found.version with
      | none => (none, { p with world := found.world, journal := p.journal ++ found.journal })
      | some version =>
        (some version,
          { settings := p.settings.rememberVersion (some version)
            world := found.world
            journal := p.journal ++ found.journal
              ++ [⟨.info, "Auto-detected and stored PHPStan version: " ++ version⟩] })

/-- The command that analyses a buffer from its temporary copy. -/
def live (detector : Detector σ) (map : String → String) (copy file : Option String)
    (p : Progress σ) : Command × Progress σ :=
  let (version, q) := resolveVersion detector p
  let command := shared p.settings map
    ++ liveTail map (EditorMode.supported version) copy file
  (command,
    { q with
      journal := q.journal
        ++ [⟨.info, "PHPStan command: " ++ line q.settings.toolPath command⟩] })

/-- One request of an editor. -/
structure Request where
  /-- A buffer's temporary copy, or the file that gave rise to the request. -/
  file : Option String
  /-- A buffer is analysed, and not a whole set. -/
  onTheFly : Bool
  /-- The project's root. -/
  root : Option String := none
  /-- The project's source directories. -/
  sources : List String := []

/-- The command for a request. A buffer's file is looked up in the registry. -/
def ofRequest (detector : Detector σ) (map : String → String) (registry : Registry)
    (r : Request) (p : Progress σ) : Command × Progress σ :=
  if r.onTheFly then live detector map r.file (registry.resolve r.file) p
  else (batch p.settings map (targets p.settings r.file r.root r.sources), p)

end Command

end EditorAnalysis
