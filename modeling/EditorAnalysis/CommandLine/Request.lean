/-
EditorAnalysis.CommandLine.Request — what the words of a command line ask for.

Options of the program stand in front of a command's name; the command's own
options and operands follow it in any order. `read` gives the request, or says why
there is none: help is wanted, or the words are misused.
-/
import EditorAnalysis.CommandLine.Option
import EditorAnalysis.Execution
import EditorAnalysis.Settings.Basic

namespace EditorAnalysis.CommandLine

/-! ## Requests -/

/-- What the options of a command that analyses say. -/
structure Choices where
  /-- The project's root. -/
  root : String
  /-- The tool's executable. -/
  toolPath : Option String := none
  /-- The rule level. -/
  level : Option Int := none
  /-- How much memory the tool may use. -/
  memoryLimit : Option String := none
  /-- The tool's configuration file. -/
  configFile : Option String := none
  /-- A file that the tool loads first. -/
  autoloadFile : Option String := none
  /-- The command is printed as JSON. -/
  asJson : Bool := false
deriving DecidableEq, Repr

/-- What a command line asks for. A cache is the directory of the version cache. -/
inductive Request where
  /-- Prints the settings of the project at a root. -/
  | settings (root : String) (cache : Option String)
  /-- Asks a tool for its version. -/
  | version (tool : String) (cache : Option String)
  /-- Says whether a version can analyse a buffer in place of its file. -/
  | supports (version : String)
  /-- Prints the command that analyses a buffer: from its copy, in place of its file,
  for a tool of a version. -/
  | live (choices : Choices) (copy : String) (file version cache : Option String)
  /-- Prints the command that analyses paths, or the whole project. -/
  | batch (choices : Choices) (paths : List String) (whole : Option Bool)
deriving DecidableEq, Repr

/-- Why there is no request. -/
inductive Stop where
  /-- Help is shown, because it is asked for or because there are no words. -/
  | help (about : String) (asked : Bool)
  /-- The words are misused. -/
  | misuse
deriving DecidableEq, Repr

/-! ## Options -/

/-- What an option means. -/
inductive Key where
  | help
  | verbose
  | root
  | toolPath
  | level
  | memoryLimit
  | configFile
  | autoloadFile
  | version
  | cache
  | file
  | wholeProject
  | givenPaths
  | json
deriving DecidableEq, Repr

/-- An option that shows help. -/
def helpOption : OptionSpec Key :=
  { key := .help, long := "help", about := "Show this message and exit." }

/-- The options of the program. -/
def programOptions : List (OptionSpec Key) :=
  [{ key := .verbose, long := "verbose", letter := some 'v', about := "Enable debug logging." },
    helpOption]

/-- The option for the project's root. -/
def rootOption : OptionSpec Key :=
  { key := .root, long := "root", letter := some 'r', value := some "PATH"
    about := "Project root." }

/-- The option for the directory of the version cache. -/
def cacheOption : OptionSpec Key :=
  { key := .cache, long := "cache-dir", value := some "PATH"
    about := "Directory holding the version cache." }

/-- The options of the commands that analyse. -/
def choiceOptions : List (OptionSpec Key) :=
  [rootOption,
    { key := .toolPath, long := "tool-path", value := some "TEXT"
      about := "PHPStan executable." },
    { key := .level, long := "level", letter := some 'l', value := some "INTEGER"
      about := "Rule level." },
    { key := .memoryLimit, long := "memory-limit", value := some "TEXT"
      about := "Memory limit, e.g. 2G." },
    { key := .configFile, long := "config", letter := some 'c', value := some "TEXT"
      about := "PHPStan config file." },
    { key := .autoloadFile, long := "autoload", letter := some 'a', value := some "TEXT"
      about := "Extra autoload file." },
    { key := .json, long := "json", about := "Print the argument vector as JSON." },
    helpOption]

/-- The commands. -/
inductive Verb where
  | settings
  | version
  | supports
  | live
  | batch
deriving DecidableEq, Repr

namespace Verb

/-- All commands. -/
def all : List Verb := [settings, version, supports, live, batch]

/-- A command's name. -/
def name : Verb → String
  | settings => "settings"
  | version => "version"
  | supports => "supports"
  | live => "live"
  | batch => "batch"

/-- The command of a name. -/
def ofName? (name : String) : Option Verb := all.find? fun v => v.name == name

/-- What a command does. -/
def about : Verb → String
  | settings => "Print the resolved settings, host limits included, as JSON."
  | version => "Detect the version of TOOL_PATH and report editor mode support."
  | supports => "Exit with status 0 when VERSION supports editor mode, 1 otherwise."
  | live => "Print the on-the-fly command for an edited buffer."
  | batch => "Print the whole-set command for PATHS or the project defaults."

/-- A command's operands, as help writes them. -/
def operands : Verb → String
  | settings => ""
  | version => " TOOL_PATH"
  | supports => " VERSION"
  | live => " TMP_FILE"
  | batch => " [PATHS]..."

/-- A command's options. -/
def options : Verb → List (OptionSpec Key)
  | settings => [rootOption, cacheOption, helpOption]
  | version => [cacheOption, helpOption]
  | supports => [helpOption]
  | live =>
    [{ key := .file, long := "original", letter := some 'o', value := some "TEXT"
       about := "Real path of the buffer." },
      { key := .version, long := "phpstan-version", value := some "TEXT"
        about := "Skip detection and assume this version." },
      cacheOption] ++ choiceOptions
  | batch =>
    [{ key := .wholeProject, long := "full-project", about := "Analyse the whole project root." },
      { key := .givenPaths, long := "no-full-project"
        about := "Analyse the configured paths." }] ++ choiceOptions

end Verb

/-! ## Help -/

/-- What help calls the program. -/
def programName : String := "editor-analysis"

/-- A line of help about an option. -/
def OptionSpec.help (spec : OptionSpec Key) : String :=
  let letter := match spec.letter with
    | some c => ", -" ++ c.toString
    | none => ""
  let value := match spec.value with
    | some name => " " ++ name
    | none => ""
  "  --" ++ spec.long ++ letter ++ value ++ "  " ++ spec.about ++ "\n"

/-- Help about options. -/
def optionsHelp (specs : List (OptionSpec Key)) : String :=
  "\nOptions:\n" ++ String.join (specs.map OptionSpec.help)

/-- Help about the program. -/
def programHelp : String :=
  "Usage: " ++ programName ++ " [OPTIONS] COMMAND [ARGS]...\n\n"
    ++ "Build PHPStan command lines for editors.\n" ++ optionsHelp programOptions
    ++ "\nCommands:\n"
    ++ String.join (Verb.all.map fun v => "  " ++ v.name ++ "  " ++ v.about ++ "\n")

/-- Help about a command. -/
def Verb.help (v : Verb) : String :=
  "Usage: " ++ programName ++ " " ++ v.name ++ " [OPTIONS]" ++ v.operands ++ "\n\n"
    ++ v.about ++ "\n" ++ optionsHelp v.options

/-! ## Values -/

/-- A rule level, if the text is one. It is written as a setting's value may be. -/
def level? (text : String) : Option Int :=
  ((Settings.integerOfText text).bind
    (Settings.between Settings.minLevel Settings.maxLevel)).toOption

/-- A text can be the value of an option: a level is one, and a path holds no null
character. -/
def isValue (key : Key) (text : String) : Bool :=
  match key with
  | .level => (level? text).isSome
  | .root | .cache => !Execution.hasNull text
  | _ => true

/-- Every option's value can be used; of several values for one option, the last
counts. -/
def valuesUsable (a : Arguments Key) : Bool :=
  a.keys.all fun key => (a.value? key).all (isValue key)

/-- The project's root unless it is given: the current directory. -/
def defaultRoot : String := "."

/-- The project's root. -/
def rootOf (a : Arguments Key) : String := (a.value? .root).getD defaultRoot

/-- What the options of a command that analyses say. -/
def choices (a : Arguments Key) : Choices :=
  { root := rootOf a
    toolPath := a.value? .toolPath
    level := (a.value? .level).bind level?
    memoryLimit := a.value? .memoryLimit
    configFile := a.value? .configFile
    autoloadFile := a.value? .autoloadFile
    asJson := a.has .json }

/-- The whole project is to be analysed, or is not, as was said last. -/
def whole? (a : Arguments Key) : Option Bool :=
  let said := (a.options.map (·.1)).filter fun key => key == .wholeProject || key == .givenPaths
  said.getLast?.map (· == .wholeProject)

/-! ## Reading -/

/-- The request that a command makes of its arguments, if it has the operands it
needs and no others. -/
def Verb.request? (v : Verb) (a : Arguments Key) : Option Request :=
  match v, a.operands with
  | settings, [] => some (.settings (rootOf a) (a.value? .cache))
  | version, [tool] => some (.version tool (a.value? .cache))
  | supports, [text] => some (.supports text)
  | live, [copy] =>
    some (.live (choices a) copy (a.value? .file) (a.value? .version) (a.value? .cache))
  | batch, paths => some (.batch (choices a) paths (whole? a))
  | _, _ => none

/-- Reads the words behind a command's name. Whoever asks for help gets it, whatever
else is wrong with the values and operands. -/
def Verb.read (v : Verb) (words : List String) : Except Stop Request :=
  match Arguments.read? v.options true words with
  | none => .error .misuse
  | some a =>
    if a.has .help then .error (.help v.help true)
    else if !valuesUsable a then .error .misuse
    else (v.request? a).elim (.error .misuse) .ok

/-- Why words whose first is no command's name ask for nothing: they may ask for
help after all. -/
def unknown (words : List String) : Stop :=
  match Arguments.read? programOptions false words with
  | none => .misuse
  | some a => if a.has .help then .help programHelp true else .misuse

/-- Reads a command line. The request comes with the wish to see the whole
journal. -/
def read (words : List String) : Except Stop (Bool × Request) :=
  if words.isEmpty then .error (.help programHelp false)
  else
    match Arguments.read? programOptions false words with
    | none => .error .misuse
    | some a =>
      if a.has .help then .error (.help programHelp true)
      else match a.operands with
        | [] => .error .misuse
        | name :: rest =>
          match Verb.ofName? name with
          | none => .error (unknown (name :: rest))
          | some v => (v.read rest).map fun request => (a.has .verbose, request)

end EditorAnalysis.CommandLine
