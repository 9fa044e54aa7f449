/-
EditorAnalysis.CommandLine.Run — performing what a command line asks for.

`run` reads the words, performs the request in the surroundings that it finds, and
reports: the status to exit with, what is printed, and what the journal is told. A
configuration that cannot be used is told to the user; any other fault ends the run
with nothing printed, and the report says which fault it was.
-/
import EditorAnalysis.Command
import EditorAnalysis.CommandLine.Request
import EditorAnalysis.Console
import EditorAnalysis.Json.Writer
import EditorAnalysis.Project.Configuration
import EditorAnalysis.Project.VersionCache

namespace EditorAnalysis.CommandLine

open Host
open Project (Configuration.Source)

/-! ## Reports -/

/-- What a run comes to. -/
structure Report where
  /-- The status to exit with. -/
  status : Nat
  /-- What is printed. -/
  output : String := ""
  /-- What the journal is told, oldest first. -/
  journal : List Journal.Entry := []
  /-- What stopped the run, if something did. -/
  fault : Option Fault := none

namespace Report

/-- The status of a run that did what it should. -/
def success : Nat := 0

/-- The status of a run with a negative answer, and of one that a fault stopped. -/
def failure : Nat := 1

/-- The status of a run that could not start: its words or its configuration cannot
be used. -/
def unusable : Nat := 2

/-- The fault is one of the project's configuration. -/
def isConfigurational : Fault → Bool
  | .configurationMalformed _ => true
  | .configurationRefused .. => true
  | .sectionNotTable _ => true
  | _ => false

/-- A line to the user. -/
def say (out : Console.Output) (kind : Console.Kind) (text : String) : String :=
  Console.write out { kind, text }

/-- The report of a run that a fault stopped. -/
def ofFault (out : Console.Output) (fault : Fault) : Report :=
  if isConfigurational fault then
    { status := unusable, output := say out .fail fault.message, fault := some fault }
  else { status := failure, fault := some fault }

/-- The report of a run without a request. -/
def ofStop : Stop → Report
  | .help about asked => { status := if asked then success else unusable, output := about }
  | .misuse => { status := unusable }

/-- The report of a run that printed a text. -/
def printed (output : String) : Report := { status := success, output }

/-- The report with entries that the journal was told before. -/
def after (entries : List Journal.Entry) (r : Report) : Report :=
  { r with journal := entries ++ r.journal }

end Report

/-- What programs may print where: codes for the terminal go to terminals only. -/
def plainly (out : Console.Output) (text : String) : String :=
  if out.isTerminal then text else Console.dropCodes text

/-! ## Settings -/

/-- The version for which the cache stands in, if the settings know none. -/
def fromCache (s : Surroundings) (cache : Option String) (settings : Settings) :
    Except Fault Settings :=
  match settings.detectedVersion, cache with
  | none, some directory =>
    (Project.VersionCache.load s.toFiles (Path.Pure.ofString directory)).map
      settings.rememberVersion
  | _, _ => .ok settings

/-- The settings of the project at a root, overrides and the cache included. -/
def load (s : Surroundings) (root : String) (cache : Option String)
    (overrides : Configuration.Source) : Except Fault Settings :=
  (Project.Configuration.load s.toFiles (s.resolve (Path.Pure.ofString root)) overrides).bind
    (fromCache s cache)

/-- Keeps a version in a cache. -/
def keep (s : Surroundings) (directory version : String) : Except Fault Surroundings :=
  (Project.VersionCache.save s.toFiles (Path.Pure.ofString directory) (some version)).map
    fun files => { s with toFiles := files }

/-- A text that is given, as a value for a setting. -/
def givenText (text : Option String) : Datum := (text.map Datum.text).getD .null

/-- What the options of a command that analyses say about the settings. -/
def Choices.overrides (c : Choices) : Configuration.Source :=
  [(Settings.Field.toolPath.name, givenText c.toolPath),
    (Settings.Field.level.name, (c.level.map Datum.integer).getD .null),
    (Settings.Field.memoryLimit.name, givenText c.memoryLimit),
    (Settings.Field.configFile.name, givenText c.configFile),
    (Settings.Field.autoloadFile.name, givenText c.autoloadFile)]

/-! ## Printing -/

/-- A datum as JSON. Settings hold neither lists nor tables. -/
def scalar : Datum → Json.Value
  | .boolean b => .boolean b
  | .integer n => Json.Value.integer n
  | .real x => .number x.render.toList
  | .text s => Json.Value.text s
  | _ => .null

/-- Under which name the settings show their time limit in seconds. -/
def secondsName : String := "timeout_seconds"

/-- The settings as JSON, sorted by name, with the time limit in seconds. -/
def settingsText (settings : Settings) (seconds : Number.Binary64) : String :=
  let entries := settings.dump ++ [(secondsName, .real seconds)]
  let sorted := entries.mergeSort fun a b => a.1 ≤ b.1
  (Json.Value.object (sorted.map fun (name, d) => (Json.Units.ofString name, scalar d))).indented
    ++ "\n"

/-- The datum is an integer with more digits than a numeral may have. -/
def isLongInteger : Datum → Bool
  | .integer n => Text.Numeral.maxDigits < (Text.Numeral.write n.natAbs).length
  | _ => false

/-- A command as it is printed: one line for a shell, or JSON. -/
def commandText (out : Console.Output) (asJson : Bool) (tool : String) (command : Command) :
    String :=
  if asJson then (Json.Value.texts (Command.withTool tool command)).compact ++ "\n"
  else plainly out (Command.line tool command ++ "\n")

/-! ## The commands -/

/-- Prints the settings of a project. -/
def performSettings (out : Console.Output) (s : Surroundings) (root : String)
    (cache : Option String) : Report :=
  match load s root cache [] with
  | .error fault => .ofFault out fault
  | .ok settings =>
    match settings.timeoutSeconds? with
    | none => .ofFault out .limitTooLarge
    | some seconds =>
      if settings.dump.any fun entry => isLongInteger entry.2 then
        .ofFault out (.numeralTooLong none)
      else .printed (settingsText settings seconds)

/-- What is said about a tool's version. -/
def versionText (out : Console.Output) (version : String) : String :=
  Report.say out .ok ("PHPStan " ++ version)
    ++ if EditorMode.supported (some version) then
        Report.say out .info "Editor mode (--tmp-file/--instead-of) is supported."
      else
        Report.say out .warn
          "Editor mode is not supported; buffers are analysed from their temp copies."

/-- Asks a tool for its version, and keeps it in the cache. -/
def performVersion (detector : Detector Surroundings) (out : Console.Output) (s : Surroundings)
    (tool : String) (cache : Option String) : Report × Surroundings :=
  let found := detector tool s
  match found.version with
  | none =>
    ({ status := Report.failure
       output := Report.say out .fail ("Could not determine PHPStan version from " ++ tool)
       journal := found.journal }, found.world)
  | some version =>
    let told := (Report.printed (versionText out version)).after found.journal
    match cache with
    | none => (told, found.world)
    | some directory =>
      match keep found.world directory version with
      | .error fault => ((Report.ofFault out fault).after found.journal, found.world)
      | .ok s => (told, s)

/-- Says whether a version can analyse a buffer in place of its file. -/
def performSupports (out : Console.Output) (version : String) : Report :=
  match Version.parse? version with
  | none =>
    { status := Report.unusable
      output := Report.say out .fail ("Unparseable version: " ++ version) }
  | some _ =>
    if EditorMode.supported (some version) then
      .printed (Report.say out .ok (version ++ " supports editor mode"))
    else
      { status := Report.failure
        output := Report.say out .warn (version ++ " does not support editor mode") }

/-- The directory and the version to keep in it: a version that was found out just
now, if there is a cache. -/
def toKeep? (cache : Option String) (before after : Settings) : Option (String × String) :=
  match cache, before.detectedVersion, after.detectedVersion with
  | some directory, none, some version => some (directory, version)
  | _, _, _ => none

/-- Prints the command that analyses a buffer, and keeps a version that it had to
find out. -/
def performLive (detector : Detector Surroundings) (out : Console.Output) (s : Surroundings)
    (c : Choices) (copy : String) (file version cache : Option String) :
    Report × Surroundings :=
  let overrides := c.overrides ++ [(Settings.Field.detectedVersion.name, givenText version)]
  match load s c.root cache overrides with
  | .error fault => (.ofFault out fault, s)
  | .ok settings =>
    let (command, p) := Command.live detector id (some copy) file { settings, world := s }
    let told :=
      (Report.printed (commandText out c.asJson p.settings.toolPath command)).after p.journal
    match toKeep? cache settings p.settings with
    | none => (told, p.world)
    | some (directory, version) =>
      match keep p.world directory version with
      | .error fault => ((Report.ofFault out fault).after p.journal, p.world)
      | .ok s => (told, s)

/-- What a batch command analyses: the paths that are given, or else what the
settings say. -/
def batchTargets (s : Surroundings) (settings : Settings) (root : String) :
    List String → List (Option String)
  | [] =>
    let root := (s.resolve (Path.Pure.ofString root)).toString
    Command.targets settings none (some root) [root]
  | paths => paths.map some

/-- Prints the command that analyses paths or the whole project. -/
def performBatch (out : Console.Output) (s : Surroundings) (c : Choices) (paths : List String)
    (whole : Option Bool) : Report :=
  let overrides := c.overrides
    ++ [(Settings.Field.analyzeFullProject.name, (whole.map Datum.boolean).getD .null)]
  match load s c.root none overrides with
  | .error fault => .ofFault out fault
  | .ok settings =>
    let command := Command.batch settings id (batchTargets s settings c.root paths)
    .printed (commandText out c.asJson settings.toolPath command)

/-! ## Running -/

/-- Performs a request, with a detector for versions that are not known. -/
def perform (detector : Detector Surroundings) (out : Console.Output) (s : Surroundings) :
    Request → Report × Surroundings
  | .settings root cache => (performSettings out s root cache, s)
  | .version tool cache => performVersion detector out s tool cache
  | .supports version => (performSupports out version, s)
  | .live choices copy file version cache =>
    performLive detector out s choices copy file version cache
  | .batch choices paths whole => (performBatch out s choices paths whole, s)

/-- The report with the entries that the journal shows. -/
def Report.shown (verbose : Bool) (r : Report) : Report :=
  { r with journal := Journal.atLeast (Journal.setup verbose).threshold r.journal }

/-- Runs a command line: reads its words and performs what they ask for. -/
def run (detector : Detector Surroundings) (out : Console.Output) (s : Surroundings)
    (words : List String) : Report × Surroundings :=
  match read words with
  | .error stop => (.ofStop stop, s)
  | .ok (verbose, request) =>
    let (report, s) := perform detector out s request
    (report.shown verbose, s)

end EditorAnalysis.CommandLine
