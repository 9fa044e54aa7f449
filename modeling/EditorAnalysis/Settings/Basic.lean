/-
EditorAnalysis.Settings.Basic — the settings of an analysis.

Nine fields, each with its own reading of a datum. `Settings.assign` reads one
field's value; `Settings.ofData` starts from the defaults and assigns every field
that the data name, so a value is accepted on construction exactly when it is
accepted on assignment.
-/
import EditorAnalysis.Assoc
import EditorAnalysis.Fault
import EditorAnalysis.Settings.Coerce

namespace EditorAnalysis

/-- The tool's location and the options it is run with. -/
structure Settings where
  /-- The tool's executable; empty when none is configured. -/
  toolPath : String := ""
  /-- The tool's version, once it is known. -/
  detectedVersion : Option String := none
  /-- The rule level. -/
  level : Int := 4
  /-- The tool's own configuration file. -/
  configFile : Option String := none
  /-- A file the tool loads before the analysis. -/
  autoloadFile : Option String := none
  /-- How much memory the tool may use. -/
  memoryLimit : String := "2G"
  /-- The whole project is analysed, not only the given files. -/
  analyzeFullProject : Bool := false
  /-- For how many milliseconds the host lets an analysis run. -/
  timeoutMs : Int := 30000
  /-- How many messages per file the host reports. -/
  maxMessagesPerFile : Int := 50
deriving DecidableEq, Repr

namespace Settings

/-- The names of the fields. -/
inductive Field where
  | toolPath
  | detectedVersion
  | level
  | configFile
  | autoloadFile
  | memoryLimit
  | analyzeFullProject
  | timeoutMs
  | maxMessagesPerFile
deriving DecidableEq, Repr

namespace Field

/-- The fields in the order in which their values are checked. -/
def all : List Field :=
  [toolPath, detectedVersion, level, configFile, autoloadFile, memoryLimit,
    analyzeFullProject, timeoutMs, maxMessagesPerFile]

/-- The name under which sources set a field. -/
def name : Field → String
  | toolPath => "tool_path"
  | detectedVersion => "detected_version"
  | level => "level"
  | configFile => "config_file"
  | autoloadFile => "autoload_file"
  | memoryLimit => "memory_limit"
  | analyzeFullProject => "analyze_full_project"
  | timeoutMs => "timeout_ms"
  | maxMessagesPerFile => "max_messages_per_file"

/-- The field of a name. -/
def ofName? (name : String) : Option Field := all.find? fun f => f.name == name

end Field

/-- The least rule level. -/
def minLevel : Int := 0

/-- The greatest rule level. -/
def maxLevel : Int := 9

/-- Gives a field the value that a datum holds, or says why it refuses. -/
def assign (s : Settings) (f : Field) (d : Datum) : Except Reason Settings :=
  match f with
  | .toolPath => (asText (trimmed d)).map fun v => { s with toolPath := v }
  | .detectedVersion =>
    (asOptionalText (blankAsUnset d)).map fun v => { s with detectedVersion := v }
  | .level =>
    ((asInteger d).bind (between minLevel maxLevel)).map fun v => { s with level := v }
  | .configFile => (asOptionalText (blankAsUnset d)).map fun v => { s with configFile := v }
  | .autoloadFile =>
    (asOptionalText (blankAsUnset d)).map fun v => { s with autoloadFile := v }
  | .memoryLimit => (asText (trimmed d)).map fun v => { s with memoryLimit := v }
  | .analyzeFullProject => (asTruth d).map fun v => { s with analyzeFullProject := v }
  | .timeoutMs => ((asInteger d).bind (aboveBound 0)).map fun v => { s with timeoutMs := v }
  | .maxMessagesPerFile =>
    ((asInteger d).bind (aboveBound 0)).map fun v => { s with maxMessagesPerFile := v }

/-- The names of what follows from the fields, which cannot be assigned to. -/
def derivedNames : List String :=
  ["timeout_seconds", "is_configured", "model_extra", "model_fields_set", "__fields_set__"]

/-- A name begins so when whoever assigns to it keeps a note of their own, which no field
and no command ever shows. -/
def noteMark : Char := '_'

/-- Assigns to the field of a name. Notes are taken and forgotten; what follows from the
fields refuses every value. -/
def assignNamed (s : Settings) (name : String) (d : Datum) : Except Fault Settings :=
  match Field.ofName? name with
  | some f =>
    match s.assign f d with
    | .ok s => .ok s
    | .error reason => .error (.settingsRefused [⟨name, reason⟩])
  | none =>
    if derivedNames.contains name then .error (.settingDerived name)
    else if name.toList.head? == some noteMark then .ok s
    else .error (.settingsRefused [⟨name, .noSuchField name⟩])

/-- Assigns a field's value, if the data name the field, and notes a refusal. -/
def take (data : List (String × Datum)) (progress : Settings × List Issue) (f : Field) :
    Settings × List Issue :=
  match Assoc.get? f.name data with
  | none => progress
  | some d =>
    match progress.1.assign f d with
    | .ok s => (s, progress.2)
    | .error reason => (progress.1, progress.2 ++ [⟨f.name, reason⟩])

/-- The names in the data that no field has. -/
def unknownNames (data : List (String × Datum)) : List Issue :=
  (data.filter fun entry => (Field.ofName? entry.1).isNone).map fun entry =>
    ⟨entry.1, .unknown⟩

/-- The settings that the data describe, fields that they do not name having
their defaults; or every issue, fields first, then unknown names. -/
def ofData (pairs : List (String × Datum)) : Except (List Issue) Settings :=
  let data := Assoc.ofList pairs
  let (s, issues) := Field.all.foldl (take data) ({}, [])
  let issues := issues ++ unknownNames data
  if issues.isEmpty then .ok s else .error issues

/-- The value of a field as a datum. -/
def get (s : Settings) : Field → Datum
  | .toolPath => .text s.toolPath
  | .detectedVersion => (s.detectedVersion.map Datum.text).getD .null
  | .level => .integer s.level
  | .configFile => (s.configFile.map Datum.text).getD .null
  | .autoloadFile => (s.autoloadFile.map Datum.text).getD .null
  | .memoryLimit => .text s.memoryLimit
  | .analyzeFullProject => .boolean s.analyzeFullProject
  | .timeoutMs => .integer s.timeoutMs
  | .maxMessagesPerFile => .integer s.maxMessagesPerFile

/-- Every field's name with its value. -/
def dump (s : Settings) : List (String × Datum) := Field.all.map fun f => (f.name, s.get f)

/-- Keeps the tool's version; nothing and a blank text make it unknown. -/
def rememberVersion (s : Settings) (version : Option String) : Settings :=
  { s with detectedVersion := version.filter fun v => !Text.isBlankText v }

/-- A tool is configured. -/
def isConfigured (s : Settings) : Bool := s.toolPath ≠ ""

/-- The time limit in seconds, unless it is beyond the range of the number type. -/
def timeoutSeconds? (s : Settings) : Option Number.Binary64 :=
  let seconds := Number.Binary64.ofRatio (s.timeoutMs < 0) s.timeoutMs.natAbs 1000
  if seconds.isFinite then some seconds else none

end Settings

end EditorAnalysis
