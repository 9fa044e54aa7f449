/-
EditorAnalysis.Fault — what can go wrong, by cause.

Each cause carries what its message needs; `Fault.message` is the wording.
-/
import EditorAnalysis.Host.Errno
import EditorAnalysis.Host.Seconds
import EditorAnalysis.Settings.Issue
import EditorAnalysis.Text.Given
import EditorAnalysis.Text.ReadFault

namespace EditorAnalysis

/-- The cause of a failure. -/
inductive Fault where
  /-- Settings were given values that they refuse. -/
  | settingsRefused (issues : List Settings.Issue)
  /-- A value was to be assigned to what follows from the settings. -/
  | settingDerived (name : String)
  /-- A configuration file is not well formed. -/
  | configurationMalformed (file : String)
  /-- The files and overrides of a project give settings values that they refuse. -/
  | configurationRefused (root : String) (issues : List Settings.Issue)
  /-- The section for these settings is not a table. -/
  | sectionNotTable (file : String)
  /-- A text file is not valid UTF-8. -/
  | notUtf8
  /-- A number is too long to be read, and has so many digits; or it is too long to be
  written. -/
  | numeralTooLong (digits : Option Nat)
  /-- Too many values lie within each other in a file. -/
  | nestedTooDeep (inside : Option Text.Nesting)
  /-- The time limit is too large for a number of seconds. -/
  | limitTooLarge
  /-- A program cannot be waited for until its limit. -/
  | limitUnusable (excess : Host.Seconds.Excess)
  /-- A command without a program was to be run. -/
  | commandMissing
  /-- The program of a command is not on the search path. -/
  | commandNotFound (name : String)
  /-- A command ended with a status other than zero. -/
  | commandFailed (command : List String) (status : Int) (output diagnostics : Option String)
  /-- A text for the operating system holds the character U+0000. -/
  | nullCharacter
  /-- The name of an environment variable holds an equals sign. -/
  | variableNameMalformed
  /-- The operating system refused a request about a path. -/
  | refusedBySystem (reason : Host.Errno) (path : String)
deriving DecidableEq, Repr

namespace Fault

/-- The name of the section for these settings. -/
def sectionName : String := "phpstan-bridge"

/-- The name under which refused settings are reported. -/
def settingsTitle : String := "AnalyzerSettings"

/-- How many issues there are, in words. -/
def issueCount (issues : List Settings.Issue) : String :=
  let n := issues.length
  toString n ++ (if n = 1 then " validation error for " else " validation errors for ")
    ++ settingsTitle

/-- A command's program, for a message. -/
def program (command : List String) : String := command.head?.getD ""

/-- What a reader of JSON was in the middle of, in words. -/
def nestingName : Text.Nesting → String
  | .array => "array"
  | .object => "object"

/-- Why a program cannot be waited for, in words. -/
def excessText : Host.Seconds.Excess → String
  | .beyondNumbers => "int too large to convert to float"
  | .endless => "cannot convert float infinity to integer"
  | .notNumber => "cannot convert float NaN to integer"
  | .beyondClock => "timestamp too large to convert to C _PyTime_t"
  | .beyondWait => "timeout is too large"

/-- The wording. -/
def message : Fault → String
  | settingsRefused issues => issueCount issues
  | settingDerived name =>
    "property '" ++ name ++ "' of '" ++ settingsTitle ++ "' object has no setter"
  | configurationMalformed file => "Invalid TOML in " ++ file
  | configurationRefused root issues =>
    "Invalid settings for " ++ root ++ ": " ++ issueCount issues
  | sectionNotTable file => "[tool." ++ sectionName ++ "] in " ++ file ++ " must be a table"
  | notUtf8 => "the text is not valid UTF-8"
  | numeralTooLong digits =>
    "Exceeds the limit (" ++ toString Text.Numeral.maxDigits
      ++ " digits) for integer string conversion"
      ++ (digits.map fun n => ": value has " ++ toString n ++ " digits").getD ""
      ++ "; use sys.set_int_max_str_digits() to increase the limit"
  | nestedTooDeep inside =>
    "maximum recursion depth exceeded" ++ (inside.map fun n =>
      " while decoding a JSON " ++ nestingName n ++ " from a unicode string").getD ""
  | limitTooLarge => "integer division result too large for a float"
  | limitUnusable excess => excessText excess
  | commandMissing => "subprocess command requires at least one argument"
  | commandNotFound name => "Executable '" ++ name ++ "' was not found on PATH"
  | commandFailed command status _ diagnostics =>
    "Command '" ++ program command ++ "' exited with status " ++ toString status
      ++ ". stderr: " ++ (Text.given? diagnostics).getD "<none>"
  | nullCharacter => "embedded null byte"
  | variableNameMalformed => "illegal environment variable name"
  | refusedBySystem reason path => reason.message path

/-- The settings' own objections, where the fault consists of them. -/
def issues? : Fault → Option (List Settings.Issue)
  | settingsRefused issues => some issues
  | configurationRefused _ issues => some issues
  | _ => none

end Fault

end EditorAnalysis
