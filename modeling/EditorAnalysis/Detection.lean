/-
EditorAnalysis.Detection — asking a tool for its version.

A detector answers with a tool's version or with nothing, tells the journal what
it did, and may change the world it works in. `detect` runs the tool: every failure
of the tool is a journal entry and the answer nothing, so that only a limit which
cannot be waited for is a fault. `running` is the detector with the default limit.
-/
import EditorAnalysis.Execution
import EditorAnalysis.Journal
import EditorAnalysis.Version.Extract

namespace EditorAnalysis

open Host

/-- What a detector found out, what it tells, and the world it leaves. -/
structure Finding (σ : Type) where
  /-- The tool's version, if it was found out. -/
  version : Option String
  /-- What the journal is told. -/
  journal : List Journal.Entry
  /-- The world afterwards. -/
  world : σ

/-- A way of asking the tool at a path for its version. -/
abbrev Detector (σ : Type) := String → σ → Finding σ

namespace Detection

/-- The option that makes a tool print its version. -/
def versionOption : String := "--version"

/-- How long a tool may take to answer. -/
def defaultLimit : Seconds := .real (.ofRatio false 5 1)

/-- The command that asks a tool for its version. -/
def request (tool : String) (limit : Seconds) : Execution.Request :=
  { command := [tool, versionOption], check := false, merge := true, limit := some limit }

/-- The version in an answer, and what the journal is told about it. -/
def judge (limit : Seconds) : Except Fault Execution.Completed → Option String × Journal.Entry
  | .error fault => (none, ⟨.warning, "Failed to detect PHPStan version: " ++ fault.message⟩)
  | .ok c =>
    let output := c.output.getD ""
    if c.stoppedAt.isSome then
      (none, ⟨.warning, "PHPStan version detection timed out after " ++ limit.fixed 0
        ++ " seconds"⟩)
    else if c.status ≠ 0 then
      (none, ⟨.warning, "PHPStan --version exited with code " ++ toString c.status ++ ": "
        ++ output⟩)
    else match Version.extract? output with
      | none => (none, ⟨.warning, "Could not parse PHPStan version from output: " ++ output⟩)
      | some version => (some version, ⟨.info, "Auto-detected PHPStan version: " ++ version⟩)

/-- What the journal is told before a tool is asked. -/
def announcement (tool : String) : Journal.Entry :=
  ⟨.info, "Attempting to auto-detect PHPStan version from: " ++ tool⟩

/-- Whether a fault is left to the caller: a limit is the caller's own choice. A limit that
is no number counts as a failure like any other. -/
def isCallers : Fault → Bool
  | .limitUnusable excess => excess ≠ .notNumber
  | _ => false

/-- Asks a tool for its version by running it. -/
def detect (programs : Programs) (limit : Seconds) (tool : String) (s : Surroundings) :
    Except Fault (Finding Surroundings) :=
  let (result, after) := Execution.run programs s (request tool limit)
  let (version, entry) := judge limit result
  let finding := { version, journal := [announcement tool, entry], world := after }
  match result with
  | .error fault => if isCallers fault then .error fault else .ok finding
  | .ok _ => .ok finding

/-- The detector that runs the tool. Its limit can be waited for. -/
def running (programs : Programs) : Detector Surroundings := fun tool s =>
  match detect programs defaultLimit tool s with
  | .ok finding => finding
  | .error _ => { version := none, journal := [announcement tool], world := s }

end Detection

/-- The answers that a detector gives from a list, the last one again and again,
and the tools it was asked about. -/
structure Script where
  /-- The answers to come. -/
  answers : List (Option String)
  /-- The tools it was asked about, first to last. -/
  asked : List String := []
deriving DecidableEq, Repr

namespace Script

/-- The answers behind the first, unless it is the last one. -/
def later : List (Option String) → List (Option String)
  | [] => []
  | [answer] => [answer]
  | _ :: rest => rest

/-- The detector that gives the answers of a script. -/
def detector : Detector Script := fun tool s =>
  { version := s.answers.head?.join
    journal := []
    world := ⟨later s.answers, s.asked ++ [tool]⟩ }

end Script

end EditorAnalysis
