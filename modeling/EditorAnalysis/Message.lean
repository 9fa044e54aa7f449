/-
EditorAnalysis.Message — what the tool says, and what is made of it.

A tool check prints a text that should name the tool and its version; the version
is then kept in the settings. While it analyses, the tool may also print advice
that concerns nobody.
-/
import EditorAnalysis.Settings.Basic
import EditorAnalysis.Version.Basic
import EditorAnalysis.Version.Extract

namespace EditorAnalysis.Message

/-- The version that a tool check reports: the tool names itself, and the version
is one that can be read. -/
def reportedVersion? (message : String) : Option String :=
  (Version.extract? message).filter fun version =>
    (Version.parse? version).isSome && Version.namesTool message

/-- What a tool check comes to. -/
structure Verdict where
  /-- The tool is usable. -/
  accepted : Bool
  /-- The verdict in words. -/
  text : String
deriving DecidableEq, Repr

/-- The verdict on a message. -/
def verdict (message : String) : Verdict :=
  if (reportedVersion? message).isSome then ⟨true, "OK, " ++ message⟩
  else ⟨false, "Can not determine version. Output: " ++ message⟩

/-- Judges a message and keeps the version it reports; a message without one
makes the version unknown. -/
def validate (message : String) (s : Settings) : Verdict × Settings :=
  (verdict message, s.rememberVersion (reportedVersion? message))

/-- Advice that the tool prints about a debugger. -/
def debuggerAdvice : String :=
  "The Xdebug PHP extension is active, but \"--xdebug\" is not used"

/-- The message concerns the user. -/
def concernsUser (message : String) : Bool := !Text.contains message debuggerAdvice

end EditorAnalysis.Message
