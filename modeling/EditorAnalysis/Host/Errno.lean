/-
EditorAnalysis.Host.Errno — why the operating system refuses a request.
-/
import EditorAnalysis.Text.Printable

namespace EditorAnalysis.Host

/-- The reason of a refusal. -/
inductive Errno where
  /-- Nothing is there. -/
  | noEntry
  /-- The file is no program. -/
  | badFormat
  /-- The request is not permitted. -/
  | denied
  /-- Something is there already. -/
  | entryExists
  /-- A directory is wanted. -/
  | notDirectory
  /-- A directory is not wanted. -/
  | isDirectory
  /-- A name is longer than names may be. -/
  | nameTooLong
  /-- A link leads to itself. -/
  | linkLoop
  /-- A directory has something in it. -/
  | notEmpty
  /-- An argument makes no sense. -/
  | invalid
  /-- A descriptor leads nowhere. -/
  | badDescriptor
  /-- There is no room. -/
  | noSpace
  /-- There is no such process. -/
  | noProcess
  /-- There is no such device. -/
  | noDevice
deriving DecidableEq, Repr

namespace Errno

/-- The number of a reason. -/
def number : Errno → Nat
  | noEntry => 2
  | badFormat => 8
  | denied => 13
  | entryExists => 17
  | notDirectory => 20
  | isDirectory => 21
  | nameTooLong => 36
  | linkLoop => 40
  | notEmpty => 39
  | invalid => 22
  | badDescriptor => 9
  | noSpace => 28
  | noProcess => 3
  | noDevice => 6

/-- The reason in words. -/
def text : Errno → String
  | noEntry => "No such file or directory"
  | badFormat => "Exec format error"
  | denied => "Permission denied"
  | entryExists => "File exists"
  | notDirectory => "Not a directory"
  | isDirectory => "Is a directory"
  | nameTooLong => "File name too long"
  | linkLoop => "Too many levels of symbolic links"
  | notEmpty => "Directory not empty"
  | invalid => "Invalid argument"
  | badDescriptor => "Bad file descriptor"
  | noSpace => "No space left on device"
  | noProcess => "No such process"
  | noDevice => "No such device or address"

/-- The refusal of a request that concerns a path. -/
def message (e : Errno) (path : String) : String :=
  "[Errno " ++ toString e.number ++ "] " ++ e.text ++ ": " ++ Text.shown path

end Errno

end EditorAnalysis.Host
