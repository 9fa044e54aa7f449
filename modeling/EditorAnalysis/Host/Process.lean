/-
EditorAnalysis.Host.Process — what a program does while it runs.

An episode is the life of one process: what it wrote, to which stream and when,
how it ended, and after how long. What programs do is a parameter of everything
that runs them: a function from an invocation and the tree it finds to an
episode, or a refusal to start, and the tree it leaves.
-/
import EditorAnalysis.Host.Seconds
import EditorAnalysis.Host.Tree

namespace EditorAnalysis.Host

open Text.Utf8 (Bytes)

/-- The two streams a process writes to. -/
inductive Stream where
  | output
  | diagnostics
deriving DecidableEq, Repr

/-- Something a process wrote. -/
structure Emission where
  /-- When, in nanoseconds from the start. -/
  time : Nat
  /-- Where to. -/
  stream : Stream
  /-- What. -/
  bytes : Bytes
deriving DecidableEq, Repr

/-- How a process ended. -/
inductive Ending where
  /-- By itself, with a status. -/
  | exited (status : Nat)
  /-- By a signal. -/
  | killed (signal : Nat)
deriving DecidableEq, Repr

/-- The status of an ending; a signal counts as its negative number. -/
def Ending.status : Ending → Int
  | .exited status => status
  | .killed signal => -signal

/-- The life of a process. -/
structure Episode where
  /-- What it wrote, oldest first. -/
  emissions : List Emission
  /-- How it ended. -/
  ending : Ending
  /-- How many nanoseconds it lived; nothing when it never ended by itself. -/
  lifetime : Option Nat
  /-- After how many nanoseconds nobody could write to its streams any more; nothing when that
  never happened. Processes that it left behind may keep them open. -/
  silence : Option Nat
deriving DecidableEq, Repr

namespace Episode

/-- Everything written to some streams, in the order of writing. -/
def written (e : Episode) (streams : List Stream) : Bytes :=
  (e.emissions.filter fun m => streams.contains m.stream).flatMap (·.bytes)

end Episode

/-- How a program is started. -/
structure Invocation where
  /-- The program's file. -/
  path : String
  /-- The arguments behind the program's name. -/
  arguments : List String
  /-- The directory it starts in. -/
  directory : Place
  /-- Its environment. -/
  environment : List (String × String)
deriving DecidableEq, Repr

/-- What programs do. -/
abbrev Programs := Invocation → Tree → Except Errno Episode × Tree

/-- The surroundings in which commands are looked up and run. -/
structure Surroundings extends Files where
  /-- The directories in which commands are looked up. -/
  searchPath : List String
  /-- The environment that processes inherit. -/
  environment : List (String × String)

/-! ## Time limits -/

namespace Episode

/-- What comes at a time, or never, has not come before the limit. -/
def lasts (time : Option Nat) (limit : Seconds) : Bool :=
  match time with
  | none => true
  | some time => !limit.isAfter time

/-- Somebody could still write to the streams of the process at the limit. -/
def isOpenAt (e : Episode) (limit : Seconds) : Bool := lasts e.silence limit

/-- The process was still alive at the limit; or its streams were still open, for one who
listens to them. -/
def outlives (e : Episode) (listening : Bool) (limit : Seconds) : Bool :=
  lasts e.lifetime limit || (listening && e.isOpenAt limit)

/-- The episode up to a limit. -/
def upTo (e : Episode) (limit : Seconds) : Episode :=
  { e with emissions := e.emissions.filter fun m => limit.isAfter m.time }

end Episode

end EditorAnalysis.Host
