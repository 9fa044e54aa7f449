/-
EditorAnalysis.Execution — running one command to its end.

A command is a list of words, the first of which names the program: a path, or a
name looked up on the search path. The program runs until it ends or
its time is up; what it wrote is kept if the caller wants it. A program that is
stopped at the limit counts as ended with the status `timeoutStatus`.
-/
import EditorAnalysis.Assoc
import EditorAnalysis.Fault
import EditorAnalysis.Host.Process
import EditorAnalysis.Text.Newlines

namespace EditorAnalysis.Execution

open Host

/-! ## Finding the program -/

/-- A name with a separator in it is a path and is not looked up. -/
def namesPath (name : String) : Bool := name.toList.contains '/'

/-- The character that no path and no argument may hold. -/
def hasNull (text : String) : Bool := text.toList.contains (Char.ofNat 0)

/-- A path to something that may be run. -/
def runnable (fs : Files) (path : String) : Bool := !hasNull path && fs.isExecutable path

/-- A name in a directory. The empty text stands for the current directory. -/
def nameIn (directory name : String) : String :=
  if directory = "" ∨ directory.toList.getLast? = some '/' then directory ++ name
  else directory ++ "/" ++ name

/-- The directories in the text of a search path. -/
def directoriesIn (text : String) : List String :=
  (Text.splitOn ':' text.toList).map String.ofList

/-- The search path where none is set. -/
def defaultSearchPath : List String := ["/bin", "/usr/bin"]

/-- Looks a program up: a path as it is, any other name in each directory of the
search path. -/
def lookUp? (s : Surroundings) (name : String) : Option String :=
  if namesPath name then if runnable s.toFiles name then some name else none
  else (s.searchPath.map fun directory => nameIn directory name).find? (runnable s.toFiles)

/-- The path of the program that a command names. -/
def programPath (s : Surroundings) (name : String) : Except Fault String :=
  let path := Path.Pure.ofString name
  if path.isAbsolute then .ok path.toString
  else match lookUp? s name with
    | some found => .ok found
    | none => .error (.commandNotFound name)

/-- The command with its program's path in front. -/
def resolve (s : Surroundings) : List String → Except Fault (List String)
  | [] => .error .commandMissing
  | name :: arguments => (programPath s name).map fun path => path :: arguments

/-! ## The request and its result -/

/-- A command and how it is to be run. -/
structure Request where
  /-- The program's name and its arguments. -/
  command : List String
  /-- The directory it starts in, unless it is the current one. -/
  directory : Option Path.Pure := none
  /-- Its environment, unless it inherits one. -/
  environment : Option (List (String × String)) := none
  /-- A status other than zero is a fault. -/
  check : Bool := true
  /-- What the program writes is kept, its two streams apart. -/
  capture : Bool := false
  /-- What the program writes is kept, its two streams together. -/
  merge : Bool := false
  /-- How long the program may run. -/
  limit : Option Seconds := none

/-- What the program writes is kept. -/
def Request.listens (r : Request) : Bool := r.capture || r.merge

/-- What came of a command. -/
structure Completed where
  /-- The command with its program's path in front. -/
  command : List String
  /-- Its status; negative for a signal. -/
  status : Int
  /-- What it wrote as its output, if that was kept. -/
  output : Option String
  /-- What it wrote as diagnostics, if that was kept. -/
  diagnostics : Option String
  /-- The limit at which it was stopped. -/
  stoppedAt : Option Seconds := none
deriving DecidableEq, Repr

/-- The status of a program that was stopped at its limit. -/
def timeoutStatus : Int := 124

/-! ## Texts -/

/-- The text of everything a program wrote: invalid bytes are replaced, and lines
end with a line feed. -/
def wholeText (bytes : Text.Utf8.Bytes) : String :=
  String.ofList (Text.unifyNewlines (Text.Utf8.decodeReplacing bytes))

/-- The text of what a stopped program had written: invalid bytes are dropped. -/
def partialText (bytes : Text.Utf8.Bytes) : String :=
  String.ofList (Text.Utf8.decodeDropping bytes)

/-- What is said of a stopped program. -/
def timeoutNotice (limit : Seconds) : String :=
  "Command timed out after " ++ limit.fixed 1 ++ "s"

/-- A stopped program's diagnostics with the notice behind them. -/
def withNotice (diagnostics notice : String) : String :=
  if diagnostics = "" then notice else diagnostics ++ "\n" ++ notice

/-! ## Running -/

/-- The result of an episode that came to its end. -/
def ended (r : Request) (command : List String) (e : Episode) : Completed :=
  let streams := if r.merge then [Stream.output, .diagnostics] else [.output]
  { command
    status := e.ending.status
    output := if r.listens then some (wholeText (e.written streams)) else none
    diagnostics :=
      if r.capture && !r.merge then some (wholeText (e.written [.diagnostics])) else none }

/-- The result of an episode that was cut at the limit. Who listens hands over what was
written so far, but only while there is more to hear: once the streams are closed, it waits
for the end of the program, and when that is not reached, nothing is handed over. -/
def stopped (r : Request) (command : List String) (limit : Seconds) (e : Episode) :
    Completed :=
  let isHeard := r.listens && e.isOpenAt limit
  let e := e.upTo limit
  let streams := if r.merge then [Stream.output, .diagnostics] else [.output]
  let diagnostics :=
    if isHeard && r.capture && !r.merge then partialText (e.written [.diagnostics]) else ""
  { command
    status := timeoutStatus
    output := some (if isHeard then partialText (e.written streams) else "")
    diagnostics := some (withNotice diagnostics (timeoutNotice limit))
    stoppedAt := some limit }

/-- The result of an episode. -/
def completed (r : Request) (command : List String) (e : Episode) : Completed :=
  match r.limit with
  | none => ended r command e
  | some limit =>
    if e.outlives r.listens limit then stopped r command limit e else ended r command e

/-- A status other than zero is a fault, if the caller says so. -/
def checked (r : Request) (c : Completed) : Except Fault Completed :=
  if r.check && c.status ≠ 0 then
    .error (.commandFailed c.command c.status c.output c.diagnostics)
  else .ok c

/-- What the operating system is handed must be well formed. -/
def wellFormed (r : Request) (command : List String) : Except Fault Unit :=
  let environment := r.environment.getD []
  if environment.any fun v => v.1.toList.contains '=' then .error .variableNameMalformed
  else if command.any hasNull || (r.directory.map fun d => hasNull d.toString).getD false
      || environment.any fun v => hasNull v.1 || hasNull v.2 then
    .error .nullCharacter
  else .ok ()

/-- The place in which the program starts. -/
def startPlace (s : Surroundings) (r : Request) : Except Fault Place :=
  match r.directory with
  | none => .ok s.directory
  | some d =>
    match s.toFiles.locate d.toString with
    | .error reason => .error (.refusedBySystem reason d.toString)
    | .ok place =>
      match s.tree.get? place with
      | some .directory => .ok place
      | some _ => .error (.refusedBySystem .notDirectory d.toString)
      | none => .error (.refusedBySystem .noEntry d.toString)

/-- How the program is started. -/
def invocation (s : Surroundings) (r : Request) : Except Fault (List String × Invocation) := do
  let command ← resolve s r.command
  wellFormed r command
  let place ← startPlace s r
  return (command,
    { path := command.head?.getD ""
      arguments := command.drop 1
      directory := place
      environment := r.environment.getD s.environment })

/-- What is wrong with the limit of a request. -/
def excess? (r : Request) : Option Seconds.Excess :=
  r.limit.bind fun limit => limit.excess? r.listens

/-- The directories in which a request's program is looked up when it is started. -/
def Request.searchPath (r : Request) (s : Surroundings) : List String :=
  match r.environment with
  | none => s.searchPath
  | some environment =>
    match Assoc.get? "PATH" environment with
    | none => defaultSearchPath
    | some text => directoriesIn text

/-- The files that are tried one after the other when a program is started. A path that is
nothing but a name is looked up again, and now in the directory in which the program
starts. -/
def candidates (s : Surroundings) (r : Request) (path : String) : List String :=
  if namesPath path then [path] else (r.searchPath s).map fun directory => nameIn directory path

/-- Starts the first of some files that can be started. If none can, the first reason counts
that does not say that the file is missing, or else the last one. -/
def startFirst (programs : Programs) (i : Invocation) (tree : Tree) :
    List String → Except Errno Episode × Tree
  | [] => (.error .noEntry, tree)
  | [path] => programs { i with path } tree
  | path :: others =>
    match programs { i with path } tree with
    | (.ok episode, tree) => (.ok episode, tree)
    | (.error reason, tree) =>
      match startFirst programs i tree others with
      | (.ok episode, tree) => (.ok episode, tree)
      | (.error later, tree) =>
        (.error (if reason = .noEntry ∨ reason = .notDirectory then later else reason), tree)

/-- Runs a command, and says what surroundings it leaves. A limit that cannot be waited
for is noticed when the program has been started, which is then stopped at once. -/
def run (programs : Programs) (s : Surroundings) (r : Request) :
    Except Fault Completed × Surroundings :=
  match invocation s r with
  | .error fault => (.error fault, s)
  | .ok (command, i) =>
    let (result, tree) := startFirst programs i s.tree (candidates s r i.path)
    match result, excess? r with
    | .error reason, _ => (.error (.refusedBySystem reason i.path), { s with tree })
    | .ok _, some excess => (.error (.limitUnusable excess), s)
    | .ok episode, none => (checked r (completed r command episode), { s with tree })

end EditorAnalysis.Execution
