/-
EditorAnalysis.Shell.State — what a process knows, and the steps it takes.

A step changes the state and yields a value, or goes on elsewhere: `Flow` says where.
Writing and reading go through descriptors to the channels of the machine. A text that
is read may make the process wait until it has been written.
-/
import EditorAnalysis.Shell.Elements
import EditorAnalysis.Shell.Grammar
import EditorAnalysis.Shell.Machine
import EditorAnalysis.Shell.Numeral

namespace EditorAnalysis.Shell

open Text (Octets)
open Host (Errno Files Place Tree)

/-! ## States -/

/-- A variable. -/
structure Variable where
  /-- Its value, if it has one. -/
  value : Option Octets
  /-- Programs inherit it. -/
  exported : Bool := false
  /-- It keeps its value. -/
  readOnly : Bool := false
  /-- Its elements, if it is a list; the value is then that of the first. -/
  elements : Option Elements := none
  /-- Its values are numbers. -/
  isNumber : Bool := false
  /-- Its letters are in upper case, or in lower case. -/
  casing : Option Bool := none

/-- A variable with a value. -/
def Variable.ofValue (value : Octets) (exported : Bool) : Variable :=
  { value := some value, exported }

/-- What comes after the current command, if not the next one. -/
inductive Flow where
  /-- Nothing: the process ends with its status. -/
  | leave
  /-- Nothing: the process ends because of an error, unless a command made it that the
  shell could do without. -/
  | raised
  /-- What follows so many loops. -/
  | breakLoop (loops : Nat)
  /-- The next round of the last of so many loops. -/
  | continueLoop (loops : Nat)
  /-- What follows the current function or script. -/
  | return
  /-- Nothing: a signal ends the process. -/
  | killed (signal : Nat)
  /-- Nothing, ever: the process runs on without an end. -/
  | endless
deriving DecidableEq, Repr

/-- What a command changes for its own time. -/
structure Frame where
  /-- Variables as they were, latest first. -/
  saved : List (Octets × Option Variable) := []
  /-- Options as they were. -/
  options : Option (List Char) := none

/-- A command in the background. -/
structure Job where
  /-- The number of its process. -/
  number : Nat
  /-- When it ends; nothing, if it never does. -/
  ends : Option Nat
  /-- Its status. -/
  status : Nat
  /-- The shell knows that it has ended. -/
  isKnown : Bool := false

/-- A process. -/
structure State where
  /-- What it shares with others. -/
  machine : Machine
  /-- The directory it is in. -/
  directory : Place
  /-- The path by which it came there. -/
  path : Octets := []
  /-- Nanoseconds since the start of the run. -/
  clock : Nat := 0
  /-- Its number. -/
  number : Nat
  /-- The number of the process that started it. -/
  parent : Nat := 1
  /-- The number of the process that a signal to its group is sent to. -/
  group : Nat := 0
  /-- Where descriptors lead. -/
  channels : List (Nat × Channel) := []
  /-- The channels that it keeps open, wherever its descriptors lead for a while. -/
  kept : List Channel := []
  /-- Its own name. -/
  name : Octets := []
  /-- Permissions that new files do not get. -/
  mask : Nat := 0o022
  /-- Something could not be written. -/
  unwritten : Bool := false
  /-- Its variables. -/
  bindings : List (Octets × Variable) := []
  /-- The number of the shell. -/
  shell : Nat
  /-- The language that it reads. -/
  language : Language := .posix
  /-- What is switched on in the language. -/
  switches : List Octets := []
  /-- How many shells are around, in the same process. -/
  shellDepth : Nat := 0
  /-- The statuses of the last commands that read from each other. -/
  pipeStatuses : List Nat := []
  /-- The scripts that are being performed, innermost first. -/
  sources : List Octets := []
  /-- The functions that are under way, innermost first. -/
  callers : List Octets := []
  /-- The directories to go back to, latest first. -/
  places : List Octets := []
  /-- The letters of the options that are set. -/
  options : List Char := []
  /-- Programs that were found before. -/
  hashed : List (Octets × Octets) := []
  /-- Its functions. -/
  functions : List (Octets × Command) := []
  /-- Words that stand for texts. -/
  aliases : List (Octets × Octets) := []
  /-- The texts in its script, and the number of the next one. -/
  documents : List (Nat × Word) := []
  /-- The number of the next text. -/
  nextDocument : Nat := 0
  /-- What is to be done on signals, and at the end under the number zero. -/
  traps : List (Nat × Octets) := []
  /-- Signals that have arrived. -/
  arrived : List Nat := []
  /-- Its arguments. -/
  arguments : List Octets := []
  /-- Which argument is to be read for options, counted from one. -/
  optionIndex : Nat := 1
  /-- How much of the one before has been read; nothing, if none of it is left. -/
  optionOffset : Option Nat := none
  /-- The status of the last command. -/
  status : Nat := 0
  /-- The status of the last command whose output the current one used. -/
  outputStatus : Option Nat := none
  /-- The line of the current command. -/
  line : Nat := 1
  /-- The line up to which its script has been read. -/
  readLine : Nat := 1
  /-- The command that complains. -/
  complainant : Option Octets := none
  /-- Failures are looked at by the command around. -/
  guarded : Bool := false
  /-- Nothing follows the current command, so that a program takes the place of the shell. -/
  final : Bool := false
  /-- How many loops are around. -/
  loops : Nat := 0
  /-- How many functions are under way. -/
  functionDepth : Nat := 0
  /-- What commands change for their own time, innermost first. -/
  frames : List Frame := []
  /-- Commands in the background. -/
  jobs : List Job := []
  /-- The number of the last of them. -/
  lastJob : Option Nat := none

/-- A step of a process. -/
abbrev Step := ExceptT Flow (StateM State)

namespace State

/-- The files as the process sees them. -/
def files (s : State) : Files := ⟨s.machine.tree, s.directory⟩

/-! ## Variables -/

/-- The value of a variable. -/
def get? (s : State) (name : Octets) : Option Octets :=
  (Assoc.get? name s.bindings).bind (·.value)

/-- The shell reads the language of bash. -/
def isBash (s : State) : Bool := s.language == .bash

/-- The wording of the shell's language. -/
def phrase (s : State) (posix bash : String) : String := if s.isBash then bash else posix

/-- An option is set. -/
def has (s : State) (option : Char) : Bool := s.options.contains option

/-- Puts a variable. -/
def put (s : State) (name : Octets) (v : Variable) : State :=
  { s with bindings := Assoc.put name v s.bindings }

/-- The chain in which a variable is looked up. -/
def chainOf (name : Octets) : Nat :=
  let weight := name.foldl (fun n c => n + c.toNat) 0
  ((name.head?.map Char.toNat).getD 0 * 16 + weight) % 39

/-- The variables chain by chain. -/
def inChains (s : State) : List (Octets × Variable) :=
  s.bindings.mergeSort fun a b => chainOf a.1 ≤ chainOf b.1

/-- The variables that programs inherit. -/
def environment (s : State) : List (Octets × Octets) :=
  s.inChains.filterMap fun (name, v) => if v.exported then v.value.map (name, ·) else none

/-- The characters that separate fields. -/
def separators (s : State) : Octets := (s.get? "IFS".toList).getD [' ', '\t', '\n']

/-! ## Channels -/

/-- Lets a descriptor lead to a channel. -/
def redirect (s : State) (descriptor : Nat) (channel : Channel) : State :=
  { s with channels := Assoc.put descriptor channel s.channels }

/-- Lets a descriptor read a text. -/
def feed (s : State) (descriptor : Nat) (b : Buffer) : State :=
  let (number, machine) := s.machine.addBuffer b
  { s with machine }.redirect descriptor (.buffer number)

/-- The channels that the process keeps open. -/
def openChannels (s : State) : List Channel := (s.channels.map (·.2)).filter Channel.isWritable

end State

namespace Step

/-! ## Time -/

/-- The process waits until a time, or forever. -/
def waitUntil (time : Option Nat) : Step Unit :=
  match time with
  | none => throw .endless
  | some t => modify fun s =>
    if t ≤ s.clock then s
    else
      let m := s.machine
      let m := if s.group = 0 then m else { m with history := (s.clock, m.tree) :: m.history }
      { s with clock := t, machine := m.settle t }

/-! ## Writing -/

/-- Writes to a descriptor; says why nothing can be written. -/
def put (descriptor : Nat) (text : Octets) : Step (Option Errno) := do
  let s ← get
  match Assoc.get? descriptor s.channels with
  | none => return some .badDescriptor
  | some (.buffer _) => return some .badDescriptor
  | some .full => return if text.isEmpty then none else some .noSpace
  | some (.file number) =>
    match Assoc.get? number s.machine.opened with
    | none => return some .badDescriptor
    | some f =>
      if !f.writable then return some .badDescriptor
      unless text.isEmpty do set { s with machine := s.machine.writeFile number f text }
      return none
  | some .nowhere => return none
  | some .zeros => return none
  | some channel =>
    unless text.isEmpty do
      let w : Writing := ⟨s.clock, s.group, channel, text⟩
      set { s with machine := { s.machine with written := w :: s.machine.written } }
    return none

/-- Writes to the output. -/
def write (text : Octets) : Step Unit := do
  unless text.isEmpty do
    if (← put 1 text).isSome then modify fun s => { s with unwritten := true }

/-- Writes a text to the output. -/
def print (text : String) : Step Unit := write (Octets.ofString text)

/-- Writes a line to the diagnostics. -/
def note (text : Octets) : Step Unit := discard (put 2 (text ++ ['\n']))

/-! ## Reading -/

/-- What a descriptor reads from. -/
inductive Source where
  /-- From a device, all of one character or nothing. -/
  | device (endless : Bool)
  /-- From a buffer. -/
  | buffer (number : Nat) (b : Buffer)
  /-- From an open file. -/
  | file (number : Nat) (f : OpenFile)

/-- What a descriptor reads from, if anything. -/
def source? (descriptor : Nat) : Step (Except Errno Source) := do
  let s ← get
  match Assoc.get? descriptor s.channels with
  | some .nowhere => return .ok (.device false)
  | some .zeros => return .ok (.device true)
  | some .full => return .ok (.device true)
  | some (.buffer number) =>
    match Assoc.get? number s.machine.buffers with
    | some b => return .ok (.buffer number b)
    | none => return .error .badDescriptor
  | some (.file number) =>
    match Assoc.get? number s.machine.opened with
    | some f => return if f.readable then .ok (.file number f) else .error .badDescriptor
    | none => return .error .badDescriptor
  | _ => return .error .badDescriptor

/-- Splits texts behind the place where a reader has enough. The reader says how much of a
text it takes, if it has enough then. The last part is the time at which that was so. -/
def takeChunks {σ : Type} (enough : σ → Octets → σ ⊕ Nat) :
    σ → List (Nat × Octets) → Octets × List (Nat × Octets) × Option Nat
  | _, [] => ([], [], none)
  | state, (time, text) :: rest =>
    match enough state text with
    | .inr n =>
      (text.take n, if n < text.length then (time, text.drop n) :: rest else rest, some time)
    | .inl state =>
      let (taken, left, ended) := takeChunks enough state rest
      (text ++ taken, left, ended)

/-- Sets what waits to be read in a buffer. -/
def setBuffer (number : Nat) (b : Buffer) : Step Unit := modify fun s =>
  { s with machine := { s.machine with buffers := Assoc.put number b s.machine.buffers } }

/-- Sets where an open file is read. -/
def setOffset (number : Nat) (f : OpenFile) (offset : Nat) : Step Unit := modify fun s =>
  let f := { f with offset }
  { s with machine := { s.machine with opened := Assoc.put number f s.machine.opened } }

/-- Reads until the reader has enough, or there is no more. -/
def readWhile {σ : Type} (descriptor : Nat) (state : σ) (enough : σ → Octets → σ ⊕ Nat) :
    Step (Except Errno Octets) := do
  match ← source? descriptor with
  | .error reason => return .error reason
  | .ok (.device false) => return .ok []
  | .ok (.device true) => throw .endless
  | .ok (.buffer number b) =>
    let (taken, left, time) := takeChunks enough state b.chunks
    setBuffer number { b with chunks := left }
    waitUntil (match time with
      | some t => some t
      | none => b.closes)
    return .ok taken
  | .ok (.file number f) =>
    let text := ((← get).machine.contentOf f).drop f.offset
    let taken := match enough state text with
      | .inr n => text.take n
      | .inl _ => text
    setOffset number f (f.offset + taken.length)
    return .ok taken

/-- Reads everything. -/
def readAll (descriptor : Nat) : Step (Except Errno Octets) :=
  readWhile descriptor () fun _ _ => .inl ()

/-- Reads a character. -/
def readChar (descriptor : Nat) : Step (Except Errno (Option Char)) :=
  return (← readWhile descriptor () fun _ text => if text.isEmpty then .inl () else .inr 1).map
    (·.head?)

/-! ## Complaints -/

/-- What stands in front of a complaint: the shell's name, the line, the command. -/
def complaintStart : Step Octets := do
  let s ← get
  let command := match s.complainant with
    | some name => name ++ [':', ' ']
    | none => []
  let line := (s.phrase "" "line " ++ toString s.line).toList
  return s.sources.head?.getD s.name ++ ": ".toList ++ line ++ ": ".toList ++ command

/-- Complains. -/
def complain (text : Octets) : Step Unit := do note ((← complaintStart) ++ text)

/-- Complains of a name. -/
def complainOf (name : Octets) (text : String) : Step Unit :=
  complain (name ++ ": ".toList ++ Octets.ofString text)

/-- Sets the status. -/
def setStatus (status : Nat) : Step Unit := modify fun s => { s with status }

/-- Goes on nowhere because of an error. -/
def raise {α : Type} (text : Octets) (status : Nat) : Step α := do
  complain text
  setStatus status
  throw .raised

/-- The status of an error. -/
def errorStatus : Nat := 2

/-- Nothing follows, because of an error in an expansion. -/
def abandon {α : Type} (text : Octets) (status : Nat) : Step α := do
  complain text
  setStatus status
  throw .leave

/-- An error. -/
def error {α : Type} (text : Octets) : Step α := do
  raise text (if (← get).isBash then 1 else errorStatus)

/-- An error in the wording of the shell's language. -/
def errorIn {α : Type} (front : Octets) (posix bash : String) : Step α := do
  error (front ++ ((← get).phrase posix bash).toList)

/-- An error in wording. -/
def fail {α : Type} (text : String) : Step α := error (Octets.ofString text)

/-! ## Variables -/

/-- The number in a word that has to be a count. -/
def count (word : Octets) : Step Nat := do
  match Numeral.count? word with
  | some n => return n
  | none =>
    if (← get).isBash then error (word ++ ": numeric argument required".toList)
    else error ("Illegal number: ".toList ++ word)

/-- A variable keeps its value. In bash the complaint is that of the shell. -/
def refuseValue {α : Type} (name : Octets) : Step α := do
  modify fun s => if s.isBash then { s with complainant := none } else s
  errorIn name ": is read only" ": readonly variable"

/-- Puts a value into a variable that may be changed. -/
def store (name value : Octets) : Step Unit := do
  let s ← get
  let old := (Assoc.get? name s.bindings).getD { value := none }
  if old.readOnly then refuseValue name
  let value := match old.casing with
    | some true => value.map Char.toUpper
    | some false => value.map Char.toLower
    | none => value
  let exported := old.exported || s.has 'a'
  let elements := old.elements.map fun e => e.put Elements.first value
  set (s.put name { old with value := some value, exported, elements })

/-- The variable that says which argument is to be read for options. -/
def optionVariable : Octets := "OPTIND".toList

/-- Gives a variable a value. -/
def assign (name value : Octets) : Step Unit := do
  store name value
  if name == optionVariable then
    let n ← count value
    modify fun s => { s with optionIndex := if n = 0 then 1 else n, optionOffset := none }

/-- Gives a variable elements. -/
def storeElements (name : Octets) (e : Elements) : Step Unit := do
  let s ← get
  let old := (Assoc.get? name s.bindings).getD { value := none }
  if old.readOnly then refuseValue name
  set (s.put name { old with value := e.get? Elements.first, elements := some e })

/-- Gives a variable a value, if it has the name of one. -/
def assignNamed (name value : Octets) : Step Unit := do
  if isName name then assign name value
  else if (← get).isBash then error ('\x60' :: name ++ "': not a valid identifier".toList)
  else error (name ++ ": bad variable name".toList)

/-- Lets programs inherit a variable. -/
def exportName (name : Octets) : Step Unit := modify fun s =>
  let old := (Assoc.get? name s.bindings).getD { value := none }
  s.put name { old with exported := true }

/-- Lets a variable keep its value. -/
def keepValue (name : Octets) : Step Unit := modify fun s =>
  let old := (Assoc.get? name s.bindings).getD { value := none }
  s.put name { old with readOnly := true }

/-- The elements of a variable; a value counts as the only element. -/
def elementsOf (name : Octets) : Step Elements := do
  match Assoc.get? name (← get).bindings with
  | none => return {}
  | some v => return v.elements.getD (.ofValues v.value.toList)

/-- Changes what a variable is. -/
def adapt (name : Octets) (change : Variable → Variable) : Step Unit := modify fun s =>
  s.put name (change ((Assoc.get? name s.bindings).getD { value := none }))

/-- Forgets a variable. -/
def forget (name : Octets) : Step Unit := do
  let s ← get
  match Assoc.get? name s.bindings with
  | none => return
  | some v =>
    if v.readOnly then errorIn name ": is read only" ": cannot unset: readonly variable"
    set { s with bindings := Assoc.erase name s.bindings }

/-- Notes in the innermost frame what a variable is. -/
def saveVariable (name : Octets) : Step Unit := modify fun s =>
  match s.frames with
  | [] => s
  | f :: more =>
    { s with frames := { f with saved := (name, Assoc.get? name s.bindings) :: f.saved } :: more }

/-- Puts back what the innermost frame has noted, and leaves it. -/
def popFrame : Step Unit := modify fun s =>
  match s.frames with
  | [] => s
  | f :: more =>
    let bindings := f.saved.foldl (fun bindings (name, old) =>
      match old with
      | some v => Assoc.put name v bindings
      | none => Assoc.erase name bindings) s.bindings
    { s with bindings, frames := more, options := f.options.getD s.options }

end Step

end EditorAnalysis.Shell
