/-
EditorAnalysis.Shell.Builtin.Jobs — the commands about processes and signals.

A signal to the shell itself arrives at once; one to the shell that started this one
arrives there when that shell looks. A command in the background has been performed
already when a signal is sent to it: what it did later is taken back.
-/
import EditorAnalysis.Shell.Builtin.Basic
import EditorAnalysis.Shell.Signal

namespace EditorAnalysis.Shell.Builtin

open Text (Octets)
open Host (Errno)

/-! ## Waiting -/

/-- The job has not ended. -/
def isRunning (s : State) (j : Job) : Bool := (j.ends.map fun t => decide (s.clock < t)).getD true

/-- The earliest signal that arrives before a time and is caught. -/
def interruption? (s : State) (time : Option Nat) : Option Sent :=
  let caught (x : Sent) : Bool :=
    x.target == s.number && ((Assoc.get? x.signal s.traps).map (!·.isEmpty)).getD false
      && (time.map fun t => decide (x.time < t)).getD true
  (s.machine.sent.filter caught).foldl (fun first x =>
    match first with
    | some y => if x.time < y.time then some x else some y
    | none => some x) none

/-- Waits until a time, unless a signal arrives that is caught; then the status for that. -/
def waitThrough (time : Option Nat) : Step (Option Nat) := do
  match interruption? (← get) time with
  | some x =>
    Step.waitUntil (some x.time)
    return some (Signal.status x.signal)
  | none =>
    Step.waitUntil time
    return none

/-- The status of a process that there is no more, or never was. -/
def unknownStatus : Nat := 127

/-- The job that a word names. -/
def job? (word : Octets) : Step (Option Job) := do
  let s ← get
  match word with
  | '%' :: rest =>
    let found := match Numeral.natural? rest with
      | some n => if n = 0 then none else s.jobs[n - 1]?
      | none => if [[], ['%'], ['+']].contains rest then s.jobs.getLast? else none
    match found with
    | some j => return j
    | none => Step.error ("No such job: ".toList ++ word)
  | _ =>
    let n ← Step.count word
    return s.jobs.find? fun j => j.number == n

/-- Waits for a job and yields its status. -/
def waitFor (j : Job) : Step Nat := do
  match ← waitThrough j.ends with
  | some status => return status
  | none =>
    modify fun s => { s with jobs := s.jobs.filter fun k => k.number != j.number }
    let signal := j.status - Signal.status 0
    if !j.isKnown && Signal.status 0 < j.status && !Signal.silent.contains signal then
      Step.note (Signal.description signal).toList
    return j.status

/-- Waits for jobs, or for all of them. -/
def wait : Builtin := fun words => do
  let (_, words) ← flags [] words
  match words with
  | [] =>
    let s ← get
    let time := s.jobs.foldl (fun t j => Machine.later t j.ends) (some s.clock)
    match ← waitThrough time with
    | some status => return status
    | none =>
      modify fun s => { s with jobs := [] }
      return 0
  | words =>
    let statuses ← words.mapM fun word => do
      match ← job? word with
      | some j => waitFor j
      | none =>
        if (← get).isBash then
          Step.complain ("pid ".toList ++ word ++ " is not a child of this shell".toList)
        return unknownStatus
    return statuses.getLast?.getD 0

/-- Writes which jobs there are. -/
def jobs : Builtin := fun _ => return 0

/-! ## Signals -/

/-- A job ends by a signal now. -/
def stopJob (j : Job) (signal : Nat) : Step Unit := modify fun s =>
  let jobs := s.jobs.map fun k =>
    if k.number == j.number then
      { k with ends := some s.clock, status := Signal.status signal }
    else k
  { s with jobs, machine := s.machine.stop j.number s.clock }

/-- Sends a signal to the process with a number; says why that is not possible. -/
def send (signal number : Nat) : Step (Option Errno) := do
  let s ← get
  if number == s.number || number == 0 then
    set { s with arrived := s.arrived ++ [signal] }
    return none
  else match s.jobs.find? fun j => j.number == number with
    | some j =>
      if isRunning s j && !Signal.ignored.contains signal then stopJob j signal
      return none
    | none =>
      if number == s.shell || number == s.parent then
        let x : Sent := ⟨s.clock, number, signal⟩
        set { s with machine := { s.machine with sent := s.machine.sent ++ [x] } }
        return none
      else return some .noProcess

/-- How `kill` is used. -/
def killUsage : String :=
  "Usage: kill [-s sigspec | -signum | -sigspec] [pid | job]... or\nkill -l [exitstatus]"

/-- Writes the names of signals. -/
def listSignals : List Octets → Step Nat
  | [] => do
    Step.print "0\n"
    (Signal.names.drop 1).forM fun name => Step.print (name ++ "\n")
    return 0
  | word :: _ => do
    let n ← Step.count word
    let signal := if Signal.status 0 < n then n - Signal.status 0 else n
    if 0 < signal && signal < Signal.names.length then
      Step.print (Signal.nameOf signal ++ "\n")
      return 0
    else Step.error ("invalid signal number or exit status: ".toList ++ word)

/-- The signal that a word names; in bash with or without the letters in front of all names. -/
def signalIn? (l : Language) (least : Nat) (word : Octets) : Option Nat :=
  let short := match l, word.map Char.toUpper with
    | .bash, 'S' :: 'I' :: 'G' :: name => name
    | _, _ => word
  if l == .bash && least == 0 && word.map Char.toUpper == "ERR".toList then some Signal.failure
  else Signal.ofWord? least short

/-- The signal that a word of `kill` names. -/
def signalOf (word : Octets) : Step Nat := do
  let s ← get
  match signalIn? s.language 1 word with
  | some signal => return signal
  | none =>
    if s.isBash then Step.error (word ++ ": invalid signal specification".toList)
    else Step.error ("invalid signal number or name: ".toList ++ word)

/-- The number of the process that a word of `kill` names. -/
def processIn (word : Octets) : Step Nat := do
  let digits := match word with
    | '-' :: digits => digits
    | digits => digits
  match Numeral.count? digits with
  | some n => return n
  | none =>
    if (← get).isBash then
      Step.error (word ++ ": arguments must be process or job IDs".toList)
    else Step.count digits

/-- Sends a signal to what words name. -/
def sendAll (signal : Nat) (words : List Octets) : Step Nat := do
  let failed ← words.mapM fun word => do
    let number ← match word with
      | '%' :: _ => do
        match ← job? word with
        | some j => pure j.number
        | none => Step.error ("No such job: ".toList ++ word)
      | word => processIn word
    match ← send signal number with
    | some reason =>
      if (← get).isBash then
        Step.complain ('(' :: word ++ ") - ".toList ++ reason.text.toList)
      else Step.complain (reason.text ++ "\n").toList
      return true
    | none => return false
  return if failed.any id then 1 else 0

/-- Sends a signal to processes. -/
def kill : Builtin := fun words => do
  let s ← get
  let misused {α : Type} : Step α := if s.isBash then showUsage else Step.fail killUsage
  match words with
  | [] => misused
  | ('-' :: word) :: rest =>
    match signalIn? s.language 1 word with
    | some signal => if rest.isEmpty then misused else sendAll signal rest
    | none =>
      let isOption := [['l'], ['s'], ['n'], ['L']].contains (word.take 1)
      if s.isBash && !isOption then discard (signalOf word)
      let letters := [('l', false), ('s', true)] ++ (if s.isBash then [('n', true)] else [])
      let (chosen, rest) ← options letters (words.length + 1) words
      if chosen.any fun c => c.1 == 'l' then listSignals rest
      else
        let signals ← (chosen.filter fun c => c.1 != 'l').mapM fun c => signalOf c.2
        if rest.isEmpty then misused
        else sendAll (signals.getLast?.getD Signal.terminate) rest
  | _ => sendAll Signal.terminate words

/-- The name of a signal as a trap has it; in bash it is a longer one. -/
def trapName (l : Language) (signal : Nat) : String :=
  if signal == Signal.failure then "ERR"
  else if l == .bash && signal != 0 then "SIG" ++ Signal.nameOf signal
  else Signal.nameOf signal

/-- Writes what is done on some signals. -/
def listTraps (signals : List Nat) : Step Unit := do
  let s ← get
  signals.forM fun signal =>
    match Assoc.get? signal s.traps with
    | some action => Step.write ("trap -- ".toList ++ inQuotes action ++
        ' ' :: (trapName s.language signal).toList ++ ['\n'])
    | none => pure ()

/-- Says what is to be done on the signals that words name. -/
def setTraps (action : Option Octets) : List Octets → Step Nat
  | [] => return 0
  | word :: more => do
    let s ← get
    match signalIn? s.language 0 word with
    | none =>
      if s.isBash then Step.complainOf word "invalid signal specification"
      else Step.note ("trap: ".toList ++ word ++ ": bad trap".toList)
      return 1
    | some signal =>
      modify fun s =>
        match action with
        | some text => { s with traps := Assoc.put signal text s.traps }
        | none => { s with traps := Assoc.erase signal s.traps }
      setTraps action more

/-- Says what is to be done on signals. -/
def trap : Builtin := fun words => do
  let s ← get
  let (chosen, words) ← flags (if s.isBash then ['p', 'l'] else []) words
  let all := List.range (Signal.failure + 1)
  if chosen.contains 'p' then
    let named := words.filterMap (signalIn? s.language 0)
    listTraps (if words.isEmpty then all else named)
    return 0
  match words with
  | [] =>
    listTraps all
    return 0
  | [_] => setTraps none words
  | action :: signals =>
    if action.all Char.isDigit && !action.isEmpty then setTraps none words
    else setTraps (if action == ['-'] then none else some action) signals

/-! ## Going on elsewhere -/

/-- The status that words say in bash; one that is no number counts as a misuse. -/
def statusIn (words : List Octets) : Step Nat := do
  match words with
  | [] => return (← get).status
  | [word] =>
    match Numeral.integer? word with
    | some n => return (n % 256).toNat
    | none =>
      Step.complain (word ++ ": numeric argument required".toList)
      return usageStatus
  | _ => Step.abandon "too many arguments".toList 1

/-- Ends the shell. -/
def exit : Builtin := fun words => do
  if (← get).isBash then
    Step.setStatus (← statusIn words)
    throw .leave
  match words with
  | [] => throw .leave
  | word :: _ =>
    Step.setStatus (← Step.count word)
    throw .leave

/-- Goes on behind the current function or script. -/
def goBack : Builtin := fun words => do
  let s ← get
  if s.isBash then
    if s.functionDepth == 0 && s.sources.length < 2 then
      Step.complain "can only \x60return' from a function or sourced script".toList
      return usageStatus
    Step.setStatus (← statusIn words)
    throw .return
  match words with
  | [] => throw .return
  | word :: _ =>
    Step.setStatus (← Step.count word)
    throw .return

/-- Goes on behind, or with the next round of, some loops. -/
def leaveLoops (flow : Nat → Flow) : Builtin := fun words => do
  let s ← get
  if s.isBash then
    if s.loops = 0 then
      Step.complain "only meaningful in a \x60for', \x60while', or \x60until' loop".toList
      return 0
    match words with
    | [] => pure ()
    | word :: _ =>
      match Numeral.integer? word with
      | none => Step.abandon (word ++ ": numeric argument required".toList) 128
      | some n =>
        if n ≤ 0 then
          Step.complain (word ++ ": loop count out of range".toList)
          Step.setStatus 1
          throw (.breakLoop s.loops)
  let n ← match words with
    | [] => pure 1
    | word :: _ => do
      let n ← Step.count word
      if n = 0 then Step.error ("Illegal number: ".toList ++ word) else pure n
  let loops := (← get).loops
  if loops = 0 then return 0
  Step.setStatus 0
  throw (flow (min n loops))

end EditorAnalysis.Shell.Builtin
