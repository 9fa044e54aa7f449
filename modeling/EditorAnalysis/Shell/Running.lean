/-
EditorAnalysis.Shell.Running — steps around other steps: loops, processes of their own,
redirections.

What a step comes to is a result and a state. The functions here take steps apart and
put others together, without looking at commands.
-/
import EditorAnalysis.Shell.Builtin.Jobs

namespace EditorAnalysis.Shell

open Text (Octets)

namespace Step

/-- What a step comes to in a state. -/
def perform {α : Type} (act : Step α) (s : State) : Except Flow α × State := act.run s

/-- The result of a step that may go on elsewhere. -/
def outcome {α : Type} (act : Step α) : Step (Except Flow α) := ExceptT.lift act.run

/-- Goes on as a result says. -/
def resume {α : Type} : Except Flow α → Step α
  | .ok a => return a
  | .error flow => throw flow

/-- Does something, then puts some part of the state back in any case. -/
def thenAlways {α : Type} (act : Step α) (restore : State → State) : Step α := do
  let result ← outcome act
  modify restore
  resume result

/-- Does something while descriptors may lead elsewhere. -/
def keepingChannels {α : Type} (act : Step α) : Step α := do
  let channels := (← get).channels
  thenAlways act fun s => { s with channels }

/-- Does something behind which other commands follow. -/
def beforeOthers {α : Type} (act : Step α) : Step α := do
  let final := (← get).final
  modify fun s => { s with final := false }
  thenAlways act fun s => { s with final }

/-- Does something without regard to failures, in front of other commands. -/
def guarding {α : Type} (act : Step α) : Step α := do
  let guarded := (← get).guarded
  modify fun s => { s with guarded := true }
  beforeOthers (thenAlways act fun s => { s with guarded })

/-- Does something in which a command complains. -/
def complaining {α : Type} (name : Option Octets) (act : Step α) : Step α := do
  let complainant := (← get).complainant
  modify fun s => { s with complainant := name }
  thenAlways act fun s => { s with complainant }

/-- A failure ends the shell, if it is to. -/
def checked : Step Unit := do
  let s ← get
  if s.status != 0 && s.has 'e' && !s.guarded then throw .leave

/-! ## Loops -/

/-- What follows a round of a loop that went on elsewhere. -/
inductive Round where
  /-- The next round. -/
  | another
  /-- What follows the loop. -/
  | done
  /-- Something else. -/
  | elsewhere (flow : Flow)

/-- What follows a round of a loop. -/
def Round.after : Flow → Round
  | .breakLoop (n + 2) => .elsewhere (.breakLoop (n + 1))
  | .breakLoop _ => .done
  | .continueLoop (n + 2) => .elsewhere (.continueLoop (n + 1))
  | .continueLoop _ => .another
  | flow => .elsewhere flow

/-- Rounds of a loop while a condition succeeds, or fails. The status is that of the last
round. A loop that makes too many of them counts as one without an end. -/
def rounds (whileSucceeds : Bool) (condition body : Step Unit) :
    Nat → Nat → State → Except Flow Nat × State
  | 0, _, s => (.error .endless, s)
  | n + 1, status, s =>
    match perform condition s with
    | (.error flow, s) =>
      match Round.after flow with
      | .another => rounds whileSucceeds condition body n status s
      | .done => (.ok s.status, s)
      | .elsewhere flow => (.error flow, s)
    | (.ok (), s) =>
      if (s.status == 0) != whileSucceeds then (.ok status, s)
      else match perform body s with
        | (.ok (), s) => rounds whileSucceeds condition body n s.status s
        | (.error flow, s) =>
          match Round.after flow with
          | .another => rounds whileSucceeds condition body n s.status s
          | .done => (.ok s.status, s)
          | .elsewhere flow => (.error flow, s)

/-- How many rounds a loop may make. -/
def maxRounds : Nat := 100000

/-- Does something inside a loop. -/
def inLoop {α : Type} (act : Step α) : Step α := do
  let loops := (← get).loops
  modify fun s => { s with loops := loops + 1 }
  beforeOthers (thenAlways act fun s => { s with loops })

/-- A loop. -/
def loop (whileSucceeds : Bool) (condition body : Step Unit) : Step Unit := do
  let status ← inLoop fun s => rounds whileSucceeds (guarding condition) body maxRounds 0 s
  setStatus status

/-- A loop with something that is done behind each round. -/
def countedLoop (condition next body : Step Unit) : Step Unit :=
  loop true condition do
    match ← outcome body with
    | .ok () => pure ()
    | .error (.continueLoop n) => if 1 < n then throw (.continueLoop n)
    | .error flow => throw flow
    let status := (← get).status
    next
    setStatus status

/-- A round for each of some things. -/
def eachRound {α : Type} (body : α → Step Unit) : List α → State → Except Flow Unit × State
  | [], s => (.ok (), s)
  | a :: more, s =>
    match perform (body a) s with
    | (.ok (), s) => eachRound body more s
    | (.error flow, s) =>
      match Round.after flow with
      | .another => eachRound body more s
      | .done => (.ok (), s)
      | .elsewhere flow => (.error flow, s)

/-- A loop over some things. -/
def loopOver {α : Type} (body : α → Step Unit) (things : List α) : Step Unit := do
  setStatus 0
  inLoop fun s => eachRound body things s

/-! ## Processes -/

/-- How a process ends. -/
inductive End where
  /-- With a status. -/
  | exited (status : Nat)
  /-- By a signal. -/
  | killed (signal : Nat)
  /-- Never. -/
  | never
deriving DecidableEq

namespace End

/-- The status of a process, for the one that started it. -/
def status : End → Nat
  | exited status => status % 256
  | killed signal => Signal.status signal
  | never => 0

end End

/-- How the process of a step ends. -/
def endOf : Except Flow Unit → State → End
  | .error (.killed signal), _ => .killed signal
  | .error .endless, _ => .never
  | _, s => .exited s.status

/-- A process that has been performed. -/
structure Child where
  /-- How it ended. -/
  ending : End
  /-- Its state then. -/
  state : State

namespace Child

/-- When it ended, if ever. -/
def ends (c : Child) : Option Nat := if c.ending = .never then none else some c.state.clock

end Child

/-- Performs a step as a process of its own. What it shares with this one is handed back; the
clock is not. -/
def fork (prepare : State → State) (act : Step Unit) : Step Child := do
  let s ← get
  let number := s.machine.nextProcess
  let machine := { s.machine with nextProcess := number + 1 }
  let inner := prepare { s with
    machine, number, parent := s.number, jobs := [], lastJob := s.lastJob, arrived := [] }
  let (result, inner) := perform act { inner with kept := inner.openChannels }
  set { s with machine := inner.machine }
  return ⟨endOf result inner, inner⟩

/-- Says how a process ended that a signal hit. -/
def reportEnd (ending : End) : Step Unit :=
  match ending with
  | .killed signal =>
    if Signal.silent.contains signal then pure ()
    else note (Signal.description signal).toList
  | _ => pure ()

/-- Learns which processes in the background have ended. -/
def learn : Step Unit := modify fun s =>
  let hasEnded (j : Job) : Bool := j.ends.any (· ≤ s.clock)
  { s with jobs := s.jobs.map fun j => { j with isKnown := j.isKnown || hasEnded j } }

/-- Waits for a process and takes its status. -/
def join (c : Child) : Step Unit := do
  waitUntil c.ends
  learn
  reportEnd c.ending
  setStatus c.ending.status

/-- Notes how long a process in the background keeps its channels open. -/
def holdChannels (group since : Nat) (ends : Option Nat) (channels : List Channel)
    (isProgram : Bool) : Step Unit := modify fun s =>
  let h : Hold := ⟨group, since, ends, channels, isProgram⟩
  { s with machine := { s.machine with holds := h :: s.machine.holds } }

/-- From now on the process keeps no channels open but those to which its descriptors lead. -/
def keepOpen : Step Unit := do
  let s ← get
  if s.kept != s.openChannels then
    holdChannels s.group 0 (some s.clock) s.kept false
    modify fun s => { s with kept := s.openChannels }

/-- Everything that a step writes to the output, when all who can write there are done. -/
def capture (act : (State → State) → Step Child) : Step (Child × Octets) := do
  let (number, machine) := (← get).machine.addPipe
  modify fun s => { s with machine }
  let child ← act fun s => s.redirect 1 (.pipe number)
  let (chunks, machine) := (← get).machine.drain number
  let closes := machine.heldUntil (.pipe number) child.ends
  modify fun s => { s with machine }
  waitUntil closes
  learn
  reportEnd child.ending
  return (child, (chunks.map (·.2)).flatten)

/-- Performs a step in the background. Its changes of the files are made when their time
comes. -/
def inBackground (act : (State → State) → Step Child) : Step Unit := do
  let s ← get
  let group := s.machine.nextProcess
  let before := s.machine.tree
  modify fun s => { s with machine := { s.machine with history := [] } }
  let child ← act fun s => { s with group, guarded := false }.redirect 0 .nowhere
  let m := (← get).machine
  let times := m.history.reverse ++ [(child.state.clock, m.tree)]
  let changes := Machine.changesOf group before times
  let job : Job := ⟨group, child.ends, child.ending.status, false⟩
  let machine := { m with
    tree := before, history := s.machine.history, changes := m.changes ++ changes }
  modify fun s =>
    { s with machine := machine.settle s.clock, jobs := s.jobs ++ [job], lastJob := some group }
  holdChannels group s.clock child.ends child.state.kept false
  setStatus 0

/-- How much a pipe takes that nobody reads. -/
def pipeRoom : Nat := 65536

/-- A stage that would never end, ended by the first thing it writes when its reader has ended;
or not, if it writes nothing more. -/
def endedByReader (c : Child) (chunks : List (Nat × Octets)) (time : Nat) : Child :=
  let ended (clock : Nat) : Child := ⟨.killed Signal.pipe, { c.state with clock }⟩
  match chunks.find? fun chunk => time < chunk.1 with
  | some (later, _) => ended later
  | none =>
    if pipeRoom < chunks.foldl (fun n chunk => n + chunk.2.length) 0 then ended time else c

/-- Performs the stages of a pipeline at the same time, each reading what the one before
writes. A stage that would never end is ended when it writes and nobody reads. -/
def stages (start : Nat) (status : Nat) : List (Option Nat × Step Unit) →
    Option Buffer → Step (List Child)
  | [], _ => return []
  | (writes, act) :: more, input => do
    let prepare (s : State) : State :=
      let s := { s with clock := start, status }
      let s := match input with
        | some b => s.feed 0 b
        | none => s
      match writes with
      | some number => s.redirect 1 (.pipe number)
      | none => s
    let child ← fork prepare act
    match writes with
    | none =>
      let others ← stages start status more none
      return child :: others
    | some number =>
      let (chunks, machine) := (← get).machine.drain number
      let closes := machine.heldUntil (.pipe number) child.ends
      modify fun s => { s with machine }
      let others ← stages start status more (some ⟨chunks, closes⟩)
      match child.ending, others.head?.bind Child.ends with
      | .never, some time => return endedByReader child chunks time :: others
      | _, _ => return child :: others

/-- Waits for the stages of a pipeline, and takes the status of the last. -/
def joinAll (children : List Child) : Step Unit := do
  let time := children.foldl (fun t c => Machine.later t c.ends) (some (← get).clock)
  waitUntil time
  learn
  let inOrder := children.mergeSort fun a b => a.state.clock ≤ b.state.clock
  inOrder.forM fun c => reportEnd c.ending
  match children.getLast? with
  | some c => setStatus c.ending.status
  | none => pure ()

end Step

end EditorAnalysis.Shell
