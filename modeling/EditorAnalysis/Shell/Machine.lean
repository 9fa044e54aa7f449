/-
EditorAnalysis.Shell.Machine — what the processes of one run share.

Processes write through channels: to a stream of the run, into a pipe, to an open
file, or nowhere. What goes to a stream or into a pipe is noted with its time, so
that processes which run at the same time can be performed one after the other. A
pipe is read as a buffer of such notes. A process that outlives the command that
started it keeps its channels open; `Hold` says how long.
-/
import EditorAnalysis.Assoc
import EditorAnalysis.Host.Process
import EditorAnalysis.Text.Octets

namespace EditorAnalysis.Shell

open Text (Octets)
open Host (Place Stream Tree)

/-- Where a descriptor leads. -/
inductive Channel where
  /-- To a stream of the run. -/
  | stream (s : Stream)
  /-- Nowhere. -/
  | nowhere
  /-- To a device without room. -/
  | full
  /-- From an endless row of null characters. -/
  | zeros
  /-- Into a pipe, by its number. -/
  | pipe (number : Nat)
  /-- From a buffer, by its number. -/
  | buffer (number : Nat)
  /-- To and from an open file, by its number. -/
  | file (number : Nat)
deriving DecidableEq, Repr

namespace Channel

/-- Something can be written there. -/
def isWritable : Channel → Bool
  | buffer _ => false
  | _ => true

end Channel

/-- Something that was written to a stream or into a pipe. -/
structure Writing where
  /-- When, in nanoseconds from the start. -/
  time : Nat
  /-- The group of the process. -/
  group : Nat
  /-- Where to. -/
  channel : Channel
  /-- What. -/
  text : Octets

/-- Texts to be read, each from a time on. -/
structure Buffer where
  /-- The texts, oldest first. -/
  chunks : List (Nat × Octets)
  /-- When nothing more can come; nothing, if that never happens. -/
  closes : Option Nat

/-- An open file. -/
structure OpenFile where
  /-- Its place. -/
  place : Place
  /-- What was in it when it was opened. -/
  content : Octets
  /-- Where the next character is read or written. -/
  offset : Nat
  /-- Everything is written at the end. -/
  appends : Bool
  /-- It may be read. -/
  readable : Bool
  /-- It may be written. -/
  writable : Bool

/-- A process keeps channels open. -/
structure Hold where
  /-- The process's group. -/
  group : Nat
  /-- Since when. -/
  since : Nat
  /-- Until when; nothing, if the process never ends. -/
  ends : Option Nat
  /-- The channels. -/
  channels : List Channel
  /-- The process is a program, which a signal to its group does not reach. -/
  isProgram : Bool

/-- A change of the files by a process that others do not wait for. -/
structure Change where
  /-- The process's group. -/
  group : Nat
  /-- When. -/
  time : Nat
  /-- The files before. -/
  before : Tree
  /-- The files after. -/
  after : Tree

/-- A signal on its way. -/
structure Sent where
  /-- When it arrives. -/
  time : Nat
  /-- The number of the process it is for. -/
  target : Nat
  /-- The signal. -/
  signal : Nat

/-- What the processes of one run share. -/
structure Machine where
  /-- The files. -/
  tree : Tree
  /-- What was written to streams and pipes, latest first. -/
  written : List Writing := []
  /-- Texts to be read, by number. -/
  buffers : List (Nat × Buffer) := []
  /-- Open files, by number. -/
  opened : List (Nat × OpenFile) := []
  /-- Channels that are kept open. -/
  holds : List Hold := []
  /-- Changes of the files that lie ahead. -/
  changes : List Change := []
  /-- The files at past times, latest first, where they are noted. -/
  history : List (Nat × Tree) := []
  /-- Signals on their way. -/
  sent : List Sent := []
  /-- The next number of a pipe, a buffer or an open file. -/
  fresh : Nat := 1
  /-- The number of the next process. -/
  nextProcess : Nat

namespace Machine

/-- The later of two times, where nothing stands for never. -/
def later (a b : Option Nat) : Option Nat :=
  match a, b with
  | some m, some n => some (max m n)
  | _, _ => none

/-- A new text to be read. -/
def addBuffer (m : Machine) (b : Buffer) : Nat × Machine :=
  (m.fresh, { m with buffers := Assoc.put m.fresh b m.buffers, fresh := m.fresh + 1 })

/-- A new open file. -/
def addFile (m : Machine) (f : OpenFile) : Nat × Machine :=
  (m.fresh, { m with opened := Assoc.put m.fresh f m.opened, fresh := m.fresh + 1 })

/-- A new pipe. -/
def addPipe (m : Machine) : Nat × Machine := (m.fresh, { m with fresh := m.fresh + 1 })

/-- What is in an open file now. -/
def contentOf (m : Machine) (f : OpenFile) : Octets :=
  match m.tree.get? f.place with
  | some (.file content _) => Octets.ofBytes content
  | _ => f.content

/-- Writes to an open file. A file that is gone only keeps what is written. -/
def writeFile (m : Machine) (number : Nat) (f : OpenFile) (text : Octets) : Machine :=
  let old := m.contentOf f
  let start := if f.appends then old.length else f.offset
  let gap := List.replicate (start - old.length) (Char.ofNat 0)
  let new := old.take start ++ gap ++ text ++ old.drop (start + text.length)
  let tree := match m.tree.get? f.place with
    | some (.file _ mode) => m.tree.put f.place (.file (Octets.toBytes new) mode)
    | _ => m.tree
  let f := { f with content := new, offset := start + text.length }
  { m with tree, opened := Assoc.put number f m.opened }

/-- Everything written into a pipe, oldest first, and the machine without it. -/
def drain (m : Machine) (number : Nat) : List (Nat × Octets) × Machine :=
  let (mine, others) := m.written.partition fun w => w.channel == .pipe number
  (mine.reverse.map fun w => (w.time, w.text), { m with written := others })

/-- How long a channel is kept open by processes that nobody waits for: from a time on. -/
def heldUntil (m : Machine) (channel : Channel) (time : Option Nat) : Option Nat :=
  m.holds.foldl (fun t h => if h.channels.contains channel then later t h.ends else t) time

/-! ## Processes in the background -/

/-- The changes between the files at some times, oldest first. -/
def changesOf (group : Nat) (before : Tree) : List (Nat × Tree) → List Change
  | [] => []
  | (time, after) :: rest =>
    let more := changesOf group after rest
    if before == after then more else ⟨group, time, before, after⟩ :: more

/-- The files after a change that was made to other files. -/
def apply (tree : Tree) (c : Change) : Tree :=
  let gone := c.before.nodes.filter fun (place, _) => (c.after.get? place).isNone
  let new := c.after.nodes.filter fun (place, node) => c.before.get? place != some node
  let tree := gone.foldl (fun t (place, _) => t.erase place) tree
  new.foldl (fun t (place, node) => t.put place node) tree

/-- The machine at a time: changes up to then have been made. -/
def settle (m : Machine) (time : Nat) : Machine :=
  let (due, ahead) := m.changes.partition fun c => c.time ≤ time
  { m with tree := due.foldl apply m.tree, changes := ahead }

/-- The machine without what a group would have done behind a time. Programs of the group go
on. -/
def stop (m : Machine) (group time : Nat) : Machine :=
  { m with
    written := m.written.filter fun w => !(w.group == group && time < w.time)
    changes := m.changes.filter fun c => !(c.group == group && time < c.time)
    sent := m.sent.filter fun x => !(x.target == group)
    holds := m.holds.filterMap fun h =>
      if h.group != group then some h
      else if h.isProgram then if h.since ≤ time then some h else none
      else some { h with ends := some time } }

end Machine

end EditorAnalysis.Shell
