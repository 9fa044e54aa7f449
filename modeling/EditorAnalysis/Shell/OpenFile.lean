/-
EditorAnalysis.Shell.OpenFile — opening files.

A descriptor that is opened leads to a device or to an open file of the machine. A file that
is not there is made, if it is opened for writing.
-/
import EditorAnalysis.Shell.State

namespace EditorAnalysis.Shell

open Text (Octets)
open Host (Errno)

namespace Step

/-- A device as a channel. -/
def deviceChannel (s : State) (name : String) : Except Errno Channel :=
  match name with
  | "null" => .ok .nowhere
  | "zero" => .ok .zeros
  | "full" => .ok .full
  | "stdin" => (Assoc.get? 0 s.channels).elim (.error .noDevice) .ok
  | "stdout" => (Assoc.get? 1 s.channels).elim (.error .noDevice) .ok
  | "stderr" => (Assoc.get? 2 s.channels).elim (.error .noDevice) .ok
  | _ => .error .noDevice

/-- Lets a descriptor lead to an open file. -/
def openAs (descriptor : Nat) (f : OpenFile) : Step Unit := modify fun s =>
  let (number, machine) := s.machine.addFile f
  { s with machine }.redirect descriptor (.file number)

/-- Opens a file; says why that is not possible. -/
def openFile (descriptor : Nat) (opening : Opening) (path : Octets) : Step (Option Errno) := do
  let s ← get
  let text := Octets.toString path
  let writes := opening != .read
  let keeps := opening == .read || opening == .append || opening == .readWrite
  let f (place : Host.Place) (content : Octets) : OpenFile :=
    ⟨place, content, 0, opening == .append, opening == .read || opening == .readWrite, writes⟩
  match s.files.look text with
  | .ok (.device name) =>
    match deviceChannel s name with
    | .ok channel =>
      set (s.redirect descriptor channel)
      return none
    | .error reason => return some reason
  | .ok .directory =>
    if writes then return some .isDirectory
    set (s.redirect descriptor .nowhere)
    return none
  | .ok (.file content mode) =>
    match s.files.locate text with
    | .error reason => return some reason
    | .ok place =>
      if opening == .write && s.has 'C' then return some .entryExists
      let m := s.machine
      let tree := if keeps then m.tree else m.tree.put place (.file [] mode)
      set { s with machine := { m with tree } }
      openAs descriptor (f place (if keeps then Octets.ofBytes content else []))
      return none
  | .ok _ =>
    set (s.redirect descriptor .nowhere)
    return none
  | .error reason =>
    if opening == .read then return some reason
    match s.files.locate text with
    | .error reason => return some reason
    | .ok place =>
      match (s.machine.tree.get? place.dropLast) with
      | some .directory =>
        if text.endsWith "/" then return some .isDirectory
        let mode := 0o666 - (s.mask &&& 0o666)
        let m := s.machine
        set { s with machine := { m with tree := m.tree.put place (.file [] mode) } }
        openAs descriptor (f place [])
        return none
      | some _ => return some .notDirectory
      | none => return some .noEntry

end Step

end EditorAnalysis.Shell
