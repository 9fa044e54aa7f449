/-
EditorAnalysis.Shell.Programs — what programs do, by performing their scripts.

`programs` starts the program that a file stands for, performs what it does, and
reports it as an episode. `systemTree` has the programs of the system in their
directories.
-/
import EditorAnalysis.Shell.Eval

namespace EditorAnalysis.Shell

open Host

/-- The number of the process that a run begins with. -/
def firstProcess : Nat := 4242

/-- A process before it does anything: its two streams are open, and there is nothing to
read. -/
def beginning (i : Invocation) (tree : Tree) : State :=
  let channels := [(0, .nowhere), (1, .stream .output), (2, .stream .diagnostics)]
  { machine := { tree, nextProcess := firstProcess + 1 }
    directory := i.directory
    path := Builtin.placeText i.directory
    number := firstProcess
    shell := firstProcess
    bindings := i.environment.map fun (name, value) =>
      (Text.Octets.ofString name, .ofValue (Text.Octets.ofString value) true)
    channels
    kept := channels.map (·.2) }

/-- What processes wrote to the streams of a run, in the order of time. -/
def emissions (m : Machine) : List Emission :=
  let written := m.written.reverse.filterMap fun w =>
    match w.channel with
    | .stream stream => some (⟨w.time, stream, Text.Octets.toBytes w.text⟩ : Emission)
    | _ => none
  written.mergeSort fun a b => a.time ≤ b.time

/-- The life of the process that a run began with. -/
def episode (c : Step.Child) : Episode :=
  let streams : List Channel := [.stream .output, .stream .diagnostics]
  let ownSilence := if streams.any c.state.kept.contains then c.ends else some 0
  { emissions := emissions c.state.machine
    ending := match c.ending with
      | .killed signal => .killed signal
      | other => .exited other.status
    lifetime := c.ends
    silence := streams.foldl (fun t channel => c.state.machine.heldUntil channel t) ownSilence }

/-- What programs do. -/
def programs : Programs := fun i tree =>
  let s := beginning i tree
  let path := Text.Octets.ofString i.path
  let arguments := i.arguments.map Text.Octets.ofString
  match Image.ofPath s.files Image.depth path path arguments with
  | .error reason => (.error reason, tree)
  | .ok image =>
    let (result, s) := Step.perform (Eval.start Eval.fuel image) s
    (.ok (episode ⟨Step.endOf result s, s⟩), s.machine.tree)

/-! ## The system -/

/-- The programs of the system. -/
def systemPrograms : List String :=
  ["sh", "dash", "bash", "rbash", "env", "awk", "mawk"] ++ Tool.all.map (·.1)

/-- The devices of the system. -/
def systemDevices : List String := ["null", "zero", "full", "stdin", "stdout", "stderr", "tty"]

/-- The directories in which the system has its programs. -/
def programDirectories : List Place := [["bin"], ["usr", "bin"]]

/-- The other directories of the system. -/
def systemDirectories : List Place :=
  [["dev"], ["etc"], ["home"], ["lib"], ["opt"], ["proc"], ["root"], ["sbin"], ["tmp"],
    ["usr", "lib"], ["usr", "local", "bin"], ["usr", "sbin"], ["usr", "share"], ["var"]]

/-- The files of the system. -/
def systemTree : Tree :=
  let bare := systemDirectories.foldl (fun t d => t.plant d .directory) ⟨[]⟩
  let equipped := systemDevices.foldl (fun t name => t.plant ["dev", name] (.device name)) bare
  programDirectories.foldl (fun t directory =>
    systemPrograms.foldl (fun t name => t.plant (directory ++ [name]) (.program name)) t) equipped

end EditorAnalysis.Shell
