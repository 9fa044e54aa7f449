/-
EditorAnalysis.Shell.Beginning — how processes begin.

A program inherits the exported variables of the shell that starts it. A shell sets
variables of its own, and finds the script that it is to read in a file, in a word or in
what it can read.
-/
import EditorAnalysis.Shell.Builtin.Surroundings
import EditorAnalysis.Shell.Builtin.Variables
import EditorAnalysis.Shell.Lookup
import EditorAnalysis.Shell.Running

namespace EditorAnalysis.Shell

open Text (Octets)
open Host (Errno)

namespace Beginning

/-- What a program inherits from a shell, in the order of the shell's language. -/
def inherited (s : State) : List (Octets × Octets) :=
  match s.language with
  | .posix => s.environment
  | .bash =>
    let named := s.bindings.filter fun (_, v) => v.exported && v.elements.isNone
    let ordered := named.mergeSort fun a b => Elements.slot a.1 ≤ Elements.slot b.1
    let (last, others) := ordered.partition fun (name, _) => name == ['_']
    (others ++ last).filterMap fun (name, v) => v.value.map (name, ·)

/-- The state in which a program starts that is a process already. -/
def programState (s : State) (name : Octets) : State :=
  { machine := s.machine
    directory := s.directory
    path := s.path
    clock := s.clock
    number := s.number
    parent := s.parent
    group := s.group
    channels := s.channels
    kept := s.kept
    name
    mask := s.mask
    bindings := (inherited s).map fun (name, value) => (name, .ofValue value true)
    shell := s.number
    traps := s.traps.filter fun t => t.2.isEmpty }

/-- A shell of its own does not catch what the shell around it catches, and ends with its
command. -/
def ownShell (s : State) : State :=
  { s with
    traps := s.traps.filter fun t => t.2.isEmpty
    final := true
    shellDepth := s.shellDepth + 1 }

/-- The flow that comes of a signal that nothing is done about. -/
def flowOf? (signal : Nat) : Option Flow :=
  if Signal.ignored.contains signal then none
  else if Signal.stopping.contains signal then some .endless
  else some (.killed signal)

/-- Takes the signals that have arrived by now. -/
def takeSignals : Step (List (Nat × Nat)) := do
  let s ← get
  let mine (x : Sent) : Bool := x.target == s.number && decide (x.time ≤ s.clock)
  let (due, others) := s.machine.sent.partition mine
  set { s with arrived := [], machine := { s.machine with sent := others } }
  return s.arrived.map (fun signal => (s.clock, signal)) ++ due.map fun x => (x.time, x.signal)

/-- Does what no trap does about a signal that arrived at a time. What the process still waits
for keeps its channels open. -/
def meet (time signal : Nat) : Step Unit := do
  match flowOf? signal with
  | none => pure ()
  | some flow =>
    let s ← get
    if time < s.clock then
      Step.holdChannels s.group time (some s.clock) s.openChannels true
      modify fun s => { s with clock := time }
    throw flow

/-- The variables that a shell sets unless it inherits them. -/
def initialBindings (s : State) : List (Octets × Octets) :=
  [("PATH".toList, Lookup.defaultPath), ("PS1".toList, ['#', ' ']), ("PS2".toList, ['>', ' ']),
    ("PS4".toList, ['+', ' ']), ("PPID".toList, (toString s.parent).toList)]

/-- The names that come first in their chains. -/
def firstNames : List Octets := ["IFS", "PATH", "PS1", "PS2", "PS4", "OPTIND"].map String.toList

/-- The path of the directory in which a shell begins: the one that it inherits, if that leads
there. -/
def beginningPath (s : State) : Octets :=
  let isHere (path : Octets) : Bool :=
    path.head? == some '/' &&
      (match s.files.locate (Octets.toString path) with
        | .ok place => place == s.directory && s.files.isDirectory (Octets.toString path)
        | .error _ => false)
  ((s.get? "PWD".toList).filter isHere).getD (Builtin.placeText s.directory)

/-- Sets variables that have no values yet. -/
def setMissing (values : List (Octets × Octets)) (s : State) : State :=
  values.foldl (fun s (name, value) =>
    if (s.get? name).isSome then s else s.put name (.ofValue value false)) s

/-- The state in which a shell begins: inherited variables have proper names, and the
shell's own are set. -/
def initialPosix (s : State) : State :=
  let inherited := s.bindings.filter fun (name, _) => isName name && !firstNames.contains name
  let own := s.bindings.filter fun (name, _) => firstNames.contains name
  let path := beginningPath s
  let s := { s with bindings := own ++ inherited, path }
  let s := setMissing (initialBindings s) s
  let s := s.put "OPTIND".toList (.ofValue ['1'] false)
  let s := s.put "IFS".toList (.ofValue [' ', '\t', '\n'] false)
  s.put "PWD".toList (.ofValue path true)

/-- The variables that a shell of bash sets unless it inherits them. -/
def missingInBash : List (String × String) :=
  [("PATH", "/usr/local/sbin:/usr/local/bin:/usr/sbin:/usr/bin:/sbin:/bin"), ("TERM", "dumb"),
    ("SHELL", "/bin/bash"), ("PS4", "+ "), ("OPTERR", "1"), ("HOSTNAME", "localhost")]

/-- The variables that a shell of bash sets in any case. -/
def ownInBash : List (String × String) :=
  [("BASH", "/bin/bash"), ("BASH_VERSION", "5.2.15(1)-release"), ("OPTIND", "1"),
    ("IFS", " \t\n"), ("HOSTTYPE", "x86_64"), ("MACHTYPE", "x86_64-pc-linux-gnu"),
    ("OSTYPE", "linux-gnu")]

/-- The variables that keep the values which a shell of bash gives them. -/
def fixedInBash : List (String × String) :=
  [("EUID", "0"), ("UID", "0"), ("SHELLOPTS", "braceexpand:hashall:interactive-comments")]

/-- The parts of the version. -/
def versionParts : List String := ["5", "2", "15", "1", "release", "x86_64-pc-linux-gnu"]

/-- The state in which a shell of bash begins. -/
def initialBash (s : State) : State :=
  let path := beginningPath s
  let depth := (((s.get? "SHLVL".toList).bind Numeral.natural?).getD 0) + 1
  let texts (values : List (String × String)) : List (Octets × Octets) :=
    values.map fun (name, value) => (name.toList, value.toList)
  let s := { s with
    bindings := s.bindings.filter fun (name, _) => isName name
    path, language := .bash, options := ['h', 'B', '4'] }
  let s := setMissing (texts missingInBash) s
  let s := (texts ownInBash).foldl (fun s (name, value) =>
    s.put name (.ofValue value false)) s
  let fixed := texts fixedInBash ++ [("PPID".toList, (toString s.parent).toList)]
  let s := fixed.foldl (fun s (name, value) =>
    s.put name { value := some value, readOnly := true }) s
  let parts := versionParts.map String.toList
  let s := s.put "BASH_VERSINFO".toList
    { value := parts.head?, readOnly := true, elements := some (.ofValues parts) }
  let s := s.put "OLDPWD".toList { value := s.get? "OLDPWD".toList, exported := true }
  let s := s.put "SHLVL".toList (.ofValue (toString depth).toList true)
  s.put "PWD".toList (.ofValue path true)

/-- The state in which a shell of a language begins. -/
def initial (l : Language) (s : State) : State :=
  match l with
  | .posix => initialPosix s
  | .bash => initialBash s

/-- What a shell is to read. -/
structure Source where
  /-- The script. -/
  text : Octets
  /-- It stands in a file. -/
  inFile : Bool

/-- What is in a file that is to be read, or why it cannot be. -/
def scriptIn (s : State) (path : Octets) : Except Errno Octets :=
  (s.files.read (Octets.toString path)).map Octets.ofBytes

/-- The letters in front of the words of a shell; whether a command is among the words. -/
def shellOptions : Nat → List Octets → Step (Bool × List Octets)
  | 0, words => return (false, words)
  | fuel + 1, words =>
    match words with
    | ['-'] :: rest => return (false, rest)
    | ['-', '-'] :: rest => return (false, rest)
    | ('-' :: c :: letters) :: rest => do
      let own := c :: letters
      let rest ← Builtin.setLetters true (own.filter fun c => c != 'c' && c != 'l') rest
      let (command, rest) ← shellOptions fuel rest
      return (command || own.contains 'c', rest)
    | ('+' :: c :: letters) :: rest => do
      let rest ← Builtin.setLetters false (c :: letters) rest
      shellOptions fuel rest
    | words => return (false, words)

/-- The word is an option that is written out. -/
def isLongOption (word : Octets) : Bool :=
  match word with
  | '-' :: '-' :: _ :: _ => true
  | _ => false

/-- The script that a shell is to read. Its name and its arguments are set. -/
def sourceOf (words : List Octets) : Step Source := do
  modify fun s => { s with line := 0 }
  let bash := (← get).isBash
  let words := if bash then words.dropWhile isLongOption else words
  let (command, words) ← shellOptions (words.length + 1) words
  if command then
    if bash then Builtin.setOption 'c' true
    match words with
    | [] =>
      if bash then
        Step.note ((← get).name ++ ": -c: option requires an argument".toList)
        Step.setStatus 2
        throw .leave
      Step.fail "-c requires an argument"
    | text :: words =>
      modify fun s =>
        { s with name := words.head?.getD s.name, arguments := words.drop 1, line := 1 }
      return ⟨text, false⟩
  else match words with
    | path :: arguments =>
      if (← get).has 's' then fromInput words
      else
        let s ← get
        match scriptIn s path with
        | .ok text =>
          set { s with name := path, sources := [path], arguments, line := 1 }
          return ⟨text, true⟩
        | .error reason =>
          if bash then
            let front := if reason == .isDirectory then path ++ ": ".toList else []
            Step.note (s.name ++ ": ".toList ++ front ++ path ++ ": ".toList
              ++ reason.text.toList)
            Step.setStatus (if reason == .noEntry then 127 else 126)
            throw .leave
          Step.error ("cannot open ".toList ++ path ++ ": ".toList
            ++ (Lookup.refusal reason "No such file").toList)
    | [] => fromInput []
where
  /-- The script is what the shell can read. -/
  fromInput (arguments : List Octets) : Step Source := do
    Builtin.setOption 's' true
    modify fun s => { s with arguments, line := 1 }
    match ← Step.readAll 0 with
    | .ok text => return ⟨text, true⟩
    | .error _ => return ⟨[], true⟩

end Beginning

end EditorAnalysis.Shell
