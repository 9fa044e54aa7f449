/-
EditorAnalysis.Shell.Tool.Surroundings — programs that tell and change a process's
surroundings.
-/
import EditorAnalysis.Shell.Lookup
import EditorAnalysis.Shell.Tool.Basic

namespace EditorAnalysis.Shell.Tool

open Text (Octets)
open Host (Errno)

/-! ## Tellings -/

/-- Writes the directory. -/
def pwd : Tool := fun words =>
  withOptions { choices := [flag 'L' "logical", flag 'P' "physical"] } words
    fun chosen words => do
      unless words.isEmpty do complainText "ignoring non-option arguments"
      let s ← get
      let here := Octets.ofString ("/" ++ "/".intercalate s.directory)
      let logical := (chosen.getLast?.map fun c => c.hasLetter 'L').getD false
      let stated := (s.get? "PWD".toList).filter fun path =>
        logical && path.head? == some '/'
          && (s.files.locate (Octets.toString path)).toOption == some s.directory
      Step.write (stated.getD here ++ ['\n'])
      return 0

/-- A binding as it is written in an environment. -/
def bindingText (name value : Octets) : Octets := name ++ '=' :: value

/-- Writes the environment, or the values of variables. -/
def printenv : Tool := fun words =>
  let style : Style := { choices := [flag '0' "null"], endsAtWord := true, status := 2 }
  withOptions style words fun chosen names => do
    let ending := if has chosen '0' then [Char.ofNat 0] else ['\n']
    let s ← get
    if names.isEmpty then
      s.bindings.forM fun (name, v) =>
        Step.write (bindingText name (v.value.getD []) ++ ending)
      return 0
    else
      let found ← names.mapM fun name => do
        match s.get? name with
        | some value =>
          Step.write (value ++ ending)
          return true
        | none => return false
      return if found.all id then 0 else failure

/-- The user's name. -/
def userName : String := "root"

/-- Writes who the user is. -/
def identity : Tool := fun words =>
  withOptions { choices := [flag 'u' "user", flag 'g' "group", flag 'G' "groups", flag 'n' "name",
      flag 'r' "real", flag 'z' "zero", flag 'a' "", flag 'Z' "context"] } words
    fun chosen words => do
      let single := ['u', 'g', 'G'].any (has chosen)
      let unknown := words.filter fun w => w != userName.toList && w != ['0']
      if (has chosen 'n' || has chosen 'r') && !single then
        complainText "cannot print only names or real IDs in default format"
        return failure
      else
        unknown.forM fun w => do complain ((← named w) ++ ": no such user".toList)
        let text := if !single then "uid=0(root) gid=0(root) groups=0(root)"
          else if has chosen 'n' then userName else "0"
        if unknown.length < words.length || words.isEmpty then Step.print (text ++ "\n")
        return if unknown.isEmpty then 0 else failure

/-- Writes the user's name. -/
def whoami : Tool := fun words => withOptions { choices := [] } words fun _ words => do
  match words with
  | [] =>
    Step.print (userName ++ "\n")
    return 0
  | w :: _ => misuse failure ("extra operand ".toList ++ (← named w))

/-- Writes what the system is. -/
def uname : Tool := fun words =>
  let style : Style :=
    { choices := [flag 's' "kernel-name", flag 'o' "operating-system", flag 'm' "machine"] }
  withOptions style words
    fun chosen words => do
      match words with
      | w :: _ => misuse failure ("extra operand ".toList ++ (← named w))
      | [] =>
        let parts := (if has chosen 's' || chosen.isEmpty then ["Linux"] else [])
          ++ (if has chosen 'm' then ["x86_64"] else [])
          ++ (if has chosen 'o' then ["GNU/Linux"] else [])
        Step.print (" ".intercalate parts ++ "\n")
        return 0

/-- Says that there is no terminal. -/
def tty : Tool := fun words =>
  withOptions { choices := [flag 's' "silent"], status := 2 } words fun chosen _ => do
    unless has chosen 's' do Step.print "not a tty\n"
    return failure

/-- Writes where programs are. -/
def which : Tool := fun words =>
  let style : Style :=
    { choices := [flag 'a' "", flag 's' ""], endsAtWord := true, status := 2 }
  withOptions style words fun chosen names => do
    let s ← get
    let found ← names.mapM fun name => do
      let candidates := if name.contains '/' then [name]
        else (Lookup.directories s).map fun directory => Lookup.nameIn directory name
      let paths := candidates.filter fun path =>
        !name.isEmpty && (Lookup.startable s path).toOption.isSome
      let paths := if has chosen 'a' then paths else paths.take 1
      unless has chosen 's' do paths.forM fun path => Step.write (path ++ ['\n'])
      return !paths.isEmpty
    return if found.all (fun b => b) && !names.isEmpty then 0 else failure

/-! ## Changed surroundings -/

/-- The status of a program that could not even begin to start another one. -/
def notBegun : Nat := 125

/-- The words in a text for `env`: blanks separate them, quotes hold them together. -/
def splitWords : Nat → Option Octets → Octets → List Octets
  | 0, word, _ => word.toList.map List.reverse
  | _, word, [] => word.toList.map List.reverse
  | fuel + 1, word, c :: rest =>
    let add (cs : Octets) (rest : Octets) : List Octets :=
      splitWords fuel (some (cs.reverse ++ word.getD [])) rest
    if c == ' ' || c == '\t' then word.toList.map List.reverse ++ splitWords fuel none rest
    else if c == '\'' then
      let inside := rest.takeWhile (· != '\'')
      add inside (rest.drop (inside.length + 1))
    else if c == '"' then
      let inside := rest.takeWhile (· != '"')
      add inside (rest.drop (inside.length + 1))
    else match c, rest with
      | '\\', 'n' :: rest => add ['\n'] rest
      | '\\', 't' :: rest => add ['\t'] rest
      | '\\', '_' :: rest => add [' '] rest
      | '\\', d :: rest => add [d] rest
      | c, rest => add [c] rest

/-- The words of `env` with those in a text to be split in its place. -/
def splitFirst : Nat → List Octets → List Octets
  | fuel + 1, ('-' :: 'S' :: text) :: rest =>
    let (text, rest) := if text.isEmpty then (rest.head?.getD [], rest.drop 1) else (text, rest)
    splitFirst fuel (splitWords (text.length + 1) none text ++ rest)
  | _, words => words

/-- The options of `env`. -/
def environmentStyle : Style :=
  { choices := [flag 'i' "ignore-environment", wanting 'u' "unset", flag '0' "null",
      wanting 'C' "chdir", wanting 'S' "split-string", flag 'v' "debug"]
    endsAtWord := true
    status := notBegun }

/-- Takes the words of `env` that name values; the others are left. -/
def takeBindings : List Octets → Step (List Octets)
  | [] => return []
  | word :: rest =>
    if word.contains '=' then do
      let name := word.takeWhile (· != '=')
      modify fun s => s.put name (.ofValue (word.drop (name.length + 1)) true)
      takeBindings rest
    else return word :: rest

/-- Enters a directory. -/
def enterFor (path : Octets) : Step (Option Errno) := do
  let s ← get
  let text := Octets.toString path
  match s.files.look text, s.files.locate text with
  | .ok .directory, .ok place =>
    set { s with directory := place }
    return none
  | .ok _, _ => return some .notDirectory
  | .error reason, _ => return some reason

/-- Changes the environment as the words of `env` ask for; the command among them is left, or the
status of a misuse. An environment without a command is written. -/
def changeEnvironment (words : List Octets) : Step (Except Nat (List Octets)) := do
  let lone := words == [['-', 'S']]
  let words := if lone then words else splitFirst (words.length + 1) words
  match ← readOptions environmentStyle (words.length + 1) words with
  | .error status => return .error status
  | .ok (chosen, rest) =>
    let hyphen := rest.head? == some ['-']
    let rest := if hyphen then rest.drop 1 else rest
    if hyphen || has chosen 'i' then modify fun s => { s with bindings := [] }
    let removed := chosen.filterMap fun c => if c.hasLetter 'u' then c.value else none
    match removed.find? fun name => name.isEmpty || name.contains '=' with
    | some name =>
      complain ("cannot unset ".toList ++ (← named name) ++ ": Invalid argument".toList)
      return .error notBegun
    | none =>
      removed.forM fun name => modify fun s =>
        { s with bindings := Assoc.erase name s.bindings }
      let command ← takeBindings rest
      if has chosen '0' && !command.isEmpty then
        return .error (← misuse notBegun "cannot specify --null (-0) with command".toList)
      match valueOf? chosen 'C' with
      | some path =>
        if command.isEmpty then
          return .error (← misuse notBegun "must specify command with --chdir (-C)".toList)
        match ← enterFor path with
        | none => pure ()
        | some reason =>
          complain ("cannot change directory to ".toList ++ (← always path) ++ ": ".toList
            ++ reason.text.toList)
          return .error notBegun
      | none => pure ()
      if command.isEmpty then
        return .error (← printenv (if has chosen '0' then [['-', '0']] else []))
      return .ok command

end EditorAnalysis.Shell.Tool
