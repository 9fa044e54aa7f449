/-
EditorAnalysis.Shell.Lookup — what a name stands for.

A name may be a reserved word, a word that stands for a text, a function, a command of
the shell or a program. Programs are looked up in the directories of a variable unless
the name is a path.
-/
import EditorAnalysis.Shell.Builtin.Basic
import EditorAnalysis.Shell.Image
import EditorAnalysis.Shell.Token

namespace EditorAnalysis.Shell

open Text (Octets)
open Host (Errno)

namespace Lookup

/-! ## Programs -/

/-- Where programs are looked up when no variable says so. -/
def defaultPath : Octets :=
  "/usr/local/sbin:/usr/local/bin:/usr/sbin:/usr/bin:/sbin:/bin".toList

/-- A name in a directory; no directory stands for the current one. -/
def nameIn (directory name : Octets) : Octets :=
  if directory.isEmpty then name else directory ++ '/' :: name

/-- The directories of a list. -/
def directoriesIn (paths : Octets) : List Octets := Text.splitOn ':' paths

/-- The directories in which a process looks programs up. -/
def directories (s : State) : List Octets :=
  directoriesIn ((s.get? "PATH".toList).getD defaultPath)

/-- Something at a path that can be started, or why it cannot. -/
def startable (s : State) (path : Octets) : Except Errno Unit :=
  match s.files.look (Octets.toString path) with
  | .error reason => .error reason
  | .ok .directory => .error .denied
  | .ok _ => if s.files.isExecutable (Octets.toString path) then .ok () else .error .denied

/-- The path of a program in some directories, or why there is none. -/
def findIn (s : State) (name : Octets) (directories : List Octets) : Except Errno Octets :=
  directories.foldl (fun found directory =>
    match found with
    | .ok path => .ok path
    | .error reason =>
      let path := nameIn directory name
      match startable s path with
      | .ok () => .ok path
      | .error .noEntry => .error reason
      | .error .notDirectory => .error reason
      | .error other => .error other) (.error .noEntry)

/-- The path of a program: a name with a slash in it is one already. -/
def path (s : State) (name : Octets) : Except Errno Octets :=
  if name.contains '/' then .ok name
  else if name.isEmpty then .error .denied
  else findIn s name (directories s)

/-- A refusal in the shell's words. -/
def refusal (reason : Errno) (absent : String) : String :=
  match reason with
  | .noEntry => absent
  | .notDirectory => absent
  | other => other.text

/-- The program that the file at a path stands for. A file that names no program is read by a
shell. -/
def image (s : State) (path name : Octets) (arguments : List Octets) : Except Errno Image :=
  match Image.ofPath s.files Image.depth path name arguments with
  | .error .badFormat =>
    if s.isBash then .ok ⟨"bash", path, path :: arguments⟩
    else .ok ⟨"sh", "/bin/sh".toList, path :: arguments⟩
  | found => found

/-! ## Commands of the shell -/

/-- The commands that are part of the language. -/
def specialNames : List String :=
  [".", ":", "break", "continue", "eval", "exec", "exit", "export", "local", "readonly", "return",
    "set", "shift", "times", "trap", "unset"]

/-- The other commands of the shell. -/
def regularNames : List String :=
  ["[", "alias", "bg", "cd", "chdir", "command", "echo", "false", "fg", "getopts", "hash", "jobs",
    "kill", "printf", "pwd", "read", "test", "true", "type", "ulimit", "umask", "unalias", "wait"]

/-- The commands that bash has besides. -/
def bashNames : List String :=
  ["builtin", "caller", "compgen", "complete", "declare", "dirs", "disown", "enable", "history",
    "let", "logout", "mapfile", "popd", "pushd", "readarray", "shopt", "source", "suspend",
    "typeset"]

/-- The name is that of a command that is part of the language. -/
def isSpecial (l : Language) (name : Octets) : Bool :=
  l == .posix && specialNames.contains (String.ofList name)

/-- The name is that of a command of the shell. -/
def isBuiltin (l : Language) (name : Octets) : Bool :=
  let text := String.ofList name
  let common := specialNames.contains text || regularNames.contains text
  match l with
  | .posix => common
  | .bash => (common && text != "chdir") || bashNames.contains text

/-- The words that only bash reserves. -/
def bashWords : List String := ["[[", "]]", "function", "select", "time", "coproc"]

/-- The word is a reserved one. -/
def isReserved (l : Language) (name : Octets) : Bool :=
  (Reserved.ofText? name).isSome || (l == .bash && bashWords.contains (String.ofList name))

/-! ## Descriptions -/

/-- What is said of a name, in many words or few; nothing, if it stands for nothing. -/
def description? (s : State) (name : Octets) (verbose : Bool) : Option Octets :=
  let said (few : Octets) (many : String) : Option Octets :=
    some (if verbose then name ++ many.toList else few)
  if isReserved s.language name then said name " is a shell keyword"
  else match (Assoc.get? name s.aliases).filter fun _ => !s.isBash with
    | some text =>
      if verbose then some (name ++ " is an alias for ".toList ++ text)
      else some ("alias ".toList ++ name ++ '=' :: Builtin.inQuotes text)
    | none =>
      if isSpecial s.language name then said name " is a special shell builtin"
      else if (Assoc.get? name s.functions).isSome then said name " is a shell function"
      else if isBuiltin s.language name then said name " is a shell builtin"
      else if name.contains '/' then
        if (startable s name).toOption.isSome then
          some (if verbose then name ++ " is ".toList ++ name else name)
        else none
      else match path s name with
        | .ok path =>
          let known := (Assoc.get? name s.hashed).isSome
          if !verbose then some path
          else if known && s.isBash then some (name ++ " is hashed (".toList ++ path ++ [')'])
          else
            let verb := if known then " is a tracked alias for " else " is "
            some (name ++ verb.toList ++ path)
        | .error _ => none

/-- Writes what names stand for. -/
def describe (verbose : Bool) (names : List Octets) : Step Nat := do
  let found ← names.mapM fun name => do
    match description? (← get) name verbose with
    | some text =>
      Step.write (text ++ ['\n'])
      return true
    | none =>
      let s ← get
      if verbose then
        if s.isBash then Step.complainOf name "not found"
        else Step.write (name ++ ": not found\n".toList)
      return false
  let absent := if (← get).isBash then 1 else 127
  return if found.all id then 0 else absent

/-- What kind of thing a name stands for, in a word of bash. -/
def kind? (s : State) (name : Octets) : Option String :=
  if isReserved s.language name then some "keyword"
  else if (Assoc.get? name s.functions).isSome then some "function"
  else if isBuiltin s.language name then some "builtin"
  else if (path s name).toOption.any fun p => (startable s p).toOption.isSome then some "file"
  else none

/-- Says what names stand for; in bash in several ways. -/
def classify : Builtin := fun words => do
  if !(← get).isBash then return ← describe true words
  let (chosen, names) ← Builtin.flags "afptP".toList words
  let has (c : Char) : Bool := chosen.contains c
  if !(has 't' || has 'p' || has 'P') then return ← describe true names
  let found ← names.mapM fun name => do
    let s ← get
    let kind := kind? s name
    if has 't' then
      match kind with
      | some text => Step.print (text ++ "\n")
      | none => pure ()
      return kind.isSome
    else
      match path s name with
      | .ok path =>
        if has 'P' || kind == some "file" then Step.write (path ++ ['\n'])
        return true
      | .error _ => return !has 'P' && kind.isSome
  return if found.all id then 0 else 1

/-- Remembers where programs are, forgets it, or writes it. -/
def hash : Builtin := fun words => do
  let (chosen, names) ← Builtin.flags ['r'] words
  if !chosen.isEmpty then
    modify fun s => { s with hashed := [] }
    return 0
  else if names.isEmpty && (← get).isBash then
    let known := (← get).hashed
    if known.isEmpty then Step.print "hash: hash table empty\n"
    else
      Step.print "hits\tcommand\n"
      known.forM fun (_, path) => Step.write ("   1\t".toList ++ path ++ ['\n'])
    return 0
  else if names.isEmpty then
    (← get).hashed.forM fun (_, path) => Step.write (path ++ ['\n'])
    return 0
  else
    let found ← names.mapM fun name => do
      let s ← get
      if isBuiltin s.language name || (Assoc.get? name s.functions).isSome then return true
      match path s name with
      | .ok path =>
        set { s with hashed := Assoc.put name path s.hashed }
        return true
      | .error reason =>
        Step.complainOf name (refusal reason "not found")
        return false
    return if found.all id then 0 else 1

end Lookup

end EditorAnalysis.Shell
