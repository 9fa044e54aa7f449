/-
EditorAnalysis.Shell.Builtin.Surroundings — the commands about directories, permissions
and words that stand for texts.
-/
import EditorAnalysis.Shell.Builtin.Basic

namespace EditorAnalysis.Shell.Builtin

open Text (Octets)

/-! ## Directories -/

/-- The text of a place. -/
def placeText (place : Host.Place) : Octets := Octets.ofString ("/" ++ "/".intercalate place)

/-- The names in a path, where `..` takes back the name before it. -/
def settled (names : List Octets) : List Octets :=
  names.foldl (fun sofar name =>
    if name == "..".toList then sofar.dropLast
    else if name.isEmpty || name == ['.'] then sofar
    else sofar ++ [name]) []

/-- The path to which a path leads from another, without looking at links. -/
def lead (current path : Octets) : Octets :=
  let whole := if path.head? == some '/' then path else current ++ '/' :: path
  let root := match whole with
    | '/' :: '/' :: '/' :: _ => ['/']
    | '/' :: '/' :: _ => ['/', '/']
    | _ => ['/']
  root ++ ['/'].intercalate (settled (Text.splitOn '/' whole))

/-- Writes the current directory. -/
def pwd : Builtin := fun words => do
  let (chosen, _) ← flags ['L', 'P'] words
  let s ← get
  let path := if chosen.getLast? == some 'P' then placeText s.directory else s.path
  Step.write (path ++ ['\n'])
  return 0

/-- Goes to a directory, if the path leads to one. -/
def enter? (physical : Bool) (target : Octets) : Step Bool := do
  let s ← get
  let path := if physical then target else lead s.path target
  let text := Octets.toString path
  match s.files.isDirectory text, s.files.locate text with
  | true, .ok place =>
    let here := if physical then placeText place else path
    set { s with directory := place, path := here }
    Step.assign "OLDPWD".toList s.path
    Step.exportName "OLDPWD".toList
    Step.assign "PWD".toList here
    Step.exportName "PWD".toList
    return true
  | _, _ => return false

/-- A path that does not start from one of the directories in which names are looked up. -/
def isFixed (path : Octets) : Bool :=
  match path with
  | '/' :: _ => true
  | ['.'] => true
  | '.' :: '/' :: _ => true
  | ['.', '.'] => true
  | '.' :: '.' :: '/' :: _ => true
  | _ => false

/-- The paths that a name may stand for, and whether the directory is then told. -/
def directoriesFor (s : State) (target : Octets) : List (Octets × Bool) :=
  let own := (target, false)
  if isFixed target then [own]
  else match s.get? "CDPATH".toList with
    | none => [own]
    | some paths =>
      ((Text.splitOn ':' paths).map fun directory =>
        if directory.isEmpty then own else (directory ++ '/' :: target, true)) ++ [own]

/-- Goes to the first directory among some paths. -/
def enterFirst (physical : Bool) : List (Octets × Bool) → Step (Option Bool)
  | [] => return none
  | (path, told) :: more => do
    if ← enter? physical path then return some told else enterFirst physical more

/-- Changes the current directory. -/
def cd : Builtin := fun words => do
  let (chosen, words) ← flags ['L', 'P'] words
  let s ← get
  let wanted (name : String) : Step Octets := do
    match s.get? name.toList with
    | some path => return path
    | none => if s.isBash then Step.fail (name ++ " not set") else return []
  let (target, told) ← match words with
    | [] => pure (← wanted "HOME", false)
    | ['-'] :: _ => pure (← wanted "OLDPWD", true)
    | word :: more =>
      if s.isBash && !more.isEmpty then Step.fail "too many arguments" else pure (word, false)
  let target := if target.isEmpty then ['.'] else target
  match ← enterFirst (chosen.getLast? == some 'P') (directoriesFor s target) with
  | none =>
    if s.isBash then
      let reason := match s.files.look (Octets.toString target) with
        | .error reason => reason
        | .ok _ => .notDirectory
      Step.error (target ++ ": ".toList ++ reason.text.toList)
    Step.error ("can't cd to ".toList ++ target)
  | some tells =>
    if told || tells then Step.write ((← get).path ++ ['\n'])
    return 0

/-- Writes the directories to go back to. -/
def listPlaces : Builtin := fun _ => do
  let s ← get
  Step.write (spaced (s.path :: s.places) ++ ['\n'])
  return 0

/-- Goes to a directory that is to be left again. -/
def pushPlace : Builtin := fun words => do
  let s ← get
  match words, s.places with
  | [], [] => Step.fail "no other directory"
  | [], place :: places =>
    unless ← enter? false place do Step.error (place ++ ": No such file or directory".toList)
    modify fun t => { t with places := s.path :: places }
  | word :: _, places =>
    unless ← enter? false word do Step.error (word ++ ": No such file or directory".toList)
    modify fun t => { t with places := s.path :: places }
  listPlaces []

/-- Goes back to the directory that was left last. -/
def popPlace : Builtin := fun _ => do
  match (← get).places with
  | [] => Step.fail "directory stack empty"
  | place :: places =>
    unless ← enter? false place do Step.error (place ++ ": No such file or directory".toList)
    modify fun t => { t with places }
    listPlaces []

/-! ## Permissions -/

/-- The permissions that a mask leaves, in letters. -/
def symbolicMask (mask : Nat) : Octets :=
  let allowed := 0o777 - mask &&& 0o777
  let part (who : Char) (shift : Nat) : Octets :=
    let bits := allowed >>> shift
    who :: '=' :: ((if bits &&& 4 != 0 then ['r'] else []) ++
      (if bits &&& 2 != 0 then ['w'] else []) ++ (if bits &&& 1 != 0 then ['x'] else []))
  [','].intercalate [part 'u' 6, part 'g' 3, part 'o' 0]

/-- Four octal digits. -/
def octal (n : Nat) : Octets :=
  let digits := Numeral.digitsIn 8 n
  List.replicate (4 - digits.length) '0' ++ digits

/-- The bits of a letter for permissions. -/
def permissionBits : Char → Option Nat
  | 'r' => some 0o444
  | 'w' => some 0o222
  | 'x' => some 0o111
  | 'X' => some 0o111
  | 's' => some 0
  | 't' => some 0
  | _ => none

/-- The bits of a letter for those whom permissions concern. -/
def whoBits : Char → Option Nat
  | 'u' => some 0o700
  | 'g' => some 0o070
  | 'o' => some 0o007
  | 'a' => some 0o777
  | _ => none

/-- Changes permissions as a clause of letters says, those not named staying as they are. -/
def changeClause (default : Nat) (allowed : Nat) (clause : Octets) : Option Nat :=
  let whos := clause.takeWhile fun c => (whoBits c).isSome
  let who := if whos.isEmpty then default
    else whos.foldl (fun n c => n ||| (whoBits c).getD 0) 0
  let copied (c : Char) : Option Nat :=
    match c with
    | 'u' => some ((allowed >>> 6 &&& 7) * 0o111)
    | 'g' => some ((allowed >>> 3 &&& 7) * 0o111)
    | 'o' => some ((allowed &&& 7) * 0o111)
    | _ => permissionBits c
  let step (state : Option (Nat × Char)) (c : Char) : Option (Nat × Char) :=
    match state with
    | none => none
    | some (allowed, operator) =>
      if c == '+' || c == '-' then some (allowed, c)
      else if c == '=' then some (allowed &&& (0o7777 - who), c)
      else match copied c with
        | none => none
        | some bits =>
          let bits := bits &&& who
          if operator == '-' then some (allowed &&& (0o7777 - bits), operator)
          else some (allowed ||| bits, operator)
  match clause.drop whos.length with
  | c :: rest =>
    if c == '+' || c == '-' || c == '=' then
      ((c :: rest).foldl step (some (allowed, c))).map (·.1)
    else none
  | [] => none

/-- Changes permissions as clauses say. -/
def changeMode? (default : Nat) (allowed : Nat) (text : Octets) : Option Nat :=
  (Text.splitOn ',' text).foldl (fun allowed clause =>
    allowed.bind fun n => changeClause default n clause) (some allowed)

/-- Sets or writes which permissions new files do not get. -/
def umask : Builtin := fun words => do
  let s ← get
  let (chosen, words) ← flags (if s.isBash then ['S', 'p'] else ['S']) words
  match words with
  | [] =>
    let front := if chosen.contains 'p' then "umask ".toList else []
    let mask := if chosen.contains 'S' then symbolicMask s.mask else octal s.mask
    Step.write (front ++ mask ++ ['\n'])
  | word :: _ =>
    if (word.head?.map Char.isDigit).getD false then
      if word.all Numeral.isOctal then
        set { s with mask := Numeral.valueIn 8 word &&& 0o777 }
      else if s.isBash then Step.error (word ++ ": octal number out of range".toList)
      else Step.error ("Illegal number: ".toList ++ word)
    else match changeMode? 0o777 (0o777 - s.mask) word with
      | some allowed => set { s with mask := 0o777 - allowed &&& 0o777 }
      | none =>
        if s.isBash then
          Step.error ('\x60' :: word.take 1 ++ "': invalid symbolic mode operator".toList)
        Step.error ("Illegal mode: ".toList ++ word)
  return 0

/-! ## Words that stand for texts -/

/-- Writes what a word stands for. -/
def showAlias (name text : Octets) : Step Unit := do
  let front := if (← get).isBash then "alias ".toList else []
  Step.write (front ++ name ++ '=' :: inQuotes text ++ ['\n'])

/-- Lets words stand for texts, or writes what they stand for. -/
def defineAliases : Builtin := fun words => do
  let (_, words) ← if (← get).isBash then flags ['p'] words else pure ([], words)
  if words.isEmpty then
    let all := (← get).aliases.mergeSort fun a b => Octets.precedes a.1 b.1
    all.forM fun (name, text) => showAlias name text
    return 0
  else
    let found ← words.mapM fun word => do
      match assignment word with
      | (name, some text) =>
        modify fun s => { s with aliases := Assoc.put name text s.aliases }
        return true
      | (name, none) =>
        match Assoc.get? name (← get).aliases with
        | some text =>
          showAlias name text
          return true
        | none =>
          if (← get).isBash then Step.complainOf name "not found"
          else Step.note ("alias: ".toList ++ name ++ " not found".toList)
          return false
    return if found.all id then 0 else 1

/-- Lets words stand for themselves again. -/
def removeAliases : Builtin := fun words => do
  let (chosen, words) ← flags ['a'] words
  if chosen.contains 'a' then
    modify fun s => { s with aliases := [] }
    return 0
  else
    let found ← words.mapM fun word => do
      let s ← get
      match Assoc.get? word s.aliases with
      | some _ =>
        set { s with aliases := Assoc.erase word s.aliases }
        return true
      | none =>
        if s.isBash then Step.complainOf word "not found"
        else Step.note ("unalias: ".toList ++ word ++ " not found".toList)
        return false
    return if found.all id then 0 else 1

/-! ## Times -/

/-- Writes how much time was used, which is none. -/
def times : Builtin := fun _ => do
  let none := "0m0.000000s 0m0.000000s\n"
  Step.print (none ++ none)
  return 0

end EditorAnalysis.Shell.Builtin
