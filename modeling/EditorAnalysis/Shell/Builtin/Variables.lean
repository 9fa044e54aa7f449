/-
EditorAnalysis.Shell.Builtin.Variables — the commands about variables, arguments and
options.
-/
import EditorAnalysis.Shell.Builtin.Basic

namespace EditorAnalysis.Shell.Builtin

open Text (Octets)

/-! ## Variables -/

/-- The state's variables in the order of their names. -/
def inOrder (s : State) : List (Octets × Variable) :=
  s.bindings.mergeSort fun a b => Octets.precedes a.1 b.1

/-- Writes some variables as the shell reads them back, with a word in front. -/
def list (front : Octets) (p : Variable → Bool) : Step Unit := do
  let lines := ((inOrder (← get)).filter fun v => p v.2).map fun (name, v) =>
    front ++ name ++ (match v.value with
      | some value => '=' :: inQuotes value
      | none => []) ++ ['\n']
  Step.write lines.flatten

/-- Gives a word's variable its value, if it has one, and does something with its name. -/
def declareWord (andThen : Octets → Step Unit) (word : Octets) : Step Unit := do
  let (name, value) := assignment word
  if !isName name then refuseName name
  match value with
  | some value => Step.assign name value
  | none => pure ()
  andThen name

/-- Declares variables, or lists those that are declared so. -/
def declare (front : String) (p : Variable → Bool) (andThen : Octets → Step Unit) : Builtin :=
  fun words => do
    let (chosen, words) ← flags ['p'] words
    if words.isEmpty || chosen.contains 'p' then list (front ++ " ").toList p
    else words.forM (declareWord andThen)
    return 0

/-- Lets programs inherit variables. -/
def exportNames : Builtin := declare "export" (·.exported) Step.exportName

/-- Lets variables keep their values. -/
def readonly : Builtin := declare "readonly" (·.readOnly) Step.keepValue

/-- The options as the function's own. -/
def saveOptions : Step Unit := modify fun s =>
  match s.frames with
  | [] => s
  | f :: more => { s with frames := { f with options := f.options.or (some s.options) } :: more }

/-- Makes variables a function's own. -/
def makeLocal : Builtin := fun words => do
  if (← get).functionDepth = 0 then Step.fail "not in a function"
  words.forM fun word => do
    if word == ['-'] then saveOptions
    else
      let (name, value) := assignment word
      if !isName name then refuseName name
      Step.saveVariable name
      match value with
      | some value => Step.assign name value
      | none => pure ()
  return 0

/-- Forgets variables, or functions. -/
def unset : Builtin := fun words => do
  let (chosen, names) ← flags ['v', 'f'] words
  names.forM fun name => do
    if chosen.getLast? == some 'f' then
      modify fun s => { s with functions := Assoc.erase name s.functions }
    else if !isName name then refuseName name
    else Step.forget name
  return 0

/-! ## Arguments -/

/-- Drops arguments. -/
def shift : Builtin := fun words => do
  let s ← get
  let n ← match words with
    | [] => pure 1
    | ('-' :: digits) :: _ =>
      if s.isBash && !digits.isEmpty && digits.all Char.isDigit then
        Step.error ('-' :: digits ++ ": shift count out of range".toList)
      else Step.count ('-' :: digits)
    | word :: _ => Step.count word
  if s.arguments.length < n then
    if s.isBash then return 1
    Step.fail "can't shift that many"
  set { s with arguments := s.arguments.drop n, optionIndex := 1, optionOffset := none }
  return 0

/-- The options of the shell: names and letters. -/
def shellOptions : List (String × Char) :=
  [("errexit", 'e'), ("noglob", 'f'), ("ignoreeof", 'I'), ("interactive", 'i'),
    ("monitor", 'm'), ("noexec", 'n'), ("stdin", 's'), ("xtrace", 'x'), ("verbose", 'v'),
    ("vi", 'V'), ("emacs", 'E'), ("noclobber", 'C'), ("allexport", 'a'), ("notify", 'b'),
    ("nounset", 'u'), ("privileged", 'p'), ("nolog", 'L'), ("debug", 'D')]

/-- The options of bash: names and letters, or digits and marks where they have none. -/
def bashOptions : List (String × Char) :=
  [("allexport", 'a'), ("braceexpand", 'B'), ("emacs", '1'), ("errexit", 'e'), ("errtrace", 'E'),
    ("functrace", 'T'), ("hashall", 'h'), ("histexpand", 'H'), ("history", '2'),
    ("ignoreeof", '3'), ("interactive-comments", '4'), ("keyword", 'k'), ("monitor", 'm'),
    ("noclobber", 'C'), ("noexec", 'n'), ("noglob", 'f'), ("nolog", '5'), ("notify", 'b'),
    ("nounset", 'u'), ("onecmd", 't'), ("physical", 'P'), ("pipefail", '|'), ("posix", '6'),
    ("privileged", 'p'), ("verbose", 'v'), ("vi", '7'), ("xtrace", 'x')]

/-- The options of a language. -/
def optionsOf : Language → List (String × Char)
  | .posix => shellOptions
  | .bash => bashOptions

/-- The letter that stands for pipelines that fail with any of their commands. -/
def failingPipes : Char := '|'

/-- The options that have letters of their own. -/
def hasLetter (c : Char) : Bool := c.isAlpha && !"LD".toList.contains c

/-- Sets an option, or takes it back. -/
def setOption (c : Char) (on : Bool) : Step Unit := modify fun s =>
  let others := s.options.filter (· != c)
  { s with options := if on then c :: others else others }

/-- Sets an option that a letter names. -/
def setLetter (c : Char) (on : Bool) : Step Unit := do
  let letters := (optionsOf (← get).language).map (·.2)
  if hasLetter c && letters.contains c then setOption c on else refuseOption c

/-- Sets an option that a word names. -/
def setNamed (name : Octets) (on : Bool) : Step Unit := do
  match (optionsOf (← get).language).lookup (String.ofList name) with
  | some c => setOption c on
  | none =>
    if (← get).isBash then
      Step.complainOf name "invalid option name"
      Step.setStatus usageStatus
      throw .raised
    Step.error ("Illegal option -o ".toList ++ name)

/-- The option that a word names is set. -/
def isNamedOn (s : State) (name : Octets) : Bool :=
  ((optionsOf s.language).lookup (String.ofList name)).any s.has

/-- Writes which options are set. -/
def listOptions (on : Bool) : Step Unit := do
  let s ← get
  if s.isBash then
    bashOptions.forM fun (name, c) =>
      let padding := String.ofList (List.replicate (15 - name.length) ' ')
      Step.print (if on then name ++ padding ++ "\t" ++ (if s.has c then "on" else "off") ++ "\n"
        else "set " ++ (if s.has c then "-o " else "+o ") ++ name ++ "\n")
  else if on then
    Step.print "Current option settings\n"
    shellOptions.forM fun (name, c) =>
      Step.print (name ++ String.ofList (List.replicate (16 - name.length) ' ')
        ++ (if s.has c then "on" else "off") ++ "\n")
  else shellOptions.forM fun (name, c) =>
    Step.print ("set " ++ (if s.has c then "-o " else "+o ") ++ name ++ "\n")

/-- Sets the options whose letters a word holds. The letter `o` takes the next word. -/
def setLetters (on : Bool) : Octets → List Octets → Step (List Octets)
  | [], words => return words
  | 'o' :: more, words => do
    match words with
    | [] => listOptions on
    | name :: _ => setNamed name on
    setLetters on more (words.drop 1)
  | c :: more, words => do
    setLetter c on
    setLetters on more words

/-- Sets the options in front of some words; yields the words behind them, unless there is
nothing that could be one. -/
def takeOptions : Nat → List Octets → Step (Option (List Octets))
  | 0, words => return some words
  | fuel + 1, words =>
    match words with
    | [] => return none
    | ['-'] :: rest => do
      setOption 'x' false
      setOption 'v' false
      return if rest.isEmpty then none else some rest
    | ['-', '-'] :: rest => return some rest
    | ('-' :: letters) :: rest => do takeOptions fuel (← setLetters true letters rest)
    | ('+' :: letters) :: rest => do takeOptions fuel (← setLetters false letters rest)
    | words => return some words

/-- Sets options and arguments. -/
def set : Builtin := fun words => do
  if words.isEmpty then list [] (·.value.isSome)
  else
    match ← takeOptions (words.length + 1) words with
    | none => pure ()
    | some arguments =>
      modify fun s => { s with arguments, optionIndex := 1, optionOffset := none }
  return 0

/-! ## Options of a script -/

/-- What is wrong with an option of a script. -/
inductive OptionProblem where
  /-- There is no such option. -/
  | unknown (letter : Char)
  /-- It is not given what it wants. -/
  | missing (letter : Char)

/-- The wording in a language; bash says who complains. -/
def OptionProblem.message (problem : OptionProblem) (s : State) : Octets :=
  match s.language, problem with
  | .posix, unknown c => "Illegal option -".toList ++ [c]
  | .posix, missing c => "No arg for -".toList ++ c :: " option".toList
  | .bash, unknown c => s.name ++ ": illegal option -- ".toList ++ [c]
  | .bash, missing c => s.name ++ ": option requires an argument -- ".toList ++ [c]

/-- What reading one more option comes to. -/
structure Found where
  /-- The letter, or a mark for what went wrong. -/
  letter : Char
  /-- What it is given; nothing, if the variable for that is forgotten. -/
  given : Option Octets
  /-- A complaint. -/
  complaint : Option OptionProblem := none
  /-- The argument to be read next. -/
  index : Nat
  /-- How much of the one before has been read. -/
  offset : Option Nat

/-- Reads a letter of an option in a word, behind which others stand. -/
def findOption (wanted : Octets) (word : Octets) (offset index : Nat) (following : List Octets) :
    Found :=
  let silent := wanted.head? == some ':'
  let wanted := if silent then wanted.drop 1 else wanted
  let c := word.getD offset ' '
  let rest := word.drop (offset + 1)
  let here := if rest.isEmpty then none else some (offset + 1)
  match wanted.idxOf? c with
  | none =>
    if silent then ⟨'?', some [c], none, index, here⟩
    else ⟨'?', none, some (.unknown c), index, here⟩
  | some k =>
    if wanted[k + 1]? != some ':' then ⟨c, some [], none, index, here⟩
    else match rest, following with
      | [], [] =>
        if silent then ⟨':', some [c], none, index, none⟩
        else ⟨'?', none, some (.missing c), index, none⟩
      | [], next :: _ => ⟨c, some next, none, index + 1, none⟩
      | _, _ => ⟨c, some rest, none, index, none⟩

/-- The next option among some arguments; the argument to be read next, if there is none. -/
def nextOption (wanted : Octets) (arguments : List Octets) (index : Nat) (offset : Option Nat) :
    Found ⊕ Nat :=
  let current := (arguments[index - 2]?).filter fun _ => 1 < index
  match current, offset with
  | some word, some offset =>
    if offset < word.length then
      .inl (findOption wanted word offset index (arguments.drop (index - 1)))
    else fresh
  | _, _ => fresh
where
  /-- The first option of the next argument. -/
  fresh : Found ⊕ Nat :=
    match arguments.drop (index - 1) with
    | ('-' :: c :: flags) :: rest =>
      if c == '-' && flags.isEmpty then .inr (index + 1)
      else .inl (findOption wanted ('-' :: c :: flags) 1 (index + 1) rest)
    | _ => .inr index

/-- Reads the next option of the script, or of some words. -/
def getopts : Builtin := fun words => do
  match words with
  | wanted :: name :: given =>
    let s ← get
    let arguments := if given.isEmpty then s.arguments else given
    let index := if arguments.length + 1 < s.optionIndex then 1 else s.optionIndex
    let found := nextOption wanted arguments index s.optionOffset
    let (letter, index, offset, status) ← match found with
      | .inr index => pure ('?', index, none, 1)
      | .inl found => do
        match found.complaint with
        | some problem => Step.note (problem.message s)
        | none => pure ()
        match found.given.filter fun text => !(s.isBash && text.isEmpty) with
        | some text => Step.assign "OPTARG".toList text
        | none => Step.forget "OPTARG".toList
        pure (found.letter, found.index, found.offset, 0)
    let told := if s.isBash && offset.isSome then index - 1 else index
    Step.store Step.optionVariable (toString told).toList
    Step.assignNamed name [letter]
    modify fun s => { s with optionIndex := index, optionOffset := offset }
    return status
  | _ =>
    if (← get).isBash then showUsage
    Step.fail "Usage: getopts optstring var [arg...]"

end EditorAnalysis.Shell.Builtin
