/-
EditorAnalysis.Shell.Builtin.Declaring — the commands of bash about variables.

A variable has traits: programs inherit it, it keeps its value, its values are numbers, it
is a list. A declaration changes them and may give a value. In a function it makes the
variable the function's own.
-/
import EditorAnalysis.Shell.Calculation
import EditorAnalysis.Shell.Change
import EditorAnalysis.Shell.Running

namespace EditorAnalysis.Shell.Builtin

open Text (Octets)

/-! ## Traits -/

/-- The letters of a variable's traits. -/
def traitLetters (v : Variable) : Octets :=
  (match v.elements with
    | some e => [if e.isMap then 'A' else 'a']
    | none => []) ++ (if v.isNumber then ['i'] else []) ++ (if v.readOnly then ['r'] else [])
    ++ (if v.exported then ['x'] else []) ++ (match v.casing with
      | some true => ['u']
      | some false => ['l']
      | none => [])

/-- A trait is given to a variable, or taken from it. -/
def withTrait (on : Bool) (letter : Char) (v : Variable) : Variable :=
  match letter with
  | 'x' => { v with exported := on }
  | 'r' => { v with readOnly := v.readOnly || on }
  | 'i' => { v with isNumber := on }
  | 'u' => { v with casing := if on then some true else none }
  | 'l' => { v with casing := if on then some false else none }
  | 'a' => { v with elements := v.elements.or (some (.ofValues v.value.toList)) }
  | 'A' => { v with elements := v.elements.or (some ⟨true, []⟩) }
  | _ => v

/-- The options of a declaration: whether each is set, and its letter; and the words behind
them. -/
def traitsIn (letters : Octets) : List Octets → Step (List (Bool × Char) × List Octets)
  | [] => return ([], [])
  | word :: rest =>
    match word with
    | ['-', '-'] => return ([], rest)
    | sign :: c :: more => do
      if sign == '-' || sign == '+' then
        let own := c :: more
        match own.find? fun c => !letters.contains c with
        | some c => refuseOption c
        | none => pure ()
        let (others, rest) ← traitsIn letters rest
        return (own.map (sign == '-', ·) ++ others, rest)
      else return ([], word :: rest)
    | _ => return ([], word :: rest)

/-! ## What is known of variables -/

/-- The elements of a list as a declaration writes them. -/
def elementsText (e : Elements) : Octets :=
  let entry (x : Octets × Octets) : Octets :=
    let key := if e.isMap && !x.1.all isNameChar then Change.doubleQuoted x.1 else x.1
    '[' :: key ++ "]=".toList ++ Change.doubleQuoted x.2
  let entries := e.entries.map entry
  let inside := [' '].intercalate entries
  '(' :: inside ++ (if e.isMap && !entries.isEmpty then [' ', ')'] else [')'])

/-- A variable as a declaration. -/
def declaration (name : Octets) (v : Variable) : Octets :=
  let letters := traitLetters v
  let value := match v.elements, v.value with
    | some e, _ =>
      if e.entries.isEmpty && v.value.isNone then [] else '=' :: elementsText e
    | none, some text => '=' :: Change.doubleQuoted text
    | none, none => []
  "declare -".toList ++ (if letters.isEmpty then ['-'] else letters) ++ ' ' :: name ++ value

/-- Writes the declarations of some variables. -/
def listDeclarations (p : Variable → Bool) : Step Unit := do
  ((inOrder (← get)).filter fun v => p v.2).forM fun (name, v) =>
    Step.write (declaration name v ++ ['\n'])

/-- Writes the declarations of the variables with some names. -/
def showDeclarations (names : List Octets) : Step Nat := do
  let found ← names.mapM fun name => do
    match Assoc.get? name (← get).bindings with
    | some v =>
      Step.write (declaration name v ++ ['\n'])
      return true
    | none =>
      Step.complainOf name "not found"
      return false
  return if found.all id then 0 else 1

/-! ## Declarations -/

/-- A word of a declaration. -/
structure Declared where
  /-- The name. -/
  name : Octets
  /-- The index of an element. -/
  index : Option Octets
  /-- The value, and whether it stands behind the one that is there. -/
  value : Option (Bool × Octets)

/-- The parts of a word of a declaration, if it begins with a name. -/
def declared? (word : Octets) : Option Declared :=
  let name := word.takeWhile isNameChar
  let behind := word.drop name.length
  let (index, behind) : Option Octets × Octets := match behind with
    | '[' :: rest =>
      let index := rest.takeWhile (· != ']')
      (some index, rest.drop (index.length + 1))
    | _ => (none, behind)
  if !isName name then none
  else match behind with
    | [] => some ⟨name, index, none⟩
    | '=' :: value => some ⟨name, index, some (false, value)⟩
    | '+' :: '=' :: value => some ⟨name, index, some (true, value)⟩
    | _ => none

/-- Gives a declared variable its value. -/
def giveValue (d : Declared) : Step Unit :=
  match d.value with
  | none => return
  | some (appends, value) => do
    let value ← if appends then Calculation.append d.name value
      else Calculation.valueFor d.name value
    match d.index with
    | some index => Calculation.storeElement d.name index value
    | none => Step.assign d.name value

/-- Declares the variable that a word names; says whether there is one. -/
def declareOne (isOwn : Bool) (traits : List (Bool × Char)) (word : Octets) : Step Bool := do
  match declared? word with
  | none =>
    Step.complain ('\x60' :: word ++ "': not a valid identifier".toList)
    return false
  | some d =>
    if isOwn then
      Step.saveVariable d.name
      Step.adapt d.name fun v => { value := none, exported := v.exported && d.value.isNone }
    let isList := d.index.isSome
    let (fixing, others) := traits.partition fun t => t.2 == 'r'
    Step.adapt d.name fun v =>
      let v := others.foldl (fun v t => withTrait t.1 t.2 v) v
      if isList then withTrait true 'a' v else v
    giveValue d
    Step.adapt d.name fun v => fixing.foldl (fun v t => withTrait t.1 t.2 v) v
    return true

/-- Declares the variables that words name. -/
def declareAll (isOwn : Bool) (traits : List (Bool × Char)) (words : List Octets) :
    Step Nat := do
  let known ← words.mapM (declareOne isOwn traits)
  return if known.all id then 0 else 1

/-- Writes which functions there are. -/
def listFunctions (names : List Octets) : Step Nat := do
  let s ← get
  if names.isEmpty then
    let all := (s.functions.map (·.1)).mergeSort Octets.precedes
    all.forM fun name => Step.write ("declare -f ".toList ++ name ++ ['\n'])
    return 0
  let found ← names.mapM fun name => do
    let isKnown := (Assoc.get? name s.functions).isSome
    if isKnown then Step.write (name ++ ['\n'])
    return isKnown
  return if found.all id then 0 else 1

/-- Declares variables, or writes what they are. -/
def declareWords : Builtin := fun words => do
  let (traits, words) ← traitsIn "aAfFgiIlnrtuxp".toList words
  let has (c : Char) : Bool := traits.any fun t => t.2 == c
  if has 'F' || has 'f' then listFunctions words
  else if has 'p' && !words.isEmpty then showDeclarations words
  else if words.isEmpty then
    let wanted := (traits.map (·.2)).filter fun c => "aAirxul".toList.contains c
    listDeclarations fun v => wanted.all fun c => (traitLetters v).contains c
    return 0
  else declareAll ((← get).functionDepth != 0 && !has 'g') traits words

/-- Makes variables a function's own. -/
def declareOwn : Builtin := fun words => do
  if (← get).functionDepth = 0 then Step.fail "can only be used in a function"
  let (traits, words) ← traitsIn "aAfFgiIlnrtuxp".toList words
  declareAll true traits words

/-- Lets programs inherit variables, or not. -/
def exportWords : Builtin := fun words => do
  let (traits, words) ← traitsIn "fnp".toList words
  let has (c : Char) : Bool := traits.any fun t => t.2 == c
  if words.isEmpty || has 'p' then
    listDeclarations (·.exported)
    return 0
  else if has 'f' then return 0
  else declareAll false [(!has 'n', 'x')] words

/-- Lets variables keep their values. -/
def fixWords : Builtin := fun words => do
  let (traits, words) ← traitsIn "aAfp".toList words
  if words.isEmpty then
    listDeclarations (·.readOnly)
    return 0
  else declareAll false (traits ++ [(true, 'r')]) words

/-- Forgets an element of a list. -/
def forgetElement (name index : Octets) : Step Unit := do
  let e ← Step.elementsOf name
  if index == ['@'] || index == ['*'] then Step.forget name
  else Step.storeElements name (e.erase (← Calculation.key name e index))

/-- Forgets variables, elements or functions. -/
def forgetWords : Builtin := fun words => do
  let (chosen, names) ← flags ['v', 'f', 'n'] words
  let known ← names.mapM fun word => do
    let s ← get
    if chosen.contains 'f' then
      modify fun s => { s with functions := Assoc.erase word s.functions }
      return true
    else match declared? word with
      | some ⟨name, some index, none⟩ =>
        forgetElement name index
        return true
      | some ⟨name, none, none⟩ =>
        if (Assoc.get? name s.bindings).isNone && !chosen.contains 'v' then
          modify fun s => { s with functions := Assoc.erase name s.functions }
        Step.forget name
        return true
      | _ =>
        if word.all isNameChar then return true
        Step.complain ('\x60' :: word ++ "': not a valid identifier".toList)
        return false
  return if known.all id then 0 else 1

/-- Calculates; the last value says whether that succeeds. -/
def calculateWords : Builtin := fun words => do
  if words.isEmpty then Step.fail "expression expected"
  let values ← words.mapM Calculation.calculate
  return if values.getLast? == some 0 then 1 else 0

/-! ## Switches -/

/-- The switches of bash, and which of them are on from the beginning. -/
def switchNames : List (String × Bool) :=
  [("autocd", false), ("assoc_expand_once", false), ("cdable_vars", false), ("cdspell", false),
    ("checkhash", false), ("checkjobs", false), ("checkwinsize", true), ("cmdhist", true),
    ("compat31", false), ("compat32", false), ("compat40", false), ("compat41", false),
    ("compat42", false), ("compat43", false), ("compat44", false), ("complete_fullquote", true),
    ("direxpand", false), ("dirspell", false), ("dotglob", false), ("execfail", false),
    ("expand_aliases", false), ("extdebug", false), ("extglob", false), ("extquote", true),
    ("failglob", false), ("force_fignore", true), ("globasciiranges", true),
    ("globskipdots", true), ("globstar", false), ("gnu_errfmt", false), ("histappend", false),
    ("histreedit", false), ("histverify", false), ("hostcomplete", true), ("huponexit", false),
    ("inherit_errexit", false), ("interactive_comments", true), ("lastpipe", false),
    ("lithist", false), ("localvar_inherit", false), ("localvar_unset", false),
    ("login_shell", false), ("mailwarn", false), ("no_empty_cmd_completion", false),
    ("nocaseglob", false), ("nocasematch", false), ("noexpand_translation", false),
    ("nullglob", false), ("patsub_replacement", true), ("progcomp", true),
    ("progcomp_alias", false), ("promptvars", true), ("restricted_shell", false),
    ("shift_verbose", false), ("sourcepath", true), ("varredir_close", false),
    ("xpg_echo", false)]

/-- A switch is on. A switch is noted when it is not as at the beginning. -/
def isOn (s : State) (name : String) (atFirst : Bool) : Bool :=
  s.switches.contains name.toList != atFirst

/-- A line about a switch. -/
def switchLine (name : String) (on : Bool) : Octets :=
  (name ++ String.ofList (List.replicate (15 - name.length) ' ') ++ "\t"
    ++ (if on then "on" else "off") ++ "\n").toList

/-- Switches something in the language on or off, or writes what is on. -/
def switch : Builtin := fun words => do
  let (chosen, names) ← flags "pqsuo".toList words
  let has (c : Char) : Bool := chosen.contains c
  if has 'o' then
    names.forM fun name => do
      if has 's' || has 'u' then setNamed name (has 's')
      else Step.write (switchLine (String.ofList name) (isNamedOn (← get) name))
    return 0
  else if names.isEmpty then
    let s ← get
    switchNames.forM fun (name, atFirst) =>
      let on := isOn s name atFirst
      if (has 's' && !on) || (has 'u' && on) then pure () else Step.write (switchLine name on)
    return 0
  else
    let results ← names.mapM fun word => do
      let s ← get
      let name := String.ofList word
      match switchNames.lookup name with
      | none =>
        Step.complainOf word "invalid shell option name"
        return false
      | some atFirst =>
        if has 's' || has 'u' then
          let others := s.switches.filter (· != word)
          let switches := if has 's' == atFirst then others else word :: others
          modify fun s => { s with switches }
          return true
        else
          let on := isOn s name atFirst
          if has 'p' then
            Step.write ((if on then "shopt -s " else "shopt -u ").toList ++ word ++ ['\n'])
          else unless has 'q' do Step.write (switchLine name on)
          return on
    return if results.all id then 0 else 1

end EditorAnalysis.Shell.Builtin
