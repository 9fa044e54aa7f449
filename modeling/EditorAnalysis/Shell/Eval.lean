/-
EditorAnalysis.Shell.Eval — performing commands.

Every function here takes fuel, which bounds how deeply commands are nested; a process
that uses it up has used up its memory, and ends by a signal. A command in a shell of its
own, or a program, is a process of its own.
-/
import EditorAnalysis.Shell.Beginning
import EditorAnalysis.Shell.Builtin.Declaring
import EditorAnalysis.Shell.Builtin.Lines
import EditorAnalysis.Shell.Builtin.Writing
import EditorAnalysis.Shell.Matching
import EditorAnalysis.Shell.OpenFile
import EditorAnalysis.Shell.Reader
import EditorAnalysis.Shell.Tool.All
import EditorAnalysis.Shell.Tool.Awk

namespace EditorAnalysis.Shell

open Text (Octets)
open Host (Errno)

namespace Eval

open Parameter Beginning

/-- A process uses up its memory. -/
def overflow {α : Type} : Step α := throw (.killed Signal.overflow)

/-! ## Redirections -/

/-- Where a descriptor is to lead. -/
inductive Target where
  /-- To a file or from one. -/
  | file (opening : Opening) (path : Octets)
  /-- Where another one leads. -/
  | same (number : Nat)
  /-- Nowhere at all. -/
  | closed
  /-- From a text. -/
  | text (content : Octets)

/-- Lets a descriptor lead somewhere. -/
def connect (descriptor : Nat) : Target → Step Unit
  | .closed => modify fun s => { s with channels := Assoc.erase descriptor s.channels }
  | .text content => modify fun s => s.feed descriptor ⟨[(0, content)], some 0⟩
  | .same number => do
    let s ← get
    match Assoc.get? number s.channels with
    | some channel => set (s.redirect descriptor channel)
    | none => Step.error ((toString number).toList ++ ": ".toList ++
        Errno.badDescriptor.text.toList)
  | .file opening path => do
    match ← Step.openFile descriptor opening path with
    | none => pure ()
    | some reason =>
      if (← get).isBash then
        let text := if reason == .entryExists then "cannot overwrite existing file" else reason.text
        Step.error (path ++ ": ".toList ++ text.toList)
      let (verb, absent) := if opening == .read then ("open", "No such file")
        else ("create", "Directory nonexistent")
      Step.error (("cannot " ++ verb ++ " ").toList ++ path ++ ": ".toList
        ++ (Lookup.refusal reason absent).toList)

/-- A descriptor in a word that has to be one. -/
def descriptorIn (word : Octets) : Step Target := do
  match word with
  | ['-'] => return .closed
  | [c] => if c.isDigit then return .same (c.toNat - '0'.toNat) else bad
  | _ =>
    match Numeral.natural? word, (← get).isBash with
    | some n, true => return .same n
    | _, _ => bad
where
  /-- The word is no descriptor. -/
  bad : Step Target := do
    if (← get).isBash then Step.error (word ++ ": ambiguous redirect".toList)
    modify fun s => { s with line := s.readLine }
    Step.fail "Syntax error: Bad fd number"

/-- The pieces of a text as they would be in a text of the script. -/
def wordOf (language : Language) (text : Octets) : Word :=
  match (Reader.pieces (16 * text.length + 400) .document).run { rest := text, language } with
  | .ok (w, _) => fuse w
  | .error _ => [.quoted text]

/-- The line of a text that is read, by its number. -/
def lineAt (reading : Reading) (line : Nat) : Octets :=
  ((Text.splitOn '\n' reading.rest)[line - reading.line]?).getD []

/-- Says what is wrong with a script, which is not read further. -/
def refuse {α : Type} (reading : Reading) (e : SyntaxError) : Step α := do
  let isEnd := match e.problem with
    | .unexpected (.mark .endOfFile) _ => true
    | _ => false
  let s ← get
  let line := if s.isBash && isEnd && reading.rest.getLast? != some '\n' then e.line + 1
    else e.line
  set { s with line }
  if s.isBash then
    let label := (s.complainant.map (· ++ ": ".toList)).getD []
    let front := s.sources.head?.getD s.name ++ ": ".toList ++ label
      ++ ("line " ++ toString line ++ ": ").toList
    (e.problem.bashMessages (lineAt reading e.line)).forM fun text => Step.note (front ++ text)
    Step.setStatus Step.errorStatus
    throw .raised
  Step.fail ("Syntax error: " ++ e.problem.message)

/-- The program that a name stands for, or the complaint about it and the status. -/
def found (s : State) (name : Octets) (arguments : List Octets) :
    Except (String × Nat) Image :=
  match s.language with
  | .posix =>
    let refused (reason : Errno) : String × Nat :=
      (Lookup.refusal reason "not found",
        if [.noEntry, .notDirectory, .linkLoop, .nameTooLong].contains reason then 127 else 126)
    match Lookup.path s name with
    | .error reason => .error (Lookup.refusal reason "not found", 127)
    | .ok path => (Lookup.image s path name arguments).mapError refused
  | .bash =>
    let refused (reason : Errno) : String × Nat :=
      if s.files.isDirectory (Octets.toString name) then (Errno.isDirectory.text, 126)
      else if reason == .noEntry then
        if (s.files.look (Octets.toString name)).toOption.isSome then
          ("cannot execute: required file not found", 127)
        else (reason.text, 127)
      else (reason.text, 126)
    match if name.isEmpty then .error .noEntry else Lookup.path s name with
    | .error .denied => .error (Errno.denied.text, 126)
    | .error _ => .error ("command not found", 127)
    | .ok path => (Lookup.image s path name arguments).mapError refused

/-- The script that a name stands for and its path: a name with no slash in it is looked up. -/
def scriptNamed? (s : State) (name : Octets) : Option (Octets × Octets) :=
  let candidates := if name.contains '/' then [name]
    else (Lookup.directories s).map fun directory => Lookup.nameIn directory name
  let readable (path : Octets) : Bool :=
    (scriptIn s path).toOption.isSome && !s.files.isDirectory (Octets.toString path)
  (candidates.find? readable).map fun path => (path, (scriptIn s path).toOption.getD [])

/-- The path, the text and the arguments of the script that words of bash name. -/
def sourceFor (words : List Octets) : Step (Octets × Octets × List Octets) := do
  let front ← Step.complaining (some "source".toList) do
    let (_, words) ← Builtin.flags [] words
    match words with
    | [] => Builtin.refuseUsage "filename argument required".toList
    | name :: arguments =>
      if (← get).files.isDirectory (Octets.toString name) then
        Step.error (name ++ ": is a directory".toList)
      pure (name, arguments)
  let s ← get
  match (scriptNamed? s front.1).or ((scriptIn s front.1).toOption.map (front.1, ·)) with
  | some (path, text) => return (path, text, front.2)
  | none => Step.error (front.1 ++ ": ".toList ++ Errno.noEntry.text.toList)

/-- The commands whose arguments may be assignments. -/
def declaring : Language → List String
  | .posix => ["alias", "export", "local", "readonly"]
  | .bash => ["alias", "declare", "export", "local", "readonly", "typeset"]

/-- The commands in whose place a function's own variables are made. -/
def adapting : List String :=
  ["builtin", "command", "declare", "eval", "local", "source", ".", "typeset"]

/-- The first word that is not there only to have a command found. -/
def commandName : List Octets → Octets
  | name :: rest => if name == "command".toList then commandName rest else name
  | [] => []

/-- The status of a command of the shell; what could not be written counts. -/
def settleWriting (name : Octets) (status : Nat) : Step Nat := do
  if (← get).unwritten then
    modify fun s => { s with unwritten := false }
    Step.complain (name ++ ": I/O error".toList)
    return status ||| 1
  else return status

/-- The commands of bash that run no other command and are not as those of other shells. -/
def bashBuiltin? (name : String) : Option Builtin :=
  match name with
  | "declare" => some Builtin.declareWords
  | "typeset" => some Builtin.declareWords
  | "local" => some Builtin.declareOwn
  | "export" => some Builtin.exportWords
  | "readonly" => some Builtin.fixWords
  | "unset" => some Builtin.forgetWords
  | "let" => some Builtin.calculateWords
  | "read" => some Builtin.readLine
  | "mapfile" => some Builtin.readLines
  | "readarray" => some Builtin.readLines
  | "shopt" => some Builtin.switch
  | "dirs" => some Builtin.listPlaces
  | "pushd" => some Builtin.pushPlace
  | "popd" => some Builtin.popPlace
  | "caller" => some fun _ => do
      Step.print "0 NULL\n"
      return 0
  | "history" => some fun _ => return 0
  | "enable" => some fun _ => return 0
  | "disown" => some fun _ => return 0
  | "complete" => some fun _ => return 0
  | _ => none

/-- The commands of the shell that run no other command. -/
def plainBuiltin? (name : String) : Option Builtin :=
  match name with
  | ":" => some fun _ => return 0
  | "true" => some fun _ => return 0
  | "false" => some fun _ => return 1
  | "echo" => some Builtin.echo
  | "printf" => some Builtin.printf
  | "test" => some Builtin.test
  | "[" => some Builtin.bracket
  | "exit" => some Builtin.exit
  | "return" => some Builtin.goBack
  | "break" => some (Builtin.leaveLoops .breakLoop)
  | "continue" => some (Builtin.leaveLoops .continueLoop)
  | "export" => some Builtin.exportNames
  | "readonly" => some Builtin.readonly
  | "local" => some Builtin.makeLocal
  | "unset" => some Builtin.unset
  | "shift" => some Builtin.shift
  | "set" => some Builtin.set
  | "getopts" => some Builtin.getopts
  | "read" => some Builtin.read
  | "pwd" => some Builtin.pwd
  | "cd" => some Builtin.cd
  | "chdir" => some Builtin.cd
  | "umask" => some Builtin.umask
  | "alias" => some Builtin.defineAliases
  | "unalias" => some Builtin.removeAliases
  | "times" => some Builtin.times
  | "trap" => some Builtin.trap
  | "kill" => some Builtin.kill
  | "wait" => some Builtin.wait
  | "jobs" => some Builtin.jobs
  | "hash" => some Lookup.hash
  | "type" => some Lookup.classify
  | "ulimit" => some fun _ => do
      Step.print "unlimited\n"
      return 0
  | _ => none

/-- The commands of a language that run no other command. -/
def builtin? (l : Language) (name : String) : Option Builtin :=
  (if l == .bash then bashBuiltin? name else none).or (plainBuiltin? name)

/-- A new path under which a text can be read. -/
def plantText (text : Octets) : Step Octets := do
  let s ← get
  let place (n : Nat) : Host.Place := ["dev", "fd", toString n]
  let numbers := (List.range 61).map (63 - ·)
  let n := (numbers.find? fun n => (s.machine.tree.get? (place n)).isNone).getD
    (s.machine.fresh + 1000)
  let tree := s.machine.tree.plant (place n) (.file (Octets.toBytes text) 0o600)
  set { s with machine := { s.machine with tree, fresh := s.machine.fresh + 1 } }
  return ("/dev/fd/" ++ toString n).toList

mutual

/-- What the pieces of a word yield. -/
def glyphs : Nat → Word → Step (List Glyph)
  | 0, _ => overflow
  | _ + 1, [] => return []
  | fuel + 1, piece :: more => do
    let first ← glyphsOf fuel piece
    let rest ← glyphs fuel more
    return first ++ rest

/-- What a piece yields. -/
def glyphsOf : Nat → Piece → Step (List Glyph)
  | 0, _ => overflow
  | _ + 1, .bare text => return Field.glyphs .script text
  | _ + 1, .quoted text => return .mark :: Field.glyphs .quotes text
  | fuel + 1, .parameter inQuotes name use => used fuel inQuotes name use
  | fuel + 1, .output inQuotes command => do
    return Field.yielded inQuotes (← outputOf fuel command)
  | fuel + 1, .arithmetic inQuotes expression => do
    let n ← Calculation.calculate (← plain fuel expression)
    return Field.yielded inQuotes (toString n).toList
  | fuel + 1, .element inQuotes name index use => do
    let key ← plain fuel index
    elementUsed fuel inQuotes name key use
  | _ + 1, .indices inQuotes name => do
    return Field.separate inQuotes (elements (← get) name).indices
  | fuel + 1, .indirect inQuotes name use => do
    let s ← get
    match use with
    | .transformed '\x7d' =>
      let names := (Builtin.inOrder s).map (·.1)
      return Field.separate inQuotes (names.filter fun n => name.isPrefixOf n)
    | _ =>
      match value? s name with
      | none => Step.error (name ++ ": invalid indirect expansion".toList)
      | some target =>
        match Calculation.named target with
        | (base, some index) => elementUsed fuel inQuotes base index use
        | (_, none) => used fuel inQuotes target use
  | fuel + 1, .place command => do
    let text ← rawOutputOf fuel command
    return Field.glyphs .quotes (← plantText text)

/-- What an element of a list yields, or all of them. -/
def elementUsed : Nat → Bool → Octets → Octets → Use → Step (List Glyph)
  | 0, _, _, _, _ => overflow
  | fuel + 1, inQuotes, name, index, use => do
    let e := elements (← get) name
    if index == ['@'] || index == ['*'] then
      subjectUsed fuel inQuotes name (.all (index == ['@']) e.values) use
    else
      let key ← Calculation.key name e index
      let front := name ++ '[' :: index ++ [']']
      subjectUsed fuel inQuotes front (.one (e.get? key)) use

/-- What a word in the place of a parameter's value yields. -/
def instead : Nat → Bool → Word → Step (List Glyph)
  | 0, _, _ => overflow
  | fuel + 1, inQuotes, w => do
    let s ← get
    let gs ← glyphs fuel (if inQuotes then w else expandTildes s false w)
    return if inQuotes then gs else Field.asExpansion gs

/-- What a parameter yields, used in some way, in the shell's language. -/
def used : Nat → Bool → Octets → Use → Step (List Glyph)
  | 0, _, _, _ => overflow
  | fuel + 1, inQuotes, name, use => do
    let s ← get
    match s.language with
    | .posix => usedPlainly fuel inQuotes name use
    | .bash => subjectUsed fuel inQuotes name (.ofName s name) use

/-- What a subject yields, used in some way of bash; the name is that of a variable, an element
or another parameter. -/
def subjectUsed : Nat → Bool → Octets → Subject → Use → Step (List Glyph)
  | 0, _, _, _, _ => overflow
  | fuel + 1, inQuotes, name, subject, use => do
    let s ← get
    let utf8 := Tool.readsUtf8 s
    let asIs : List Glyph := subject.glyphs s inQuotes
    let shown := if name.all Char.isDigit && !name.isEmpty then '$' :: name else name
    let mapped (f : Octets → Octets) : List Glyph :=
      let f (cs : Octets) : Octets := Tool.unletters utf8 (f (Tool.letters utf8 cs))
      (subject.map f).glyphs s inQuotes
    match use with
    | .value =>
      demandIn shown subject
      return asIs
    | .length =>
      demandIn shown subject
      let n := match subject with
        | .all _ values => values.length
        | .one value => (Tool.letters utf8 (value.getD [])).length
      return Field.yielded inQuotes (toString n).toList
    | .otherwise orEmpty w =>
      if isPresent orEmpty subject then return asIs else instead fuel inQuotes w
    | .alternative orEmpty w =>
      if isPresent orEmpty subject then instead fuel inQuotes w else return []
    | .assign orEmpty w =>
      if isPresent orEmpty subject then return asIs
      else
        let text ← plain fuel (if inQuotes then w else expandTildes s false w)
        match Calculation.named name with
        | (base, some index) => Calculation.storeElement base index text
        | (_, none) => Step.assignNamed name text
        return Field.yielded inQuotes text
    | .require orEmpty w =>
      if isPresent orEmpty subject then return asIs
      else
        let text ← plain fuel w
        let text := if w.isEmpty then
            (if orEmpty then "parameter null or not set" else "parameter not set").toList
          else text
        Step.abandon (name ++ ": ".toList ++ text) (if s.has 'c' then 127 else 1)
    | .cut atEnd longest w =>
      demandIn shown subject
      let ms ← pattern fuel w
      return mapped (Pattern.cut atEnd longest ms)
    | .cased upper all =>
      demandIn shown subject
      return mapped (Change.cased upper all)
    | .replaced all anchor w replacement =>
      demandIn shown subject
      let ms ← pattern fuel w
      let gs ← glyphs fuel replacement
      let marked := Field.marked (joint (← get)) gs
      let word (found : Octets) : Octets := marked.flatMap fun (c, isQuoted) =>
        if c == '&' && !isQuoted then found else [c]
      return mapped (Change.replaced all anchor ms word)
    | .part start length =>
      demandIn shown subject
      let first ← Calculation.calculate (← plain fuel start)
      let count ← match length with
        | none => pure none
        | some w => pure (some (← Calculation.calculate (← plain fuel w)))
      let refused {α : Type} (n : Int) : Step α :=
        Step.error ((toString n).toList ++ ": substring expression < 0".toList)
      match subject with
      | .all separately values =>
        let items := if isArguments name then s.name :: values else values
        match Change.part? first count items with
        | .ok values => return (Subject.all separately values).glyphs s inQuotes
        | .error n => refused n
      | .one value =>
        match Change.part? first count (Tool.letters utf8 (value.getD [])) with
        | .ok letters => return Field.yielded inQuotes (Tool.unletters utf8 letters)
        | .error n => refused n
    | .transformed letter =>
      demandIn shown subject
      let v := (Assoc.get? name s.bindings).getD { value := none }
      let traits := Builtin.traitLetters v
      match letter with
      | 'Q' => return ((subject.map Change.quoted).glyphs s inQuotes)
      | 'U' => return mapped (Change.cased true true)
      | 'u' => return mapped (Change.cased true false)
      | 'L' => return mapped (Change.cased false true)
      | 'a' => return Field.yielded inQuotes traits
      | 'A' =>
        let front := if traits.isEmpty then []
          else "declare -".toList ++ traits ++ [' ']
        return ((subject.map fun cs => front ++ name ++ '=' :: Change.quoted cs).glyphs s inQuotes)
      | _ => return asIs
    | .unknown => Step.error ("$\x7b".toList ++ name ++ "\x7d: bad substitution".toList)

/-- What a parameter yields, used in some way of the smaller language. -/
def usedPlainly : Nat → Bool → Octets → Use → Step (List Glyph)
  | 0, _, _, _ => overflow
  | _ + 1, inQuotes, name, .value => do
    demand name
    return yielded (← get) inQuotes name
  | _ + 1, inQuotes, name, .length => do
    demand name
    let s ← get
    let n := if isArguments name then (Builtin.spaced s.arguments).length
      else ((value? s name).getD []).length
    return Field.yielded inQuotes (toString n).toList
  | fuel + 1, inQuotes, name, .otherwise orEmpty w => do
    let s ← get
    let isSet := isArguments name && !orEmpty
    if isSet || (present? orEmpty (value? s name)).isSome then return yielded s inQuotes name
    else instead fuel inQuotes w
  | fuel + 1, inQuotes, name, .assign orEmpty w => do
    let s ← get
    if (present? orEmpty (value? s name)).isSome then return yielded s inQuotes name
    else
      let text ← plain fuel (if inQuotes then w else expandTildes s false w)
      Step.assignNamed name text
      return Field.yielded inQuotes text
  | fuel + 1, inQuotes, name, .require orEmpty w => do
    let s ← get
    if (present? orEmpty (value? s name)).isSome then return yielded s inQuotes name
    else
      let text ← plain fuel w
      let text := if w.isEmpty then
          (if orEmpty then "parameter not set or null" else "parameter not set").toList
        else text
      Step.error (name ++ ": ".toList ++ text)
  | fuel + 1, inQuotes, name, .alternative orEmpty w => do
    let s ← get
    let isSet := isArguments name && !orEmpty
    if isSet || (present? orEmpty (value? s name)).isSome then instead fuel inQuotes w
    else return []
  | fuel + 1, inQuotes, name, .cut atEnd longest pattern => do
    demand name
    let gs ← glyphs fuel (expandTildes (← get) false pattern)
    let s ← get
    let matchers := Pattern.ofMarked (Field.marked (joint s) gs)
    if name == ['@'] then
      return Field.separate inQuotes (s.arguments.map (Pattern.cut atEnd longest matchers))
    else
      let text := Pattern.cut atEnd longest matchers ((value? s name).getD [])
      return Field.yielded inQuotes text
  | _ + 1, _, _, _ => Step.fail "Bad substitution"

/-- What a command writes, without the line breaks at the end. -/
def outputOf : Nat → Command → Step Octets
  | 0, _ => overflow
  | fuel + 1, command => do
    let text ← rawOutputOf fuel command
    return withoutLastBreaks (text.filter (· != Char.ofNat 0))

/-- What a command writes. A command of bash that is nothing but a redirection from a file writes
what is in the file. -/
def rawOutputOf : Nat → Command → Step Octets
  | 0, _ => overflow
  | fuel + 1, command => do
    let command := match (← get).language, command with
      | .bash, .simple line [] [] [r] => .simple line [] [[.bare "cat".toList]] [r]
      | _, command => command
    let prepare (s : State) : State :=
      let options := if s.isBash then s.options.filter (· != 'e') else s.options
      { ownShell s with guarded := false, options }
    let (child, text) ← Step.capture fun redirected =>
      Step.fork (fun s => redirected (prepare s)) (asShell fuel (run fuel command))
    let status := child.ending.status
    modify fun s => { s with outputStatus := some status, status }
    return text

/-- The text of a word where no fields are made. -/
def plain : Nat → Word → Step Octets
  | 0, _ => overflow
  | fuel + 1, w => do
    let gs ← glyphs fuel w
    return Field.plain (joint (← get)) gs

/-- The text of a value. -/
def assignedValue : Nat → Word → Step Octets
  | 0, _ => overflow
  | fuel + 1, w => do plain fuel (expandTildes (← get) true w)

/-- The pattern that a word writes. -/
def pattern : Nat → Word → Step (List Matcher)
  | 0, _ => overflow
  | fuel + 1, w => do
    let gs ← glyphs fuel (expandTildes (← get) false w)
    return Pattern.ofMarked (Field.marked (joint (← get)) gs)

/-- The fields of words. Those behind the name of a command whose arguments may be assignments
are no fields if they are assignments. -/
def fields : Nat → List Octets → List Word → Step (List Octets)
  | 0, _, _ => overflow
  | _ + 1, sofar, [] => return sofar
  | fuel + 1, sofar, w :: more => do
    let language := (← get).language
    let declares := (declaring language).contains (String.ofList (commandName sofar))
    if declares && (assignmentIn? language w).isSome then
      let text ← plain fuel (expandValueTildes (← get) w)
      fields fuel (sofar ++ [text]) more
    else
      let gs ← glyphs fuel (expandTildes (← get) false w)
      let s ← get
      let drops := s.switches.contains "nullglob".toList
      fields fuel (sofar ++ Field.all s.files s.separators (!s.has 'f') drops gs) more

/-- Where redirections lead. -/
def targets : Nat → List Redirection → Step (List (Nat × Target))
  | 0, _ => overflow
  | _ + 1, [] => return []
  | fuel + 1, redirection :: more => do
    let first ← match redirection with
      | .file descriptor opening w => do
        pure [(descriptor, Target.file opening (← pathOf fuel w))]
      | .same descriptor w => do
        let text ← plain fuel w
        pure [(descriptor, ← descriptorIn text)]
      | .document descriptor number => do
        let w := ((← get).documents.lookup number).getD []
        pure [(descriptor, Target.text (← plain fuel w))]
      | .text descriptor w => do
        pure [(descriptor, Target.text ((← plain fuel (expandTildes (← get) false w)) ++ ['\n']))]
      | .both opening w => do
        pure [(1, Target.file opening (← pathOf fuel w)), (2, Target.same 1)]
    return first ++ (← targets fuel more)

/-- The path that a word of a redirection writes; in bash the word has to be one field. -/
def pathOf : Nat → Word → Step Octets
  | 0, _ => overflow
  | fuel + 1, w => do
    if (← get).isBash then
      match ← fields fuel [] [w] with
      | [path] => return path
      | _ => Step.error (spelled w ++ ": ambiguous redirect".toList)
    else plain fuel (expandTildes (← get) false w)

/-- Does something with redirections; says whether they could be followed. -/
def redirected : Nat → List Redirection → Step Unit → Step Bool
  | 0, _, _ => overflow
  | fuel + 1, redirections, act => do
    let early ← if (← get).isBash then pure [] else targets fuel redirections
    let following : Step Unit := do
      let late ← if (← get).isBash then targets fuel redirections else pure []
      (early ++ late).forM fun (descriptor, t) => connect descriptor t
    Step.keepingChannels do
      match ← Step.outcome following with
      | .error .raised => return false
      | .error flow => throw flow
      | .ok () =>
        act
        return true

/-- Makes assignments one after the other; what a trace says of them. The flag says that they are
made for a command alone, which inherits them. -/
def assignments : Nat → Bool → List Assignment → Step (List (Octets × Octets))
  | 0, _, _ => overflow
  | _ + 1, _, [] => return []
  | fuel + 1, isOwn, a :: more => do
    let name := match a with
      | .value name .. => name
      | .list name .. => name
    if isOwn then Step.saveVariable name
    let said ← assigned fuel a
    if isOwn then Step.exportName name
    return said :: (← assignments fuel isOwn more)

/-- Makes an assignment; what a trace says of it. -/
def assigned : Nat → Assignment → Step (Octets × Octets)
  | 0, _ => overflow
  | fuel + 1, .value name none appends w => do
    let text ← assignedValue fuel w
    let value ← if appends then Calculation.append name text else Calculation.valueFor name text
    Step.assign name value
    return (if appends then name ++ ['+'] else name, text)
  | fuel + 1, .value name (some index) appends w => do
    let index ← plain fuel index
    let text ← assignedValue fuel w
    let e ← Step.elementsOf name
    let key ← Calculation.key name e index
    let old := if appends then (e.get? key).getD [] else []
    Step.storeElements name (e.put key (old ++ text))
    return (name ++ '[' :: index ++ [']'], text)
  | fuel + 1, .list name appends items => do
    let old ← Step.elementsOf name
    let first : Elements := if appends then old else { old with entries := [] }
    let e ← withElements fuel name items first.next first
    Step.storeElements name e
    let texts := e.values.map Change.traced
    return (if appends then name ++ ['+'] else name, '(' :: Builtin.spaced texts ++ [')'])

/-- Elements with more of them, from a number on where they have no index of their own. -/
def withElements : Nat → Octets → List (Option Word × Word) → Nat → Elements → Step Elements
  | 0, _, _, _, _ => overflow
  | _ + 1, _, [], _, e => return e
  | fuel + 1, name, (none, w) :: more, next, e => do
    let texts ← fields fuel [] [w]
    let numbered := ((List.range texts.length).map (· + next)).zip texts
    let e := numbered.foldl (fun (e : Elements) (n, text) =>
      e.put (if e.isMap then text else (toString n).toList) text) e
    withElements fuel name more (next + texts.length) e
  | fuel + 1, name, (some index, w) :: more, _, e => do
    let key ← Calculation.key name e (← plain fuel index)
    let text ← assignedValue fuel w
    withElements fuel name more (Numeral.valueIn 10 key + 1) (e.put key text)

/-- Performs a command, and does what is to be done about signals. -/
def run : Nat → Command → Step Unit
  | 0, _ => overflow
  | fuel + 1, command => do
    if (← get).has 'n' then return
    match command with
    | .nothing => Step.setStatus 0
    | .sequence first .nothing => run fuel first
    | .sequence first second =>
      Step.beforeOthers (run fuel first)
      run fuel second
    | .simple line assigned words redirections =>
      modify fun s => { s with line, outputStatus := none }
      simple fuel assigned words redirections
      modify fun s => { s with pipeStatuses := [] }
      signals fuel
      settled fuel
    | .andThen first second =>
      Step.guarding (run fuel first)
      if (← get).status == 0 then run fuel second
    | .orElse first second =>
      Step.guarding (run fuel first)
      if (← get).status != 0 then run fuel second
    | .negated command =>
      Step.guarding (run fuel command)
      modify fun s => { s with status := if s.status == 0 then 1 else 0 }
    | .pipeline commands =>
      pipeline fuel commands
      signals fuel
      settled fuel
    | .background command =>
      Step.inBackground fun prepare =>
        Step.fork (fun s => prepare (ownShell s)) (asShell fuel (run fuel command))
    | .choice condition yes no =>
      Step.guarding (run fuel condition)
      if (← get).status == 0 then run fuel yes else run fuel no
    | .loop whileSucceeds condition body =>
      Step.loop whileSucceeds (run fuel condition) (run fuel body)
    | .forEach line name words body =>
      modify fun s => { s with line }
      let words ← match words with
        | none => pure (← get).arguments
        | some words => fields fuel [] words
      Step.loopOver (fun word => do
        Step.assign name word
        run fuel body) words
    | .select line w arms =>
      modify fun s => { s with line, outputStatus := none }
      let text ← plain fuel (expandTildes (← get) false w)
      selected fuel text arms
    | .block line false body redirections =>
      modify fun s => { s with line }
      if redirections.isEmpty then run fuel body
      else Step.beforeOthers (discard (redirected fuel redirections (run fuel body)))
    | .block line true body redirections =>
      modify fun s => { s with line }
      let s ← get
      let act := discard (redirected fuel redirections (run fuel body))
      if s.final && s.traps.isEmpty then act
      else
        Step.join (← Step.fork ownShell (asShell fuel act))
        signals fuel
        settled fuel
    | .test line t =>
      modify fun s => { s with line, outputStatus := none }
      let result ← Step.outcome (Step.complaining (some "[[".toList) (holds fuel t))
      match result with
      | .ok value => Step.setStatus (if value then 0 else 1)
      | .error .raised => pure ()
      | .error flow => throw flow
      settled fuel
    | .arithmetic line e =>
      modify fun s => { s with line, outputStatus := none }
      Step.setStatus (← truthOf fuel e)
      settled fuel
    | .count line first condition next body =>
      modify fun s => { s with line, outputStatus := none }
      discard (truthOf fuel first)
      Step.setStatus 0
      Step.countedLoop (do Step.setStatus (← truthOf fuel condition)) (discard (truthOf fuel next))
        (run fuel body)
    | .define name body =>
      modify fun s => { s with functions := Assoc.put name body s.functions, status := 0 }

/-- The status of an expression: success, if it is not zero. Nothing counts as success. -/
def truthOf : Nat → Word → Step Nat
  | 0, _ => overflow
  | fuel + 1, e => do
    let text ← plain fuel e
    if text.all Numeral.isBlank && e.isEmpty then return 0
    let result ← Step.outcome
      (Step.complaining (some ['(', '(']) (Calculation.calculate text))
    match result with
    | .ok n => return if n == 0 then 1 else 0
    | .error .raised => return 1
    | .error flow => throw flow

/-- A condition about words holds. -/
def holds : Nat → Test → Step Bool
  | 0, _ => overflow
  | fuel + 1, .negation t => return !(← holds fuel t)
  | fuel + 1, .both a b => do
    if ← holds fuel a then holds fuel b else return false
  | fuel + 1, .either a b => do
    if ← holds fuel a then return true else holds fuel b
  | fuel + 1, .unary operator w => do
    let text ← plain fuel (expandTildes (← get) false w)
    let s ← get
    match operator with
    | ['-', 'v'] =>
      match Calculation.named text with
      | (name, none) => return (value? s name).isSome
      | (name, some index) =>
        let e := elements s name
        return (e.get? (← Calculation.key name e index)).isSome
    | ['-', 'o'] => return Builtin.isNamedOn s text
    | ['-', 't'] => return false
    | _ => return ((Condition.unary s.files (String.ofList operator) text).toOption).getD false
  | fuel + 1, .binary operator a b => do
    let text ← plain fuel (expandTildes (← get) false a)
    let name := String.ofList operator
    if ["==", "=", "!="].contains name then
      let fits := Pattern.fits (← pattern fuel b) text
      return fits == (name != "!=")
    else if name == "=~" then
      let gs ← glyphs fuel b
      Matching.holds (Field.marked (joint (← get)) gs) text
    else
      let other ← plain fuel (expandTildes (← get) false b)
      let compared (f : Int → Int → Bool) : Step Bool := do
        let m ← Calculation.calculate text
        let n ← Calculation.calculate other
        return f m n
      match name with
      | "-eq" => compared (· == ·)
      | "-ne" => compared (· != ·)
      | "-lt" => compared (· < ·)
      | "-le" => compared (· ≤ ·)
      | "-gt" => compared fun m n => n < m
      | "-ge" => compared fun m n => n ≤ m
      | _ => return ((Condition.binary (← get).files name text other).toOption).getD false

/-- Does what is to be done about a failure, behind a command. -/
def settled : Nat → Step Unit
  | 0 => overflow
  | fuel + 1 => do
    let s ← get
    let isHeard := s.functionDepth == 0 || s.has 'E'
    if s.status != 0 && !s.guarded && isHeard then
      match Assoc.get? Signal.failure s.traps with
      | none => pure ()
      | some action =>
        set { s with traps := Assoc.erase Signal.failure s.traps }
        let reading : Reading := { rest := action, line := s.line }
        Step.thenAlways (Step.beforeOthers (Step.complaining none (script fuel reading)))
          fun t => { t with
            status := s.status, traps := Assoc.put Signal.failure action t.traps }
    Step.checked

/-- Performs the first arm with a pattern that matches. -/
def selected : Nat → Octets → List (List Word × Command) → Step Unit
  | 0, _, _ => overflow
  | _ + 1, _, [] => do
    modify fun s => { s with status := s.outputStatus.getD 0 }
  | fuel + 1, text, (patterns, body) :: more => do
    if ← anyMatches fuel text patterns then run fuel body else selected fuel text more

/-- One of some patterns matches. -/
def anyMatches : Nat → Octets → List Word → Step Bool
  | 0, _, _ => overflow
  | _ + 1, _, [] => return false
  | fuel + 1, text, w :: more => do
    if Pattern.fits (← pattern fuel w) text then return true else anyMatches fuel text more

/-- Performs commands that read from each other. -/
def pipeline : Nat → List Command → Step Unit
  | 0, _ => overflow
  | fuel + 1, commands => do
    let s ← get
    let count := commands.length
    let numbers := (List.range count).map fun k =>
      if k + 1 < count then some (s.machine.fresh + k) else none
    set { s with machine := { s.machine with fresh := s.machine.fresh + count } }
    let acts := commands.map fun c => do
      modify ownShell
      asShell fuel (run fuel c)
    let children ← Step.stages s.clock s.status (numbers.zip acts) none
    Step.joinAll children
    let statuses := children.map fun c => c.ending.status
    modify fun s => { s with pipeStatuses := statuses }
    if s.has Builtin.failingPipes then
      match statuses.reverse.find? (· != 0) with
      | some status => Step.setStatus status
      | none => pure ()

/-- What is to be done at the end of a shell, behind its commands. -/
def asShell : Nat → Step Unit → Step Unit
  | 0, _ => overflow
  | fuel + 1, act => do
    let result ← Step.outcome act
    match result with
    | .error (.killed signal) => throw (.killed signal)
    | .error .endless => throw .endless
    | _ =>
      let s ← get
      match Assoc.get? 0 s.traps with
      | none => pure ()
      | some action =>
        set { s with
          traps := Assoc.erase 0 s.traps, guarded := false, complainant := none, final := false }
        match ← Step.outcome (script fuel { rest := action }) with
        | .ok () => Step.setStatus s.status
        | .error (.killed signal) => throw (.killed signal)
        | .error .endless => throw .endless
        | .error _ => pure ()

/-- Does what is to be done about the signals that have arrived. -/
def signals : Nat → Step Unit
  | 0 => overflow
  | fuel + 1 => do
    let s ← get
    if s.arrived.isEmpty && s.machine.sent.isEmpty then pure ()
    else
      (← takeSignals).forM fun (time, signal) => do
        let s ← get
        match Assoc.get? signal s.traps with
        | some action =>
          if signal == Signal.kill then meet time signal
          else if action.isEmpty then pure ()
          else
            let complainant := s.complainant
            let result ← Step.outcome
              (Step.beforeOthers (Step.complaining none (script fuel { rest := action })))
            match result with
            | .ok () => modify fun t => { t with status := s.status, complainant }
            | .error flow => throw flow
        | none => meet time signal

/-- Writes a command before it is performed, to where diagnostics went before redirections. -/
def trace : Nat → Option Channel → List (Octets × Octets) → List Octets → Step Unit
  | 0, _, _, _ => overflow
  | fuel + 1, channel, assigned, words => do
    let s ← get
    if s.has 'x' then
      let front ← plain fuel (wordOf s.language ((s.get? "PS4".toList).getD []))
      let shown (isList : Bool) (text : Octets) : Octets :=
        if s.isBash && !isList then Change.traced text else text
      let isList (text : Octets) : Bool := text.head? == some '('
      let texts := (assigned.map fun (name, value) =>
          name ++ '=' :: (if value.isEmpty then [] else shown (isList value) value))
        ++ words.map (shown false)
      Step.keepingChannels do
        match channel with
        | some channel => modify fun s => s.redirect 2 channel
        | none => pure ()
        Step.note (front ++ Builtin.spaced texts)

/-- Performs a simple command. -/
def simple : Nat → List Assignment → List Word → List Redirection → Step Unit
  | 0, _, _, _ => overflow
  | fuel + 1, assigned, words, redirections => do
    let words ← fields fuel [] words
    let diagnostics := Assoc.get? 2 (← get).channels
    match words with
    | [] =>
      let status := (← get).outputStatus
      Step.setStatus 0
      let followed ← redirected fuel redirections do
        let values ← assignments fuel false assigned
        trace fuel diagnostics values []
        modify fun s => { s with status := (s.outputStatus.or status).getD 0 }
      if !followed && (← get).isBash then Step.setStatus 1
    | name :: arguments =>
      if commandName words == "exec".toList then
        exec fuel diagnostics assigned words redirections
      else
        let followed ← redirected fuel redirections
          (named fuel diagnostics assigned name arguments)
        if !followed && Lookup.isSpecial (← get).language name then throw .raised

/-- Performs the command that a first word names. -/
def named : Nat → Option Channel → List Assignment → Octets → List Octets → Step Unit
  | 0, _, _, _, _ => overflow
  | fuel + 1, diagnostics, assigned, name, arguments => do
    let s ← get
    let isFunction := (Assoc.get? name s.functions).isSome
    if Lookup.isSpecial s.language name then
      let values ← assignments fuel false assigned
      trace fuel diagnostics values (name :: arguments)
      builtin fuel true name arguments
    else if s.isBash && assigned.isEmpty && !isFunction && adapting.contains (String.ofList name)
    then
      trace fuel diagnostics [] (name :: arguments)
      command fuel name arguments
    else
      modify fun s => { s with frames := {} :: s.frames }
      let depth := (← get).frames.length
      Step.thenAlways (do
          let values ← assignments fuel true assigned
          trace fuel diagnostics values (name :: arguments)
          match Assoc.get? name (← get).functions with
          | some body => function fuel name body arguments
          | none => command fuel name arguments)
        fun s => if s.frames.length == depth then (Step.perform Step.popFrame s).2 else s

/-- Performs a function. -/
def function : Nat → Octets → Command → List Octets → Step Unit
  | 0, _, _, _ => overflow
  | fuel + 1, name, body, arguments => do
    let before ← get
    set { before with
      arguments, loops := 0, optionIndex := 1, optionOffset := none
      callers := name :: before.callers
      sources := before.sources.take 1 ++ before.sources
      functionDepth := before.functionDepth + 1 }
    let result ← Step.outcome (Step.beforeOthers (run fuel body))
    modify fun s =>
      { s with
        arguments := before.arguments
        loops := before.loops
        optionIndex := before.optionIndex
        optionOffset := before.optionOffset
        callers := before.callers
        sources := before.sources
        functionDepth := before.functionDepth }
    match result with
    | .error .return => pure ()
    | .error (.breakLoop _) => pure ()
    | .error (.continueLoop _) => pure ()
    | other => Step.resume other

/-- Performs a command of the shell or a program. -/
def command : Nat → Octets → List Octets → Step Unit
  | 0, _, _ => overflow
  | fuel + 1, name, arguments => do
    if Lookup.isBuiltin (← get).language name then builtin fuel false name arguments
    else program fuel name arguments

/-- Performs a command of the shell. An error in one that the shell can do without is only a
failure. -/
def builtin : Nat → Bool → Octets → List Octets → Step Unit
  | 0, _, _, _ => overflow
  | fuel + 1, isSpecial, name, arguments => do
    let act : Step Unit := match builtin? (← get).language (String.ofList name) with
      | some action => Step.complaining (some name) do
        let status ← action arguments
        Step.setStatus (← settleWriting name status)
      | none => match String.ofList name with
        | "eval" => evaluate fuel arguments
        | "." => perform fuel arguments
        | "source" => perform fuel arguments
        | "command" => plainly fuel arguments
        | "builtin" => plainBuiltin fuel arguments
        | _ => pure ()
    match ← Step.outcome act with
    | .error .raised => if isSpecial then throw .raised
    | other => Step.resume other

/-- Performs a command of the shell that is no function. -/
def plainBuiltin : Nat → List Octets → Step Unit
  | 0, _ => overflow
  | _ + 1, [] => Step.setStatus 0
  | fuel + 1, name :: arguments => do
    if Lookup.isBuiltin (← get).language name then builtin fuel false name arguments
    else
      Step.complaining (some "builtin".toList) (Step.complainOf name "not a shell builtin")
      Step.setStatus 1

/-- Performs the script that words make. -/
def evaluate : Nat → List Octets → Step Unit
  | 0, _ => overflow
  | fuel + 1, words => do
    let s ← get
    let words ← if s.isBash then
        Step.complaining (some "eval".toList) (return (← Builtin.flags [] words).2)
      else pure words
    if (Builtin.spaced words).all Numeral.isBlank then Step.setStatus 0
    else
      let line := s.line
      let readLine := s.readLine
      let first := if s.isBash then line else 1
      Step.thenAlways
        (Step.beforeOthers (Step.complaining (some "eval".toList)
          (script fuel { rest := Builtin.spaced words, line := first })))
        fun s => { s with line, readLine }

/-- Performs the script in a file. -/
def perform : Nat → List Octets → Step Unit
  | 0, _ => overflow
  | fuel + 1, words => do
    if (← get).isBash then
      let (path, text, arguments) ← sourceFor words
      let s ← get
      Step.setStatus 0
      set { s with
        sources := path :: s.sources, arguments := if arguments.isEmpty then s.arguments
          else arguments }
      let result ← Step.outcome (Step.beforeOthers
        (Step.complaining none (script fuel { rest := text, inFile := true })))
      modify fun t => { t with
        line := s.line, readLine := s.readLine, sources := s.sources
        arguments := if arguments.isEmpty then t.arguments else s.arguments }
      match result with
      | .error .return => return
      | other => return ← Step.resume other
    let (path, text) ← Step.complaining (some ['.']) do
      let (_, words) ← Builtin.flags [] words
      let s ← get
      match words with
      | [] => pure ([], [])
      | name :: _ =>
        match scriptNamed? s name with
        | some found => pure found
        | none =>
          if name.contains '/' then
            let reason := match scriptIn s name with
              | .error reason => Lookup.refusal reason "No such file"
              | .ok _ => "No such file"
            Step.error ("cannot open ".toList ++ name ++ ": ".toList ++ reason.toList)
          else Step.error (name ++ ": not found".toList)
    let s ← get
    Step.setStatus 0
    let result ← Step.outcome (Step.beforeOthers
      (Step.complaining (some path) (script fuel { rest := text, inFile := true })))
    modify fun t => { t with line := s.line, readLine := s.readLine }
    match result with
    | .error .return => pure ()
    | other => Step.resume other

/-- Performs a command that is no function, or says what names stand for. -/
def plainly : Nat → List Octets → Step Unit
  | 0, _ => overflow
  | fuel + 1, words => do
    let (chosen, words) ← Step.complaining (some "command".toList)
      (Builtin.flags ['p', 'v', 'V'] words)
    if chosen.contains 'v' || chosen.contains 'V' then
      Step.setStatus (← Lookup.describe (chosen.contains 'V') words)
    else match words with
      | [] => Step.setStatus 0
      | name :: arguments =>
        if chosen.contains 'p' then
          let path := Assoc.get? "PATH".toList (← get).bindings
          modify fun s => s.put "PATH".toList (.ofValue Lookup.defaultPath true)
          Step.thenAlways (command fuel name arguments) fun s =>
            { s with bindings := match path with
              | some v => Assoc.put "PATH".toList v s.bindings
              | none => Assoc.erase "PATH".toList s.bindings }
        else command fuel name arguments

/-- Puts a program in the place of the shell, or changes where its descriptors lead. -/
def exec : Nat → Option Channel → List Assignment → List Octets → List Redirection →
    Step Unit
  | 0, _, _, _, _ => overflow
  | fuel + 1, diagnostics, assigned, words, redirections => do
    let targets ← targets fuel redirections
    targets.forM fun (descriptor, t) => connect descriptor t
    let values ← assignments fuel false assigned
    trace fuel diagnostics values words
    let words := (words.dropWhile (· == "command".toList)).drop 1
    let letters := if (← get).isBash then [('a', true), ('c', false), ('l', false)] else []
    let (chosen, words) ← Step.complaining (some "exec".toList)
      (Builtin.options letters (words.length + 1) words)
    match words with
    | [] =>
      Step.keepOpen
      Step.setStatus 0
    | name :: arguments =>
      values.forM fun (name, _) => Step.exportName name
      match found (← get) name arguments with
      | .error (reason, status) =>
        if (← get).isBash then
          let isCommand := reason == "command not found"
          let text := if isCommand then "not found" else "cannot execute: " ++ reason
          if !isCommand then Step.complainOf name reason
          Step.complaining (some "exec".toList)
            (Step.abandon (name ++ ": ".toList ++ text.toList) status)
        Step.complaining (some "exec".toList)
          (Step.raise (name ++ ": ".toList ++ reason.toList) status)
      | .ok image =>
        let image := match chosen.lookup 'a' with
          | some name => { image with name }
          | none => image
        modify fun s => { s with traps := s.traps.filter fun t => t.2.isEmpty }
        start fuel image
        throw .leave

/-- Runs a program and waits for it. -/
def program : Nat → Octets → List Octets → Step Unit
  | 0, _, _ => overflow
  | fuel + 1, name, arguments => do
    let s ← get
    match found s name arguments with
    | .error (reason, status) =>
      Step.complainOf name reason
      Step.setStatus status
    | .ok image =>
      unless name.contains '/' do
        match Lookup.path s name with
        | .ok path => modify fun s => { s with hashed := Assoc.put name path s.hashed }
        | .error _ => pure ()
      if s.isBash then
        let path := ((Lookup.path s name).toOption).getD name
        modify fun s => s.put ['_'] (.ofValue path true)
      if s.final && s.traps.isEmpty then
        start fuel image
        throw .leave
      let child ← Step.fork (fun s => s) (start fuel image)
      if s.group != 0 then
        Step.holdChannels s.group s.clock child.ends s.openChannels true
      Step.join child

/-- The process becomes a program. -/
def start : Nat → Image → Step Unit
  | 0, _ => overflow
  | fuel + 1, image => do
    Step.keepOpen
    modify fun s => programState s image.name
    match Tool.action? image.program with
    | some action => Step.setStatus (← Tool.settled (action image.arguments))
    | none =>
      let asCommand (name text : Octets) : Step Unit :=
        start fuel ⟨"sh", name, ["-c".toList, text]⟩
      match image.program with
      | "env" => inEnvironment fuel image.arguments
      | "awk" => Step.setStatus (← Tool.settled (Tool.awk asCommand image.arguments))
      | "mawk" => Step.setStatus (← Tool.settled (Tool.awk asCommand image.arguments))
      | "bash" => shell fuel .bash image.arguments
      | "rbash" => shell fuel .bash image.arguments
      | _ => shell fuel .posix image.arguments

/-- Runs a program in a changed environment, or writes the environment. -/
def inEnvironment : Nat → List Octets → Step Unit
  | 0, _ => overflow
  | fuel + 1, words => do
    match ← Tool.changeEnvironment words with
    | .error status => Step.setStatus status
    | .ok [] => Step.setStatus (← Tool.settled (Tool.printenv []))
    | .ok (name :: arguments) => startNamed fuel name arguments

/-- The process becomes the program that a word names, for another program. -/
def startNamed : Nat → Octets → List Octets → Step Unit
  | 0, _, _ => overflow
  | fuel + 1, name, arguments => do
    let s ← get
    match (Lookup.path s name).bind fun path => Lookup.image s path name arguments with
    | .ok image => start fuel image
    | .error reason =>
      Tool.complain ((← Tool.named name) ++ ": ".toList ++ reason.text.toList)
      Step.setStatus (if reason == .noEntry then 127 else 126)

/-- Runs a shell of a language. -/
def shell : Nat → Language → List Octets → Step Unit
  | 0, _, _ => overflow
  | fuel + 1, language, arguments => do
    modify (initial language)
    asShell fuel do
      let source ← sourceOf arguments
      let complainant := if language == .bash && !source.inFile then some ['-', 'c'] else none
      modify fun s => { s with final := !source.inFile, complainant }
      script fuel { rest := source.text, inFile := source.inFile }

/-- Performs the commands of a script one after the other. -/
def script : Nat → Reading → Step Unit
  | 0, _ => overflow
  | fuel + 1, reading => do
    let s ← get
    let reading := { reading with
      documents := s.documents, nextDocument := s.nextDocument, aliases := s.aliases
      language := s.language }
    match nextCommand reading with
    | .error e => refuse reading e
    | .ok (command, next) =>
      set { s with
        documents := next.documents, nextDocument := next.nextDocument, readLine := next.line }
      if s.has 'v' && reading.inFile then
        let text := reading.rest.take (reading.rest.length - next.rest.length)
        discard (Step.put 2 text)
      match command with
      | none => pure ()
      | some command =>
        let isLast := !reading.inFile && next.rest.isEmpty
          && reading.rest.getLast? != some '\n'
        let act := if isLast then run fuel command else Step.beforeOthers (run fuel command)
        if s.isBash then
          match ← Step.outcome (Step.complaining none act) with
          | .error .raised => if (← get).status == 0 then Step.setStatus 1
          | other => Step.resume other
        else act
        script fuel next

end

/-- How deeply commands may be nested. -/
def fuel : Nat := 6000

end Eval

end EditorAnalysis.Shell
