/-
EditorAnalysis.Shell.Tool.Awk.Eval — performing programs that look at records.

Every function that looks into expressions takes fuel, which bounds how deeply they are
nested; a program that uses it up has used up its memory. Loops count their rounds.
-/
import EditorAnalysis.Shell.Running
import EditorAnalysis.Shell.Tool.Awk.Reader
import EditorAnalysis.Shell.Tool.Awk.Work

namespace EditorAnalysis.Shell.Awk

open Text (Octets)
open Host (Errno)

namespace Act

/-! ## Steps of the process -/

/-- A step of the process. -/
def ofStep {α : Type} (act : Step α) : Act α := ExceptT.lift (StateT.lift act)

/-- What something comes to. -/
def outcome {α : Type} (act : Act α) : Act (Except Leave α) := ExceptT.lift act.run

/-- What something comes to in a state. -/
def perform {α : Type} (act : Act α) (w : Work) (s : State) :
    Except Flow (Except Leave α × Work) × State := (act.run.run w).run s

/-- Writes what is kept. -/
def flush : Act Unit := do
  let w ← get
  unless w.pending.isEmpty do
    set { w with pending := [], pendingSize := 0 }
    ofStep (Step.write w.pending.reverse.flatten)

/-- How much is kept before it is written. -/
def pendingLimit : Nat := 4096

/-- Writes to the output. -/
def write (text : Octets) : Act Unit := do
  modify fun w =>
    { w with pending := text :: w.pending, pendingSize := w.pendingSize + text.length }
  if pendingLimit < (← get).pendingSize then flush

/-- The status of a program in which something is wrong. -/
def brokenStatus : Nat := 2

/-- Ends because something is wrong. -/
def fail {α : Type} (text : Octets) : Act α := do
  ofStep (Tool.complain text)
  modify fun w => { w with status := brokenStatus }
  throw .broken

/-- Ends because of something that does not go with the values of the program. -/
def failAt {α : Type} (text : Octets) : Act α := do
  let w ← get
  fail ("run time error: ".toList ++ text ++ "\n\tFILENAME=\"".toList
    ++ w.globalText "FILENAME" ++ "\" FNR=".toList ++ w.globalText "FNR" ++ " NR=".toList
    ++ w.globalText "NR")

/-- The program has used up its memory. -/
def exhausted {α : Type} : Act α := ofStep (throw (.killed Signal.overflow))

/-! ## Reading -/

/-- Ends because a file cannot be opened. -/
def cannotOpen {α : Type} (path : Octets) (purpose : String) (reason : Errno) : Act α :=
  fail ("cannot open \"".toList ++ path ++ ("\"" ++ purpose ++ " (" ++ reason.text ++ ")").toList)

/-- The names of the input. -/
def isInput (path : Octets) : Bool := path == ['-'] || path == "/dev/stdin".toList

/-- Everything that can be read from the input. -/
def readInput : Act Octets := do
  match ← ofStep (Step.readAll 0) with
  | .ok text => return text
  | .error _ => return []

/-- What is in a file, or why it cannot be read. -/
def content (path : Octets) : Act (Except Errno Octets) := do
  if isInput path then return .ok (← readInput) else ofStep (Tool.contentOf path)

/-- A line of the input with its end. -/
def readLine : Act Octets := do
  let enough (_ : Unit) (text : Octets) : Unit ⊕ Nat :=
    let front := text.takeWhile (· != '\n')
    if front.length < text.length then .inr (front.length + 1) else .inl ()
  match ← ofStep (Step.readWhile 0 () enough) with
  | .ok text => return text
  | .error _ => return []

/-- Takes a record. -/
def take (tap : Tap) : Act (Option Octets × Tap) := do
  let separator := (← get).globalText "RS"
  match tap with
  | .text rest =>
    match recordIn separator rest with
    | some (record, rest) => return (some record, .text rest)
    | none => return (none, tap)
  | .input =>
    if separator == ['\n'] then
      let line ← readLine
      return (if line.isEmpty then none else some (Tool.body line), .input)
    else
      match recordIn separator (← readInput) with
      | some (record, rest) => return (some record, .text rest)
      | none => return (none, .text [])

/-- Gives a name the value that a word of the command line has for it. -/
def assignWord (word : Octets) : Act Unit := do
  let name := word.takeWhile (· != '=')
  let text := Lexer.unescape (word.drop (name.length + 1))
  modify fun w => w.write name (.ofInput text)

/-- The word gives a name a value. -/
def isAssignment (word : Octets) : Bool :=
  let name := word.takeWhile (· != '=')
  isName name && name.length < word.length

/-- Opens the next file that an argument names; the input, if none does. -/
def openNext : Nat → Act Bool
  | 0 => return false
  | fuel + 1 => do
    let w ← get
    let n := w.nextArgument
    if w.isDone then return false
    else if w.count "ARGC" ≤ n then
      set { w with isDone := true }
      if w.hasFile then return false
      modify fun w => { w with tap := some .input }
      return true
    else
      set { w with nextArgument := n + 1 }
      let key := (toString n).toList
      let word := ((((w.table (.whole "ARGV".toList)).lookup key).getD .unset)).toText w.format
      if word.isEmpty then openNext fuel
      else if isAssignment word then
        assignWord word
        openNext fuel
      else
        let tap ← if isInput word then pure Tap.input else
          match ← ofStep (Tool.contentOf word) with
          | .ok text => pure (.text text)
          | .error .isDirectory => fail ("read error (".toList ++
              Errno.isDirectory.text.toList ++ [')'])
          | .error reason => cannotOpen word "" reason
        modify fun w =>
          ({ w with tap := some tap, hasFile := true }.setGlobal "FILENAME".toList
            (.text word)).setNumber "FNR" 0
        return true

/-- The next record of all files. -/
def nextRecord : Nat → Act (Option Octets)
  | 0 => return none
  | fuel + 1 => do
    match (← get).tap with
    | none => if ← openNext (fuel + 1) then nextRecord fuel else return none
    | some tap =>
      let (record, tap) ← take tap
      match record with
      | some record =>
        modify fun w =>
          let w := { w with tap := some tap }
          (w.setNumber "NR" (w.count "NR" + 1)).setNumber "FNR" (w.count "FNR" + 1)
        return some record
      | none =>
        modify fun w => { w with tap := none }
        nextRecord fuel

/-- How many files are looked at for a record. -/
def fileLimit : Nat := 10000

/-- A record from a file or a command that is read, which has been opened. -/
def fromSource (name : Octets) : Act (Option Octets) := do
  let w ← get
  match w.sources.lookup name with
  | none => return none
  | some (rest, status) =>
    match recordIn (w.globalText "RS") rest with
    | none => return none
    | some (record, rest) =>
      set { w with sources := Assoc.put name (rest, status) w.sources }
      return some record

/-! ## Commands -/

/-- The status of a command that was performed. -/
def statusOf : Step.End → Nat
  | .exited status => status % 256
  | .killed signal => 256 + signal
  | .never => 0

/-- The name of a shell that reads or writes for the program. -/
def pipeShell : Octets := "/bin/sh".toList

/-- Performs a command that reads a text, or what the program reads. -/
def runCommand (text : Octets) (input : Option Octets) : Act Nat := do
  let command := (← get).command
  let prepare (s : State) : State := match input with
    | some cs => s.feed 0 ⟨[(0, cs)], some 0⟩
    | none => s
  let name := if input.isSome then pipeShell else "sh".toList
  let child ← ofStep (Step.fork prepare (command name text))
  ofStep (Step.waitUntil child.ends)
  return statusOf child.ending

/-- What a command writes, and its status. -/
def outputOf (text : Octets) : Act (Octets × Nat) := do
  let command := (← get).command
  let (child, output) ← ofStep (Step.capture fun redirected =>
    Step.fork redirected (command pipeShell text))
  return (output, statusOf child.ending)

/-- Performs a command that something was written to. -/
def closeCommand (name : Octets) : Act (Option Nat) := do
  let w ← get
  match w.commands.lookup name with
  | none => return none
  | some texts =>
    set { w with commands := Assoc.erase name w.commands }
    return some (← runCommand name (some texts.reverse.flatten))

/-- Closes a file or a command. -/
def close (name : Octets) : Act Int := do
  match ← closeCommand name with
  | some status => return status
  | none =>
    let w ← get
    match w.files.lookup name, w.sources.lookup name with
    | some descriptor, _ =>
      set { w with files := Assoc.erase name w.files }
      ofStep (modify fun s => { s with channels := Assoc.erase descriptor s.channels })
      return 0
    | none, some (_, status) =>
      set { w with sources := Assoc.erase name w.sources }
      return status
    | none, none => return -1

/-! ## Writing -/

/-- The first descriptor of files that the program writes. -/
def firstDescriptor : Nat := 100

/-- Writes to a file. -/
def writeFile (appends : Bool) (path text : Octets) : Act Unit := do
  match String.ofList path with
  | "/dev/stdout" => write text
  | "-" => write text
  | "/dev/stderr" => discard (ofStep (Step.put 2 text))
  | _ =>
    let w ← get
    let descriptor ← match w.files.lookup path with
      | some descriptor => pure descriptor
      | none =>
        let descriptor := w.files.foldl (fun n f => max n (f.2 + 1)) firstDescriptor
        let opening := if appends then Opening.append else .overwrite
        match ← ofStep (Step.openFile descriptor opening path) with
        | some reason => cannotOpen path " for output" reason
        | none =>
          set { w with files := Assoc.put path descriptor w.files }
          pure descriptor
    discard (ofStep (Step.put descriptor text))

/-- Writes to a command, which is performed later. -/
def writeCommand (name text : Octets) : Act Unit := do
  if ((← get).commands.lookup name).isNone then flush
  modify fun w =>
    let texts := (w.commands.lookup name).getD []
    if texts.isEmpty then { w with commands := (name, [text]) :: w.commands }
    else { w with commands := Assoc.put name (text :: texts) w.commands }

/-- Writes somewhere. -/
def writeTo (text : Octets) : Option (Direction × Octets) → Act Unit
  | none => write text
  | some (.file, path) => writeFile false path text
  | some (.append, path) => writeFile true path text
  | some (.command, name) => writeCommand name text

/-! ## Loops -/

/-- Rounds of a loop. One that makes too many of them counts as one without an end. -/
def rounds (before : Act Bool) (body after : Act Unit) :
    Nat → Work → State → Except Flow (Except Leave Unit × Work) × State
  | 0, _, s => (.error .endless, s)
  | n + 1, w, s =>
    match perform before w s with
    | (.error flow, s) => (.error flow, s)
    | (.ok (.error l, w), s) => (.ok (.error l, w), s)
    | (.ok (.ok false, w), s) => (.ok (.ok (), w), s)
    | (.ok (.ok true, w), s) =>
      match perform body w s with
      | (.error flow, s) => (.error flow, s)
      | (.ok (.error .leaveLoop, w), s) => (.ok (.ok (), w), s)
      | (.ok (.error .nextRound, w), s) => further n (perform after w s)
      | (.ok (.error l, w), s) => (.ok (.error l, w), s)
      | (.ok (.ok (), w), s) => further n (perform after w s)
where
  /-- The rounds that are left. -/
  further (n : Nat) : Except Flow (Except Leave Unit × Work) × State →
      Except Flow (Except Leave Unit × Work) × State
    | (.ok (.ok (), w), s) => rounds before body after n w s
    | other => other

/-- A loop. -/
def loop (before : Act Bool) (body after : Act Unit) : Act Unit :=
  fun w s => rounds before body after Step.maxRounds w s

/-- A round for each of some things. -/
def loopOver {α : Type} (body : α → Act Unit) : List α → Act Unit
  | [] => pure ()
  | a :: more => do
    match ← outcome (body a) with
    | .error .leaveLoop => pure ()
    | .error .nextRound => loopOver body more
    | .error l => throw l
    | .ok () => loopOver body more

end Act

/-! ## Replacing -/

/-- What is put in the place of a match. -/
def filled (found : Octets) : Octets → Octets
  | '\\' :: '&' :: rest => '&' :: filled found rest
  | '\\' :: '\\' :: rest => '\\' :: filled found rest
  | '&' :: rest => found ++ filled found rest
  | c :: rest => c :: filled found rest
  | [] => []

/-- Replaces the first match from a place on, or all; says how many there were. An empty match
right behind another does not count. -/
def replaced (s : Regex.Subject) (r : Regex) (all : Bool) (text : Octets) :
    Nat → Nat → Option Nat → Octets × Nat
  | 0, start, _ => ((s.chars.extract start s.chars.size).toList, 0)
  | fuel + 1, start, lastEnd =>
    let rest (n : Nat) : Octets := (s.chars.extract n s.chars.size).toList
    match if start ≤ s.chars.size then Regex.search s r start else none with
    | none => (rest start, 0)
    | some f =>
      let front := (s.chars.extract start f.start).toList
      let one := (s.chars.extract f.stop (f.stop + 1)).toList
      if f.start == f.stop && lastEnd == some f.start then
        let (more, n) := replaced s r all text fuel (f.stop + 1) none
        (front ++ one ++ more, n)
      else
        let middle := filled (f.text s) text
        if !all then (front ++ middle ++ rest f.stop, 1)
        else if f.start == f.stop then
          let (more, n) := replaced s r all text fuel (f.stop + 1) none
          (front ++ middle ++ one ++ more, n + 1)
        else
          let (more, n) := replaced s r all text fuel f.stop (some f.stop)
          (front ++ middle ++ more, n + 1)

/-- The place of a text in another one, counted from one; zero, if there is none. -/
def placeOf (part : Octets) : Nat → Octets → Nat
  | n, [] => if part.isEmpty then n else 0
  | n, c :: cs => if part.isPrefixOf (c :: cs) then n else placeOf part (n + 1) cs

/-- The integer next to a number; the even one of two. -/
def rounded (r : Real) : Int :=
  match r.fraction? with
  | none => match r with
    | .infinite false => Numeral.greatest
    | _ => Numeral.least
  | some (n, d) =>
    let whole := n.fdiv d
    let rest := 2 * (n - whole * d)
    if rest < d || (rest = d && whole % 2 = 0) then whole else whole + 1

/-- A part of a text, from a place on and so long. -/
def partOf (cs : Octets) (start : Real) (length : Option Real) : Octets :=
  let first := rounded start
  let behind := match length with
    | none => (cs.length : Int) + 1
    | some n => rounded (start.add n)
  let from1 := max first 1
  (cs.drop (from1 - 1).toNat).take (behind - from1).toNat

/-- An operation on two numbers. -/
def computed (o : Operation) (a b : Real) : Real :=
  match o with
  | .add => a.add b
  | .subtract => a.add b.negate
  | .multiply => a.mul b
  | .divide => a.div b
  | .remainder => a.rest b
  | .power =>
    if b.isWhole then a.pow b else Real.ofFloat (a.toFloat.pow b.toFloat)

/-- A truth value. -/
def truth (b : Bool) : Value := .number (.ofNat (if b then 1 else 0))

/-- A value without a fraction. -/
def whole (n : Int) : Value := .number (.ofInt n)

/-- A pattern is found in a text. -/
def isFound (r : Regex) (cs : Octets) : Bool := (Regex.search (Work.subject cs) r 0).isSome

/-- The pattern that a text writes. -/
def regexOf (cs : Octets) : Act Regex :=
  match Regex.ofText Lexer.dialect cs with
  | .ok r => return r
  | .error p => Act.failAt (Lexer.problemText p cs)

/-- Takes the record apart. -/
def split : Act Unit := modify fun w => { w with fields := some w.fieldList }

/-- The value of an entry, which is there from then on. -/
def entryOf (key : TableKey) (index : Octets) : Act Value := do
  let w ← get
  let v := ((w.table key).lookup index).getD .unset
  set (w.setEntry key index v)
  return v

/-- The number of a field. -/
def fieldNumber (v : Value) : Act Nat := do
  let n := ((v.toReal.toInt?).getD 0)
  if n < 0 then Act.failAt ("negative field index $".toList ++ (toString n).toList)
  return n.toNat

/-- A text that is written for a value. -/
def shown (w : Work) (v : Value) : Octets :=
  match v with
  | .number _ => v.toText (w.globalText "OFMT")
  | v => v.toText w.format

/-- Values written in a format. -/
def inFormat (name : String) (vs : List Value) : Act (Octets × Bool) := do
  let w ← get
  match vs with
  | [] => return ([], true)
  | v :: vs =>
    let format := v.toText w.format
    let call : Octets := (name ++ "(\"").toList ++ format ++ "\")".toList
    let (text, problem) := formatted w.format (format.length + 1) 1 format vs
    if name == "printf" then Act.write text
    match problem with
    | none => return (text, true)
    | some .tooFew => Act.failAt ("not enough arguments passed to ".toList ++ call)
    | some (.unknown n) =>
      Act.failAt (("improper conversion(number " ++ toString n ++ ") in ").toList ++ call)

/-- What a reading comes to. -/
def readResult (found : Option Octets) (give : Octets → Act Unit) : Act Value := do
  match found with
  | none => return whole 0
  | some cs =>
    give cs
    return whole 1

/-- A name, perhaps in parentheses. -/
def bareName? : Expr → Option Octets
  | .name n => some n
  | .group [.name n] => some n
  | _ => none

mutual

/-- The value of an expression. -/
def eval : Nat → Expr → Act Value
  | 0, _ => Act.exhausted
  | _ + 1, .number r => return .number r
  | _ + 1, .text cs => return .text cs
  | _ + 1, .regex r => return truth (isFound r (← get).recordText)
  | _ + 1, .name n => return (← get).read n
  | fuel + 1, .field e => do
    let n ← fieldNumber (← eval fuel e)
    unless n = 0 do split
    return (← get).field n
  | fuel + 1, .entry table keys => do
    let index ← indexOf fuel keys
    entryOf ((← get).tableKey table) index
  | fuel + 1, .member keys table => do
    let index ← indexOf fuel keys
    let w ← get
    return truth ((w.table (w.tableKey table)).lookup index).isSome
  | fuel + 1, .group es =>
    match es with
    | [e] => eval fuel e
    | es => return .text (← indexOf fuel es)
  | fuel + 1, .operation o a b => do
    let a ← number fuel a
    return .number (computed o a (← number fuel b))
  | fuel + 1, .relation r a b => do
    let a ← eval fuel a
    let b ← eval fuel b
    return truth (r.holds (Value.order? (← get).format a b))
  | fuel + 1, .join a b => do
    let a ← text fuel a
    return .text (a ++ (← text fuel b))
  | fuel + 1, .finds negated e pattern => do
    let cs ← text fuel e
    return truth (isFound (← regex fuel pattern) cs != negated)
  | fuel + 1, .both a b => do
    if (← eval fuel a).holds then return truth (← eval fuel b).holds else return truth false
  | fuel + 1, .either a b => do
    if (← eval fuel a).holds then return truth true else return truth (← eval fuel b).holds
  | fuel + 1, .negation e => do return truth (!(← eval fuel e).holds)
  | fuel + 1, .signed negative e => do
    let r ← number fuel e
    return .number (if negative then r.negate else r)
  | fuel + 1, .choice condition yes no => do
    if (← eval fuel condition).holds then eval fuel yes else eval fuel no
  | fuel + 1, .assign none target e => do
    let v ← eval fuel e
    assign fuel target v
    return v
  | fuel + 1, .assign (some o) target e => do
    let r ← number fuel e
    let v := Value.number (computed o (← number fuel target) r)
    assign fuel target v
    return v
  | fuel + 1, .step before o target => do
    let old ← number fuel target
    let new := computed o old (.ofNat 1)
    assign fuel target (.number new)
    return .number (if before then new else old)
  | fuel + 1, .call name es => do
    match (← get).functions.lookup name with
    | none => return .unset
    | some f =>
      let saved := (← get).nextTable
      let frame ← frameOf fuel f.parameters es
      modify fun w => { w with frames := frame :: w.frames }
      let result ← Act.outcome (perform fuel f.body)
      let mine (key : TableKey) : Bool := match key with
        | .own n => saved ≤ n
        | _ => false
      modify fun w =>
        { w with
          frames := w.frames.drop 1, nextTable := saved
          tables := w.tables.filter fun t => !mine t.1 }
      match result with
      | .ok () => return .unset
      | .error (.return v) => return v
      | .error l => throw l
  | fuel + 1, .builtin b es => builtin fuel b es
  | fuel + 1, .readRecord target => do
    readResult (← Act.nextRecord Act.fileLimit) fun cs => give fuel target cs
  | fuel + 1, .readFile target file => do
    let path ← text fuel file
    let isOpen ← if ((← get).sources.lookup path).isSome then pure true else
      match ← Act.content path with
      | .ok cs =>
        modify fun w => { w with sources := (path, cs, 0) :: w.sources }
        pure true
      | .error .isDirectory =>
        Act.fail ("read error (".toList ++ Errno.isDirectory.text.toList ++ [')'])
      | .error _ => pure false
    if isOpen then readResult (← Act.fromSource path) fun cs => give fuel target cs
    else return whole (-1)
  | fuel + 1, .readCommand target command => do
    let name ← text fuel command
    if ((← get).sources.lookup name).isNone then
      Act.flush
      let result ← Act.outputOf name
      modify fun w => { w with sources := (name, result) :: w.sources }
    readResult (← Act.fromSource name) fun cs => give fuel target cs

/-- The number that an expression is. -/
def number : Nat → Expr → Act Real
  | 0, _ => Act.exhausted
  | fuel + 1, e => do return (← eval fuel e).toReal

/-- The text that an expression is. -/
def text : Nat → Expr → Act Octets
  | 0, _ => Act.exhausted
  | fuel + 1, e => do
    let v ← eval fuel e
    return v.toText (← get).format

/-- The pattern that an expression is. -/
def regex : Nat → Expr → Act Regex
  | 0, _ => Act.exhausted
  | fuel + 1, e =>
    match e with
    | .regex r => return r
    | .group [.regex r] => return r
    | e => do regexOf (← text fuel e)

/-- The index that expressions make. -/
def indexOf : Nat → List Expr → Act Octets
  | 0, _ => Act.exhausted
  | _ + 1, [] => return []
  | fuel + 1, [e] => text fuel e
  | fuel + 1, e :: es => do
    let first ← text fuel e
    let rest ← indexOf fuel es
    return first ++ (← get).globalText "SUBSEP" ++ rest

/-- Values of expressions. -/
def values : Nat → List Expr → Act (List Value)
  | 0, _ => Act.exhausted
  | _ + 1, [] => return []
  | fuel + 1, e :: es => do
    let v ← eval fuel e
    return v :: (← values fuel es)

/-- Gives a value to a variable, a field or an entry. -/
def assign : Nat → Expr → Value → Act Unit
  | 0, _, _ => Act.exhausted
  | fuel + 1, target, v => do
    match target with
    | .name n => modify fun w => w.write n v
    | .field e =>
      let n ← fieldNumber (← eval fuel e)
      modify fun w => w.setField n v
    | .entry table keys =>
      let index ← indexOf fuel keys
      modify fun w => w.setEntry (w.tableKey table) index v
    | _ => pure ()

/-- Gives a record that was read to something, or makes it the record. -/
def give : Nat → Option Expr → Octets → Act Unit
  | 0, _, _ => Act.exhausted
  | fuel + 1, target, cs => do
    match target with
    | none => modify fun w => w.setRecord cs
    | some target => assign fuel target (.ofInput cs)

/-- What the parameters of a function stand for. -/
def frameOf : Nat → List Octets → List Expr → Act Frame
  | 0, _, _ => Act.exhausted
  | _ + 1, [], _ => return ⟨[], []⟩
  | fuel + 1, p :: ps, es => do
    let w ← get
    let fresh : Act TableKey := do
      let n := (← get).nextTable
      modify fun w => { w with nextTable := n + 1 }
      return .own n
    let (v, key) ← match es with
      | [] => pure (Value.unset, ← fresh)
      | e :: _ =>
        match bareName? e with
        | some n => pure (w.read n, w.tableKey n)
        | none => pure (← eval fuel e, ← fresh)
    let rest ← frameOf fuel ps (es.drop 1)
    return ⟨(p, v) :: rest.values, (p, key) :: rest.tables⟩

/-- The value of a function that every program has. -/
def builtin : Nat → Builtin → List Expr → Act Value
  | 0, _, _ => Act.exhausted
  | fuel + 1, b, es => do
    let ofReal (f : Real → Real) : Act Value := match es with
      | e :: _ => do return .number (f (← number fuel e))
      | [] => return .unset
    let replace (all : Bool) : Act Value := match es with
      | pattern :: replacement :: targets => do
        let r ← regex fuel pattern
        let put ← text fuel replacement
        let target := targets.head?.getD (.field (.number .zero))
        let cs ← text fuel target
        let (new, n) := replaced (Work.subject cs) r all put (2 * cs.length + 4) 0 none
        if 0 < n then assign fuel target (.text new)
        return whole n
      | _ => return .unset
    match b, es with
    | .length, [] => return whole (← get).recordText.length
    | .length, e :: _ =>
      let w ← get
      let table? := (bareName? e).bind fun n =>
        if (w.read n) matches .unset then w.tables.lookup (w.tableKey n) else none
      match table? with
      | some t => return whole t.length
      | none => return whole (← text fuel e).length
    | .substr, e :: start :: length =>
      let cs ← text fuel e
      let first ← number fuel start
      match length with
      | [] => return .text (partOf cs first none)
      | n :: _ => return .text (partOf cs first (some (← number fuel n)))
    | .index, a :: b :: _ =>
      let cs ← text fuel a
      return whole (placeOf (← text fuel b) 1 cs)
    | .split, e :: table :: separators =>
      let cs ← text fuel e
      let parts ← match separators with
        | [] => pure (Work.parts ((← get).globalText "FS") cs)
        | .regex r :: _ => pure (Work.patternParts r cs)
        | s :: _ => pure (Work.parts (← text fuel s) cs)
      match bareName? table with
      | some n => modify fun w => w.setTable (w.tableKey n) (Work.rowTable (parts.map .ofInput))
      | none => pure ()
      return whole parts.length
    | .sub, _ => replace false
    | .gsub, _ => replace true
    | .find, e :: pattern :: _ =>
      let cs ← text fuel e
      let (start, length) := match Regex.search (Work.subject cs) (← regex fuel pattern) 0 with
        | some f => (f.start + 1, (f.stop - f.start : Int))
        | none => (0, -1)
      modify fun w =>
        (w.setGlobal "RSTART".toList (whole start)).setGlobal "RLENGTH".toList (whole length)
      return whole start
    | .sprintf, _ => return .text (← inFormat "sprintf" (← values fuel es)).1
    | .sin, _ => ofReal (Real.through Float.sin)
    | .cos, _ => ofReal (Real.through Float.cos)
    | .exp, _ => ofReal (Real.through Float.exp)
    | .log, _ => ofReal (Real.through Float.log)
    | .sqrt, _ => ofReal Real.sqrt
    | .int, _ => ofReal Real.truncated
    | .atan2, a :: b :: _ =>
      let a ← number fuel a
      return .number (Real.ofFloat (Float.atan2 a.toFloat (← number fuel b).toFloat))
    | .rand, _ => return .number (.ofFraction 1 2)
    | .srand, _ => return whole 0
    | .tolower, e :: _ => return .text ((← text fuel e).map Char.toLower)
    | .toupper, e :: _ => return .text ((← text fuel e).map Char.toUpper)
    | .system, e :: _ =>
      let command ← text fuel e
      Act.flush
      return whole (← Act.runCommand command none)
    | .close, e :: _ => return whole (← Act.close (← text fuel e))
    | .fflush, _ =>
      Act.flush
      return whole 0
    | _, _ => return .unset

/-- Performs a statement. -/
def perform : Nat → Stmt → Act Unit
  | 0, _ => Act.exhausted
  | fuel + 1, s => do
    let holds (e : Expr) : Act Bool := do return (← eval fuel e).holds
    match s with
    | .nothing => pure ()
    | .block body => body.forM fun s => perform fuel s
    | .value e => discard (eval fuel e)
    | .write isFormatted es target =>
      let w ← get
      let vs ← values fuel es
      let place ← match target with
        | none => pure none
        | some (d, e) => pure (some (d, ← text fuel e))
      if isFormatted then
        match place with
        | none => discard (inFormat "printf" vs)
        | some _ => Act.writeTo (← inFormat "sprintf" vs).1 place
      else
        let w' ← get
        let body := match vs with
          | [] => w.recordText
          | vs => (w'.globalText "OFS").intercalate (vs.map (shown w'))
        Act.writeTo (body ++ w'.globalText "ORS") place
    | .choice condition yes no =>
      if ← holds condition then perform fuel yes else perform fuel no
    | .loop condition body => Act.loop (holds condition) (perform fuel body) (pure ())
    | .bodyFirst body condition =>
      let once ← Act.outcome (perform fuel body)
      match once with
      | .error .leaveLoop => pure ()
      | .error .nextRound => Act.loop (holds condition) (perform fuel body) (pure ())
      | .error l => throw l
      | .ok () => Act.loop (holds condition) (perform fuel body) (pure ())
    | .count first condition next body =>
      perform fuel first
      let before : Act Bool := match condition with
        | some e => holds e
        | none => return true
      Act.loop before (perform fuel body) (perform fuel next)
    | .each counter table body =>
      let w ← get
      let indices := Work.indices (w.table (w.tableKey table))
      Act.loopOver (fun index => do
        modify fun w => w.write counter (.text index)
        perform fuel body) indices
    | .leaveLoop => throw .leaveLoop
    | .nextRound => throw .nextRound
    | .nextRecord => throw .nextRecord
    | .nextFile => throw .nextFile
    | .exit none => throw .exit
    | .exit (some e) =>
      let n := ((← number fuel e).toInt?).getD 0
      modify fun w => { w with status := (n % 256).toNat }
      throw .exit
    | .return none => throw (.return .unset)
    | .return (some e) => throw (.return (← eval fuel e))
    | .delete table [] => modify fun w => w.setTable (w.tableKey table) []
    | .delete table keys =>
      let index ← indexOf fuel keys
      modify fun w =>
        let key := w.tableKey table
        w.setTable key ((w.table key).filter fun e => e.1 != index)

end

/-- How deeply expressions and functions may be nested. -/
def fuel : Nat := 20000

/-! ## Programs -/

/-- The rules whose conditions have a property, with their places. -/
def rulesWhere (p : Program) (has : Condition → Bool) : List (Nat × Rule) :=
  ((List.range p.rules.length).zip p.rules).filter fun r => has r.2.condition

/-- A rule is for the record. -/
def applies (place : Nat) : Condition → Act Bool
  | .always => return true
  | .holds e => return (← eval fuel e).holds
  | .between first last => do
    let begun := (← get).ranges.contains place
    let begins ← if begun then pure true else Value.holds <$> eval fuel first
    if !begins then return false
    let ends := (← eval fuel last).holds
    modify fun w =>
      let others := w.ranges.filter (· != place)
      { w with ranges := if ends then others else place :: others }
    return true
  | _ => return false

/-- Performs the rules for a record. -/
def forRecord (rules : List (Nat × Rule)) : Act Unit := do
  let result ← Act.outcome (rules.forM fun (place, r) => do
    if ← applies place r.condition then perform fuel r.body)
  match result with
  | .error .nextRecord => pure ()
  | .error .nextFile => modify fun w => { w with tap := none }
  | .error l => throw l
  | .ok () => pure ()

/-- Performs a program. -/
def run (p : Program) : Act Unit := do
  let starts := rulesWhere p fun c => c matches .atStart
  let ends := rulesWhere p fun c => c matches .atEnd
  let others := rulesWhere p fun c => !(c matches .atStart) && !(c matches .atEnd)
  let first ← Act.outcome (starts.forM fun (_, r) => perform fuel r.body)
  let middle ← match first with
    | .ok () =>
      if others.isEmpty && ends.isEmpty then pure (.ok ())
      else Act.outcome (Act.loop (do
          match ← Act.nextRecord Act.fileLimit with
          | some cs =>
            modify fun w => w.setRecord cs
            return true
          | none => return false) (forRecord others) (pure ()))
    | other => pure other
  match middle with
  | .error .broken => pure ()
  | _ => discard (Act.outcome (ends.forM fun (_, r) => perform fuel r.body))

/-- Closes everything at the end. -/
def finish : Act Unit := do
  (← get).commands.forM fun (name, _) => discard (Act.closeCommand name)
  Act.flush

end EditorAnalysis.Shell.Awk
