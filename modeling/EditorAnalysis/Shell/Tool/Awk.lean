/-
EditorAnalysis.Shell.Tool.Awk — the program that looks at records field by field.

Its own program is its first word, or stands in files. The words behind it name files and
give values to names.
-/
import EditorAnalysis.Shell.Tool.Awk.Eval

namespace EditorAnalysis.Shell

open Text (Octets)

namespace Awk

/-- What the options of the program say. -/
structure Options where
  /-- The files in which the program stands. -/
  scripts : List Octets := []
  /-- What separates fields. -/
  separator : Option Octets := none
  /-- Values of names. -/
  assigned : List Octets := []
  /-- Other words. -/
  words : List Octets := []

/-- What is said of a use without a program. -/
def usage : String := "Usage: mawk [Options] [Program] [file ...]"

/-- Reads the options; or says what is wrong with them. -/
def options : Nat → Options → List Octets → Except Octets Options
  | 0, o, words => .ok { o with words }
  | fuel + 1, o, words =>
    let wanted (letter : Char) (value : Octets) (rest : List Octets)
        (use : Octets → Options) : Except Octets Options :=
      match value, rest with
      | _ :: _, rest => options fuel (use value) rest
      | [], next :: more => options fuel (use next) more
      | [], [] => .error ("option -".toList ++ letter :: " lacks argument".toList)
    match words with
    | ['-', '-'] :: rest => .ok { o with words := rest }
    | ('-' :: 'f' :: value) :: rest =>
      wanted 'f' value rest fun path => { o with scripts := o.scripts ++ [path] }
    | ('-' :: 'F' :: value) :: rest =>
      wanted 'F' value rest fun cs => { o with separator := some cs }
    | ('-' :: 'v' :: value) :: rest =>
      wanted 'v' value rest fun cs => { o with assigned := o.assigned ++ [cs] }
    | ('-' :: c :: cs) :: _ => .error ("not an option: -".toList ++ c :: cs)
    | words => .ok { o with words }

/-- The last part of a path. -/
def lastPart (path : Octets) : Octets := (Text.splitOn '/' path).getLast?.getD path

/-- The values of names before anything else is done. -/
def initialValues : List (Octets × Value) :=
  [("FS", " "), ("OFS", " "), ("RS", "\n"), ("ORS", "\n"), ("SUBSEP", "\x1c"),
    ("CONVFMT", "%.6g"), ("OFMT", "%.6g")].map fun (name, text) =>
      (name.toList, .text text.toList)

/-- What a program knows in the beginning. -/
def begin (command : Octets → Octets → Step Unit) (s : State) (p : Program)
    (words : List Octets) : Work :=
  let zero : Value := .number .zero
  let arguments := (s.name :: words).map Value.ofInput
  let row := ((List.range arguments.length).zip arguments).map fun (n, v) =>
    ((toString n).toList, v)
  { command
    functions := p.functions
    globals := initialValues ++ [("NR".toList, zero), ("FNR".toList, zero),
      ("ARGC".toList, .number (.ofNat arguments.length))]
    tables :=
      [(.whole "ARGV".toList, row),
        (.whole "ENVIRON".toList, s.environment.map fun (name, value) => (name, .ofInput value))] }

/-- Does the work of a program. -/
def work (o : Options) (p : Program) : Act Unit := do
  match o.separator with
  | some cs => modify fun w => w.setGlobal "FS".toList (.text (Lexer.unescape cs))
  | none => pure ()
  o.assigned.forM Act.assignWord
  modify fun w => w.setRecord []
  run p

/-- Complaints, and the status behind them. -/
def refuse (texts : List Octets) : Step Nat := do
  texts.forM Tool.complain
  return Act.brokenStatus

/-- The text of the program that files hold, or a complaint. -/
def scriptOf : List Octets → Step (Except Octets Octets)
  | [] => return .ok []
  | path :: more => do
    match ← Tool.contentOf path with
    | .error reason =>
      return .error ("cannot open \"".toList ++ path ++ ("\" (" ++ reason.text ++ ")").toList)
    | .ok text => return (← scriptOf more).map fun rest => text ++ '\n' :: rest

/-- Performs the program that options and words say. -/
def performWith (command : Octets → Octets → Step Unit) (o : Options) : Step Nat := do
  match o.assigned.find? fun word => !Act.isAssignment word with
  | some word => refuse ["improper assignment: -v ".toList ++ word]
  | none =>
    let (script, words) ← match o.scripts, o.words with
      | [], [] =>
        Step.note usage.toList
        return 0
      | [], text :: words => pure (Except.ok text, words)
      | paths, words => pure (← scriptOf paths, words)
    match script.mapError (fun text => [text]) >>= Reader.program with
    | .error texts => refuse texts
    | .ok p =>
      let w := begin command (← get) p words
      let act : Act Unit := do
        discard (Act.outcome (work o p))
        finish
      let (_, w) ← act.run.run w
      return w.status

end Awk

namespace Tool

/-- The program that looks at records field by field. Commands of the shell are performed by
others. -/
def awk (command : Octets → Octets → Step Unit) : Tool := fun words => do
  modify fun s => { s with name := Awk.lastPart s.name }
  match Awk.options (words.length + 1) {} words with
  | .error text => Awk.refuse [text]
  | .ok o => Awk.performWith command o

end Tool

end EditorAnalysis.Shell
