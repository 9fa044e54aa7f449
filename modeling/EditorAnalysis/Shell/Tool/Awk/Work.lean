/-
EditorAnalysis.Shell.Tool.Awk.Work — what a program knows that looks at records.

The record and its fields stand for each other: a field that is set changes the record,
and a new record has new fields. Tables are known by keys, so that a function may change
the tables it is given. What is written is kept until there is much of it.
-/
import EditorAnalysis.Assoc
import EditorAnalysis.Shell.OpenFile
import EditorAnalysis.Shell.Tool.Awk.Format
import EditorAnalysis.Shell.Tool.Awk.Lexer
import EditorAnalysis.Shell.Tool.Basic

namespace EditorAnalysis.Shell.Awk

open Text (Octets)
open Host (Errno)

/-- Which table a name stands for. -/
inductive TableKey where
  /-- That of the whole program. -/
  | whole (name : Octets)
  /-- One of a function. -/
  | own (number : Nat)
deriving DecidableEq

/-- A table: its entries, the last one used first. -/
abbrev Table := List (Octets × Value)

/-- What the names of a function stand for. -/
structure Frame where
  /-- Values. -/
  values : List (Octets × Value)
  /-- Tables. -/
  tables : List (Octets × TableKey)

/-- Where records come from. -/
inductive Tap where
  /-- From a text. -/
  | text (rest : Octets)
  /-- From the input. -/
  | input

/-- What a program knows. -/
structure Work where
  /-- What performs a command of the shell, which gets a name. -/
  command : Octets → Octets → Step Unit
  /-- Its functions. -/
  functions : List (Octets × Function) := []
  /-- Values of names. -/
  globals : List (Octets × Value) := []
  /-- Tables. -/
  tables : List (TableKey × Table) := []
  /-- Names of the function under way, innermost first. -/
  frames : List Frame := []
  /-- The number of the next table of a function. -/
  nextTable : Nat := 0
  /-- The record, unless its fields have changed. -/
  record : Option Octets := some []
  /-- The fields, if the record has been taken apart. -/
  fields : Option (List Value) := none
  /-- How fields were separated when the record was read. -/
  separator : Octets := [' ']
  /-- Where records come from now. -/
  tap : Option Tap := none
  /-- The next argument that may name a file. -/
  nextArgument : Nat := 1
  /-- An argument has named a file. -/
  hasFile : Bool := false
  /-- There are no more records. -/
  isDone : Bool := false
  /-- Files and commands that are read, and the statuses of commands. -/
  sources : List (Octets × Octets × Nat) := []
  /-- Files that are written, and their descriptors. -/
  files : List (Octets × Nat) := []
  /-- Commands and what they are to read, latest first. -/
  commands : List (Octets × List Octets) := []
  /-- Ranges of records that have begun. -/
  ranges : List Nat := []
  /-- What was written, latest first. -/
  pending : List Octets := []
  /-- How much that is. -/
  pendingSize : Nat := 0
  /-- The status at the end. -/
  status : Nat := 0

/-- What comes behind a statement, if not the next one. -/
inductive Leave where
  /-- The next record. -/
  | nextRecord
  /-- The next file. -/
  | nextFile
  /-- The end. -/
  | exit
  /-- What follows the function. -/
  | return (v : Value)
  /-- What follows the loop. -/
  | leaveLoop
  /-- The next round of the loop. -/
  | nextRound
  /-- Nothing at all: something is wrong. -/
  | broken

/-- A step of a program that looks at records. -/
abbrev Act := ExceptT Leave (StateT Work Step)

namespace Work

/-! ## Names -/

/-- The value of a name of the whole program. -/
def global (w : Work) (name : String) : Value := (w.globals.lookup name.toList).getD .unset

/-- How numbers with a fraction become texts. -/
def format (w : Work) : Octets :=
  match w.global "CONVFMT" with
  | .text cs => cs
  | _ => "%.6g".toList

/-- The text of a name of the whole program. -/
def globalText (w : Work) (name : String) : Octets := (w.global name).toText w.format

/-- The value of a name. -/
def value (w : Work) (name : Octets) : Value :=
  match w.frames with
  | f :: _ => (f.values.lookup name).getD ((w.globals.lookup name).getD .unset)
  | [] => (w.globals.lookup name).getD .unset

/-- Gives a name of the whole program a value. -/
def setGlobal (w : Work) (name : Octets) (v : Value) : Work :=
  { w with globals := Assoc.put name v w.globals }

/-- Gives a name a value. -/
def setValue (w : Work) (name : Octets) (v : Value) : Work :=
  match w.frames with
  | f :: more =>
    if (f.values.lookup name).isSome then
      { w with frames := { f with values := Assoc.put name v f.values } :: more }
    else w.setGlobal name v
  | [] => w.setGlobal name v

/-- Gives a name of the whole program a number. -/
def setNumber (w : Work) (name : String) (n : Nat) : Work :=
  w.setGlobal name.toList (.number (.ofNat n))

/-- The number of a name of the whole program. -/
def count (w : Work) (name : String) : Nat := (((w.global name).toReal.toInt?).getD 0).toNat

/-! ## Tables -/

/-- The table that a name stands for. -/
def tableKey (w : Work) (name : Octets) : TableKey :=
  match w.frames with
  | f :: _ => (f.tables.lookup name).getD (.whole name)
  | [] => .whole name

/-- A table. -/
def table (w : Work) (key : TableKey) : Table := (w.tables.lookup key).getD []

/-- Puts a table. -/
def setTable (w : Work) (key : TableKey) (t : Table) : Work :=
  { w with tables := Assoc.put key t w.tables }

/-- Puts an entry. It is then the one used last. -/
def setEntry (w : Work) (key : TableKey) (index : Octets) (v : Value) : Work :=
  w.setTable key ((index, v) :: (w.table key).filter fun e => e.1 != index)

/-- A table of values with the numbers from one on. -/
def rowTable (vs : List Value) : Table :=
  ((List.range vs.length).zip vs).map fun (n, v) => ((toString (n + 1)).toList, v)

/-- The list in which a table keeps an entry. -/
def listOf (index : Octets) : Nat :=
  let mixed := index.foldl
    (fun h c => ((h ^^^ c.toNat) * 16777619) % Number.twoTo 32) 2166136261
  mixed % 64

/-- The indices of a table, list by list. -/
def indices (t : Table) : List Octets :=
  (t.map (·.1)).mergeSort fun a b => listOf a ≤ listOf b

/-! ## Records -/

/-- The parts of a text between blanks. -/
def blankParts (cs : Octets) : List Octets :=
  let isBlank (c : Char) : Bool := c == ' ' || c == '\t' || c == '\n'
  let step (state : List Octets × Octets) (c : Char) : List Octets × Octets :=
    if !isBlank c then (state.1, c :: state.2)
    else if state.2.isEmpty then state else (state.2.reverse :: state.1, [])
  let (done, last) := cs.foldl step ([], [])
  (if last.isEmpty then done else last.reverse :: done).reverse

/-- A text as patterns look at it. -/
def subject (cs : Octets) : Regex.Subject := ⟨cs.toArray, false, false⟩

/-- The parts of a text between matches of a pattern, from a place on. -/
def partsBetween (s : Regex.Subject) (r : Regex) : Nat → Nat → Nat → List Octets
  | 0, start, _ => [(s.chars.extract start s.chars.size).toList]
  | fuel + 1, start, place =>
    match if place ≤ s.chars.size then Regex.search s r place else none with
    | none => [(s.chars.extract start s.chars.size).toList]
    | some f =>
      if f.start == f.stop then partsBetween s r fuel start (f.stop + 1)
      else (s.chars.extract start f.start).toList :: partsBetween s r fuel f.stop f.stop

/-- The parts of a text between matches of a pattern. -/
def patternParts (r : Regex) (cs : Octets) : List Octets :=
  if cs.isEmpty then [] else partsBetween (subject cs) r (cs.length + 2) 0 0

/-- The pattern that a text writes; one that cannot be read is never found. -/
def patternOf (cs : Octets) : Regex :=
  match Regex.ofText Lexer.dialect cs with
  | .ok r => r
  | .error _ => .oneOf false []

/-- The parts of a text, separated as a separator says. -/
def parts (separator cs : Octets) : List Octets :=
  if cs.isEmpty then []
  else match separator with
    | [' '] => blankParts cs
    | [] => cs.map fun c => [c]
    | [c] => Text.splitOn c cs
    | _ => patternParts (patternOf separator) cs

/-- The fields of the record. -/
def fieldList (w : Work) : List Value :=
  match w.fields with
  | some vs => vs
  | none => (parts w.separator (w.record.getD [])).map Value.ofInput

/-- The record. -/
def recordText (w : Work) : Octets :=
  match w.record with
  | some cs => cs
  | none => (w.globalText "OFS").intercalate (w.fieldList.map (Value.toText w.format))

/-- A field; the one without a number is the record. -/
def field (w : Work) (n : Nat) : Value :=
  if n = 0 then .ofInput w.recordText else (w.fieldList[n - 1]?).getD .unset

/-- The work with a new record. -/
def setRecord (w : Work) (cs : Octets) : Work :=
  { w with record := some cs, fields := none, separator := w.globalText "FS" }

/-- The work with so many fields. -/
def setFieldCount (w : Work) (n : Nat) : Work :=
  let vs := w.fieldList
  { w with
    fields := some (vs.take n ++ List.replicate (n - vs.length) (.text [])), record := none }

/-- The work with a field set. -/
def setField (w : Work) (n : Nat) (v : Value) : Work :=
  if n = 0 then w.setRecord (v.toText w.format)
  else
    let w := if w.fieldList.length < n then w.setFieldCount n else w
    { w with fields := some (w.fieldList.set (n - 1) v), record := none }

/-- How many fields there are. -/
def fieldCountName : Octets := "NF".toList

/-- The value of a name, which may be the number of fields. -/
def read (w : Work) (name : Octets) : Value :=
  if name == fieldCountName then .number (.ofNat w.fieldList.length) else w.value name

/-- Gives a name a value, which may change the fields. -/
def write (w : Work) (name : Octets) (v : Value) : Work :=
  if name == fieldCountName then w.setFieldCount ((v.toReal.toInt?).getD 0).toNat
  else
    let w := if name == "FS".toList && w.fields.isNone then
        { w with fields := some w.fieldList } else w
    w.setValue name v

end Work

/-! ## Taking records from a text -/

/-- The record at the beginning of a text, and what follows it; nothing, if the text has
ended. -/
def recordIn (separator cs : Octets) : Option (Octets × Octets) :=
  let upTo (c : Char) (cs : Octets) : Option (Octets × Octets) :=
    if cs.isEmpty then none
    else
      let record := cs.takeWhile (· != c)
      some (record, cs.drop (record.length + 1))
  match separator with
  | [c] => upTo c cs
  | [] => paragraph (cs.dropWhile (· == '\n'))
  | _ =>
    if cs.isEmpty then none
    else match Regex.search (Work.subject cs) (Work.patternOf separator) 0 with
      | some f =>
        if f.start == f.stop then some (cs, []) else some (cs.take f.start, cs.drop f.stop)
      | none => some (cs, [])
where
  /-- The lines up to an empty one. -/
  paragraph (cs : Octets) : Option (Octets × Octets) :=
    if cs.isEmpty then none
    else
      let record := front cs
      some ((record.reverse.dropWhile (· == '\n')).reverse,
        (cs.drop record.length).dropWhile (· == '\n'))
  /-- The text up to two ends of lines. -/
  front : Octets → Octets
    | '\n' :: '\n' :: _ => []
    | c :: rest => c :: front rest
    | [] => []

end EditorAnalysis.Shell.Awk
