/-
EditorAnalysis.Shell.Tool.Awk.Program — programs that look at records field by field.

A program is a list of rules and of functions. Names stand for values and for tables; which
of the two is meant shows where a name is used.
-/
import EditorAnalysis.Shell.Regex
import EditorAnalysis.Shell.Tool.Awk.Value

namespace EditorAnalysis.Shell.Awk

open Text (Octets)

/-- An operation on two numbers. -/
inductive Operation where
  | add
  | subtract
  | multiply
  | divide
  | remainder
  | power
deriving DecidableEq, Repr

/-- A comparison. -/
inductive Relation where
  | less
  | lessEqual
  | equal
  | unequal
  | greater
  | greaterEqual
deriving DecidableEq, Repr

namespace Relation

/-- The comparison holds for an order; without one, only inequality does. -/
def holds (r : Relation) (o : Option Ordering) : Bool :=
  match r with
  | less => o == some .lt
  | lessEqual => o == some .lt || o == some .eq
  | equal => o == some .eq
  | unequal => o != some .eq
  | greater => o == some .gt
  | greaterEqual => o == some .gt || o == some .eq

end Relation

/-- A function that every program has. -/
inductive Builtin where
  | length
  | substr
  | index
  | split
  | sub
  | gsub
  | find
  | sprintf
  | sin
  | cos
  | atan2
  | exp
  | log
  | sqrt
  | int
  | rand
  | srand
  | tolower
  | toupper
  | system
  | close
  | fflush
deriving DecidableEq, Repr

namespace Builtin

/-- The functions by name. -/
def all : List (String × Builtin) :=
  [("length", length), ("substr", substr), ("index", index), ("split", split), ("sub", sub),
    ("gsub", gsub), ("match", find), ("sprintf", sprintf), ("sin", sin), ("cos", cos),
    ("atan2", atan2), ("exp", exp), ("log", log), ("sqrt", sqrt), ("int", int), ("rand", rand),
    ("srand", srand), ("tolower", tolower), ("toupper", toupper), ("system", system),
    ("close", close), ("fflush", fflush)]

/-- The function's name. -/
def name (b : Builtin) : String := ((all.find? fun p => p.2 == b).map (·.1)).getD ""

/-- How many arguments the function has, at least and at most. -/
def arity : Builtin → Nat × Nat
  | length => (0, 1)
  | substr => (2, 3)
  | index => (2, 2)
  | split => (2, 3)
  | sub => (2, 3)
  | gsub => (2, 3)
  | find => (2, 2)
  | sprintf => (1, 255)
  | atan2 => (2, 2)
  | rand => (0, 0)
  | srand => (0, 1)
  | fflush => (0, 1)
  | _ => (1, 1)

end Builtin

/-- An expression. -/
inductive Expr where
  /-- A number. -/
  | number (r : Real)
  /-- A text. -/
  | text (cs : Octets)
  /-- A pattern, which is looked for in the record. -/
  | regex (r : Regex)
  /-- A variable. -/
  | name (n : Octets)
  /-- A field. -/
  | field (index : Expr)
  /-- An entry of a table. -/
  | entry (table : Octets) (keys : List Expr)
  /-- A table has an entry. -/
  | member (keys : List Expr) (table : Octets)
  /-- Expressions between parentheses. -/
  | group (es : List Expr)
  /-- An operation on numbers. -/
  | operation (o : Operation) (a b : Expr)
  /-- A comparison. -/
  | relation (r : Relation) (a b : Expr)
  /-- One text behind the other. -/
  | join (a b : Expr)
  /-- A pattern is found in a text, or not. -/
  | finds (negated : Bool) (text pattern : Expr)
  /-- Both hold. -/
  | both (a b : Expr)
  /-- One holds. -/
  | either (a b : Expr)
  /-- The expression does not hold. -/
  | negation (e : Expr)
  /-- The number; or the one with the other sign. -/
  | signed (negative : Bool) (e : Expr)
  /-- One expression or the other. -/
  | choice (condition yes no : Expr)
  /-- An assignment, perhaps through an operation. -/
  | assign (o : Option Operation) (target value : Expr)
  /-- One more or less; the value is that after the step, or before. -/
  | step (before : Bool) (o : Operation) (target : Expr)
  /-- A function of the program. -/
  | call (function : Octets) (arguments : List Expr)
  /-- A function that every program has. -/
  | builtin (b : Builtin) (arguments : List Expr)
  /-- The next record is read. -/
  | readRecord (target : Option Expr)
  /-- A record is read from a file. -/
  | readFile (target : Option Expr) (file : Expr)
  /-- A record is read that a command writes. -/
  | readCommand (target : Option Expr) (command : Expr)

namespace Expr

/-- A value can be given to the expression. -/
def isTarget : Expr → Bool
  | name _ => true
  | field _ => true
  | entry _ _ => true
  | _ => false

end Expr

/-- Where something is written. -/
inductive Direction where
  /-- To a file that is empty at first. -/
  | file
  /-- To the end of a file. -/
  | append
  /-- To a command. -/
  | command
deriving DecidableEq, Repr

/-- A statement. -/
inductive Stmt where
  /-- Nothing. -/
  | nothing
  /-- Statements one after the other. -/
  | block (body : List Stmt)
  /-- An expression. -/
  | value (e : Expr)
  /-- Something is written, in a format or as it is. -/
  | write (formatted : Bool) (es : List Expr) (target : Option (Direction × Expr))
  /-- One statement or the other. -/
  | choice (condition : Expr) (yes no : Stmt)
  /-- A loop while a condition holds. -/
  | loop (condition : Expr) (body : Stmt)
  /-- A loop whose body comes first. -/
  | bodyFirst (body : Stmt) (condition : Expr)
  /-- A loop with a beginning and a step. -/
  | count (first : Stmt) (condition : Option Expr) (next body : Stmt)
  /-- A loop over the keys of a table. -/
  | each (counter : Octets) (table : Octets) (body : Stmt)
  /-- What follows the loop. -/
  | leaveLoop
  /-- The next round of the loop. -/
  | nextRound
  /-- The next record. -/
  | nextRecord
  /-- The next file. -/
  | nextFile
  /-- The end. -/
  | exit (status : Option Expr)
  /-- The end of a function. -/
  | return (value : Option Expr)
  /-- An entry of a table is forgotten, or all of them. -/
  | delete (table : Octets) (keys : List Expr)

/-- When a rule is performed. -/
inductive Condition where
  /-- Before everything. -/
  | atStart
  /-- After everything. -/
  | atEnd
  /-- For every record. -/
  | always
  /-- For records for which it holds. -/
  | holds (e : Expr)
  /-- From records for which one holds to those for which the other does. -/
  | between (first last : Expr)

/-- A rule. -/
structure Rule where
  /-- When it is performed. -/
  condition : Condition
  /-- What is done. -/
  body : Stmt

/-- A function of a program. -/
structure Function where
  /-- Its parameters. -/
  parameters : List Octets
  /-- What it does. -/
  body : Stmt

/-- A program. -/
structure Program where
  /-- The rules. -/
  rules : List Rule := []
  /-- The functions. -/
  functions : List (Octets × Function) := []

end EditorAnalysis.Shell.Awk
