/-
EditorAnalysis.Shell.Calculation — arithmetic with the variables of a shell.

An expression is read with the values that variables have, and what it assigns is stored
afterwards. In bash a variable may hold an expression, and a name with an index behind it
stands for an element.
-/
import EditorAnalysis.Shell.Arithmetic
import EditorAnalysis.Shell.Parameter

namespace EditorAnalysis.Shell.Calculation

open Text (Octets)

/-- A name, and the index behind it. -/
def named (text : Octets) : Octets × Option Octets :=
  let name := text.takeWhile isNameChar
  match text.drop name.length with
  | '[' :: index => (name, some index.dropLast)
  | _ => (name, none)

/-- The text in the place of a name. -/
def textOf (s : State) : Nat → Octets → Except Arithmetic.Problem Octets
  | 0, name => .error (.badNumber name)
  | fuel + 1, text => do
    let (name, index) := named text
    let raw ← match index with
      | none => pure ((Parameter.value? s name).getD [])
      | some index => do
        let e := Parameter.elements s name
        let key ← if e.isMap then pure index else do
          let (n, _) ← Arithmetic.evaluate s.language (textOf s fuel) index
          pure (e.indexOf n)
        pure ((e.get? key).getD [])
    match s.language, Arithmetic.ofText raw with
    | .bash, .error _ => do
      let (n, _) ← Arithmetic.evaluate .bash (textOf s fuel) raw
      return (toString n).toList
    | _, _ => return raw

/-- How many variables may name one another. -/
def depth : Nat := 64

/-- The value of an expression, and what it assigns, latest first. -/
def valueOf (s : State) (text : Octets) :
    Except Arithmetic.Problem (Int × List (Octets × Int)) :=
  Arithmetic.evaluate s.language (textOf s depth) text

/-- The key of an element that an index stands for. -/
def key (name : Octets) (e : Elements) (index : Octets) : Step Octets := do
  if e.isMap then return index
  match valueOf (← get) index with
  | .error problem => Step.error (problem.bashMessage index)
  | .ok (n, _) =>
    if e.next + n < 0 then
      Step.error (name ++ '[' :: index ++ "]: bad array subscript".toList)
    return e.indexOf n

/-- Gives an element of a list a value. -/
def storeElement (name index value : Octets) : Step Unit := do
  let e ← Step.elementsOf name
  let k ← key name e index
  Step.storeElements name (e.put k value)

/-- Gives a variable or an element a number. -/
def storeNumber (text : Octets) (n : Int) : Step Unit := do
  let value := (toString n).toList
  match named text with
  | (name, none) => Step.assign name value
  | (name, some index) => storeElement name index value

/-- The value of an expression; what it assigns is stored. -/
def calculate (text : Octets) : Step Int := do
  let s ← get
  match valueOf s text with
  | .ok (n, assigned) =>
    assigned.reverse.forM fun (name, n) => storeNumber name n
    return n
  | .error problem =>
    Step.error (match s.language with
      | .posix => problem.message text
      | .bash => problem.bashMessage text)

/-- A value as a variable takes it: those of numbers are calculated. -/
def valueFor (name value : Octets) : Step Octets := do
  match Assoc.get? name (← get).bindings with
  | some v => if v.isNumber then return (toString (← calculate value)).toList else return value
  | none => return value

/-- Gives a variable a value behind the one that it has; numbers are added. -/
def append (name value : Octets) : Step Octets := do
  let s ← get
  let old := (s.get? name).getD []
  let isNumber := ((Assoc.get? name s.bindings).map (·.isNumber)).getD false
  if isNumber then return (toString ((← calculate old) + (← calculate value))).toList
  else return old ++ value

end EditorAnalysis.Shell.Calculation
