/-
EditorAnalysis.Shell.Elements — lists of values, by numbers or by texts.

Elements with numbers stand in their order. Those with texts come as a table of the texts
holds them.
-/
import EditorAnalysis.Assoc
import EditorAnalysis.Shell.Numeral

namespace EditorAnalysis.Shell

open Text (Octets)

/-- The elements of a list. -/
structure Elements where
  /-- Their indices are texts. -/
  isMap : Bool := false
  /-- Indices and values. -/
  entries : List (Octets × Octets) := []

namespace Elements

/-- The value with an index. -/
def get? (e : Elements) (index : Octets) : Option Octets := Assoc.get? index e.entries

/-- The place of a text in a table. -/
def slot (index : Octets) : Nat :=
  (index.foldl (fun h c => ((h * 16777619) % Number.twoTo 32) ^^^ c.toNat) 2166136261) % 1024

/-- One index comes before another. -/
def isBefore (isMap : Bool) (a b : Octets) : Bool :=
  if isMap then slot a ≤ slot b else Numeral.valueIn 10 a < Numeral.valueIn 10 b

/-- Puts an entry in front of the first one that it comes before. -/
def insert (isMap : Bool) (entry : Octets × Octets) :
    List (Octets × Octets) → List (Octets × Octets)
  | [] => [entry]
  | other :: rest =>
    if isBefore isMap entry.1 other.1 then entry :: other :: rest
    else other :: insert isMap entry rest

/-- Puts a value. -/
def put (e : Elements) (index value : Octets) : Elements :=
  if (e.get? index).isSome then { e with entries := Assoc.put index value e.entries }
  else { e with entries := insert e.isMap (index, value) e.entries }

/-- Forgets an index. -/
def erase (e : Elements) (index : Octets) : Elements :=
  { e with entries := Assoc.erase index e.entries }

/-- The number behind the greatest one. -/
def next (e : Elements) : Nat :=
  match e.entries.getLast? with
  | some (index, _) => Numeral.valueIn 10 index + 1
  | none => 0

/-- The index of a number; a negative one counts from the end. -/
def indexOf (e : Elements) (n : Int) : Octets :=
  (toString (if n < 0 then (e.next + n).toNat else n.toNat)).toList

/-- A list of values with the numbers from zero on. -/
def ofValues (values : List Octets) : Elements :=
  ⟨false, ((List.range values.length).zip values).map fun (n, v) => ((toString n).toList, v)⟩

/-- The values. -/
def values (e : Elements) : List Octets := e.entries.map (·.2)

/-- The indices. -/
def indices (e : Elements) : List Octets := e.entries.map (·.1)

/-- The index of the element that stands for the list. -/
def first : Octets := ['0']

end Elements

end EditorAnalysis.Shell
