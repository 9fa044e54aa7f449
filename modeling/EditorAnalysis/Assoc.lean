/-
EditorAnalysis.Assoc — keys and values in the order in which the keys came.

A key has one place, that of its first insertion, and one value, that of its
last.
-/

namespace EditorAnalysis.Assoc

variable {κ α : Type} [DecidableEq κ]

/-- Puts a value under a key: in the key's place if it has one, else at the end. -/
def put (key : κ) (value : α) : List (κ × α) → List (κ × α)
  | [] => [(key, value)]
  | (k, v) :: rest => if k = key then (k, value) :: rest else (k, v) :: put key value rest

/-- The value under a key. -/
def get? (key : κ) : List (κ × α) → Option α
  | [] => none
  | (k, v) :: rest => if k = key then some v else get? key rest

/-- The entries without a key. -/
def erase (key : κ) (entries : List (κ × α)) : List (κ × α) :=
  entries.filter fun entry => entry.1 ≠ key

/-- Puts every entry of the second list into the first, in order. -/
def overlay (entries upper : List (κ × α)) : List (κ × α) :=
  upper.foldl (fun acc entry => put entry.1 entry.2 acc) entries

/-- The entries of a list in which keys may come again. -/
def ofList (pairs : List (κ × α)) : List (κ × α) := overlay [] pairs

end EditorAnalysis.Assoc
