/-
EditorAnalysis.Shell.Matching — texts matched by regular expressions in conditions.

What is quoted in an expression stands for itself. A match leaves its text and those of its
groups behind.
-/
import EditorAnalysis.Shell.Regex
import EditorAnalysis.Shell.State

namespace EditorAnalysis.Shell.Matching

open Text (Octets)

/-- An expression as it is written when what is quoted stands for itself. -/
def expressionOf (marked : List Marked) : Octets :=
  marked.flatMap fun (c, isQuoted) =>
    if isQuoted && "\\.[]*^$+?()\x7b\x7d|".toList.contains c then ['\\', c] else [c]

/-- The list that a match leaves behind. -/
def matchName : Octets := "BASH_REMATCH".toList

/-- The status of a condition with something that is no expression. -/
def badExpression : Nat := 2

/-- An expression matches some part of a text; its texts are left behind. -/
def holds (marked : List Marked) (text : Octets) : Step Bool := do
  match Regex.ofText { extended := true } (expressionOf marked) with
  | .error _ =>
    Step.setStatus badExpression
    throw .raised
  | .ok r =>
    let subject : Regex.Subject := { chars := text.toArray, ignoresCase := false }
    match Regex.search subject r 0 with
    | none =>
      Step.storeElements matchName {}
      return false
    | some found =>
      let groups := (List.range r.groupCount).map fun k => found.groupText subject (k + 1)
      Step.storeElements matchName (.ofValues (found.text subject :: groups))
      return true

end EditorAnalysis.Shell.Matching
