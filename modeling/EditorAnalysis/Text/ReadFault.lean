/-
EditorAnalysis.Text.ReadFault — why a text in a data format is not read.
-/

namespace EditorAnalysis.Text

/-- What a reader was in the middle of. -/
inductive Nesting where
  /-- A list in brackets. -/
  | array
  /-- Names and values in braces. -/
  | object
deriving DecidableEq, Repr

/-- Why a text is not read. -/
inductive ReadFault where
  /-- The text does not follow the format. -/
  | malformed
  /-- An integer has more digits than allowed. -/
  | numeralTooLong (digits : Nat)
  /-- Too many values lie within each other. The format may say what the innermost one is. -/
  | nestedTooDeep (inside : Option Nesting)
deriving DecidableEq, Repr

end EditorAnalysis.Text
