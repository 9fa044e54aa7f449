/-
EditorAnalysis.Text.Newlines — one way to end a line.

Lines may end with a carriage return, a line feed, or the first followed by the
second. `unify` makes every line end with a line feed.
-/

namespace EditorAnalysis.Text

/-- Every line end becomes a line feed. -/
def unifyNewlines : List Char → List Char
  | [] => []
  | '\r' :: '\n' :: rest => '\n' :: unifyNewlines rest
  | '\r' :: rest => '\n' :: unifyNewlines rest
  | c :: rest => c :: unifyNewlines rest

/-- A carriage return and a line feed become a line feed; a carriage return
alone stays. -/
def joinNewlines : List Char → List Char
  | [] => []
  | '\r' :: '\n' :: rest => '\n' :: joinNewlines rest
  | c :: rest => c :: joinNewlines rest

end EditorAnalysis.Text
