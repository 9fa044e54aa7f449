/-
EditorAnalysis.Text.Search — occurrences of one text in another, and the pieces
between them.
-/

namespace EditorAnalysis.Text

/-- `piece` occurs in the characters. -/
def occursIn (piece : List Char) : List Char → Bool
  | [] => piece.isEmpty
  | c :: rest => piece.isPrefixOf (c :: rest) || occursIn piece rest

/-- `piece` occurs in the text. -/
def contains (text piece : String) : Bool := occursIn piece.toList text.toList

/-- The characters with every `old` turned into `new`. -/
def replaceChar (old new : Char) (cs : List Char) : List Char :=
  cs.map fun c => if c == old then new else c

/-- The pieces of the characters between separators; without a separator there is
one piece. -/
def splitOn (separator : Char) : List Char → List (List Char)
  | [] => [[]]
  | c :: rest =>
    if c == separator then [] :: splitOn separator rest
    else match splitOn separator rest with
      | [] => [[c]]
      | piece :: more => (c :: piece) :: more

theorem splitOn_of_not_mem {separator : Char} : ∀ {cs : List Char}, separator ∉ cs →
    splitOn separator cs = [cs]
  | [], _ => rfl
  | c :: rest, h => by
      have hc : (c == separator) = false := by
        simp only [List.mem_cons, not_or] at h
        simpa using fun e => h.1 e.symm
      rw [splitOn, hc, splitOn_of_not_mem fun hm => h (List.mem_cons_of_mem c hm)]
      rfl

theorem splitOn_append {separator : Char} (rest : List Char) : ∀ {cs : List Char},
    separator ∉ cs → splitOn separator (cs ++ separator :: rest) = cs :: splitOn separator rest
  | [], _ => by simp [splitOn]
  | c :: cs, h => by
      have hc : (c == separator) = false := by
        simp only [List.mem_cons, not_or] at h
        simpa using fun e => h.1 e.symm
      rw [List.cons_append, splitOn, hc,
          splitOn_append rest fun hm => h (List.mem_cons_of_mem c hm)]
      rfl

/-- What follows the last `separator`; the whole, where there is none. -/
def afterLast (separator : Char) (cs : List Char) : List Char :=
  (cs.reverse.takeWhile (· != separator)).reverse

end EditorAnalysis.Text
