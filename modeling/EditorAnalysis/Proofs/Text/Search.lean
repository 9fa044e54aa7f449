/-
EditorAnalysis.Proofs.Text.Search — what the search functions find.
-/
import EditorAnalysis.Text.Search
import Mathlib.Data.List.Infix

namespace EditorAnalysis.Text

theorem occursIn_iff {piece : List Char} : ∀ {cs : List Char},
    occursIn piece cs = true ↔ piece <:+: cs
  | [] => by simp [occursIn]
  | c :: rest => by
      rw [occursIn, List.infix_cons_iff, Bool.or_eq_true, List.isPrefixOf_iff_prefix,
          occursIn_iff]

theorem splitOn_ne_nil (separator : Char) (cs : List Char) : splitOn separator cs ≠ [] := by
  cases cs with
  | nil => simp [splitOn]
  | cons c rest =>
    rw [splitOn]
    split
    · simp
    · split <;> simp

/-- The first piece is the whole, or the first separator stands behind it. -/
theorem splitOn_cases (separator : Char) (cs : List Char) : splitOn separator cs = [cs] ∨
    ∃ piece rest, cs = piece ++ separator :: rest ∧
      splitOn separator cs = piece :: splitOn separator rest := by
  by_cases h : separator ∈ cs
  · obtain ⟨piece, rest, rfl, hpiece⟩ := List.eq_append_cons_of_mem h
    exact .inr ⟨piece, rest, rfl, splitOn_append rest hpiece⟩
  · exact .inl (splitOn_of_not_mem h)

/-- The pieces in front of a separator and the pieces behind it. -/
theorem splitOn_append_separator (separator : Char) (behind : List Char) :
    ∀ front : List Char, splitOn separator (front ++ separator :: behind)
      = splitOn separator front ++ splitOn separator behind
  | [] => by simp [splitOn]
  | c :: front => by
      rw [List.cons_append, splitOn, splitOn, splitOn_append_separator separator behind front]
      split
      · rfl
      · cases hfront : splitOn separator front with
        | nil => exact absurd hfront (splitOn_ne_nil separator front)
        | cons piece more => rfl

/-- No piece holds a separator. -/
theorem not_mem_of_mem_splitOn {separator : Char} {piece : List Char} : ∀ {cs : List Char},
    piece ∈ splitOn separator cs → separator ∉ piece
  | [], h => by
      rw [splitOn, List.mem_singleton] at h
      simp [h]
  | c :: rest, h => by
      rw [splitOn] at h
      split at h
      · rcases List.mem_cons.mp h with rfl | h
        · simp
        · exact not_mem_of_mem_splitOn h
      · rename_i hc
        have hne : separator ≠ c := fun heq => hc (by simp [heq])
        split at h
        · rw [List.mem_singleton.mp h, List.mem_singleton]
          exact hne
        · rename_i first more hrest
          rcases List.mem_cons.mp h with rfl | h
          · rw [List.mem_cons, not_or]
            exact ⟨hne, not_mem_of_mem_splitOn (hrest ▸ List.mem_cons_self)⟩
          · exact not_mem_of_mem_splitOn (hrest ▸ List.mem_cons_of_mem first h)

end EditorAnalysis.Text
