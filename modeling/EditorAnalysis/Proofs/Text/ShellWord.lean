/-
EditorAnalysis.Proofs.Text.ShellWord — a shell reads back the words of a command line.

A line is cut into pieces, one for each word. `Spells` says that a piece is read as its word
and leaves the reader behind it, outside quotes and in the middle of the word, so that what
follows decides where the word ends. Bare pieces spell themselves (`spells_bare`), quoted ones
what was quoted (`spells_quoted`), and `splitFrom_intercalate` folds that along the line.
-/
import EditorAnalysis.Text.ShellWord
import Mathlib.Data.List.Forall2

namespace EditorAnalysis.Text.ShellWord

/-- The characters are read as a word, whatever stands behind them. -/
def Spells (piece word : List Char) : Prop :=
  ∀ before rest, splitFrom .between before (piece ++ rest) = splitFrom .bare word.reverse rest

/-! ## Quoted pieces -/

theorem splitFrom_single_quote (word rest : List Char) :
    splitFrom .single word ('\'' :: rest) = splitFrom .bare word rest := by
  simp [splitFrom]

/-- One character is taken back, the quote by way of double quotes. -/
theorem splitFrom_single_quoteChar (c : Char) (word rest : List Char) :
    splitFrom .single word (quoteChar c ++ rest) = splitFrom .single (c :: word) rest := by
  by_cases hc : c = '\''
  · subst hc
    simp [quoteChar, splitFrom, isSeparator]
  · simp [quoteChar, splitFrom, hc]

theorem splitFrom_single_flatMap (cs word rest : List Char) :
    splitFrom .single word (cs.flatMap quoteChar ++ rest)
      = splitFrom .single (cs.reverse ++ word) rest := by
  induction cs generalizing word with
  | nil => rfl
  | cons c cs ih =>
    rw [List.flatMap_cons, List.append_assoc, splitFrom_single_quoteChar, ih,
        List.reverse_cons, List.append_assoc, List.singleton_append]

theorem spells_quoted (word : List Char) :
    Spells ('\'' :: (word.flatMap quoteChar ++ ['\''])) word := by
  intro before rest
  have hopen : ∀ behind,
      splitFrom .between before ('\'' :: behind) = splitFrom .single [] behind := by
    intro behind
    simp [splitFrom, isSeparator]
  rw [List.cons_append, hopen, List.append_assoc, splitFrom_single_flatMap, List.append_nil,
      List.singleton_append, splitFrom_single_quote]

/-! ## Bare pieces -/

theorem not_special_of_isPlain {c : Char} (h : isPlain c = true) :
    isSeparator c = false ∧ c ≠ '\'' ∧ c ≠ '"' ∧ c ≠ '\\' := by
  refine ⟨?_, ?_, ?_, ?_⟩
  · by_contra hs
    simp only [isSeparator, Bool.not_eq_false, Bool.or_eq_true, beq_iff_eq] at hs
    rcases hs with ((rfl | rfl) | rfl) | rfl <;> revert h <;> decide
  all_goals rintro rfl; revert h; decide

theorem splitFrom_between_of_isPlain {c : Char} (h : isPlain c = true) (word rest : List Char) :
    splitFrom .between word (c :: rest) = splitFrom .bare [c] rest := by
  obtain ⟨hblank, hsingle, hdouble, hslash⟩ := not_special_of_isPlain h
  simp [splitFrom, hblank, hsingle, hdouble, hslash]

theorem splitFrom_bare_of_isPlain {c : Char} (h : isPlain c = true) (word rest : List Char) :
    splitFrom .bare word (c :: rest) = splitFrom .bare (c :: word) rest := by
  obtain ⟨hblank, hsingle, hdouble, hslash⟩ := not_special_of_isPlain h
  simp [splitFrom, hblank, hsingle, hdouble, hslash]

theorem splitFrom_bare_append {cs : List Char} (h : ∀ c ∈ cs, isPlain c = true)
    (word rest : List Char) :
    splitFrom .bare word (cs ++ rest) = splitFrom .bare (cs.reverse ++ word) rest := by
  induction cs generalizing word with
  | nil => rfl
  | cons c cs ih =>
    rw [List.cons_append, splitFrom_bare_of_isPlain (h c List.mem_cons_self),
        ih fun d hd => h d (List.mem_cons_of_mem c hd), List.reverse_cons, List.append_assoc,
        List.singleton_append]

theorem isPlain_of_isBare {word : List Char} (h : isBare word = true) :
    ∀ c ∈ word, isPlain c = true := by
  rw [isBare, Bool.and_eq_true] at h
  exact List.all_eq_true.mp h.2

theorem spells_bare {word : List Char} (h : isBare word = true) : Spells word word := by
  have hplain := isPlain_of_isBare h
  intro before rest
  cases word with
  | nil => cases h
  | cons c cs =>
    rw [List.cons_append, splitFrom_between_of_isPlain (hplain c List.mem_cons_self),
        splitFrom_bare_append (fun d hd => hplain d (List.mem_cons_of_mem c hd)),
        List.reverse_cons]

theorem spells_quoteChars (word : List Char) : Spells (quoteChars word) word := by
  unfold quoteChars
  split
  · rename_i hbare
    exact spells_bare hbare
  · exact spells_quoted word

/-! ## Lines -/

/-- A blank behind a word ends it. -/
theorem splitFrom_bare_blank (word rest : List Char) :
    splitFrom .bare word (' ' :: rest)
      = (splitFrom .between [] rest).map (word.reverse :: ·) := by
  simp [splitFrom, isSeparator]

/-- Pieces with blanks between them are read as the words that they spell. -/
theorem splitFrom_intercalate {pieces words : List (List Char)}
    (h : List.Forall₂ Spells pieces words) (before : List Char) :
    splitFrom .between before ([' '].intercalate pieces) = some words := by
  induction h generalizing before with
  | nil => simp [splitFrom]
  | @cons piece word pieces words hfirst hrest ih =>
    cases hrest with
    | nil =>
      have hend : splitFrom .bare word.reverse [] = some [word] := by simp [splitFrom]
      rw [List.intercalate_singleton, ← List.append_nil piece, hfirst before [], hend]
    | cons hsecond hmore =>
      rw [List.intercalate_cons_cons, List.append_assoc, hfirst, List.singleton_append,
          splitFrom_bare_blank, ih, List.reverse_reverse]
      rfl

theorem toList_join (words : List String) :
    (join words).toList = [' '].intercalate (words.map fun word => quoteChars word.toList) := by
  simp [join, quote, Function.comp_def]

/-- **Command lines are read back.** A shell reads the words for which a line was written. -/
theorem split?_join (words : List String) : split? (join words) = some words := by
  have hspells : List.Forall₂ Spells (words.map fun word => quoteChars word.toList)
      (words.map String.toList) := by
    rw [List.forall₂_map_left_iff, List.forall₂_map_right_iff, List.forall₂_same]
    exact fun word _ => spells_quoteChars word.toList
  rw [split?, toList_join, splitFrom_intercalate hspells]
  simp [Function.comp_def]

end EditorAnalysis.Text.ShellWord
