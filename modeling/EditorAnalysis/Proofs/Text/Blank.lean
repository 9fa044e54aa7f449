/-
EditorAnalysis.Proofs.Text.Blank — what trimming leaves, and what blank texts lack.
-/
import EditorAnalysis.Text.Blank
import Mathlib.Data.List.Infix

namespace EditorAnalysis.Text

/-- The text has no white space at either end. -/
def IsTrimmed (s : String) : Prop :=
  (∀ c ∈ s.toList.head?, isBlank c = false) ∧ (∀ c ∈ s.toList.getLast?, isBlank c = false)

instance (s : String) : Decidable (IsTrimmed s) :=
  @instDecidableAnd _ _ (Option.decidableForallMem _) (Option.decidableForallMem _)

theorem head?_dropWhile_eq_some {p : Char → Bool} {cs : List Char} {c : Char}
    (h : (cs.dropWhile p).head? = some c) : p c = false := by
  have hnot := List.head?_dropWhile_not p cs
  rwa [h] at hnot

theorem getLast?_trimWhile {p : Char → Bool} {cs : List Char} {c : Char}
    (h : (trimWhile p cs).getLast? = some c) : p c = false := by
  rw [trimWhile, List.getLast?_reverse] at h
  exact head?_dropWhile_eq_some h

/-- Once the front is trimmed, characters are dropped at the end only. -/
theorem isPrefix_trimWhile (p : Char → Bool) (cs : List Char) :
    trimWhile p cs <+: cs.dropWhile p := by
  rw [trimWhile, ← List.reverse_suffix, List.reverse_reverse]
  exact List.dropWhile_suffix p

/-- Trimming leaves a piece of the characters. -/
theorem isInfix_trimWhile (p : Char → Bool) (cs : List Char) : trimWhile p cs <:+: cs :=
  (isPrefix_trimWhile p cs).isInfix.trans (List.dropWhile_suffix p).isInfix

/-- Dropping characters at the end leaves the first one in its place. -/
theorem head?_trimWhile {p : Char → Bool} {cs : List Char} {c : Char}
    (h : (trimWhile p cs).head? = some c) : p c = false := by
  obtain ⟨rest, hrest⟩ := List.head?_eq_some_iff.mp h
  obtain ⟨behind, hbehind⟩ := isPrefix_trimWhile p cs
  rw [hrest, List.cons_append] at hbehind
  have hhead : (cs.dropWhile p).head? = some c := by rw [← hbehind, List.head?_cons]
  exact head?_dropWhile_eq_some hhead

theorem isTrimmed_trim (s : String) : IsTrimmed (trim s) := by
  rw [IsTrimmed, trim, trimChars, String.toList_ofList]
  exact ⟨fun _ => head?_trimWhile, fun _ => getLast?_trimWhile⟩

theorem trimWhile_of_ends {p : Char → Bool} {cs : List Char}
    (hhead : ∀ c ∈ cs.head?, p c = false) (hlast : ∀ c ∈ cs.getLast?, p c = false) :
    trimWhile p cs = cs := by
  have hdrop : ∀ {ds : List Char}, (∀ c ∈ ds.head?, p c = false) → ds.dropWhile p = ds := by
    intro ds hds
    cases ds with
    | nil => rfl
    | cons d ds => rw [List.dropWhile_cons_of_neg (by simp [hds d rfl])]
  rw [trimWhile, hdrop hhead, hdrop (by rwa [List.head?_reverse]), List.reverse_reverse]

theorem trim_of_isTrimmed {s : String} (h : IsTrimmed s) : trim s = s := by
  rw [trim, trimChars, trimWhile_of_ends h.1 h.2, String.ofList_toList]

theorem isBlankText_eq_false_iff {s : String} :
    isBlankText s = false ↔ ∃ c ∈ s.toList, isBlank c = false := by
  simp [isBlankText]

end EditorAnalysis.Text
