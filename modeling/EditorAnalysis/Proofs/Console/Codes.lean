/-
EditorAnalysis.Proofs.Console.Codes — what is left of a text without codes for the terminal.

The fuel of the definition covers the text, so that dropping codes goes on character by
character: over a whole code where one begins (`withoutCodes_cons_of_some`), else over the
character, which stays (`withoutCodes_cons_of_none`). A text stays as it is exactly if it holds
no code (`dropCodes_eq_self_iff`): whatever a code is dropped from gets shorter.
-/
import EditorAnalysis.Console
import Mathlib.Data.List.Infix

namespace EditorAnalysis.Console

/-! ## One code -/

theorem behindCode?_of_ne_escape {c : Char} (h : c ≠ escape) (rest : List Char) :
    behindCode? (c :: rest) = none := by
  unfold behindCode?
  split
  · rename_i heq
    obtain ⟨rfl, -⟩ := List.cons.inj heq
    rw [if_pos (by simpa using h)]
  · rfl

theorem behindCode?_of_ne_bracket {d : Char} (h : d ≠ '[') (c : Char) (rest : List Char) :
    behindCode? (c :: d :: rest) = none := by
  unfold behindCode?
  split
  · rename_i heq
    obtain ⟨-, heq⟩ := List.cons.inj heq
    exact absurd (List.cons.inj heq).1 h
  · rfl

theorem suffix_of_behindCode? {c : Char} {cs rest : List Char}
    (h : behindCode? (c :: cs) = some rest) : rest <:+ cs := by
  unfold behindCode? at h
  split at h
  · rename_i first behind heq
    obtain ⟨-, rfl⟩ := List.cons.inj heq
    split at h
    · cases h
    · split at h
      · rename_i d more hdrop
        split at h
        · obtain rfl := Option.some.inj h
          have hsuffix : (d :: more) <:+ behind := hdrop ▸ List.dropWhile_suffix isCodeChar
          exact ((List.suffix_cons d more).trans hsuffix).trans (List.suffix_cons '[' behind)
        · cases h
      · cases h
  · cases h

/-! ## All codes -/

/-- The characters without codes for the terminal. -/
def withoutCodes (cs : List Char) : List Char := dropCodesFrom cs.length cs

theorem toList_dropCodes (text : String) :
    (dropCodes text).toList = withoutCodes text.toList := by
  rw [dropCodes, String.toList_ofList, withoutCodes]

/-- Fuel for all characters is as good as any more. -/
theorem dropCodesFrom_eq_of_le {n m : Nat} {cs : List Char} (hn : cs.length ≤ n)
    (hm : cs.length ≤ m) : dropCodesFrom n cs = dropCodesFrom m cs := by
  induction n generalizing m cs with
  | zero =>
    obtain rfl := List.eq_nil_of_length_eq_zero (Nat.le_zero.mp hn)
    cases m <;> rfl
  | succ n ih =>
    cases cs with
    | nil => cases m <;> rfl
    | cons c cs =>
      rw [List.length_cons] at hn hm
      obtain ⟨m, rfl⟩ := Nat.exists_eq_add_of_le' (Nat.le_of_add_left_le hm)
      simp only [dropCodesFrom]
      cases hcode : behindCode? (c :: cs) with
      | none => exact congrArg (c :: ·) (ih (by omega) (by omega))
      | some rest =>
        have hshort := (suffix_of_behindCode? hcode).length_le
        exact ih (by omega) (by omega)

@[simp] theorem withoutCodes_nil : withoutCodes [] = [] := rfl

theorem withoutCodes_cons_of_none {c : Char} {cs : List Char}
    (h : behindCode? (c :: cs) = none) : withoutCodes (c :: cs) = c :: withoutCodes cs := by
  rw [withoutCodes, List.length_cons, dropCodesFrom, h]
  rfl

theorem withoutCodes_cons_of_some {c : Char} {cs rest : List Char}
    (h : behindCode? (c :: cs) = some rest) : withoutCodes (c :: cs) = withoutCodes rest := by
  rw [withoutCodes, List.length_cons, dropCodesFrom, h]
  exact dropCodesFrom_eq_of_le (suffix_of_behindCode? h).length_le le_rfl

theorem withoutCodes_cons_of_ne_escape {c : Char} (h : c ≠ escape) (cs : List Char) :
    withoutCodes (c :: cs) = c :: withoutCodes cs :=
  withoutCodes_cons_of_none (behindCode?_of_ne_escape h cs)

theorem withoutCodes_append_of_ne_escape {cs : List Char} (h : ∀ c ∈ cs, c ≠ escape)
    (rest : List Char) : withoutCodes (cs ++ rest) = cs ++ withoutCodes rest := by
  induction cs with
  | nil => rfl
  | cons c cs ih =>
    rw [List.cons_append, withoutCodes_cons_of_ne_escape (h c List.mem_cons_self),
        ih fun d hd => h d (List.mem_cons_of_mem c hd), List.cons_append]

/-- Induction along a text: over single characters that begin no code, and over whole codes. -/
theorem codes_induction {motive : List Char → Prop} (nil : motive [])
    (single : ∀ c cs, behindCode? (c :: cs) = none → motive cs → motive (c :: cs))
    (code : ∀ c cs rest, behindCode? (c :: cs) = some rest → motive rest → motive (c :: cs))
    (cs : List Char) : motive cs := by
  induction hlength : cs.length using Nat.strong_induction_on generalizing cs with
  | _ n ih =>
    cases cs with
    | nil => exact nil
    | cons c cs =>
      rw [List.length_cons] at hlength
      cases hcode : behindCode? (c :: cs) with
      | none => exact single c cs hcode (ih cs.length (by omega) cs rfl)
      | some rest =>
        have hshort := (suffix_of_behindCode? hcode).length_le
        exact code c cs rest hcode (ih rest.length (by omega) rest rfl)

theorem length_withoutCodes_le (cs : List Char) : (withoutCodes cs).length ≤ cs.length := by
  induction cs using codes_induction with
  | nil => exact Nat.le_refl 0
  | single c cs hcode ih =>
    rw [withoutCodes_cons_of_none hcode, List.length_cons, List.length_cons]
    omega
  | code c cs rest hcode ih =>
    have hshort := (suffix_of_behindCode? hcode).length_le
    rw [withoutCodes_cons_of_some hcode, List.length_cons]
    omega

/-- A code for the terminal stands somewhere in the text. -/
def HoldsCode (text : String) : Prop :=
  ∃ cs, cs <:+ text.toList ∧ (behindCode? cs).isSome = true

theorem withoutCodes_eq_self_iff (cs : List Char) :
    withoutCodes cs = cs ↔ ∀ rest, rest <:+ cs → behindCode? rest = none := by
  induction cs with
  | nil =>
    refine iff_of_true rfl fun rest hrest => ?_
    rw [List.suffix_nil.mp hrest]
    rfl
  | cons c cs ih =>
    simp only [List.suffix_cons_iff, forall_eq_or_imp]
    cases hcode : behindCode? (c :: cs) with
    | none => rw [withoutCodes_cons_of_none hcode, List.cons_inj_right, ih]; simp
    | some behind =>
      have hshort := (suffix_of_behindCode? hcode).length_le
      have hless := length_withoutCodes_le behind
      refine iff_of_false (fun heq => ?_) (by simp)
      have hlength := congrArg List.length heq
      rw [withoutCodes_cons_of_some hcode, List.length_cons] at hlength
      omega

theorem dropCodes_eq_self_iff {text : String} : dropCodes text = text ↔ ¬ HoldsCode text := by
  rw [← String.toList_inj, toList_dropCodes, withoutCodes_eq_self_iff]
  simp [HoldsCode, Option.isSome_iff_ne_none]

end EditorAnalysis.Console
