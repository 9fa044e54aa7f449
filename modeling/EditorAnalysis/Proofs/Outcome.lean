/-
EditorAnalysis.Proofs.Outcome — taking computations apart that may fail.

A computation built from steps has a result exactly when each step has one.
-/

namespace EditorAnalysis.Outcome

variable {ε α β : Type}

theorem map_eq_ok_iff {f : α → β} {x : Except ε α} {y : β} :
    x.map f = .ok y ↔ ∃ a, x = .ok a ∧ f a = y := by
  cases x with
  | error e => simp [Except.map]
  | ok a => simp [Except.map]

theorem bind_eq_ok_iff {f : α → Except ε β} {x : Except ε α} {y : β} :
    x.bind f = .ok y ↔ ∃ a, x = .ok a ∧ f a = .ok y := by
  cases x with
  | error e => simp [Except.bind]
  | ok a => simp [Except.bind]

/-- A run of steps has the same result when every step that has a result keeps it. -/
theorem foldlM_eq_ok_of_imp {f g : β → α → Except ε β}
    (h : ∀ b a c, f b a = .ok c → g b a = .ok c) {xs : List α} {b c : β}
    (hrun : xs.foldlM f b = .ok c) : xs.foldlM g b = .ok c := by
  induction xs generalizing b with
  | nil => exact hrun
  | cons x xs ih =>
    obtain ⟨next, hstep, hrest⟩ := bind_eq_ok_iff.mp hrun
    exact bind_eq_ok_iff.mpr ⟨next, h b x next hstep, ih hrest⟩

/-- A run of steps that fails still does, when every step that has a result keeps it and every
step that fails still does. How it fails may change as it may for one step. -/
theorem foldlM_eq_error_of_imp {f g : β → α → Except ε β} {related : ε → ε → Prop}
    (hok : ∀ b a c, f b a = .ok c → g b a = .ok c)
    (herror : ∀ b a e, f b a = .error e → ∃ e', g b a = .error e' ∧ related e e')
    {xs : List α} {b : β} {e : ε} (hrun : xs.foldlM f b = .error e) :
    ∃ e', xs.foldlM g b = .error e' ∧ related e e' := by
  induction xs generalizing b with
  | nil => cases hrun
  | cons x xs ih =>
    rw [List.foldlM_cons] at hrun ⊢
    cases hstep : f b x with
    | error reason =>
      rw [hstep] at hrun
      obtain rfl : reason = e := Except.error.inj hrun
      obtain ⟨reason', hstep', hrelated⟩ := herror b x reason hstep
      exact ⟨reason', by rw [hstep']; rfl, hrelated⟩
    | ok next =>
      rw [hstep] at hrun
      rw [hok b x next hstep]
      exact ih hrun

end EditorAnalysis.Outcome
