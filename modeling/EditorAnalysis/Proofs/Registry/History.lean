/-
EditorAnalysis.Proofs.Registry.History — the registries that come about.

A registry starts with nothing recorded and is changed by two calls only, one that
registers a file and one that forgets everything. `after` is the registry that a
history of calls leaves. Every key and every file in it is a non-empty text
(`ne_empty_of_mem_after`), so no entry belongs to every path.
-/
import EditorAnalysis.Registry
import EditorAnalysis.Proofs.Assoc
import Mathlib.Data.List.Induction

namespace EditorAnalysis.Registry

/-! ## Calls -/

/-- What changes a registry. -/
inductive Call where
  /-- Registers a file. -/
  | register (registration : Registration)
  /-- Forgets everything. -/
  | clear
deriving DecidableEq, Repr

/-- The registry after one more call. -/
def Call.run (r : Registry) : Call → Registry
  | .register g => r.register g
  | .clear => r.clear

/-- The registry after a history of calls, first to last. -/
def after (history : List Call) : Registry := history.foldl Call.run empty

@[simp] theorem after_nil : after [] = empty := rfl

@[simp] theorem after_append_singleton (history : List Call) (call : Call) :
    after (history ++ [call]) = call.run (after history) := by
  simp [after]

/-! ## Keys and files are texts -/

theorem Registration.ne_empty_of_mem_keys {g : Registration} {key : String} (h : key ∈ g.keys) :
    key ≠ "" ∧ g.path ≠ "" := by
  unfold Registration.keys at h
  split at h
  · simp at h
  · rename_i hpath
    refine ⟨?_, hpath⟩
    rintro rfl
    simp [Text.given?, Option.filter_eq_some_iff] at h

theorem mem_register {g : Registration} {r : Registry} {e : String × String}
    (h : e ∈ (r.register g).entries) : e ∈ r.entries ∨ (e.1 ∈ g.keys ∧ e.2 = g.path) :=
  Assoc.mem_foldl_put h

/-- Every history leaves non-empty keys and files: a registration without a path is ignored,
and so are empty keys. -/
theorem ne_empty_of_mem_after {history : List Call} {e : String × String}
    (h : e ∈ (after history).entries) : e.1 ≠ "" ∧ e.2 ≠ "" := by
  induction history using List.reverseRecOn with
  | nil => simp [empty] at h
  | append_singleton history call ih =>
    rw [after_append_singleton] at h
    cases call with
    | register g =>
      rcases mem_register h with h | ⟨hk, hv⟩
      · exact ih h
      · have hne := Registration.ne_empty_of_mem_keys hk
        exact ⟨hne.1, hv ▸ hne.2⟩
    | clear => simp [Call.run, clear, empty] at h

end EditorAnalysis.Registry
