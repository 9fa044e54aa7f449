/-
EditorAnalysis.Proofs.Version.Order — releases are compared number by number.

`Release.order` first drops the zeros at the end of both sides, so that releases
of different lengths meet. `order_cons_cons` says that the comparison is
lexicographic all the same: the first numbers decide, and if they are equal the
rest does. For the three numbers of a version this is the order of versions
(`order_release_ne_gt_iff`).
-/
import EditorAnalysis.Version.Release
import Mathlib.Data.List.Basic

namespace EditorAnalysis

namespace Release

/-! ## Zeros at the end -/

/-- The first number is dropped only when it is zero and nothing behind it is left. -/
theorem significant_cons (a : Nat) (r : Release) :
    significant (a :: r) = if significant r = [] ∧ a = 0 then [] else a :: significant r := by
  simp only [significant, List.reverse_cons, List.dropWhile_append]
  by_cases h : r.reverse.dropWhile (· == 0) = []
  · by_cases ha : a = 0 <;> simp [h, ha]
  · simp [h]

theorem compareNumbers_nil_left {r : Release} (h : r ≠ []) : compareNumbers [] r = .lt := by
  obtain ⟨a, as, rfl⟩ := List.exists_cons_of_ne_nil h
  rfl

theorem compareNumbers_nil_right {r : Release} (h : r ≠ []) : compareNumbers r [] = .gt := by
  obtain ⟨a, as, rfl⟩ := List.exists_cons_of_ne_nil h
  rfl

/-! ## Lexicographic comparison -/

/-- The first numbers decide, whatever is dropped at the ends. -/
theorem order_cons_cons (a b : Nat) (r s : Release) :
    order (a :: r) (b :: s) = (compare a b).then (order r s) := by
  simp only [order, significant_cons]
  split
  · rename_i hr
    split
    · rename_i hs
      simp [hr, hs, compareNumbers]
    · -- the left side is all zeros, the right side is not
      rename_i hs
      rw [compareNumbers_nil_left (by simp), hr.1, hr.2]
      rcases Nat.eq_zero_or_pos b with rfl | hb
      · simp [compareNumbers_nil_left fun h => hs ⟨h, rfl⟩]
      · simp [Nat.compare_eq_lt.mpr hb]
  · rename_i hr
    split
    · rename_i hs
      rw [compareNumbers_nil_right (by simp), hs.1, hs.2]
      rcases Nat.eq_zero_or_pos a with rfl | ha
      · simp [compareNumbers_nil_right fun h => hr ⟨h, rfl⟩]
      · simp [Nat.compare_eq_gt.mpr ha]
    · rfl

end Release

namespace Version

/-! ## Versions -/

theorem lt_iff (v w : Version) :
    v < w ↔ v.major < w.major ∨ (v.major = w.major ∧
      (v.minor < w.minor ∨ (v.minor = w.minor ∧ v.patch < w.patch))) := Iff.rfl

theorem le_iff (v w : Version) :
    v ≤ w ↔ v.major < w.major ∨ (v.major = w.major ∧
      (v.minor < w.minor ∨ (v.minor = w.minor ∧ v.patch ≤ w.patch))) := by
  cases v
  cases w
  change (Version.Before _ _ ∨ _) ↔ _
  simp only [Version.Before, Version.mk.injEq]
  omega

theorem le_trans {u v w : Version} (huv : u ≤ v) (hvw : v ≤ w) : u ≤ w := by
  rw [le_iff] at huv hvw ⊢
  omega

theorem order_release (v w : Version) :
    Release.order v.release w.release = (compare v.major w.major).then
      ((compare v.minor w.minor).then (compare v.patch w.patch)) := by
  have hnil : Release.order [] [] = .eq := rfl
  simp only [release, Release.order_cons_cons, hnil, Ordering.then_eq]

/-- Before dropping zeros and after it, the same version is the lesser one. -/
theorem order_release_eq_lt_iff (v w : Version) :
    Release.order v.release w.release = .lt ↔ v < w := by
  rw [order_release, lt_iff]
  simp only [Ordering.then_eq_lt, Nat.compare_eq_lt, Nat.compare_eq_eq]

/-- Versions with the same release are the same: dropping zeros loses nothing that a version
has. -/
theorem order_release_eq_eq_iff (v w : Version) :
    Release.order v.release w.release = .eq ↔ v = w := by
  rw [order_release, Version.mk.injEq]
  simp only [Ordering.then_eq_eq, Nat.compare_eq_eq]

theorem order_release_ne_gt_iff (v w : Version) :
    Release.order v.release w.release ≠ .gt ↔ v ≤ w := by
  have hcases : Release.order v.release w.release ≠ .gt ↔
      Release.order v.release w.release = .lt ∨ Release.order v.release w.release = .eq := by
    cases Release.order v.release w.release <;> simp
  rw [hcases, order_release_eq_lt_iff, order_release_eq_eq_iff]
  rfl

theorem atLeast_release_iff (v minimum : Version) :
    v.release.atLeast minimum.release = true ↔ minimum ≤ v := by
  rw [← order_release_ne_gt_iff]
  simp [Release.atLeast]

end Version

end EditorAnalysis
