/-
EditorAnalysis.Settings.Datum — values as configuration sources hold them.

Configuration files and callers supply values of many kinds; which of them a
setting accepts is decided by the setting.
-/
import EditorAnalysis.Number.Binary64

namespace EditorAnalysis

/-- A value from a configuration source. -/
inductive Datum where
  /-- Explicitly nothing. -/
  | null
  /-- A truth value. -/
  | boolean (value : Bool)
  /-- An integer of any size. -/
  | integer (value : Int)
  /-- A floating-point number. -/
  | real (value : Number.Binary64)
  /-- A text. -/
  | text (value : String)
  /-- A date, a time, or both. -/
  | moment
  /-- Several values in order. -/
  | list (items : List Datum)
  /-- Values under names, in the order in which the names came. -/
  | table (entries : List (String × Datum))
deriving Inhabited

namespace Datum

/-- The value is explicitly nothing. -/
def isNull : Datum → Bool
  | null => true
  | _ => false

theorem isNull_iff {d : Datum} : d.isNull = true ↔ d = null := by
  cases d <;> simp [isNull]

/-! ## Comparing values -/

mutual
/-- Two values are the same. -/
def same : Datum → Datum → Bool
  | null, null => true
  | boolean a, boolean b => a == b
  | integer a, integer b => a == b
  | real a, real b => a == b
  | text a, text b => a == b
  | moment, moment => true
  | list a, list b => sameItems a b
  | table a, table b => sameEntries a b
  | _, _ => false

/-- Two lists hold the same values in the same order. -/
def sameItems : List Datum → List Datum → Bool
  | [], [] => true
  | a :: as, b :: bs => same a b && sameItems as bs
  | _, _ => false

/-- Two tables hold the same values under the same names in the same order. -/
def sameEntries : List (String × Datum) → List (String × Datum) → Bool
  | [], [] => true
  | (name, a) :: as, (other, b) :: bs => name == other && same a b && sameEntries as bs
  | _, _ => false
end

mutual
theorem same_iff_eq : ∀ {a b : Datum}, same a b = true ↔ a = b
  | null, b => by cases b <;> simp [same]
  | boolean _, b => by cases b <;> simp [same]
  | integer _, b => by cases b <;> simp [same]
  | real _, b => by cases b <;> simp [same]
  | text _, b => by cases b <;> simp [same]
  | moment, b => by cases b <;> simp [same]
  | list as, b => by cases b <;> simp [same, @sameItems_iff_eq as]
  | table as, b => by cases b <;> simp [same, @sameEntries_iff_eq as]

theorem sameItems_iff_eq : ∀ {as bs : List Datum}, sameItems as bs = true ↔ as = bs
  | [], bs => by cases bs <;> simp [sameItems]
  | a :: as, bs => by cases bs <;> simp [sameItems, @same_iff_eq a, @sameItems_iff_eq as]

theorem sameEntries_iff_eq : ∀ {as bs : List (String × Datum)},
    sameEntries as bs = true ↔ as = bs
  | [], bs => by cases bs <;> simp [sameEntries]
  | (name, a) :: as, bs => by
      cases bs <;> simp [sameEntries, @same_iff_eq a, @sameEntries_iff_eq as, Prod.ext_iff]
end

instance : DecidableEq Datum := fun _ _ => decidable_of_iff _ same_iff_eq

end Datum

end EditorAnalysis
