/-
EditorAnalysis.Text.Given — optional texts, of which the empty one says nothing.
-/

namespace EditorAnalysis.Text

/-- A text that is there and not empty. -/
def given? (text : Option String) : Option String := text.filter (· ≠ "")

theorem given?_eq_some_iff {text : Option String} {s : String} :
    given? text = some s ↔ text = some s ∧ s ≠ "" := by
  simp [given?, Option.filter_eq_some_iff]

theorem given?_eq_none_iff {text : Option String} :
    given? text = none ↔ ∀ s ∈ text, s = "" := by
  simp [given?, Option.filter_eq_none_iff]

end EditorAnalysis.Text
