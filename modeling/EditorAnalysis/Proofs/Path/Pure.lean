/-
EditorAnalysis.Proofs.Path.Pure — the text of a path and of a name below it.
-/
import EditorAnalysis.Path.Pure
import Mathlib.Data.List.Basic

namespace EditorAnalysis.Path.Pure

/-- A text writes a path from the root exactly when it begins with a separator. -/
theorem isAbsolute_ofString (text : String) :
    (ofString text).isAbsolute = (text.toList.head? == some '/') := by
  rw [isAbsolute, ofString, Anchor.ofChars]
  cases text.toList with
  | nil => rfl
  | cons c rest =>
    by_cases hc : c = '/'
    · rw [hc, List.takeWhile_cons_of_pos rfl]
      split <;> simp_all
    · simp [hc]

theorem intercalate_append_singleton (separator last : List Char) :
    ∀ {pieces : List (List Char)}, pieces ≠ [] →
      separator.intercalate (pieces ++ [last])
        = separator.intercalate pieces ++ separator ++ last
  | [piece], _ => by simp [List.intercalate_cons_cons]
  | piece :: next :: more, _ => by
      have hrest := @intercalate_append_singleton separator last (next :: more) (by simp)
      rw [List.cons_append, List.cons_append, List.intercalate_cons_cons, ← List.cons_append, hrest,
          List.intercalate_cons_cons]
      simp only [List.append_assoc]

theorem toList_toString_of_components {p : Pure} (h : p.components ≠ []) :
    p.toString.toList
      = p.anchor.text.toList ++ ['/'].intercalate (p.components.map String.toList) := by
  simp [toString, h]

theorem toString_child_current (name : String) :
    ((⟨.relative, []⟩ : Pure).child name).toString = name := by
  simp [toString, child, Anchor.text]

/-- The text of a name below a path: the name alone below the current directory, else the
path's own text and the name, with a separator between them unless the path is the root. -/
theorem toString_child (p : Pure) (name : String) :
    (p = ⟨.relative, []⟩ ∧ (p.child name).toString = name) ∨
      ((p.toString = "/" ∨ p.toString = "//") ∧
        (p.child name).toString = p.toString ++ name) ∨
      (p.components ≠ [] ∧ (p.child name).toString = p.toString ++ "/" ++ name) := by
  obtain ⟨anchor, components⟩ := p
  by_cases hnone : components = []
  · subst hnone
    cases anchor with
    | relative => exact .inl ⟨rfl, toString_child_current name⟩
    | root => exact .inr (.inl ⟨.inl rfl, by simp [toString, child, Anchor.text]⟩)
    | doubleRoot => exact .inr (.inl ⟨.inr rfl, by simp [toString, child, Anchor.text]⟩)
  · refine .inr (.inr ⟨hnone, String.toList_inj.mp ?_⟩)
    have hchild := toList_toString_of_components (p := child ⟨anchor, components⟩ name)
      (by simp [child])
    have hne : components.map String.toList ≠ [] := by simpa using hnone
    rw [hchild, String.toList_append, String.toList_append,
        toList_toString_of_components (p := ⟨anchor, components⟩) hnone]
    simp only [child, List.map_append, List.map_cons, List.map_nil,
      intercalate_append_singleton _ _ hne, List.append_assoc]
    rfl

/-- The text of a name below a path ends in the name; in front of it stands nothing but
separators and what the path's own text holds. -/
theorem toList_toString_child (p : Pure) (name : String) :
    ∃ front, (p.child name).toString.toList = front ++ name.toList ∧
      ∀ c ∈ front, c = '/' ∨ c ∈ p.toString.toList := by
  rcases toString_child p name with ⟨-, htext⟩ | ⟨-, htext⟩ | ⟨-, htext⟩
  · exact ⟨[], by rw [htext]; rfl, by simp⟩
  · exact ⟨p.toString.toList, by rw [htext, String.toList_append], fun c hc => .inr hc⟩
  · refine ⟨p.toString.toList ++ ['/'], ?_, fun c hc => ?_⟩
    · rw [htext, String.toList_append, String.toList_append]
      rfl
    · rw [List.mem_append, List.mem_singleton] at hc
      exact hc.symm

/-- The names of a path that was written as a text are not empty. -/
theorem ne_empty_of_mem_components {text name : String}
    (h : name ∈ (ofString text).components) : name ≠ "" := by
  obtain ⟨cs, hcs, rfl⟩ := List.mem_map.mp h
  have hname : isName cs = true := (List.mem_filter.mp hcs).2
  rintro hempty
  have hnil : cs = [] := by simpa using hempty
  rw [hnil] at hname
  cases hname

theorem toString_ofString_ne_empty (text : String) : (ofString text).toString ≠ "" := by
  intro hempty
  cases hnames : (ofString text).components with
  | nil =>
    rw [toString, hnames] at hempty
    cases hanchor : (ofString text).anchor <;> simp [hanchor, Anchor.text] at hempty
  | cons name rest =>
    have hname : name.toList ≠ [] := by
      simpa using ne_empty_of_mem_components (hnames ▸ List.mem_cons_self)
    have hlist := toList_toString_of_components (p := ofString text) (by simp [hnames])
    rw [hempty, hnames, List.map_cons] at hlist
    have hjoined := (List.append_eq_nil_iff.mp hlist.symm).2
    cases rest <;> simp_all [List.intercalate_cons_cons]

end EditorAnalysis.Path.Pure
