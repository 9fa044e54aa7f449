/-
EditorAnalysis.Proofs.Path.Normal — a path is read back from its own text.

The names of a path that was read from a text are not empty, are not the current directory, and
hold no separator (`IsNormal`). Such names are told apart again when they are written with
separators between them, and what stands in front of them is the anchor and nothing else
(`ofString_toString`). So the text of a path is its own normal form.
-/
import EditorAnalysis.Proofs.Path.Pure
import EditorAnalysis.Proofs.Text.Search

namespace EditorAnalysis.Path

namespace Pure

/-- The names of the path carry meaning and hold no separator. -/
def IsNormal (p : Pure) : Prop :=
  ∀ name ∈ p.components, isName name.toList = true ∧ '/' ∉ name.toList

theorem isNormal_ofString (text : String) : (ofString text).IsNormal := by
  intro name hname
  obtain ⟨piece, hpiece, rfl⟩ := List.mem_map.mp hname
  obtain ⟨hsplit, hmeaning⟩ := List.mem_filter.mp hpiece
  rw [String.toList_ofList]
  exact ⟨hmeaning, Text.not_mem_of_mem_splitOn hsplit⟩

theorem IsNormal.join {p q : Pure} (hp : p.IsNormal) (hq : q.IsNormal) : (p.join q).IsNormal := by
  unfold Pure.join
  split
  · exact hq
  · intro name hname
    rcases List.mem_append.mp hname with hname | hname
    · exact hp name hname
    · exact hq name hname

theorem isAbsolute_join {p : Pure} (hp : p.isAbsolute = true) (q : Pure) :
    (p.join q).isAbsolute = true := by
  unfold Pure.join
  split
  · assumption
  · exact hp

/-! ## Reading a path back -/

theorem names_intercalate : ∀ {components : List String},
    (∀ name ∈ components, isName name.toList = true ∧ '/' ∉ name.toList) →
      names (['/'].intercalate (components.map String.toList)) = components
  | [], _ => rfl
  | [name], h => by
      obtain ⟨hname, hslash⟩ := h name List.mem_cons_self
      rw [List.map_singleton, List.intercalate_singleton, names, Text.splitOn_of_not_mem hslash,
          List.filter_cons_of_pos hname, List.filter_nil, List.map_singleton, String.ofList_toList]
  | name :: next :: rest, h => by
      obtain ⟨hname, hslash⟩ := h name List.mem_cons_self
      have hrest : names (['/'].intercalate ((next :: rest).map String.toList)) = next :: rest :=
        names_intercalate fun other hother => h other (List.mem_cons_of_mem name hother)
      rw [List.map_cons] at hrest
      rw [List.map_cons, List.map_cons, List.intercalate_cons_cons, List.append_assoc,
          List.singleton_append, names, Text.splitOn_append _ hslash,
          List.filter_cons_of_pos hname, List.map_cons, String.ofList_toList, ← names, hrest]

/-- Separators at the beginning make no names. -/
theorem names_anchor_append (anchor : Anchor) (cs : List Char) :
    names (anchor.text.toList ++ cs) = names cs := by
  cases anchor <;> simp [Anchor.text, names, Text.splitOn, isName]

/-- Where names follow the anchor, it is read back. -/
theorem ofChars_anchor_append (anchor : Anchor) {cs : List Char} (h : cs.head? ≠ some '/') :
    Anchor.ofChars (anchor.text.toList ++ cs) = anchor := by
  have hrest : cs.takeWhile (· == '/') = [] := by
    cases cs with
    | nil => rfl
    | cons c cs =>
      have hc : (c == '/') = false := by simpa using h
      rw [List.takeWhile_cons_of_neg (by simp [hc])]
  cases anchor <;> simp [Anchor.text, Anchor.ofChars, hrest]

/-- A path whose names are names is read back from its text. -/
theorem ofString_toString {p : Pure} (h : p.IsNormal) : ofString p.toString = p := by
  obtain ⟨anchor, components⟩ := p
  cases components with
  | nil => cases anchor <;> decide
  | cons first rest =>
    have hlist := toList_toString_of_components (p := ⟨anchor, first :: rest⟩) (by simp)
    have hhead : (['/'].intercalate ((first :: rest).map String.toList)).head? ≠ some '/' := by
      obtain ⟨hname, hslash⟩ := h first List.mem_cons_self
      cases hchars : first.toList with
      | nil =>
        rw [hchars] at hname
        cases hname
      | cons c cs =>
        have hc : c ≠ '/' := by
          rintro rfl
          exact hslash (hchars ▸ List.mem_cons_self)
        cases rest <;> simp [hchars, List.intercalate_cons_cons, hc]
    rw [ofString, hlist, ofChars_anchor_append anchor hhead, names_anchor_append,
        names_intercalate h]

end Pure

/-- The text of a path is its own normal form. -/
theorem normalize_toString {p : Pure} (h : p.IsNormal) : normalize p.toString = p.toString := by
  rw [normalize, Pure.ofString_toString h]

end EditorAnalysis.Path
