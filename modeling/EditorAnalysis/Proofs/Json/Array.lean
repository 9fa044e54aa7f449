/-
EditorAnalysis.Proofs.Json.Array — arrays of texts survive being written and read.

An array whose items all hold strings is written on one line and read back as it was
(`read_compact_texts`), and its texts are those that were written (`textsIn?_texts`). As for
objects, the reader's fuel goes down by one for an item and by one for its value, and the
written text is longer than that (`length_le_length_tailItems`).
-/
import EditorAnalysis.Proofs.Json.Object

namespace EditorAnalysis.Json

open Reader

variable {limits : Limits}

/-- The items of an array of texts behind its first one, with the closing bracket. -/
def tailItems (texts : List Units) : List Char :=
  Writer.items .compact 0 (texts.map .string) ++ [']']

theorem tailItems_cons (units : Units) (texts : List Units) :
    tailItems (units :: texts)
      = ',' :: ' ' :: (Writer.string units ++ tailItems texts) := by
  simp [tailItems, Writer.items, Writer.Layout.compact, Writer.value]

theorem toList_compact_strings_cons (units : Units) (texts : List Units) :
    (Value.array ((units :: texts).map .string)).compact.toList
      = '[' :: (Writer.string units ++ tailItems texts) := by
  simp [Value.compact, tailItems, Writer.value, Writer.Layout.compact]

theorem length_le_length_tailItems (texts : List Units) :
    texts.length + 1 ≤ (tailItems texts).length := by
  induction texts with
  | nil => simp [tailItems, Writer.items]
  | cons units texts ih =>
    rw [tailItems_cons]
    simp only [List.length_cons, List.length_append]
    omega

/-- Reading the items of an array of texts, at least one, leaves what stands behind it. -/
theorem items_write (units : Units) (texts : List Units) (rest : List Char) {fuel : Nat}
    (hfuel : texts.length + 2 ≤ fuel) :
    items limits fuel (Writer.string units ++ tailItems texts ++ rest)
      = .ok ((units :: texts).map .string, rest) := by
  induction texts generalizing units fuel with
  | nil =>
    obtain ⟨fuel, rfl⟩ := Nat.exists_eq_add_of_le' hfuel
    have hbracket : skip (']' :: rest) = ']' :: rest := skip_of_not_isSpace rfl rest
    rw [List.append_assoc, items.eq_def]
    simp only [List.length_nil, Nat.zero_add, value_string_write]
    simp [tailItems, Writer.items, hbracket]
  | cons next texts ih =>
    rw [List.length_cons] at hfuel
    obtain ⟨fuel, rfl⟩ := Nat.exists_eq_add_of_le' (Nat.le_of_add_left_le hfuel)
    have hcomma : ∀ behind, skip (',' :: behind) = ',' :: behind := skip_of_not_isSpace rfl
    have hnext : skip (' ' :: (Writer.string next ++ tailItems texts ++ rest))
        = Writer.string next ++ tailItems texts ++ rest := by
      rw [List.append_assoc]
      exact skip_string_append next _
    have hitems := ih next (Nat.le_of_succ_le_succ hfuel)
    rw [List.append_assoc, tailItems_cons, items.eq_def]
    simp only [value_string_write, List.cons_append, hcomma, hnext, hitems]
    rfl

theorem value_compact_strings (texts : List Units) (rest : List Char)
    (hdepth : limits.depth ≠ some 0) {fuel : Nat} (hfuel : texts.length + 1 ≤ fuel) :
    value limits (fuel + 1) ((Value.array (texts.map .string)).compact.toList ++ rest)
      = .ok (.array (texts.map .string), rest) := by
  obtain ⟨inner, hinner⟩ := exists_enter hdepth .array
  cases texts with
  | nil =>
    have hnil : (Value.array []).compact.toList = ['[', ']'] := rfl
    have hclose : skip (']' :: rest) = ']' :: rest := skip_of_not_isSpace rfl rest
    rw [List.map_nil, hnil, value.eq_def]
    simp only [List.cons_append, List.nil_append, hinner, hclose]
  | cons units texts =>
    have hfirst : skip (Writer.string units ++ tailItems texts ++ rest)
        = '"' :: (units.flatMap Writer.unit ++ '"' :: (tailItems texts ++ rest)) := by
      rw [List.append_assoc, skip_string_append, string_write]
    have hitems := @items_write inner units texts rest fuel hfuel
    rw [List.append_assoc, string_write] at hitems
    rw [toList_compact_strings_cons, value.eq_def]
    simp only [List.cons_append, hinner, hfirst]
    split
    · rename_i hbracket
      simp at hbracket
    · rw [hitems]
      rfl

theorem texts_eq_array (words : List String) :
    Value.texts words = .array ((words.map Units.ofString).map .string) := by
  simp [Value.texts, Value.text, Function.comp_def]

/-- **Arrays of texts are read back.** What is written on one line for texts is read as an
array of the same texts, whatever white space follows it, within all limits that allow an
array. -/
theorem read_compact_texts (words : List String) (hdepth : limits.depth ≠ some 0)
    {space : List Char} (hspace : skip space = []) :
    read limits ((Value.texts words).compact.toList ++ space) = .ok (Value.texts words) := by
  rw [texts_eq_array, read, document]
  generalize hunits : words.map Units.ofString = texts
  have hstart : skip ((Value.array (texts.map .string)).compact.toList ++ space)
      = (Value.array (texts.map .string)).compact.toList ++ space := by
    cases texts with
    | nil => rfl
    | cons units texts =>
      rw [toList_compact_strings_cons]
      exact skip_of_not_isSpace rfl _
  have hlength : texts.length + 1 ≤ (Value.array (texts.map .string)).compact.toList.length := by
    cases texts with
    | nil => decide
    | cons units texts =>
      have htail := length_le_length_tailItems texts
      rw [toList_compact_strings_cons]
      simp only [List.length_cons, List.length_append]
      omega
  rw [hstart, value_compact_strings texts space hdepth (by rw [List.length_append]; omega)]
  simp [hspace]

/-- The texts of an array that holds nothing else. -/
def Value.textsIn? : Value → Option (List String)
  | .array items => items.mapM fun
    | .string units => some units.toString
    | _ => none
  | _ => none

theorem textsIn?_texts (words : List String) : (Value.texts words).textsIn? = some words := by
  rw [Value.texts, Value.textsIn?]
  induction words with
  | nil => rfl
  | cons word words ih =>
    rw [List.map_cons, List.mapM_cons, ih]
    simp [Value.text]

end EditorAnalysis.Json
