/-
EditorAnalysis.Proofs.Json.Object — objects of texts survive being written and read.

An object whose entries all hold strings is written with every entry on a line of its own
and read back as it was (`read_indented_ofTexts`), provided its names differ: reading puts
entries that share a name into one. An object that was read has different names
(`nodup_of_read`), so what is kept of one object survives any number of rounds.

The reader's fuel goes down by one for an entry and by one for its value; the written text
is longer than that (`length_le_length_entries`).
-/
import EditorAnalysis.Proofs.Assoc
import EditorAnalysis.Proofs.Json.Text
import EditorAnalysis.Proofs.Outcome

namespace EditorAnalysis.Json

/-- The object of texts under names. -/
def Value.ofTexts (contents : List (Units × Units)) : Value :=
  .object (contents.map fun (name, units) => (name, .string units))

open Reader

variable {limits : Limits}

theorem exists_enter (hdepth : limits.depth ≠ some 0) (inside : Text.Nesting) :
    ∃ inner, limits.enter inside = .ok inner := by
  unfold Limits.enter
  split
  · exact ⟨_, rfl⟩
  · rename_i hzero
    exact absurd hzero hdepth
  · exact ⟨_, rfl⟩

/-! ## White space -/

theorem skip_of_not_isSpace {c : Char} (h : isSpace c = false) (rest : List Char) :
    skip (c :: rest) = c :: rest := by
  rw [skip, List.dropWhile_cons_of_neg (by simp [h])]

theorem skip_newLine_append (depth : Nat) (rest : List Char) :
    skip (Writer.newLine depth ++ rest) = skip rest := by
  have hspaces : ∀ n, skip (List.replicate n ' ' ++ rest) = skip rest := by
    intro n
    induction n with
    | zero => rfl
    | succ n ih => exact ih
  exact hspaces (2 * depth)

theorem string_write (units : Units) (rest : List Char) :
    Writer.string units ++ rest = '"' :: (units.flatMap Writer.unit ++ '"' :: rest) := by
  simp [Writer.string]

/-- There is no white space in front of a string. -/
theorem skip_string_append (units : Units) (rest : List Char) :
    skip (Writer.string units ++ rest) = Writer.string units ++ rest := by
  rw [string_write]
  exact skip_of_not_isSpace (by decide) _

/-! ## Writing an object and reading it -/

/-- The entries of an object of texts behind its first one, with the closing brace. -/
def tailText (contents : List (Units × Units)) : List Char :=
  Writer.entries .indented 0 (contents.map fun (name, units) => (name, .string units))
    ++ Writer.newLine 0 ++ ['}']

theorem tailText_nil : tailText [] = ['\n', '}'] := rfl

theorem tailText_cons (name units : Units) (contents : List (Units × Units)) :
    tailText ((name, units) :: contents)
      = ',' :: (Writer.newLine 1 ++ (Writer.string name
        ++ (':' :: ' ' :: (Writer.string units ++ tailText contents)))) := by
  simp [tailText, Writer.entries, Writer.Layout.indented, Writer.value]

theorem toList_indented_ofTexts_cons (name units : Units) (contents : List (Units × Units)) :
    (Value.ofTexts ((name, units) :: contents)).indented.toList
      = '{' :: (Writer.newLine 1 ++ (Writer.string name
        ++ (':' :: ' ' :: (Writer.string units ++ tailText contents)))) := by
  simp [Value.ofTexts, Value.indented, tailText, Writer.value, Writer.Layout.indented]

theorem length_le_length_tailText (contents : List (Units × Units)) :
    contents.length + 2 ≤ (tailText contents).length := by
  induction contents with
  | nil => simp [tailText_nil]
  | cons e rest ih =>
    rw [tailText_cons]
    simp only [List.length_cons, List.length_append]
    omega

theorem value_string_write (fuel : Nat) (units : Units) (rest : List Char) :
    value limits (fuel + 1) (Writer.string units ++ rest) = .ok (.string units, rest) := by
  rw [string_write, value.eq_def]
  simp only [string_flatMap_unit]
  rfl

/-- Reading one entry that was written. -/
theorem entries_write_append (name units : Units) (fuel : Nat) (rest : List Char) :
    entries limits (fuel + 2) (Writer.string name
        ++ (':' :: ' ' :: (Writer.string units ++ rest)))
      = match skip rest with
        | '}' :: rest => .ok ([(name, .string units)], rest)
        | ',' :: rest => (entries limits (fuel + 1) (skip rest)).map fun (es, rest) =>
            ((name, .string units) :: es, rest)
        | _ => .error .malformed := by
  have hcolon : ∀ behind, skip (':' :: behind) = ':' :: behind := skip_of_not_isSpace rfl
  have hvalue : skip (' ' :: (Writer.string units ++ rest)) = Writer.string units ++ rest :=
    skip_string_append units rest
  have hread := entries.eq_def limits (fuel + 2)
    ('"' :: (name.flatMap Writer.unit ++ '"' :: (':' :: ' ' :: (Writer.string units ++ rest))))
  simp only [string_flatMap_unit, hcolon, hvalue, value_string_write] at hread
  rw [string_write name]
  exact hread

/-- Reading all entries of an object of texts, at least one. -/
theorem entries_write (name units : Units) (contents : List (Units × Units)) (fuel : Nat)
    (hfuel : contents.length + 2 ≤ fuel) :
    entries limits fuel (Writer.string name
        ++ (':' :: ' ' :: (Writer.string units ++ tailText contents)))
      = .ok ((name, .string units) :: contents.map fun (name, units) => (name, .string units),
        []) := by
  induction contents generalizing name units fuel with
  | nil =>
    obtain ⟨fuel, rfl⟩ := Nat.exists_eq_add_of_le' hfuel
    rw [List.length_nil, Nat.zero_add, entries_write_append]
    rfl
  | cons e contents ih =>
    obtain ⟨nextName, nextUnits⟩ := e
    rw [List.length_cons] at hfuel
    obtain ⟨fuel, rfl⟩ := Nat.exists_eq_add_of_le' (Nat.le_of_add_left_le hfuel)
    have hcomma : ∀ behind, skip (',' :: behind) = ',' :: behind := skip_of_not_isSpace rfl
    have hnext : ∀ behind, skip (Writer.newLine 1 ++ (Writer.string nextName ++ behind))
        = Writer.string nextName ++ behind := by
      intro behind
      rw [skip_newLine_append, skip_string_append]
    rw [entries_write_append, tailText_cons, hcomma]
    simp only [hnext, ih nextName nextUnits (fuel + 1) (by omega)]
    rfl

theorem value_indented_ofTexts {contents : List (Units × Units)}
    (hnames : (contents.map (·.1)).Nodup) (hdepth : limits.depth ≠ some 0) {fuel : Nat}
    (hfuel : contents.length + 1 ≤ fuel) :
    value limits (fuel + 1) (Value.ofTexts contents).indented.toList
      = .ok (Value.ofTexts contents, []) := by
  obtain ⟨inner, hinner⟩ := exists_enter hdepth .object
  cases contents with
  | nil =>
    have hnil : (Value.ofTexts []).indented.toList = ['{', '}'] := rfl
    rw [hnil, value.eq_def]
    simp only [hinner]
    rfl
  | cons e contents =>
    obtain ⟨name, units⟩ := e
    have hfirst : skip (Writer.newLine 1 ++ (Writer.string name
          ++ (':' :: ' ' :: (Writer.string units ++ tailText contents))))
        = '"' :: (name.flatMap Writer.unit
          ++ '"' :: (':' :: ' ' :: (Writer.string units ++ tailText contents))) := by
      rw [skip_newLine_append, skip_string_append, string_write]
    have hentries : Assoc.ofList
        ((name, Value.string units) :: contents.map fun (name, units) => (name, .string units))
        = (name, .string units) :: contents.map fun (name, units) => (name, .string units) := by
      refine Assoc.ofList_of_nodup ?_
      simpa [Function.comp_def] using hnames
    have hcount : contents.length + 2 ≤ fuel := by
      rw [List.length_cons] at hfuel
      omega
    have hread := @entries_write inner name units contents fuel hcount
    rw [string_write] at hread
    rw [toList_indented_ofTexts_cons, value.eq_def]
    simp only [hinner, hfirst]
    split
    · rename_i hbrace
      simp at hbrace
    · rw [hread, Except.map, hentries]
      rfl

/-- **Objects of texts are read back.** What is written for texts under different names is
read as an object of the same texts, within all limits that allow an object. -/
theorem read_indented_ofTexts {contents : List (Units × Units)}
    (hnames : (contents.map (·.1)).Nodup) (hdepth : limits.depth ≠ some 0) :
    read limits (Value.ofTexts contents).indented.toList = .ok (Value.ofTexts contents) := by
  have hlength : contents.length + 1 ≤ (Value.ofTexts contents).indented.toList.length := by
    cases contents with
    | nil => decide
    | cons e contents =>
      have htail := length_le_length_tailText contents
      rw [toList_indented_ofTexts_cons]
      simp only [List.length_cons, List.length_append]
      omega
  have hskip : skip (Value.ofTexts contents).indented.toList
      = (Value.ofTexts contents).indented.toList := by
    cases contents with
    | nil => rfl
    | cons e contents =>
      rw [toList_indented_ofTexts_cons]
      exact skip_of_not_isSpace (by decide) _
  rw [read, document, hskip, value_indented_ofTexts hnames hdepth (by omega)]
  rfl

/-! ## What was read -/

theorem number_ne_object {cs rest : List Char} {es : List (Units × Value)} :
    number limits cs ≠ .ok (.object es, rest) := by
  intro h
  unfold number at h
  dsimp only at h
  split_ifs at h
  cases h

theorem scalar_ne_object {cs rest : List Char} {es : List (Units × Value)} :
    scalar limits cs ≠ .ok (.object es, rest) := by
  intro h
  unfold scalar at h
  repeat' split at h
  all_goals first | cases h | exact number_ne_object h

theorem nodup_of_value {fuel : Nat} {cs rest : List Char} {es : List (Units × Value)}
    (h : value limits fuel cs = .ok (.object es, rest)) : (es.map (·.1)).Nodup := by
  cases fuel with
  | zero => cases h
  | succ fuel =>
    rw [value.eq_def] at h
    dsimp only at h
    split at h
    · obtain ⟨_, -, heq⟩ := Outcome.map_eq_ok_iff.mp h
      cases heq
    · split at h
      · cases h
      · split at h
        · cases h
        · obtain ⟨_, -, heq⟩ := Outcome.map_eq_ok_iff.mp h
          cases heq
    · split at h
      · cases h
      · split at h
        · cases h
          exact List.nodup_nil
        · obtain ⟨pairs, -, heq⟩ := Outcome.map_eq_ok_iff.mp h
          cases heq
          exact Assoc.nodup_ofList _
    · exact absurd h scalar_ne_object

/-- The names of an object that was read are different. -/
theorem nodup_of_read {cs : List Char} {es : List (Units × Value)}
    (h : read limits cs = .ok (.object es)) : (es.map (·.1)).Nodup := by
  unfold read document at h
  split at h
  · cases h
  · rename_i v rest hvalue
    split at h
    · obtain rfl := Except.ok.inj h
      exact nodup_of_value hvalue
    · cases h

end EditorAnalysis.Json
