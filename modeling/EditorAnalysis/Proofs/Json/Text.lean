/-
EditorAnalysis.Proofs.Json.Text — texts survive being written and read.

Two round trips lie one within the other. The characters of a text are turned into units
and back (`toString_ofString`): no character is half of a surrogate pair, so units never
pair up across characters. The units of a string are written and read back one by one
(`string_unit`), whichever of its three forms the writer chooses for a unit; lone halves
of pairs survive as well.
-/
import EditorAnalysis.Json.Reader
import EditorAnalysis.Json.Writer
import Mathlib.Data.Char

namespace EditorAnalysis.Json

/-! ## Characters and units -/

namespace Units

theorem toNat_toUInt16_of_lt {n : Nat} (h : n < 0x10000) : n.toUInt16.toNat = n := by
  simp [Nat.mod_eq_of_lt h]

/-- A unit that begins no pair stands for itself. -/
theorem toChars_cons {u : UInt16} (hhigh : isHigh u = false) (hlow : isLow u = false)
    (rest : Units) : toChars (u :: rest) = Char.ofNat u.toNat :: toChars rest := by
  cases rest with
  | nil => simp [toChars, hhigh, hlow]
  | cons v rest => simp [toChars, hhigh, hlow]

theorem toChars_pair {u v : UInt16} (hhigh : isHigh u = true) (hlow : isLow v = true)
    (rest : Units) : toChars (u :: v :: rest) = joinPair u v :: toChars rest := by
  simp [toChars, hhigh, hlow]

/-- Units spell a character at least, if there are any. -/
theorem toString_ne_empty {u : Units} (h : u ≠ []) : toString u ≠ "" := by
  have hchars : toChars u ≠ [] := by
    cases u with
    | nil => exact absurd rfl h
    | cons first rest =>
      cases rest with
      | nil => simp [toChars]
      | cons second more =>
        rw [toChars]
        split <;> simp
  simpa [toString] using hchars

theorem toChars_ofChar_append (c : Char) (rest : Units) :
    toChars (ofChar c ++ rest) = c :: toChars rest := by
  -- a character lies below the surrogates or above them
  have hvalid : c.toNat < 0xD800 ∨ (0xDFFF < c.toNat ∧ c.toNat < 0x110000) := c.valid
  unfold ofChar
  split
  · rename_i hsmall
    have hnat := toNat_toUInt16_of_lt hsmall
    rw [List.singleton_append, toChars_cons, hnat, Char.ofNat_toNat]
    · simp only [isHigh, hnat, Bool.and_eq_false_iff, decide_eq_false_iff_not]
      omega
    · simp only [isLow, hnat, Bool.and_eq_false_iff, decide_eq_false_iff_not]
      omega
  · rename_i hlarge
    have hhigh := @toNat_toUInt16_of_lt (0xD800 + (c.toNat - 0x10000) / 0x400) (by omega)
    have hlow := @toNat_toUInt16_of_lt (0xDC00 + (c.toNat - 0x10000) % 0x400) (by omega)
    rw [List.cons_append, List.singleton_append, toChars_pair, joinPair, hhigh, hlow]
    · have hsum : 0x10000 + (0xD800 + (c.toNat - 0x10000) / 0x400 - 0xD800) * 0x400
          + (0xDC00 + (c.toNat - 0x10000) % 0x400 - 0xDC00) = c.toNat := by omega
      rw [hsum, Char.ofNat_toNat]
    · simp only [isHigh, hhigh, Bool.and_eq_true, decide_eq_true_eq]
      omega
    · simp only [isLow, hlow, Bool.and_eq_true, decide_eq_true_eq]
      omega

theorem toChars_flatMap_ofChar (cs : List Char) : toChars (cs.flatMap ofChar) = cs := by
  induction cs with
  | nil => rfl
  | cons c rest ih => rw [List.flatMap_cons, toChars_ofChar_append, ih]

/-- The units of a text spell the text. -/
@[simp] theorem toString_ofString (s : String) : (ofString s).toString = s := by
  rw [toString, ofString, toChars_flatMap_ofChar, String.ofList_toList]

theorem ofString_eq_nil_iff {s : String} : ofString s = [] ↔ s = "" := by
  constructor
  · intro h
    have hs := toString_ofString s
    rw [h] at hs
    exact hs.symm
  · rintro rfl
    rfl

end Units

/-! ## Strings -/

open Reader Writer

theorem hexDigit?_hexDigit : ∀ n < 16, hexDigit? (hexDigit n) = some n := by decide

/-- Four digits name the unit that they were written for. -/
theorem string_hexEscape (u : UInt16) (rest : List Char) :
    Reader.string (hexEscape u ++ rest)
      = (Reader.string rest).map fun (units, rest) => (u :: units, rest) := by
  have hbound : u.toNat < 0x10000 := u.toNat_lt
  have hunit : hexUnit? (hexDigit (u.toNat / 4096)) (hexDigit (u.toNat / 256 % 16))
      (hexDigit (u.toNat / 16 % 16)) (hexDigit (u.toNat % 16)) = some u := by
    have hvalue : ((u.toNat / 4096 * 16 + u.toNat / 256 % 16) * 16 + u.toNat / 16 % 16) * 16
        + u.toNat % 16 = u.toNat := by omega
    rw [hexUnit?, hexDigit?_hexDigit _ (by omega), hexDigit?_hexDigit _ (by omega),
        hexDigit?_hexDigit _ (by omega), hexDigit?_hexDigit _ (by omega)]
    simp only [Option.bind_eq_bind, Option.bind_some, Option.pure_def]
    rw [hvalue]
    exact congrArg some UInt16.ofNat_toNat
  simp only [hexEscape, List.cons_append, List.nil_append]
  rw [Reader.string, hunit]

theorem string_plain {c : Char} (hquote : c ≠ '"') (hslash : c ≠ '\\') (hprint : ¬ c < ' ')
    (rest : List Char) : Reader.string (c :: rest)
      = (Reader.string rest).map fun (units, rest) => (Units.ofChar c ++ units, rest) := by
  rw [Reader.string.eq_def]
  split
  · rename_i heq
    cases heq
  · rename_i heq
    exact absurd (List.cons.inj heq).1 hquote
  · rename_i heq
    exact absurd (List.cons.inj heq).1 hslash
  · rename_i heq
    exact absurd (List.cons.inj heq).1 hslash
  · rename_i heq
    obtain ⟨rfl, rfl⟩ := List.cons.inj heq
    rw [if_neg (by simp [hprint, hslash])]

theorem toNat_ofNat_of_printable {n : Nat} (h : 0x20 ≤ n ∧ n ≤ 0x7E) :
    (Char.ofNat n).toNat = n := by
  have hvalid : n.isValidChar := .inl (by omega)
  rw [Char.ofNat, dif_pos hvalid]
  rfl

/-- A printable character that the writer leaves as it is stands for its own unit. -/
theorem string_printable {u : UInt16} (hprint : 0x20 ≤ u.toNat ∧ u.toNat ≤ 0x7E)
    (hquote : u.toNat ≠ 0x22) (hslash : u.toNat ≠ 0x5C) (rest : List Char) :
    Reader.string (Char.ofNat u.toNat :: rest)
      = (Reader.string rest).map fun (units, rest) => (u :: units, rest) := by
  have hnat := toNat_ofNat_of_printable hprint
  have hunits : Units.ofChar (Char.ofNat u.toNat) = [u] := by
    rw [Units.ofChar, hnat, if_pos (by omega)]
    exact congrArg (fun v => [v]) UInt16.ofNat_toNat
  have hne : ∀ c : Char, u.toNat ≠ c.toNat → Char.ofNat u.toNat ≠ c :=
    fun c hc heq => hc (heq ▸ hnat.symm)
  have hspace : ¬ Char.ofNat u.toNat < ' ' := by
    intro hlt
    have hsmall : (Char.ofNat u.toNat).toNat < 0x20 := hlt
    omega
  rw [string_plain (hne '"' hquote) (hne '\\' hslash) hspace, hunits]
  rfl

/-- Reading takes back one unit that was written, in whichever form it was. -/
theorem string_unit (u : UInt16) (rest : List Char) :
    Reader.string (Writer.unit u ++ rest)
      = (Reader.string rest).map fun (units, rest) => (u :: units, rest) := by
  unfold Writer.unit
  split_ifs with hquote hslash hline hreturn htab hform hback hprint
  · subst hquote; rfl
  · subst hslash; rfl
  · subst hline; rfl
  · subst hreturn; rfl
  · subst htab; rfl
  · subst hform; rfl
  · subst hback; rfl
  · have hne : ∀ v : UInt16, u ≠ v → u.toNat ≠ v.toNat :=
      fun v hv heq => hv (UInt16.toNat_inj.mp heq)
    exact string_printable (by simpa using hprint) (hne _ hquote) (hne _ hslash) rest
  · exact string_hexEscape u rest

/-- Reading behind the opening quote takes back the units of a string. -/
theorem string_flatMap_unit (units : Units) (rest : List Char) :
    Reader.string (units.flatMap Writer.unit ++ '"' :: rest) = .ok (units, rest) := by
  induction units with
  | nil => rfl
  | cons u units ih =>
    rw [List.flatMap_cons, List.append_assoc, string_unit, ih]
    rfl

end EditorAnalysis.Json
