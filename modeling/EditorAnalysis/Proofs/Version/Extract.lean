/-
EditorAnalysis.Proofs.Version.Extract — what an extracted version looks like, and when it
can be read.

Whichever way a version is found in a text, it begins with a decimal digit and consists of
digits and dots (`isDotted_of_extractChars?`). That is less than reading asks for: the
digits may be those of any script, two dots may follow each other, and a number may have any
length. `parse?_isSome_iff_of_isDotted` says what is missing. White space plays no part, as
no digit is white space.
-/
import EditorAnalysis.Version.Basic
import EditorAnalysis.Version.Extract
import EditorAnalysis.Proofs.Text.Blank
import Mathlib.Data.List.TakeWhile

namespace EditorAnalysis

namespace Text

/-- The places of the decimal digits, zero to nine in every script. -/
def decimalPlaces : List Nat := decimalZeros.flatMap fun z => List.range' z 10

theorem mem_decimalPlaces {c : Char} (h : isDecimalDigit c = true) : c.toNat ∈ decimalPlaces := by
  simp only [isDecimalDigit, decimalDigit?, Option.isSome_map, List.find?_isSome,
    Bool.and_eq_true, decide_eq_true_eq] at h
  obtain ⟨z, hz, hle, hlt⟩ := h
  exact List.mem_flatMap.mpr ⟨z, hz, List.mem_range'_1.mpr ⟨hle, hlt⟩⟩

/-- No decimal digit is white space. -/
theorem not_isBlank_of_isDecimalDigit {c : Char} (h : isDecimalDigit c = true) :
    isBlank c = false := by
  have hall : ∀ n ∈ decimalPlaces, isBlank (Char.ofNat n) = false := by decide +kernel
  simpa using hall c.toNat (mem_decimalPlaces h)

theorem trimWhile_of_forall {p : Char → Bool} {cs : List Char} (h : ∀ c ∈ cs, p c = false) :
    trimWhile p cs = cs :=
  trimWhile_of_ends (fun c hc => h c (List.mem_of_mem_head? hc))
    (fun c hc => h c (List.mem_of_mem_getLast? hc))

end Text

namespace Version

/-! ## What is extracted -/

/-- The characters begin with a decimal digit and consist of such digits and dots. -/
def IsDotted (cs : List Char) : Prop :=
  (∃ c rest, cs = c :: rest ∧ Text.isDecimalDigit c = true) ∧
    ∀ c ∈ cs, isVersionChar c = true

theorem isDotted_of_leading? {cs version : List Char} (h : leading? cs = some version) :
    IsDotted version := by
  cases cs with
  | nil => cases h
  | cons c rest =>
    rw [leading?] at h
    split at h
    · rename_i hdigit
      obtain rfl := Option.some.inj h
      refine ⟨⟨c, _, rfl, hdigit⟩, fun d hd => ?_⟩
      rcases List.mem_cons.mp hd with rfl | hd
      · simp [isVersionChar, hdigit]
      · exact List.mem_takeWhile_imp hd
    · cases h

section

-- the comparisons in it make the equation below expensive to check
attribute [local irreducible] Text.isBlank

theorem afterBlank?_cons (c : Char) (rest : List Char) : afterBlank? (c :: rest) =
    match (if Text.isBlank c then leading? rest else none) with
    | some version => some version
    | none => if c == '\n' then none else afterBlank? rest := rfl

end

theorem isDotted_of_afterBlank? {cs version : List Char} (h : afterBlank? cs = some version) :
    IsDotted version := by
  induction cs with
  | nil => cases h
  | cons c rest ih =>
    rw [afterBlank?_cons] at h
    split at h
    · rename_i found hfound
      obtain rfl := Option.some.inj h
      split at hfound
      · exact isDotted_of_leading? hfound
      · cases hfound
    · split at h
      · cases h
      · exact ih h

theorem isDotted_of_introducedBy? {name cs version : List Char}
    (h : introducedBy? name cs = some version) : IsDotted version := by
  induction cs with
  | nil => cases h
  | cons c rest ih =>
    rw [introducedBy?] at h
    split at h
    · rename_i found hfound
      obtain rfl := Option.some.inj h
      split at hfound
      · exact isDotted_of_afterBlank? hfound
      · cases hfound
    · exact ih h

theorem isDotted_of_extractChars? {cs version : List Char}
    (h : extractChars? cs = some version) : IsDotted version := by
  rcases Option.or_eq_some_iff.mp h with hname | ⟨-, hbare⟩
  · exact isDotted_of_introducedBy? hname
  · exact isDotted_of_leading? hbare

theorem isDotted_of_extract? {output version : String} (h : extract? output = some version) :
    IsDotted version.toList := by
  obtain ⟨cs, hcs, rfl⟩ := Option.map_eq_some_iff.mp h
  rw [String.toList_ofList]
  exact isDotted_of_extractChars? hcs

/-- An extracted version has a digit in front, which no blank text has. -/
theorem not_isBlankText_of_extract? {output version : String} (h : extract? output = some version) :
    Text.isBlankText version = false := by
  obtain ⟨⟨c, rest, hcons, hdigit⟩, -⟩ := isDotted_of_extract? h
  exact Text.isBlankText_eq_false_iff.mpr
    ⟨c, hcons ▸ List.mem_cons_self, Text.not_isBlank_of_isDecimalDigit hdigit⟩

/-! ## What can be read -/

/-- The pieces in which the numbers stand, three of them at most; dots at the end do not
count. -/
def numberPieces (cs : List Char) : List (List Char) := (pieces (dropTrailingDots cs)).take 3

/-- Each number is written with at least one ASCII digit, with nothing else, and with no more
digits than are read. -/
def HasNumerals (cs : List Char) : Prop :=
  ∀ piece ∈ numberPieces cs,
    piece ≠ [] ∧ (∀ c ∈ piece, c.isDigit = true) ∧ piece.length ≤ Text.Numeral.maxDigits

theorem isSome_read?_iff {cs : List Char} : (Text.Numeral.read? cs).isSome = true ↔
    cs ≠ [] ∧ (∀ c ∈ cs, c.isDigit = true) ∧ cs.length ≤ Text.Numeral.maxDigits := by
  simp [Option.isSome_iff_exists, Text.Numeral.read?_eq_some_iff]

theorem isSome_mapM_iff {α β : Type} {f : α → Option β} {xs : List α} :
    (xs.mapM f).isSome = true ↔ ∀ x ∈ xs, (f x).isSome = true := by
  induction xs with
  | nil => simp
  | cons x xs ih =>
    rw [List.forall_mem_cons, ← ih, List.mapM_cons]
    cases f x <;> cases xs.mapM f <;> simp

theorem trimChars_of_isDotted {cs : List Char} (h : IsDotted cs) : Text.trimChars cs = cs := by
  refine Text.trimWhile_of_forall fun c hc => ?_
  rcases Bool.or_eq_true_iff.mp (h.2 c hc) with hdigit | hdot
  · exact Text.not_isBlank_of_isDecimalDigit hdigit
  · rw [beq_iff_eq.mp hdot]
    rfl

theorem dropTrailingDots_ne_nil {cs : List Char} (h : IsDotted cs) :
    dropTrailingDots cs ≠ [] := by
  obtain ⟨⟨c, rest, rfl, hdigit⟩, -⟩ := h
  intro hnil
  rw [dropTrailingDots, List.reverse_eq_nil_iff, List.dropWhile_eq_nil_iff] at hnil
  have hdot : c = '.' := by simpa using hnil c (by simp)
  rw [hdot] at hdigit
  exact absurd hdigit (by decide)

/-- An extracted version can be read exactly when its numbers are numerals. -/
theorem parse?_isSome_iff_of_isDotted {version : String} (h : IsDotted version.toList) :
    (parse? version).isSome = true ↔ HasNumerals version.toList := by
  have hbody : (dropTrailingDots version.toList).isEmpty = false := by
    simpa using dropTrailingDots_ne_nil h
  simp only [parse?, ofChars?, trimChars_of_isDotted h, hbody, Bool.false_eq_true, if_false,
    Option.isSome_map, isSome_mapM_iff, isSome_read?_iff]
  rfl

end Version

end EditorAnalysis
