/-
EditorAnalysis.Text.Numeral — natural numbers written in decimal.

A numeral is a non-empty run of the ASCII digits. Numerals longer than
`maxDigits` are refused wherever a number is read from text, leading zeros
counted.
-/

namespace EditorAnalysis.Text.Numeral

/-- The greatest length of a numeral that is read as a number. -/
def maxDigits : Nat := 4300

/-- The value of an ASCII digit. -/
def digitValue (c : Char) : Nat := c.toNat - '0'.toNat

/-- The number a run of ASCII digits stands for; the empty run stands for zero. -/
def value (cs : List Char) : Nat :=
  cs.foldl (fun n c => 10 * n + digitValue c) 0

/-- Reads a numeral: digits only, at least one, at most `maxDigits`. -/
def read? (cs : List Char) : Option Nat :=
  if !cs.isEmpty && cs.all Char.isDigit && cs.length ≤ maxDigits then some (value cs) else none

/-- The shortest numeral of a number. -/
def write (n : Nat) : List Char := Nat.toDigits 10 n

/-! ## Reading back what is written -/

theorem value_eq_ofDigitChars (cs : List Char) : value cs = Nat.ofDigitChars 10 cs 0 :=
  Nat.ofDigitChars_eq_foldl.symm

@[simp] theorem value_write (n : Nat) : value (write n) = n := by
  rw [value_eq_ofDigitChars]
  exact Nat.ofDigitChars_ten_toDigits

theorem read?_eq_some_iff {cs : List Char} {n : Nat} :
    read? cs = some n ↔
      cs ≠ [] ∧ (∀ c ∈ cs, c.isDigit = true) ∧ cs.length ≤ maxDigits ∧ value cs = n := by
  simp [read?, and_assoc]

theorem digitValue_lt {c : Char} (h : c.isDigit = true) : digitValue c < 10 := by
  simp only [Char.isDigit, Bool.and_eq_true, decide_eq_true_eq] at h
  have h9 : c.toNat ≤ 57 := h.2
  simp only [digitValue, Char.reduceToNat]
  omega

/-- The shortest numeral of a number is no longer than any other. -/
theorem length_write_value_le {cs : List Char} (hne : cs ≠ [])
    (hd : ∀ c ∈ cs, c.isDigit = true) : (write (value cs)).length ≤ cs.length := by
  have hlt : ∀ (ds : List Char) (n : Nat), (∀ c ∈ ds, c.isDigit = true) →
      ds.foldl (fun n c => 10 * n + digitValue c) n < 10 ^ ds.length * (n + 1) := by
    intro ds
    induction ds with
    | nil => intro n _; simp
    | cons c ds ih =>
      intro n hds
      have hc := digitValue_lt (hds c (by simp))
      calc (c :: ds).foldl (fun n c => 10 * n + digitValue c) n
          < 10 ^ ds.length * (10 * n + digitValue c + 1) :=
            ih _ fun d h => hds d (by simp [h])
        _ ≤ 10 ^ ds.length * (10 * (n + 1)) := Nat.mul_le_mul_left _ (by omega)
        _ = 10 ^ (c :: ds).length * (n + 1) := by
            rw [List.length_cons, Nat.pow_succ, Nat.mul_assoc]
  refine (Nat.length_toDigits_le_iff (by decide) (List.length_pos_iff.mpr hne)).mpr ?_
  simpa [value] using hlt cs 0 hd

/-- A number that was read is read again from its shortest numeral: that one is not
refused for its length either. -/
theorem read?_write_of_read? {cs : List Char} {n : Nat} (h : read? cs = some n) :
    read? (write n) = some n := by
  obtain ⟨hne, hd, hlen, rfl⟩ := read?_eq_some_iff.mp h
  refine read?_eq_some_iff.mpr ⟨Nat.toDigits_ne_nil, ?_, ?_, value_write _⟩
  · intro c hc
    exact Nat.isDigit_of_mem_toDigits (by decide) (by decide) hc
  · exact Nat.le_trans (length_write_value_le hne hd) hlen

theorem exists_read?_of_mapM {pieces : List (List Char)} {numbers : List Nat}
    (h : pieces.mapM read? = some numbers) : ∀ n ∈ numbers, ∃ cs ∈ pieces, read? cs = some n := by
  induction pieces generalizing numbers with
  | nil =>
    obtain rfl : numbers = [] := by simpa using h.symm
    intro n hn
    cases hn
  | cons cs pieces ih =>
    simp only [List.mapM_cons, Option.bind_eq_bind, Option.pure_def, Option.bind_eq_some_iff,
      Option.some.injEq] at h
    obtain ⟨m, hm, ms, hms, rfl⟩ := h
    intro n hn
    rcases List.mem_cons.mp hn with rfl | hn
    · exact ⟨cs, List.mem_cons_self, hm⟩
    · obtain ⟨ds, hds, hread⟩ := ih hms n hn
      exact ⟨ds, List.mem_cons_of_mem cs hds, hread⟩

theorem dot_not_mem_write (n : Nat) : '.' ∉ write n := by
  intro h
  have hdigit := Nat.isDigit_of_mem_toDigits (by decide) (by decide) h
  exact absurd hdigit (by decide)

end EditorAnalysis.Text.Numeral
