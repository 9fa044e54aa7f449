/-
EditorAnalysis.Proofs.Version.Canonical — the one form in which a version is written.

Many texts are read as the same version: numerals may begin with zeros, white space may stand
at the ends, dots behind the last number and anything behind the third one do not count, and
numbers may be missing. A version is written in one form only (`IsCanonical`): three numerals
without zeros in front, dots between them, and nothing else. The texts in this form are those
that reading and writing leave alone (`map_render_parse?_eq_some_iff`).

What is written is also read as a release, whatever version was read before. Releases lose the
zeros at their ends before they are compared, and are still ordered as the versions are, which
keep their three numbers (`order_release_eq_lt_iff`, `order_release_eq_eq_iff`).
-/
import EditorAnalysis.Proofs.Version.Grammar
import EditorAnalysis.Proofs.Version.Order

namespace EditorAnalysis

namespace Text.Numeral

theorem digitChar_digitValue {c : Char} (h : c.isDigit = true) :
    Nat.digitChar (digitValue c) = c := by
  have hlt := digitValue_lt h
  simp only [Char.isDigit, Bool.and_eq_true, decide_eq_true_eq] at h
  have hleast : 48 ≤ c.toNat := h.1
  refine Char.toNat_inj.mp ?_
  rw [Nat.toNat_digitChar_of_lt_ten hlt]
  exact Nat.add_sub_cancel' hleast

theorem write_digitValue {c : Char} (h : c.isDigit = true) : write (digitValue c) = [c] := by
  rw [write, Nat.toDigits_of_lt_base (digitValue_lt h), digitChar_digitValue h]

/-- Digits behind the shortest numeral of a number that is not zero make the shortest numeral of
what they come to together. -/
theorem write_append {n : Nat} (hn : 0 < n) {cs : List Char}
    (h : ∀ c ∈ cs, c.isDigit = true) : write n ++ cs = write (Nat.ofDigitChars 10 cs n) := by
  induction cs generalizing n with
  | nil => simp [Nat.ofDigitChars]
  | cons c cs ih =>
    have hc := h c List.mem_cons_self
    have hnext : write n ++ [c] = write (10 * n + digitValue c) := by
      rw [← write_digitValue hc]
      exact Nat.toDigits_append_toDigits (by decide) hn (digitValue_lt hc)
    calc write n ++ c :: cs = (write n ++ [c]) ++ cs := by simp
      _ = write (10 * n + digitValue c) ++ cs := by rw [hnext]
      _ = write (Nat.ofDigitChars 10 cs (10 * n + digitValue c)) :=
          ih (by omega) fun d hd => h d (List.mem_cons_of_mem c hd)
      _ = write (Nat.ofDigitChars 10 (c :: cs) n) := by
          rw [Nat.ofDigitChars_cons, digitValue]

end Text.Numeral

namespace Version

/-! ## Shortest numerals -/

/-- A numeral that begins with zero only if it has no other digit. -/
structure IsShortest (cs : List Char) : Prop extends IsNumeral cs where
  first : cs.head? = some '0' → cs = ['0']

/-- A shortest numeral is the one that its number is written with. -/
theorem IsShortest.write_decimal {cs : List Char} (h : IsShortest cs) :
    Text.Numeral.write (decimal cs) = cs := by
  cases cs with
  | nil => exact absurd rfl h.ne_nil
  | cons c cs =>
    by_cases hzero : c = '0'
    · subst hzero
      rw [h.first rfl]
      rfl
    · have hc := h.digits c List.mem_cons_self
      have hpos : 0 < Text.Numeral.digitValue c := by
        refine Nat.pos_of_ne_zero fun hnone => hzero ?_
        rw [← Text.Numeral.digitChar_digitValue hc, hnone]
        rfl
      have happend := Text.Numeral.write_append hpos fun d hd =>
        h.digits d (List.mem_cons_of_mem c hd)
      rw [Text.Numeral.write_digitValue hc, Text.Numeral.digitValue] at happend
      rw [decimal, Nat.ofDigitChars_cons, Nat.mul_zero, Nat.zero_add, ← happend,
          List.singleton_append]

/-- What a number is written with is a shortest numeral, if it is a numeral that can be read:
without a zero in front of it, it would be shorter than any numeral of the number. -/
theorem isShortest_write {n : Nat}
    (h : Text.Numeral.read? (Text.Numeral.write n) = some n) :
    IsShortest (Text.Numeral.write n) := by
  obtain ⟨hnumeral, -⟩ := read?_eq_some_iff_isNumeral.mp h
  refine ⟨hnumeral, fun hfirst => ?_⟩
  obtain ⟨rest, hrest⟩ := List.head?_eq_some_iff.mp hfirst
  by_cases hnil : rest = []
  · rw [hrest, hnil]
  · have hvalue : Text.Numeral.value rest = n := by
      rw [← Text.Numeral.value_write n, hrest]
      rfl
    have hlength := Text.Numeral.length_write_value_le hnil fun d hd =>
      hnumeral.digits d (hrest ▸ List.mem_cons_of_mem '0' hd)
    rw [hvalue, hrest, List.length_cons] at hlength
    omega

/-! ## The canonical form -/

/-- Three shortest numerals with dots between them, and nothing else. -/
def IsCanonical (cs : List Char) : Prop :=
  ∃ a b c, IsShortest a ∧ IsShortest b ∧ IsShortest c ∧ cs = a ++ '.' :: (b ++ '.' :: c)

theorem isCanonical_render {v : Version} (h : v.Readable) : IsCanonical v.render.toList :=
  ⟨_, _, _, isShortest_write (h v.major (by simp)), isShortest_write (h v.minor (by simp)),
    isShortest_write (h v.patch (by simp)), toList_render v⟩

theorem not_isBlank_of_isDigit {c : Char} (h : c.isDigit = true) : Text.isBlank c = false := by
  have hall : ∀ n < 10, Text.isBlank (Nat.digitChar n) = false := by decide
  rw [← Text.Numeral.digitChar_digitValue h]
  exact hall _ (Text.Numeral.digitValue_lt h)

theorem ofChars?_numerals {a b c : List Char} (ha : IsNumeral a) (hb : IsNumeral b)
    (hc : IsNumeral c) : ofChars? (a ++ '.' :: (b ++ '.' :: c))
      = some ⟨decimal a, decimal b, decimal c⟩ := by
  have htrim : Text.trimChars (a ++ '.' :: (b ++ '.' :: c)) = a ++ '.' :: (b ++ '.' :: c) := by
    refine Text.trimWhile_of_forall fun d hd => ?_
    simp only [List.mem_append, List.mem_cons] at hd
    rcases hd with hd | rfl | hd | rfl | hd
    · exact not_isBlank_of_isDigit (ha.digits d hd)
    · rfl
    · exact not_isBlank_of_isDigit (hb.digits d hd)
    · rfl
    · exact not_isBlank_of_isDigit (hc.digits d hd)
  have hpieces : numberPieces (a ++ '.' :: (b ++ '.' :: c)) = [a, b, c] := by
    simpa using numberPieces_three ha hb hc 0
  rw [ofChars?_eq_some_iff, htrim, hpieces]
  exact ⟨by simpa using ⟨ha, hb, hc⟩, rfl⟩

/-- A version that can be read back is read from what it is written as. -/
theorem parse?_render {v : Version} (h : v.Readable) : parse? v.render = some v := by
  have hnumeral : ∀ n ∈ [v.major, v.minor, v.patch],
      IsNumeral (Text.Numeral.write n) ∧ decimal (Text.Numeral.write n) = n := fun n hn =>
    read?_eq_some_iff_isNumeral.mp (h n hn)
  obtain ⟨hmajor, hmajor'⟩ := hnumeral v.major (by simp)
  obtain ⟨hminor, hminor'⟩ := hnumeral v.minor (by simp)
  obtain ⟨hpatch, hpatch'⟩ := hnumeral v.patch (by simp)
  rw [parse?, toList_render, ofChars?_numerals hmajor hminor hpatch, hmajor', hminor', hpatch']

/-- Reading and writing leave alone exactly the texts in canonical form. -/
theorem map_render_parse?_eq_some_iff {text : String} :
    (parse? text).map render = some text ↔ IsCanonical text.toList := by
  constructor
  · intro h
    obtain ⟨v, hv, rfl⟩ := Option.map_eq_some_iff.mp h
    exact isCanonical_render (readable_of_parse? hv)
  · rintro ⟨a, b, c, ha, hb, hc, htext⟩
    have hparse : parse? text = some ⟨decimal a, decimal b, decimal c⟩ := by
      rw [parse?, htext, ofChars?_numerals ha.toIsNumeral hb.toIsNumeral hc.toIsNumeral]
    have hrender : render ⟨decimal a, decimal b, decimal c⟩ = text := by
      refine String.toList_injective ?_
      rw [toList_render, ha.write_decimal, hb.write_decimal, hc.write_decimal, htext]
    rw [hparse, Option.map_some, hrender]

/-! ## Versions that were read -/

/-- **Canonical form and order.** A version that was read from any text is written in canonical
form, and what is written is read as the same version again, and as a release. Reading and
writing leave alone the texts in canonical form and no others. Of two versions that were read,
the one that is before the other has the lesser release, and they are the same exactly if their
releases are. -/
theorem canonical_form_and_order :
    (∀ (text : String) (v : Version), parse? text = some v →
      parse? v.render = some v ∧ IsCanonical v.render.toList ∧ ∃ r, v.release? = some r) ∧
    (∀ text : String, (parse? text).map render = some text ↔ IsCanonical text.toList) ∧
    ∀ (text text' : String) (v w : Version), parse? text = some v → parse? text' = some w →
      ∃ r s, v.release? = some r ∧ w.release? = some s ∧
        (v < w ↔ Release.order r s = .lt) ∧ (v = w ↔ Release.order r s = .eq) := by
  refine ⟨fun text v h => ?_, fun text => map_render_parse?_eq_some_iff,
    fun text text' v w hv hw => ?_⟩
  · have hreadable := readable_of_parse? h
    exact ⟨parse?_render hreadable, isCanonical_render hreadable, _,
      release?_eq_of_readable hreadable⟩
  · exact ⟨_, _, release?_eq_of_readable (readable_of_parse? hv),
      release?_eq_of_readable (readable_of_parse? hw), (order_release_eq_lt_iff v w).symm,
      (order_release_eq_eq_iff v w).symm⟩

/-- Two texts far from the canonical form. The release of the first version has zeros at its end
and loses them all. -/
theorem canonical_form_and_order_of_padded_texts :
    parse? " 001.\n" = some ⟨1, 0, 0⟩ ∧ parse? "1.00.02.x" = some ⟨1, 0, 2⟩ ∧
      (parse? (render ⟨1, 0, 0⟩) = some ⟨1, 0, 0⟩ ∧ IsCanonical (render ⟨1, 0, 0⟩).toList ∧
        ∃ r, release? ⟨1, 0, 0⟩ = some r) ∧
      ∃ r s, release? ⟨1, 0, 0⟩ = some r ∧ release? ⟨1, 0, 2⟩ = some s ∧
        ((⟨1, 0, 0⟩ : Version) < ⟨1, 0, 2⟩ ↔ Release.order r s = .lt) ∧
        ((⟨1, 0, 0⟩ : Version) = ⟨1, 0, 2⟩ ↔ Release.order r s = .eq) := by
  have hv : parse? " 001.\n" = some ⟨1, 0, 0⟩ := by decide +kernel
  have hw : parse? "1.00.02.x" = some ⟨1, 0, 2⟩ := by decide +kernel
  exact ⟨hv, hw, canonical_form_and_order.1 _ _ hv, canonical_form_and_order.2.2 _ _ _ _ hv hw⟩

end Version

end EditorAnalysis
