/-
EditorAnalysis.Proofs.Version.Introduced — where in a text the extracted version stands.

Extraction is two searches, one inside the other: for a name, and behind it for white space
that a digit follows on the same line. `Introduces` says by places in the text what the two
look for. Each search either stops at the least place there is or finds that there is none
(`afterBlank?_cases`, `introducedBy?_cases`); the proofs are inductions over the text, in which
one more character in front moves every place by one (`blankBeforeDigit_cons_succ`,
`introduces_cons_succ`).

The white space before the digit may be the line feed itself. It is only the characters
between the name and that white space that must stay on the line.
-/
import EditorAnalysis.Proofs.Text.Blank
import EditorAnalysis.Proofs.Version.Extract

namespace EditorAnalysis

namespace Version

/-! ## The run of digits and dots -/

/-- The longest run of decimal digits and dots at the start of the characters. -/
def dottedRun (cs : List Char) : List Char :=
  cs.takeWhile fun c => Text.isDecimalDigit c || c == '.'

/-- A version stands at the start exactly when a digit does. -/
theorem leading?_eq (cs : List Char) :
    leading? cs = if cs.head?.any Text.isDecimalDigit then some (dottedRun cs) else none := by
  cases cs with
  | nil => rfl
  | cons c rest =>
    by_cases hc : Text.isDecimalDigit c = true
    · simp only [leading?, dottedRun, hc, if_true, List.head?_cons, Option.any_some,
        Bool.true_or, List.takeWhile_cons_of_pos]
      rfl
    · simp [leading?, hc]

/-! ## White space before a digit -/

/-- White space stands at place `k`, on the line with which the characters begin, and a decimal
digit stands right behind it. -/
structure BlankBeforeDigit (cs : List Char) (k : Nat) : Prop where
  sameLine : '\n' ∉ cs.take k
  blank : cs[k]?.any Text.isBlank = true
  digit : cs[k + 1]?.any Text.isDecimalDigit = true

theorem not_blankBeforeDigit_nil (k : Nat) : ¬ BlankBeforeDigit [] k := by
  intro h
  simpa using h.blank

theorem blankBeforeDigit_cons_zero {c : Char} {rest : List Char} :
    BlankBeforeDigit (c :: rest) 0 ↔
      Text.isBlank c = true ∧ rest.head?.any Text.isDecimalDigit = true := by
  rw [List.head?_eq_getElem?]
  constructor
  · intro h
    exact ⟨by simpa using h.blank, by simpa using h.digit⟩
  · rintro ⟨hblank, hdigit⟩
    exact ⟨by simp, by simpa using hblank, by simpa using hdigit⟩

theorem blankBeforeDigit_cons_succ {c : Char} {rest : List Char} {k : Nat} :
    BlankBeforeDigit (c :: rest) (k + 1) ↔ c ≠ '\n' ∧ BlankBeforeDigit rest k := by
  constructor
  · intro h
    have hline : '\n' ≠ c ∧ '\n' ∉ rest.take k := by simpa using h.sameLine
    exact ⟨hline.1.symm, hline.2, by simpa using h.blank, by simpa using h.digit⟩
  · rintro ⟨hc, h⟩
    refine ⟨?_, by simpa using h.blank, by simpa using h.digit⟩
    simpa using ⟨hc.symm, h.sameLine⟩

/-- White space before a digit ends the search. -/
theorem afterBlank?_cons_of_here {c : Char} {rest : List Char}
    (h : BlankBeforeDigit (c :: rest) 0) : afterBlank? (c :: rest) = some (dottedRun rest) := by
  obtain ⟨hblank, hdigit⟩ := blankBeforeDigit_cons_zero.mp h
  simp [afterBlank?_cons, leading?_eq, hblank, hdigit]

/-- Any other character is passed over, unless it ends the line. -/
theorem afterBlank?_cons_of_not_here {c : Char} {rest : List Char}
    (h : ¬ BlankBeforeDigit (c :: rest) 0) :
    afterBlank? (c :: rest) = if c = '\n' then none else afterBlank? rest := by
  have hnone : (if Text.isBlank c then leading? rest else none) = none := by
    split
    · rename_i hblank
      have hdigit : ¬ rest.head?.any Text.isDecimalDigit = true := fun hd =>
        h (blankBeforeDigit_cons_zero.mpr ⟨hblank, hd⟩)
      rw [leading?_eq, if_neg hdigit]
    · rfl
  simp [afterBlank?_cons, hnone]

/-- The search stops at the first white space before a digit on the line, or there is none. -/
theorem afterBlank?_cases : ∀ cs : List Char,
    (∃ k, BlankBeforeDigit cs k ∧ (∀ k', BlankBeforeDigit cs k' → k ≤ k') ∧
        afterBlank? cs = some (dottedRun (cs.drop (k + 1)))) ∨
      ((∀ k, ¬ BlankBeforeDigit cs k) ∧ afterBlank? cs = none)
  | [] => .inr ⟨not_blankBeforeDigit_nil, rfl⟩
  | c :: rest => by
      by_cases hhere : BlankBeforeDigit (c :: rest) 0
      · exact .inl ⟨0, hhere, fun k' _ => Nat.zero_le k', afterBlank?_cons_of_here hhere⟩
      rw [afterBlank?_cons_of_not_here hhere]
      by_cases hc : c = '\n'
      · -- the line is over
        refine .inr ⟨fun k hk => ?_, by rw [if_pos hc]⟩
        cases k with
        | zero => exact hhere hk
        | succ k => exact (blankBeforeDigit_cons_succ.mp hk).1 hc
      rw [if_neg hc]
      rcases afterBlank?_cases rest with ⟨k, hk, hleast, hfound⟩ | ⟨hnone, hfound⟩
      · refine .inl ⟨k + 1, blankBeforeDigit_cons_succ.mpr ⟨hc, hk⟩, fun k' hk' => ?_, hfound⟩
        cases k' with
        | zero => exact absurd hk' hhere
        | succ k' => exact Nat.succ_le_succ (hleast k' (blankBeforeDigit_cons_succ.mp hk').2)
      · refine .inr ⟨fun k hk => ?_, hfound⟩
        cases k with
        | zero => exact hhere hk
        | succ k => exact hnone k (blankBeforeDigit_cons_succ.mp hk).2

/-! ## A name in front of it -/

/-- The name stands at place `i`, white space behind it at place `j`, no line feed between the
two, and a decimal digit right behind the white space. -/
structure Introduces (name cs : List Char) (i j : Nat) : Prop where
  named : name <+: cs.drop i
  behind : i + name.length ≤ j
  sameLine : '\n' ∉ (cs.take j).drop (i + name.length)
  blank : cs[j]?.any Text.isBlank = true
  digit : cs[j + 1]?.any Text.isDecimalDigit = true

/-- The white space is found by the second search, started right behind the name. -/
theorem introduces_iff {name cs : List Char} {i j : Nat} :
    Introduces name cs i j ↔ name <+: cs.drop i ∧
      ∃ k, j = i + name.length + k ∧ BlankBeforeDigit (cs.drop (i + name.length)) k := by
  constructor
  · intro h
    obtain ⟨k, rfl⟩ := Nat.exists_eq_add_of_le h.behind
    refine ⟨h.named, k, rfl, ?_, ?_, ?_⟩
    · simpa [List.drop_take] using h.sameLine
    · simpa [List.getElem?_drop] using h.blank
    · simpa [List.getElem?_drop, Nat.add_assoc] using h.digit
  · rintro ⟨hnamed, k, rfl, h⟩
    refine ⟨hnamed, Nat.le_add_right _ _, ?_, ?_, ?_⟩
    · simpa [List.drop_take] using h.sameLine
    · simpa [List.getElem?_drop] using h.blank
    · simpa [List.getElem?_drop, Nat.add_assoc] using h.digit

theorem not_introduces_nil {name : List Char} (i j : Nat) : ¬ Introduces name [] i j := by
  intro h
  simpa using h.blank

theorem introduces_cons_succ {name cs : List Char} {c : Char} {i j : Nat} :
    Introduces name (c :: cs) (i + 1) j ↔ ∃ j', j = j' + 1 ∧ Introduces name cs i j' := by
  have hdrop : (c :: cs).drop (i + 1 + name.length) = cs.drop (i + name.length) := by
    rw [Nat.add_right_comm, List.drop_succ_cons]
  rw [introduces_iff, List.drop_succ_cons, hdrop]
  constructor
  · rintro ⟨hnamed, k, rfl, h⟩
    exact ⟨i + name.length + k, by omega, introduces_iff.mpr ⟨hnamed, k, rfl, h⟩⟩
  · rintro ⟨j', rfl, hbehind⟩
    obtain ⟨hnamed, k, rfl, h⟩ := introduces_iff.mp hbehind
    exact ⟨hnamed, k, by omega, h⟩

/-- The name and the white space are the first: no name that introduces a version stands before
place `i`, and behind that name no white space before a digit stands before place `j`. -/
structure FirstIntroduces (name cs : List Char) (i j : Nat) : Prop where
  introduces : Introduces name cs i j
  name_first : ∀ i' j', Introduces name cs i' j' → i ≤ i'
  blank_first : ∀ j', Introduces name cs i j' → j ≤ j'

theorem FirstIntroduces.cons {name cs : List Char} {c : Char} {i j : Nat}
    (h : FirstIntroduces name cs i j) (hnot : ∀ j', ¬ Introduces name (c :: cs) 0 j') :
    FirstIntroduces name (c :: cs) (i + 1) (j + 1) := by
  refine ⟨introduces_cons_succ.mpr ⟨j, rfl, h.introduces⟩, fun i' j' h' => ?_, fun j' h' => ?_⟩
  · cases i' with
    | zero => exact absurd h' (hnot j')
    | succ i' =>
      obtain ⟨j'', -, h''⟩ := introduces_cons_succ.mp h'
      exact Nat.succ_le_succ (h.name_first i' j'' h'')
  · obtain ⟨j'', rfl, h''⟩ := introduces_cons_succ.mp h'
    exact Nat.succ_le_succ (h.blank_first j'' h'')

/-- The search from the very place where it starts: the name stands there and introduces a
version, or it goes on with the next character. -/
theorem introducedBy?_cons_cases (name : List Char) (c : Char) (rest : List Char) :
    (∃ j, FirstIntroduces name (c :: rest) 0 j ∧
        introducedBy? name (c :: rest) = some (dottedRun ((c :: rest).drop (j + 1)))) ∨
      ((∀ j, ¬ Introduces name (c :: rest) 0 j) ∧
        introducedBy? name (c :: rest) = introducedBy? name rest) := by
  by_cases hname : name <+: c :: rest
  · have hprefix : name.isPrefixOf (c :: rest) = true := List.isPrefixOf_iff_prefix.mpr hname
    have hiff : ∀ j, Introduces name (c :: rest) 0 j ↔
        ∃ k, j = name.length + k ∧ BlankBeforeDigit ((c :: rest).drop name.length) k := by
      intro j
      simp [introduces_iff, hname]
    rcases afterBlank?_cases ((c :: rest).drop name.length) with
      ⟨k, hk, hleast, hfound⟩ | ⟨hnone, hfound⟩
    · refine .inl ⟨name.length + k, ⟨(hiff _).mpr ⟨k, rfl, hk⟩, fun _ _ _ => Nat.zero_le _, ?_⟩, ?_⟩
      · intro j' h'
        obtain ⟨k', rfl, hk'⟩ := (hiff _).mp h'
        exact Nat.add_le_add_left (hleast k' hk') _
      · rw [introducedBy?, if_pos hprefix, hfound, List.drop_drop, Nat.add_assoc]
    · refine .inr ⟨fun j h => ?_, ?_⟩
      · obtain ⟨k, -, hk⟩ := (hiff j).mp h
        exact hnone k hk
      · rw [introducedBy?, if_pos hprefix, hfound]
  · refine .inr ⟨fun j h => hname (by simpa using h.named), ?_⟩
    have hprefix : ¬ name.isPrefixOf (c :: rest) = true := by rwa [List.isPrefixOf_iff_prefix]
    rw [introducedBy?, if_neg hprefix]

/-- The search stops at the first name that introduces a version, or there is none. -/
theorem introducedBy?_cases (name : List Char) : ∀ cs : List Char,
    (∃ i j, FirstIntroduces name cs i j ∧
        introducedBy? name cs = some (dottedRun (cs.drop (j + 1)))) ∨
      ((∀ i j, ¬ Introduces name cs i j) ∧ introducedBy? name cs = none)
  | [] => .inr ⟨not_introduces_nil, rfl⟩
  | c :: rest => by
      rcases introducedBy?_cons_cases name c rest with ⟨j, hfirst, hfound⟩ | ⟨hnot, hnext⟩
      · exact .inl ⟨0, j, hfirst, hfound⟩
      rw [hnext]
      rcases introducedBy?_cases name rest with ⟨i, j, hfirst, hfound⟩ | ⟨hnone, hfound⟩
      · exact .inl ⟨i + 1, j + 1, hfirst.cons hnot, hfound⟩
      · refine .inr ⟨fun i j h => ?_, hfound⟩
        cases i with
        | zero => exact hnot j h
        | succ i =>
          obtain ⟨j', -, h'⟩ := introduces_cons_succ.mp h
          exact hnone i j' h'

/-! ## Extraction -/

/-- No text at all is read as the empty one: neither holds a version. -/
theorem bind_extract?_eq (text : Option String) : text.bind extract? =
    ((introducedBy? toolName.toList (Text.trimChars (text.getD "").toList)).or
      (leading? (Text.trimChars (text.getD "").toList))).map String.ofList := by
  cases text with
  | none => rfl
  | some output => rfl

/-- What is extracted is a piece of the text. -/
theorem infix_of_extract? {output version : String} (h : extract? output = some version) :
    version.toList <:+: output.toList := by
  obtain ⟨cs, hcs, rfl⟩ := Option.map_eq_some_iff.mp h
  rw [String.toList_ofList]
  have hrun : ∀ ds : List Char, dottedRun ds <:+: ds := fun ds =>
    (List.takeWhile_prefix _).isInfix
  have hbody : cs <:+: Text.trimChars output.toList := by
    rcases Option.or_eq_some_iff.mp hcs with hname | ⟨-, hbare⟩
    · rcases introducedBy?_cases toolName.toList (Text.trimChars output.toList) with
        ⟨i, j, -, hfound⟩ | ⟨-, hfound⟩
      · obtain rfl := Option.some.inj (hfound.symm.trans hname)
        exact (hrun _).trans (List.drop_suffix _ _).isInfix
      · rw [hfound] at hname
        cases hname
    · rw [leading?_eq] at hbare
      split at hbare
      · obtain rfl := Option.some.inj hbare
        exact hrun _
      · cases hbare
  exact hbody.trans (Text.isInfix_trimWhile _ _)

/-- **Which version is extracted.** White space at the ends of the text aside, it is the run of
digits and dots behind the first white space before a digit that follows the first tool name
which has one on its line. If no name introduces a version, it is the run at the very start of
the text, if a digit stands there, and else there is none. Whatever is extracted is a piece of
the text, not blank, that begins with a digit and holds only digits and dots. -/
theorem extract?_first_introduced (text : Option String) :
    let cs := Text.trimChars (text.getD "").toList
    ((∃ i j, Introduces "PHPStan".toList cs i j) →
      ∃ i j, FirstIntroduces "PHPStan".toList cs i j ∧
        text.bind extract? = some (String.ofList (dottedRun (cs.drop (j + 1))))) ∧
    ((∀ i j, ¬ Introduces "PHPStan".toList cs i j) →
      text.bind extract? = if cs.head?.any Text.isDecimalDigit then
        some (String.ofList (dottedRun cs)) else none) ∧
    ∀ version ∈ text.bind extract?,
      (∃ output ∈ text, version.toList <:+: output.toList) ∧
      Text.isBlankText version = false ∧
      version.toList.head?.any Text.isDecimalDigit = true ∧
      ∀ c ∈ version.toList, Text.isDecimalDigit c = true ∨ c = '.' := by
  intro cs
  have hextract : text.bind extract? =
      ((introducedBy? "PHPStan".toList cs).or (leading? cs)).map String.ofList :=
    bind_extract?_eq text
  refine ⟨?_, ?_, ?_⟩
  · rintro ⟨i, j, h⟩
    rcases introducedBy?_cases "PHPStan".toList cs with
      ⟨i', j', hfirst, hfound⟩ | ⟨hnone, -⟩
    · exact ⟨i', j', hfirst, by rw [hextract, hfound]; rfl⟩
    · exact absurd h (hnone i j)
  · intro hnone
    rcases introducedBy?_cases "PHPStan".toList cs with
      ⟨i, j, hfirst, -⟩ | ⟨-, hfound⟩
    · exact absurd hfirst.introduces (hnone i j)
    · rw [hextract, hfound, Option.none_or, leading?_eq]
      split <;> rfl
  · intro version hversion
    obtain ⟨output, houtput, hfound⟩ := Option.bind_eq_some_iff.mp hversion
    obtain ⟨⟨c, rest, hcons, hdigit⟩, hchars⟩ := isDotted_of_extract? hfound
    refine ⟨⟨output, houtput, infix_of_extract? hfound⟩, not_isBlankText_of_extract? hfound,
      by simp [hcons, hdigit], fun d hd => ?_⟩
    simpa [isVersionChar] using hchars d hd

/-- The first name has no version on its line, and behind the second one the white space is the
end of the line. In the other text the name comes too late. -/
theorem extract?_first_introduced_on_second_line :
    let banner := "PHPStan dev\nPHPStan - Tool\n1.12.27.\n"
    let bare := "1.12.27 PHPStan\n"
    Introduces "PHPStan".toList (Text.trimChars banner.toList) 12 26 ∧
    (∃ i j, FirstIntroduces "PHPStan".toList (Text.trimChars banner.toList) i j ∧
      (some banner).bind extract?
        = some (String.ofList (dottedRun ((Text.trimChars banner.toList).drop (j + 1))))) ∧
    (∀ i j, ¬ Introduces "PHPStan".toList (Text.trimChars bare.toList) i j) ∧
    (some bare).bind extract? = some "1.12.27" ∧
    (∃ output ∈ some bare, "1.12.27".toList <:+: output.toList) := by
  intro banner bare
  have hintroduces : Introduces "PHPStan".toList (Text.trimChars banner.toList) 12 26 :=
    ⟨by decide +kernel, by decide +kernel, by decide +kernel, by decide +kernel,
      by decide +kernel⟩
  have hnone : ∀ i j, ¬ Introduces "PHPStan".toList (Text.trimChars bare.toList) i j := by
    rcases introducedBy?_cases "PHPStan".toList (Text.trimChars bare.toList) with
      ⟨i, j, -, hfound⟩ | ⟨hnone, -⟩
    · have hnot : introducedBy? "PHPStan".toList (Text.trimChars bare.toList) = none := by
        decide +kernel
      rw [hnot] at hfound
      cases hfound
    · exact hnone
  have hbare : (some bare).bind extract? = some "1.12.27" :=
    ((extract?_first_introduced (some bare)).2.1 hnone).trans (by decide +kernel)
  exact ⟨hintroduces, (extract?_first_introduced (some banner)).1 ⟨12, 26, hintroduces⟩, hnone,
    hbare, ((extract?_first_introduced (some bare)).2.2 _ hbare).1⟩

end Version

end EditorAnalysis
