/-
EditorAnalysis.Proofs.Version.Grammar — the texts that are read as versions.

`Spells` is the grammar: up to three numerals between dots, dots at the end, and behind a third
numeral and a dot anything at all. Reading takes another way. It drops the dots at the end
first, cuts the rest at its dots and looks at three pieces at most. The two meet because a
numeral holds no dot: what is cut off at the end is dots only (`exists_eq_append_dots`), and the
pieces are the numerals (`numberPieces_one`, `numberPieces_two`, `numberPieces_three`).
-/
import EditorAnalysis.Proofs.Text.Search
import EditorAnalysis.Proofs.Version.Extract
import Mathlib.Data.List.DropRight

namespace EditorAnalysis.Version

/-! ## The grammar -/

/-- One to 4300 ASCII digits, leading zeros counted. -/
structure IsNumeral (cs : List Char) : Prop where
  ne_nil : cs ≠ []
  digits : ∀ c ∈ cs, c.isDigit = true
  length_le : cs.length ≤ 4300

/-- The number that digits stand for in decimal notation. -/
def decimal (cs : List Char) : Nat := Nat.ofDigitChars 10 cs 0

/-- The text spells the version. -/
inductive Spells : List Char → Version → Prop
  /-- One numeral and dots. -/
  | major {a : List Char} (dots : Nat) : IsNumeral a →
      Spells (a ++ List.replicate dots '.') ⟨decimal a, 0, 0⟩
  /-- Two numerals and dots. -/
  | minor {a b : List Char} (dots : Nat) : IsNumeral a → IsNumeral b →
      Spells (a ++ '.' :: (b ++ List.replicate dots '.')) ⟨decimal a, decimal b, 0⟩
  /-- Three numerals and dots. -/
  | patch {a b c : List Char} (dots : Nat) : IsNumeral a → IsNumeral b → IsNumeral c →
      Spells (a ++ '.' :: (b ++ '.' :: (c ++ List.replicate dots '.')))
        ⟨decimal a, decimal b, decimal c⟩
  /-- Three numerals, a dot and any text. -/
  | more {a b c : List Char} (rest : List Char) : IsNumeral a → IsNumeral b → IsNumeral c →
      Spells (a ++ '.' :: (b ++ '.' :: (c ++ '.' :: rest))) ⟨decimal a, decimal b, decimal c⟩

/-! ## Numerals -/

theorem read?_eq_some_iff_isNumeral {cs : List Char} {n : Nat} :
    Text.Numeral.read? cs = some n ↔ IsNumeral cs ∧ decimal cs = n := by
  rw [Text.Numeral.read?_eq_some_iff, Text.Numeral.value_eq_ofDigitChars]
  constructor
  · rintro ⟨hne, hdigits, hlength, hvalue⟩
    exact ⟨⟨hne, hdigits, hlength⟩, hvalue⟩
  · rintro ⟨⟨hne, hdigits, hlength⟩, hvalue⟩
    exact ⟨hne, hdigits, hlength, hvalue⟩

theorem mapM_read?_eq_some_iff {ps : List (List Char)} {numbers : List Nat} :
    ps.mapM Text.Numeral.read? = some numbers ↔
      (∀ p ∈ ps, IsNumeral p) ∧ ps.map decimal = numbers := by
  induction ps generalizing numbers with
  | nil => simp [eq_comm]
  | cons p ps ih =>
    simp only [List.mapM_cons, Option.bind_eq_bind, Option.pure_def, Option.bind_eq_some_iff,
      Option.some.injEq, read?_eq_some_iff_isNumeral, ih, List.forall_mem_cons, List.map_cons]
    constructor
    · rintro ⟨n, ⟨hp, rfl⟩, ns, ⟨hps, rfl⟩, rfl⟩
      exact ⟨⟨hp, hps⟩, rfl⟩
    · rintro ⟨⟨hp, hps⟩, rfl⟩
      exact ⟨decimal p, ⟨hp, rfl⟩, ps.map decimal, ⟨hps, rfl⟩, rfl⟩

theorem IsNumeral.dot_not_mem {cs : List Char} (h : IsNumeral cs) : '.' ∉ cs := by
  intro hdot
  exact absurd (h.digits _ hdot) (by decide)

/-! ## Dots at the end -/

theorem dropTrailingDots_eq_rdropWhile (cs : List Char) :
    dropTrailingDots cs = cs.rdropWhile (· == '.') := rfl

/-- Only dots are dropped. -/
theorem exists_eq_append_dots (cs : List Char) :
    ∃ n, cs = dropTrailingDots cs ++ List.replicate n '.' := by
  refine ⟨(cs.rtakeWhile (· == '.')).length, ?_⟩
  have hdots : ∀ c ∈ cs.rtakeWhile (· == '.'), c = '.' := by
    intro c hc
    simpa using List.mem_rtakeWhile_imp hc
  rw [← List.eq_replicate_of_mem hdots, dropTrailingDots_eq_rdropWhile,
      List.rdropWhile_append_rtakeWhile]

/-- Dropping stops within the second part, unless nothing of it is left. -/
theorem dropTrailingDots_append (front rest : List Char) : dropTrailingDots (front ++ rest) =
    if dropTrailingDots rest = [] then dropTrailingDots front
    else front ++ dropTrailingDots rest := by
  simp only [dropTrailingDots, List.reverse_append, List.dropWhile_append]
  by_cases h : rest.reverse.dropWhile (· == '.') = [] <;> simp [h]

theorem dropTrailingDots_replicate (n : Nat) : dropTrailingDots (List.replicate n '.') = [] := by
  rw [dropTrailingDots_eq_rdropWhile, List.rdropWhile_eq_nil_iff]
  intro c hc
  simp [List.eq_of_mem_replicate hc]

/-- The dots behind a numeral are dropped, whatever stands in front of it, and no more. -/
theorem IsNumeral.dropTrailingDots_append_dots {a : List Char} (h : IsNumeral a)
    (front : List Char) (n : Nat) :
    dropTrailingDots (front ++ (a ++ List.replicate n '.')) = front ++ a := by
  have hself : dropTrailingDots a = a := by
    rw [dropTrailingDots_eq_rdropWhile, List.rdropWhile_eq_self_iff]
    intro hne hlast
    have hdot : a.getLast hne = '.' := by simpa using hlast
    exact h.dot_not_mem (hdot ▸ List.getLast_mem hne)
  have hdots : dropTrailingDots (a ++ List.replicate n '.') = a := by
    rw [dropTrailingDots_append, if_pos (dropTrailingDots_replicate n), hself]
  rw [dropTrailingDots_append, hdots, if_neg h.ne_nil]

/-! ## Pieces -/

/-- A version is read when all its pieces are numerals. -/
theorem ofChars?_eq_some_iff {cs : List Char} {v : Version} : ofChars? cs = some v ↔
    (∀ p ∈ numberPieces (Text.trimChars cs), IsNumeral p) ∧
      ofNumbers ((numberPieces (Text.trimChars cs)).map decimal) = v := by
  have hread : ofChars? cs = if dropTrailingDots (Text.trimChars cs) = [] then none else
      ((numberPieces (Text.trimChars cs)).mapM Text.Numeral.read?).map ofNumbers := by
    simp [ofChars?, numberPieces]
  rw [hread]
  by_cases hbody : dropTrailingDots (Text.trimChars cs) = []
  · -- the one piece of nothing is no numeral
    have hpieces : numberPieces (Text.trimChars cs) = [[]] := by
      rw [numberPieces, hbody]
      rfl
    simp only [if_pos hbody, hpieces, reduceCtorEq, false_iff, not_and]
    intro hall
    exact absurd rfl (hall [] (by simp)).ne_nil
  · simp [if_neg hbody, Option.map_eq_some_iff, mapM_read?_eq_some_iff, and_assoc]

theorem numberPieces_one {a : List Char} (ha : IsNumeral a) (dots : Nat) :
    numberPieces (a ++ List.replicate dots '.') = [a] := by
  have hbody : dropTrailingDots (a ++ List.replicate dots '.') = a :=
    ha.dropTrailingDots_append_dots [] dots
  rw [numberPieces, hbody, pieces, Text.splitOn_of_not_mem ha.dot_not_mem]
  rfl

theorem numberPieces_two {a b : List Char} (ha : IsNumeral a) (hb : IsNumeral b) (dots : Nat) :
    numberPieces (a ++ '.' :: (b ++ List.replicate dots '.')) = [a, b] := by
  have hbody : dropTrailingDots (a ++ '.' :: (b ++ List.replicate dots '.')) = a ++ '.' :: b := by
    simpa using hb.dropTrailingDots_append_dots (a ++ ['.']) dots
  rw [numberPieces, hbody, pieces, Text.splitOn_append _ ha.dot_not_mem,
      Text.splitOn_of_not_mem hb.dot_not_mem]
  rfl

/-- Three numerals are the pieces, whether they end the text or a dot follows. -/
theorem take_pieces_three {a b c behind : List Char} (ha : IsNumeral a) (hb : IsNumeral b)
    (hc : IsNumeral c) (hbehind : behind = [] ∨ ∃ rest, behind = '.' :: rest) :
    (pieces (a ++ '.' :: (b ++ '.' :: (c ++ behind)))).take 3 = [a, b, c] := by
  rw [pieces, Text.splitOn_append _ ha.dot_not_mem, Text.splitOn_append _ hb.dot_not_mem]
  rcases hbehind with rfl | ⟨rest, rfl⟩
  · rw [List.append_nil, Text.splitOn_of_not_mem hc.dot_not_mem]
    rfl
  · rw [Text.splitOn_append _ hc.dot_not_mem]
    rfl

theorem numberPieces_three {a b c : List Char} (ha : IsNumeral a) (hb : IsNumeral b)
    (hc : IsNumeral c) (dots : Nat) :
    numberPieces (a ++ '.' :: (b ++ '.' :: (c ++ List.replicate dots '.'))) = [a, b, c] := by
  have hbody : dropTrailingDots (a ++ '.' :: (b ++ '.' :: (c ++ List.replicate dots '.')))
      = a ++ '.' :: (b ++ '.' :: c) := by
    simpa using hc.dropTrailingDots_append_dots (a ++ '.' :: (b ++ ['.'])) dots
  rw [numberPieces, hbody]
  simpa using take_pieces_three ha hb hc (.inl rfl)

/-- What follows the third numeral and a dot may lose dots at its end, or be nothing but dots. -/
theorem numberPieces_more {a b c : List Char} (ha : IsNumeral a) (hb : IsNumeral b)
    (hc : IsNumeral c) (rest : List Char) :
    numberPieces (a ++ '.' :: (b ++ '.' :: (c ++ '.' :: rest))) = [a, b, c] := by
  obtain ⟨n, hrest⟩ := exists_eq_append_dots rest
  by_cases hnil : dropTrailingDots rest = []
  · have hdots : '.' :: rest = List.replicate (n + 1) '.' := by
      rw [hrest, hnil, List.nil_append, List.replicate_succ]
    rw [hdots]
    exact numberPieces_three ha hb hc (n + 1)
  · have hbody : dropTrailingDots (a ++ '.' :: (b ++ '.' :: (c ++ '.' :: rest)))
        = a ++ '.' :: (b ++ '.' :: (c ++ '.' :: dropTrailingDots rest)) := by
      have happend := dropTrailingDots_append (a ++ '.' :: (b ++ '.' :: (c ++ ['.']))) rest
      rw [if_neg hnil] at happend
      simpa using happend
    rw [numberPieces, hbody]
    exact take_pieces_three ha hb hc (.inr ⟨_, rfl⟩)

/-! ## Reading -/

/-- A text whose pieces are numerals is spelled by the grammar. -/
theorem spells_of_numberPieces {cs : List Char} (h : ∀ p ∈ numberPieces cs, IsNumeral p) :
    Spells cs (ofNumbers ((numberPieces cs).map decimal)) := by
  obtain ⟨n, hcs⟩ := exists_eq_append_dots cs
  rw [numberPieces] at h ⊢
  generalize dropTrailingDots cs = body at h hcs ⊢
  subst hcs
  rcases Text.splitOn_cases '.' body with hone | ⟨a, body, rfl, hpieces⟩
  · rw [pieces, hone] at h ⊢
    exact .major n (h body (by simp))
  rw [pieces, hpieces] at h ⊢
  rcases Text.splitOn_cases '.' body with htwo | ⟨b, body, rfl, hpieces⟩
  · rw [htwo] at h ⊢
    simpa [ofNumbers] using Spells.minor n (h a (by simp)) (h body (by simp))
  rw [hpieces] at h ⊢
  rcases Text.splitOn_cases '.' body with hthree | ⟨c, body, rfl, hpieces⟩
  · rw [hthree] at h ⊢
    simpa [ofNumbers] using Spells.patch n (h a (by simp)) (h b (by simp)) (h body (by simp))
  · rw [hpieces] at h ⊢
    simpa [ofNumbers] using Spells.more (body ++ List.replicate n '.') (h a (by simp)) (h b (by simp))
      (h c (by simp))

theorem numberPieces_of_spells {cs : List Char} {v : Version} (h : Spells cs v) :
    (∀ p ∈ numberPieces cs, IsNumeral p) ∧ ofNumbers ((numberPieces cs).map decimal) = v := by
  cases h with
  | major dots ha =>
    rw [numberPieces_one ha]
    exact ⟨by simpa using ha, rfl⟩
  | minor dots ha hb =>
    rw [numberPieces_two ha hb]
    exact ⟨by simpa using ⟨ha, hb⟩, rfl⟩
  | patch dots ha hb hc =>
    rw [numberPieces_three ha hb hc]
    exact ⟨by simpa using ⟨ha, hb, hc⟩, rfl⟩
  | more rest ha hb hc =>
    rw [numberPieces_more ha hb hc]
    exact ⟨by simpa using ⟨ha, hb, hc⟩, rfl⟩

/-- **What is read as a version.** White space at its ends aside, a text is read as a version
exactly when the grammar spells it, and the version that is read is the one that it spells. -/
theorem parse?_eq_some_iff_spells (text : String) (v : Version) :
    parse? text = some v ↔ Spells (Text.trim text).toList v := by
  rw [parse?, Text.trim, String.toList_ofList, ofChars?_eq_some_iff]
  constructor
  · rintro ⟨hpieces, rfl⟩
    exact spells_of_numberPieces hpieces
  · exact numberPieces_of_spells

example : parse? " 007.1..\n" = some ⟨7, 1, 0⟩ := by decide +kernel

example : parse? "1.2.3. any text. ." = some ⟨1, 2, 3⟩ ∧ parse? "1.2 ." = none := by
  decide +kernel

end EditorAnalysis.Version
