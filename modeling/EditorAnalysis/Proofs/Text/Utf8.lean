/-
EditorAnalysis.Proofs.Text.Utf8 — texts as bytes and back, whole or cut short.

The first byte of a character says how many bytes are to follow and between which bounds the
next one lies; `Completes` says that some bytes are what follows. From there on a character
is read when its last byte is, and not before, so the bytes of a text are read as that text
(`pieces_encode_append`), and of a text that is cut short exactly the characters are read
whose bytes are all there (`prefix_decodeDropping_iff`).
-/
import EditorAnalysis.Text.Utf8
import Mathlib.Data.List.Basic

namespace EditorAnalysis.Text.Utf8

/-! ## A character under way -/

/-- The bytes complete the character under way: each of them continues it, and the last one
is the only one that is missing. -/
inductive Completes (c : Char) : Partial → Bytes → Prop where
  | last {p : Partial} {b : UInt8} (missing : p.missing = 1)
      (continues : p.least ≤ b.toNat ∧ b.toNat ≤ p.greatest)
      (char : Char.ofNat (p.bits * 64 + (b.toNat - 0x80)) = c) : Completes c p [b]
  | more {p : Partial} {b : UInt8} {tail : Bytes} (missing : 1 < p.missing)
      (continues : p.least ≤ b.toNat ∧ b.toNat ≤ p.greatest)
      (rest : Completes c ⟨p.missing - 1, 0x80, 0xBF, p.bits * 64 + (b.toNat - 0x80)⟩ tail) :
      Completes c p (b :: tail)

theorem step_last {p : Partial} {b : UInt8} (hmissing : p.missing = 1)
    (h : p.least ≤ b.toNat ∧ b.toNat ≤ p.greatest) :
    step (some p) b = ([.char (Char.ofNat (p.bits * 64 + (b.toNat - 0x80)))], none) := by
  simp [step, h, hmissing]

theorem step_more {p : Partial} {b : UInt8} (hmissing : 1 < p.missing)
    (h : p.least ≤ b.toNat ∧ b.toNat ≤ p.greatest) :
    step (some p) b
      = ([], some ⟨p.missing - 1, 0x80, 0xBF, p.bits * 64 + (b.toNat - 0x80)⟩) := by
  simp [step, h, Nat.not_le.mpr hmissing]

theorem Completes.piecesFrom_append {c : Char} {p : Partial} {tail : Bytes}
    (h : Completes c p tail) (rest : Bytes) :
    piecesFrom (some p) (tail ++ rest) = .char c :: piecesFrom none rest := by
  induction h with
  | last missing continues char =>
    rw [List.singleton_append, piecesFrom, step_last missing continues, char]
    rfl
  | more missing continues _ ih =>
    rw [List.cons_append, piecesFrom, step_more missing continues]
    exact ih

/-- Cut short, the character stays incomplete. -/
theorem Completes.piecesFrom_cut {c : Char} {p : Partial} {tail part : Bytes}
    (h : Completes c p tail) (hpart : part <+: tail) (hcut : part ≠ tail) :
    piecesFrom (some p) part = [.invalid] := by
  induction h generalizing part with
  | last missing continues char =>
    rcases List.prefix_cons_iff.mp hpart with rfl | ⟨part, rfl, hrest⟩
    · rfl
    · exact absurd (congrArg _ (List.prefix_nil.mp hrest)) hcut
  | more missing continues _ ih =>
    rcases List.prefix_cons_iff.mp hpart with rfl | ⟨part, rfl, hrest⟩
    · rfl
    · rw [piecesFrom, step_more missing continues]
      exact ih hrest fun heq => hcut (congrArg _ heq)

/-- The byte that holds six bits of a number behind the first byte of its character. -/
theorem toNat_continuation (n : Nat) : (UInt8.ofNat (n % 64 + 0x80)).toNat = n % 64 + 0x80 := by
  rw [UInt8.toNat_ofNat']
  omega

theorem completes_one {n least greatest : Nat}
    (h : least ≤ n % 64 + 0x80 ∧ n % 64 + 0x80 ≤ greatest) :
    Completes (Char.ofNat n) ⟨1, least, greatest, n / 64⟩ [UInt8.ofNat (n % 64 + 0x80)] := by
  rw [← toNat_continuation] at h
  refine .last rfl h (congrArg Char.ofNat ?_)
  rw [toNat_continuation]
  dsimp only
  omega

theorem completes_two {n least greatest : Nat}
    (h : least ≤ n / 64 % 64 + 0x80 ∧ n / 64 % 64 + 0x80 ≤ greatest) :
    Completes (Char.ofNat n) ⟨2, least, greatest, n / 4096⟩
      [UInt8.ofNat (n / 64 % 64 + 0x80), UInt8.ofNat (n % 64 + 0x80)] := by
  have hbits : n / 4096 * 64 + (n / 64 % 64 + 0x80 - 0x80) = n / 64 := by omega
  rw [← toNat_continuation] at h
  refine .more (by simp) h ?_
  rw [toNat_continuation, hbits]
  exact completes_one (by omega)

theorem completes_three {n least greatest : Nat}
    (h : least ≤ n / 4096 % 64 + 0x80 ∧ n / 4096 % 64 + 0x80 ≤ greatest) :
    Completes (Char.ofNat n) ⟨3, least, greatest, n / 262144⟩
      [UInt8.ofNat (n / 4096 % 64 + 0x80), UInt8.ofNat (n / 64 % 64 + 0x80),
        UInt8.ofNat (n % 64 + 0x80)] := by
  have hbits : n / 262144 * 64 + (n / 4096 % 64 + 0x80 - 0x80) = n / 4096 := by omega
  rw [← toNat_continuation] at h
  refine .more (by simp) h ?_
  rw [toNat_continuation, hbits]
  exact completes_two (by omega)

/-! ## One character -/

/-- An ASCII character is one byte, and that byte is a character of its own. -/
theorem start_of_ascii {c : Char} (h : c.toNat < 0x80) :
    String.utf8EncodeChar c = [c.toNat.toUInt8] ∧
      start c.toNat.toUInt8 = ([.char c], none) := by
  have hbyte : c.toNat.toUInt8.toNat = c.toNat := by
    simp [Nat.mod_eq_of_lt (Nat.lt_trans h (by decide : 0x80 < 256))]
  constructor
  · rw [String.utf8EncodeChar]
    simp only [Char.toNat] at h ⊢
    rw [if_pos (by omega)]
  · rw [start, hbyte, if_pos h, Char.ofNat_toNat]

theorem start_two {b : UInt8} (h : 0xC2 ≤ b.toNat ∧ b.toNat ≤ 0xDF) :
    start b = ([], some ⟨1, 0x80, 0xBF, b.toNat - 0xC0⟩) := by
  unfold start
  dsimp only
  rw [if_neg (by omega), if_pos (by simpa using h)]

/-- No form is overlong and none is a surrogate: the byte behind the first one sees to it. -/
theorem start_three {b : UInt8} (h : 0xE0 ≤ b.toNat ∧ b.toNat ≤ 0xEF) :
    start b = ([], some ⟨2, if b.toNat = 0xE0 then 0xA0 else 0x80,
      if b.toNat = 0xED then 0x9F else 0xBF, b.toNat - 0xE0⟩) := by
  unfold start
  dsimp only
  rw [if_neg (by omega), if_neg (by simp; omega)]
  by_cases hleast : b.toNat = 0xE0
  · simp [hleast]
  · by_cases hgreatest : b.toNat = 0xED
    · simp [hgreatest]
    · rw [if_neg hleast, if_neg hgreatest, if_pos (by simp; omega), if_neg hleast, if_neg hgreatest]

/-- No form is overlong and none is beyond the last character. -/
theorem start_four {b : UInt8} (h : 0xF0 ≤ b.toNat ∧ b.toNat ≤ 0xF4) :
    start b = ([], some ⟨3, if b.toNat = 0xF0 then 0x90 else 0x80,
      if b.toNat = 0xF4 then 0x8F else 0xBF, b.toNat - 0xF0⟩) := by
  unfold start
  dsimp only
  rw [if_neg (by omega), if_neg (by simp; omega), if_neg (by omega), if_neg (by omega),
      if_neg (by simp; omega)]
  by_cases hleast : b.toNat = 0xF0
  · simp [hleast]
  · by_cases hgreatest : b.toNat = 0xF4
    · simp [hgreatest]
    · rw [if_neg hleast, if_pos (by simp; omega), if_neg hleast, if_neg hgreatest]

/-- The first byte of a character that is longer than one byte tells how many follow, and
they complete the character. -/
theorem exists_completes {c : Char} (h : 0x80 ≤ c.toNat) :
    ∃ b p tail, String.utf8EncodeChar c = b :: tail ∧ start b = ([], some p) ∧
      Completes c p tail := by
  have hvalid : c.toNat < 0xD800 ∨ 0xDFFF < c.toNat ∧ c.toNat < 0x110000 := c.valid
  have hchar : Char.ofNat c.toNat = c := Char.ofNat_toNat c
  have hencode := String.utf8EncodeChar.eq_1 c
  have hval : c.val.toNat = c.toNat := rfl
  rw [hval] at hencode
  generalize c.toNat = n at *
  subst hchar
  rw [if_neg (by omega)] at hencode
  by_cases htwo : n ≤ 0x7FF
  · rw [if_pos htwo] at hencode
    have hfirst : (UInt8.ofNat (n / 64 % 32 + 0xC0)).toNat = n / 64 + 0xC0 := by
      rw [UInt8.toNat_ofNat']
      omega
    refine ⟨_, _, _, hencode, start_two (by omega), ?_⟩
    rw [hfirst, Nat.add_sub_cancel]
    exact completes_one (by omega)
  · rw [if_neg htwo] at hencode
    by_cases hthree : n ≤ 0xFFFF
    · rw [if_pos hthree] at hencode
      have hfirst : (UInt8.ofNat (n / 4096 % 16 + 0xE0)).toNat = n / 4096 + 0xE0 := by
        rw [UInt8.toNat_ofNat']
        omega
      refine ⟨_, _, _, hencode, start_three (by omega), ?_⟩
      rw [hfirst, Nat.add_sub_cancel]
      refine completes_two ⟨?_, ?_⟩ <;> split <;> omega
    · rw [if_neg hthree] at hencode
      have hfirst : (UInt8.ofNat (n / 262144 % 8 + 0xF0)).toNat = n / 262144 + 0xF0 := by
        rw [UInt8.toNat_ofNat']
        omega
      refine ⟨_, _, _, hencode, start_four (by omega), ?_⟩
      rw [hfirst, Nat.add_sub_cancel]
      refine completes_three ⟨?_, ?_⟩ <;> split <;> omega

/-- The bytes of a character are read as that character, whatever follows. -/
theorem pieces_encodeChar_append (c : Char) (rest : Bytes) :
    pieces (String.utf8EncodeChar c ++ rest) = .char c :: pieces rest := by
  by_cases h : c.toNat < 0x80
  · obtain ⟨hencode, hstart⟩ := start_of_ascii h
    rw [hencode, List.singleton_append, pieces, piecesFrom, step, hstart]
    rfl
  · obtain ⟨b, p, tail, hencode, hstart, hcompletes⟩ := exists_completes (Nat.le_of_not_lt h)
    rw [hencode, List.cons_append, pieces, piecesFrom, step, hstart]
    exact hcompletes.piecesFrom_append rest

/-- A character of which bytes are missing is an invalid piece, or nothing at all. -/
theorem pieces_cut {c : Char} {part : Bytes} (hpart : part <+: String.utf8EncodeChar c)
    (hcut : part ≠ String.utf8EncodeChar c) : part = [] ∨ pieces part = [.invalid] := by
  by_cases h : c.toNat < 0x80
  · obtain ⟨hencode, -⟩ := start_of_ascii h
    rw [hencode] at hpart hcut
    rcases List.prefix_cons_iff.mp hpart with rfl | ⟨part, rfl, hrest⟩
    · exact .inl rfl
    · exact absurd (congrArg _ (List.prefix_nil.mp hrest)) hcut
  · obtain ⟨b, p, tail, hencode, hstart, hcompletes⟩ := exists_completes (Nat.le_of_not_lt h)
    rw [hencode] at hpart hcut
    rcases List.prefix_cons_iff.mp hpart with rfl | ⟨part, rfl, hrest⟩
    · exact .inl rfl
    · right
      rw [pieces, piecesFrom, step, hstart]
      exact hcompletes.piecesFrom_cut hrest fun heq => hcut (congrArg _ heq)

/-! ## Texts -/

@[simp] theorem encode_nil : encode [] = [] := rfl

@[simp] theorem encode_cons (c : Char) (cs : List Char) :
    encode (c :: cs) = String.utf8EncodeChar c ++ encode cs := rfl

@[simp] theorem encode_append (cs ds : List Char) : encode (cs ++ ds) = encode cs ++ encode ds :=
  List.flatMap_append

theorem pieces_encode_append (cs : List Char) (rest : Bytes) :
    pieces (encode cs ++ rest) = cs.map .char ++ pieces rest := by
  induction cs with
  | nil => rfl
  | cons c cs ih => simp [pieces_encodeChar_append, ih]

/-- Every text is read back from its bytes. -/
theorem decodeReplacing_encode (cs : List Char) : decodeReplacing (encode cs) = cs := by
  have hpieces := pieces_encode_append cs []
  rw [List.append_nil] at hpieces
  rw [decodeReplacing, hpieces]
  simp [pieces, piecesFrom, finish, Function.comp_def]

theorem decode?_encode (cs : List Char) : decode? (encode cs) = some cs := by
  have hpieces := pieces_encode_append cs []
  rw [List.append_nil] at hpieces
  rw [decode?, hpieces]
  clear hpieces
  induction cs with
  | nil => rfl
  | cons c cs ih =>
    rw [List.map_cons, List.cons_append, List.mapM_cons, ih]
    rfl

theorem decodeDropping_encode_append (cs : List Char) (rest : Bytes) :
    decodeDropping (encode cs ++ rest) = cs ++ decodeDropping rest := by
  rw [decodeDropping, pieces_encode_append, List.filterMap_append, List.filterMap_map]
  simp [decodeDropping]

/-! ## Texts that are cut short -/

/-- Of a text that is cut short, the characters that are there in full are read: they begin the
text, and no byte is needed for them that is not there. -/
theorem decodeDropping_cut {cs : List Char} {part : Bytes} (h : part <+: encode cs) :
    decodeDropping part <+: cs ∧ encode (decodeDropping part) <+: part := by
  induction cs generalizing part with
  | nil =>
    obtain rfl := List.prefix_nil.mp h
    exact ⟨List.prefix_rfl, List.prefix_rfl⟩
  | cons c cs ih =>
    by_cases hwhole : String.utf8EncodeChar c <+: part
    · -- the first character is there, and what follows it is cut short
      obtain ⟨rest, rfl⟩ := hwhole
      have hrest : rest <+: encode cs := (List.prefix_append_right_inj _).mp h
      have hread : decodeDropping (String.utf8EncodeChar c ++ rest) = c :: decodeDropping rest := by
        simpa using decodeDropping_encode_append [c] rest
      obtain ⟨hbegins, hbytes⟩ := ih hrest
      rw [hread, encode_cons]
      exact ⟨List.cons_prefix_cons.mpr ⟨rfl, hbegins⟩, (List.prefix_append_right_inj _).mpr hbytes⟩
    · have hpart : part <+: String.utf8EncodeChar c :=
        (List.prefix_or_prefix_of_prefix h (List.prefix_append _ _)).resolve_right hwhole
      have hread : decodeDropping part = [] := by
        rcases pieces_cut hpart fun heq => hwhole (heq ▸ List.prefix_rfl) with rfl | hpieces
        · rfl
        · rw [decodeDropping, hpieces]
          rfl
      rw [hread]
      exact ⟨List.nil_prefix, List.nil_prefix⟩

/-- Of a text that is cut short, exactly the characters are read that are there in full. -/
theorem prefix_decodeDropping_iff {cs : List Char} {part : Bytes} (h : part <+: encode cs)
    (front : List Char) : front <+: decodeDropping part ↔ encode front <+: part := by
  constructor
  · rintro ⟨rest, hrest⟩
    refine List.IsPrefix.trans ?_ (decodeDropping_cut h).2
    rw [← hrest, encode_append]
    exact List.prefix_append _ _
  · rintro ⟨rest, rfl⟩
    rw [decodeDropping_encode_append]
    exact List.prefix_append _ _

end EditorAnalysis.Text.Utf8
