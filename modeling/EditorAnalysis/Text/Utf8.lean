/-
EditorAnalysis.Text.Utf8 — bytes as text, one byte at a time.

The decoder is a byte automaton. Between characters its state is empty; inside
one it knows how many bytes are missing, between which bounds the next one must
lie and the value read so far. The bounds rule out overlong forms, surrogates and
values beyond U+10FFFF, so a byte outside them ends a maximal part that no
character begins with. Each such part is one invalid piece, and the byte that
ended it is read again as the first of a piece.

Three readers share the automaton: `decode?` refuses invalid bytes,
`decodeReplacing` puts U+FFFD for each invalid piece, `decodeDropping` leaves
invalid pieces out.
-/

namespace EditorAnalysis.Text.Utf8

/-- Raw bytes. -/
abbrev Bytes := List UInt8

/-- What the decoder finds. -/
inductive Piece where
  /-- A character. -/
  | char (c : Char)
  /-- Bytes that are no character and no part of one. -/
  | invalid
deriving DecidableEq, Repr

/-- A character under way. -/
structure Partial where
  /-- How many bytes are missing. -/
  missing : Nat
  /-- The least byte that continues the character. -/
  least : Nat
  /-- The greatest byte that continues the character. -/
  greatest : Nat
  /-- The bits read so far. -/
  bits : Nat
deriving DecidableEq, Repr

/-- The decoder's state: nothing between characters. -/
abbrev State := Option Partial

/-- The first byte of a piece. -/
def start (b : UInt8) : List Piece × State :=
  let n := b.toNat
  if n < 0x80 then ([.char (Char.ofNat n)], none)
  else if 0xC2 ≤ n && n ≤ 0xDF then ([], some ⟨1, 0x80, 0xBF, n - 0xC0⟩)
  else if n = 0xE0 then ([], some ⟨2, 0xA0, 0xBF, 0⟩)
  else if n = 0xED then ([], some ⟨2, 0x80, 0x9F, 0xD⟩)
  else if 0xE1 ≤ n && n ≤ 0xEF then ([], some ⟨2, 0x80, 0xBF, n - 0xE0⟩)
  else if n = 0xF0 then ([], some ⟨3, 0x90, 0xBF, 0⟩)
  else if 0xF1 ≤ n && n ≤ 0xF3 then ([], some ⟨3, 0x80, 0xBF, n - 0xF0⟩)
  else if n = 0xF4 then ([], some ⟨3, 0x80, 0x8F, 4⟩)
  else ([.invalid], none)

/-- One byte: what it completes, and the state behind it. -/
def step (s : State) (b : UInt8) : List Piece × State :=
  match s with
  | none => start b
  | some p =>
    if p.least ≤ b.toNat && b.toNat ≤ p.greatest then
      let bits := p.bits * 64 + (b.toNat - 0x80)
      if p.missing ≤ 1 then ([.char (Char.ofNat bits)], none)
      else ([], some ⟨p.missing - 1, 0x80, 0xBF, bits⟩)
    else
      let (found, next) := start b
      (.invalid :: found, next)

/-- The end of the bytes: a character under way stays incomplete. -/
def finish : State → List Piece
  | none => []
  | some _ => [.invalid]

/-- The pieces of bytes read from a state. -/
def piecesFrom : State → Bytes → List Piece
  | s, [] => finish s
  | s, b :: rest =>
    let (found, next) := step s b
    found ++ piecesFrom next rest

/-- The pieces of bytes. -/
def pieces (bytes : Bytes) : List Piece := piecesFrom none bytes

/-- The character that stands for an invalid piece. -/
def replacement : Char := Char.ofNat 0xFFFD

/-- The characters of bytes without an invalid piece. -/
def decode? (bytes : Bytes) : Option (List Char) :=
  (pieces bytes).mapM fun
    | .char c => some c
    | .invalid => none

/-- The characters of bytes, with `replacement` for each invalid piece. -/
def decodeReplacing (bytes : Bytes) : List Char :=
  (pieces bytes).map fun
    | .char c => c
    | .invalid => replacement

/-- The characters of bytes, invalid pieces left out. -/
def decodeDropping (bytes : Bytes) : List Char :=
  (pieces bytes).filterMap fun
    | .char c => some c
    | .invalid => none

/-- The bytes of characters. -/
def encode (cs : List Char) : Bytes := cs.flatMap String.utf8EncodeChar

end EditorAnalysis.Text.Utf8
