/-
EditorAnalysis.Shell.Quotation — words as programs show them in messages.

A word is shown in one of three ways: as a shell would read it back, quoted only if it
has to be or in any case, or between the quotation marks of the language. Characters
that cannot be shown are spelled out; which ones those are depends on whether bytes are
read as UTF-8.
-/
import EditorAnalysis.Shell.Numeral
import EditorAnalysis.Text.Utf8

namespace EditorAnalysis.Shell.Quotation

open Text (Octets)

/-! ## Characters -/

/-- A character as its bytes, and whether it can be shown. -/
structure Symbol where
  /-- Its bytes. -/
  bytes : Octets
  /-- It can be shown. -/
  shown : Bool

/-- The character of more than one byte that a text begins with. -/
def wide? (cs : Octets) : Option Octets :=
  ([2, 3, 4].map fun n => cs.take n).find? fun bytes =>
    match Text.Utf8.decode? (Text.Octets.toBytes bytes) with
    | some [c] => 160 ≤ c.toNat
    | _ => false

/-- The characters of a text; the flag says whether bytes are read as UTF-8. -/
def symbols (utf8 : Bool) : Nat → Octets → List Symbol
  | 0, _ => []
  | _, [] => []
  | fuel + 1, c :: rest =>
    if c.toNat < 128 then ⟨[c], 32 ≤ c.toNat && c.toNat < 127⟩ :: symbols utf8 fuel rest
    else match if utf8 then wide? (c :: rest) else none with
      | some bytes => ⟨bytes, true⟩ :: symbols utf8 fuel ((c :: rest).drop bytes.length)
      | none => ⟨[c], false⟩ :: symbols utf8 fuel rest

/-- The characters of a text. -/
def symbolsOf (utf8 : Bool) (cs : Octets) : List Symbol := symbols utf8 (cs.length + 1) cs

/-- The letter that spells a control character behind a backslash. -/
def letter? (c : Char) : Option Char :=
  [(Char.ofNat 7, 'a'), (Char.ofNat 8, 'b'), (Char.ofNat 12, 'f'), ('\n', 'n'), ('\r', 'r'),
    ('\t', 't'), (Char.ofNat 11, 'v')].lookup c

/-- Bytes spelled out. -/
def spelled (bytes : Octets) : Octets :=
  bytes.flatMap fun c =>
    match letter? c with
    | some l => ['\\', l]
    | none =>
      let digits := Numeral.digitsIn 8 c.toNat
      '\\' :: (List.replicate (3 - digits.length) '0' ++ digits)

/-! ## For a shell -/

/-- The character means something to a shell, where it stands. -/
def isSpecial (first alone : Bool) (c : Char) : Bool :=
  if c == '\x7b' || c == '\x7d' then alone
  else if c == '#' || c == '~' then first
  else " !\"$&()*;<=>[^`|'?\\".toList.contains c

/-- The character is its own between double quotes, too. -/
def isSafe (first : Bool) (c : Char) : Bool :=
  if c == '#' || c == '~' then first
  else !("!\"$&()*;<=>[^`|?\\\x7b\x7d".toList.contains c)

/-- The text between single quotes; the flag says whether the last character was spelled
out. -/
def inQuotes : Bool → List Symbol → Octets
  | _, [] => []
  | wasSpelled, s :: rest =>
    if !s.shown then
      (if wasSpelled then [] else ['\'', '$', '\'']) ++ spelled s.bytes ++ inQuotes true rest
    else if s.bytes == ['\''] then ['\'', '\\', '\'', '\''] ++ inQuotes false rest
    else (if wasSpelled then ['\'', '\''] else []) ++ s.bytes ++ inQuotes false rest

/-- The word in quotes. -/
def always (utf8 : Bool) (cs : Octets) : Octets :=
  let all := symbolsOf utf8 cs
  let safe := all.all (·.shown) && cs.contains '\''
    && isSafe true (cs.head?.getD ' ') && (cs.drop 1).all (isSafe false)
  if safe then '"' :: cs ++ ['"'] else '\'' :: inQuotes false all ++ ['\'']

/-- The word, in quotes if it has to be. -/
def word (utf8 : Bool) (cs : Octets) : Octets :=
  let plain := match cs with
    | [] => false
    | c :: rest =>
      (symbolsOf utf8 cs).all (·.shown) && !isSpecial true rest.isEmpty c
        && !rest.any (isSpecial false false)
  if plain then cs else always utf8 cs

/-! ## For a reader -/

/-- The opening mark and the closing one. -/
def marks (utf8 : Bool) : Octets × Octets :=
  if utf8 then (Text.Octets.ofString "‘", Text.Octets.ofString "’") else (['\''], ['\''])

/-- The word between the marks of the language. -/
def named (utf8 : Bool) (cs : Octets) : Octets :=
  let (opening, closing) := marks utf8
  let inside := (symbolsOf utf8 cs).flatMap fun s =>
    if !s.shown then spelled s.bytes
    else if s.bytes == closing || s.bytes == ['\\'] then '\\' :: s.bytes
    else s.bytes
  opening ++ inside ++ closing

end EditorAnalysis.Shell.Quotation
