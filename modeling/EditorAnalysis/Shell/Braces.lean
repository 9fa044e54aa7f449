/-
EditorAnalysis.Shell.Braces — words that stand for several words.

A word with alternatives between braces, or with the ends of a row, stands for one word for
each of them. Braces with neither stand for themselves.
-/
import EditorAnalysis.Shell.Grammar
import EditorAnalysis.Shell.Numeral

namespace EditorAnalysis.Shell.Braces

open Text (Octets)

/-- A part of a word: a character outside quotes, or something else. -/
inductive Part where
  /-- A character. -/
  | char (c : Char)
  /-- Something else. -/
  | piece (p : Piece)

/-- The parts of a word. -/
def parts (w : Word) : List Part :=
  w.flatMap fun
    | .bare text => text.map Part.char
    | piece => [.piece piece]

/-- The word of parts. -/
def wordOf (ps : List Part) : Word :=
  fuse (ps.map fun
    | .char c => .bare [c]
    | .piece p => p)

/-- The character that a part is, if it is one. -/
def char? : Part → Option Char
  | .char c => some c
  | .piece _ => none

/-- The parts up to the closing brace, and those behind it; so many others are open. -/
def closed? : Nat → List Part → Option (List Part × List Part)
  | _, [] => none
  | depth, p :: rest =>
    let on (depth : Nat) : Option (List Part × List Part) :=
      (closed? depth rest).map fun (inside, behind) => (p :: inside, behind)
    match char? p, depth with
    | some '\x7d', 0 => some ([], rest)
    | some '\x7d', depth + 1 => on depth
    | some '\x7b', depth => on (depth + 1)
    | _, depth => on depth

/-- The parts between commas that stand in no other braces. -/
def alternatives : Nat → List Part → List (List Part)
  | _, [] => [[]]
  | depth, p :: rest =>
    let more (depth : Nat) : List (List Part) :=
      match alternatives depth rest with
      | first :: others => (p :: first) :: others
      | [] => [[p]]
    match char? p, depth with
    | some ',', 0 => [] :: alternatives 0 rest
    | some '\x7b', depth => more (depth + 1)
    | some '\x7d', depth => more (depth - 1)
    | _, depth => more depth

/-- A number with a sign, and how many digits it has if it begins with a zero. -/
def number? (cs : Octets) : Option (Int × Nat) :=
  let (negative, digits) := match cs with
    | '-' :: digits => (true, digits)
    | '+' :: digits => (false, digits)
    | digits => (false, digits)
  (Numeral.natural? digits).map fun n =>
    (if negative then -(n : Int) else n,
      if digits.head? == some '0' && 1 < digits.length then cs.length else 0)

/-- The numbers from one to another, by steps. -/
def row (first last : Int) (step : Nat) : List Int :=
  let count := (last - first).natAbs / step + 1
  (List.range count).map fun k =>
    if first ≤ last then first + (k * step : Nat) else first - (k * step : Nat)

/-- A number with so many characters. -/
def padded (width : Nat) (n : Int) : Octets :=
  let digits := (toString n.natAbs).toList
  let sign := if n < 0 then ['-'] else []
  sign ++ List.replicate (width - digits.length - sign.length) '0' ++ digits

/-- The longest row. -/
def rowLimit : Nat := 100000

/-- The texts of a row whose ends a text names. -/
def rowOf? (text : Octets) : Option (List Octets) :=
  let isPoint (cs : Octets) : Bool := cs.take 2 == ['.', '.']
  let first := text.take ((List.range text.length).find? (fun n => isPoint (text.drop n))
    |>.getD text.length)
  let rest := text.drop (first.length + 2)
  let last := rest.take ((List.range rest.length).find? (fun n => isPoint (rest.drop n))
    |>.getD rest.length)
  let steps := rest.drop (last.length + 2)
  let step := if rest.length ≤ last.length then some 1
    else (number? steps).map fun n => max n.1.natAbs 1
  if text.length ≤ first.length + 1 then none
  else match step, number? first, number? last, first, last with
    | some step, some (m, a), some (n, b), _, _ =>
      if rowLimit < (n - m).natAbs / step then none
      else some ((row m n step).map (padded (max a b)))
    | some step, none, none, [c], [d] =>
      if c.isAlpha && d.isAlpha then
        some ((row c.toNat d.toNat step).map fun n => [Char.ofNat n.toNat])
      else none
    | _, _, _, _, _ => none

/-- The alternatives that braces around some parts stand for, if they do. -/
def choices? (inside : List Part) : Option (List (List Part)) :=
  match alternatives 0 inside with
  | first :: second :: more => some (first :: second :: more)
  | _ =>
    (inside.mapM char?).bind fun text =>
      (rowOf? text).map fun texts => texts.map fun cs => cs.map Part.char

/-- The lists of parts that a list of parts stands for. -/
def expandParts : Nat → List Part → List (List Part)
  | 0, ps => [ps]
  | _, [] => [[]]
  | fuel + 1, p :: rest =>
    let plain : List (List Part) := (expandParts fuel rest).map (p :: ·)
    match char? p with
    | some '\x7b' =>
      match closed? 0 rest with
      | none => plain
      | some (inside, behind) =>
        match choices? inside with
        | none => plain
        | some choices =>
          let ends := expandParts fuel behind
          choices.flatMap fun choice =>
            (expandParts fuel choice).flatMap fun front => ends.map fun back => front ++ back
    | _ => plain

/-- The words that a word stands for. -/
def expand (w : Word) : List Word :=
  let ps := parts w
  if ps.any fun p => char? p == some '\x7b' then
    (expandParts (ps.length + 1) ps).map wordOf |>.filter fun w => !w.isEmpty
  else [w]

end EditorAnalysis.Shell.Braces
