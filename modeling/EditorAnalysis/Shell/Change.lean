/-
EditorAnalysis.Shell.Change — what the uses of a parameter make of its value.

A value is a text of letters. Letters may be put into another case, a part of them taken,
or what a pattern matches replaced: the first match that begins at a place is the longest
one there. A text may also be written so that a shell reads it back.
-/
import EditorAnalysis.Shell.Numeral
import EditorAnalysis.Shell.Pattern
import EditorAnalysis.Shell.Quotation

namespace EditorAnalysis.Shell.Change

open Text (Octets)

/-! ## Letters -/

/-- A text with its letters in another case, all of them or the first. -/
def cased (upper all : Bool) (cs : Octets) : Octets :=
  let change := if upper then Char.toUpper else Char.toLower
  if all then cs.map change
  else match cs with
    | c :: rest => change c :: rest
    | [] => []

/-- The part of a list from a place on, up to a length; a place before the beginning is none.
Negative numbers count from the end. -/
def part? {α : Type} (start : Int) (length : Option Int) (items : List α) :
    Except Int (List α) :=
  let count : Int := items.length
  let first := if start < 0 then start + count else start
  if first < 0 || count < first then .ok []
  else
    let behind := items.drop first.toNat
    match length with
    | none => .ok behind
    | some n =>
      if 0 ≤ n then .ok (behind.take n.toNat)
      else if count + n < first then .error n
      else .ok (behind.take (count + n - first).toNat)

/-! ## Matches -/

/-- The lengths that a match may have in a text, longest first. -/
def lengths (ms : List Matcher) (count : Nat) : List Nat :=
  if ms.any (· == .anyText) then (List.range (count + 1)).reverse
  else if ms.length ≤ count then [ms.length] else []

/-- The length of the longest match at the beginning of a text. -/
def matched? (ms : List Matcher) (cs : Octets) : Option Nat :=
  (lengths ms cs.length).find? fun n => Pattern.fits ms (cs.take n)

/-- A text with something in the place of matches: the first one, or all. -/
def replacedWithin (all : Bool) (ms : List Matcher) (word : Octets → Octets) :
    Nat → Octets → Octets
  | 0, cs => cs
  | _, [] => []
  | fuel + 1, c :: rest =>
    match matched? ms (c :: rest) with
    | some (n + 1) =>
      let behind := rest.drop n
      word ((c :: rest).take (n + 1))
        ++ (if all then replacedWithin all ms word fuel behind else behind)
    | _ => c :: replacedWithin all ms word fuel rest

/-- A text with something in the place of what a pattern matches, anywhere or at one end. -/
def replaced (all : Bool) (anchor : Option Bool) (ms : List Matcher) (word : Octets → Octets)
    (cs : Octets) : Octets :=
  match anchor with
  | some false =>
    match matched? ms cs with
    | some n => word (cs.take n) ++ cs.drop n
    | none => cs
  | some true =>
    match (lengths ms cs.length).find? fun n => Pattern.fits ms (cs.drop (cs.length - n)) with
    | some n => cs.take (cs.length - n) ++ word (cs.drop (cs.length - n))
    | none => cs
  | none =>
    if ms.isEmpty then cs
    else if cs.isEmpty && Pattern.fits ms [] then word []
    else replacedWithin all ms word (cs.length + 1) cs

/-! ## Quotation -/

/-- The character cannot be shown as it is. -/
def isHidden (c : Char) : Bool := c.toNat < 32 || c.toNat == 127

/-- A text between single quotes behind a dollar sign. -/
def spelledOut (cs : Octets) : Octets :=
  let spelled (c : Char) : Octets :=
    if c == '\'' || c == '\\' then ['\\', c]
    else if c.toNat == 27 then ['\\', 'E']
    else if isHidden c then Quotation.spelled [c]
    else [c]
  '$' :: '\'' :: cs.flatMap spelled ++ ['\'']

/-- A text between single quotes, as a shell reads it back. -/
def quoted (cs : Octets) : Octets :=
  if cs.any isHidden then spelledOut cs
  else '\'' :: (cs.flatMap fun c => if c == '\'' then "'\\''".toList else [c]) ++ ['\'']

/-- A text with backslashes, as a shell reads it back. -/
def escaped (cs : Octets) : Octets :=
  let isSpecial (c : Char) : Bool := " '\"\\|&;()<>!\x7b\x7d*[?]^$\x60,\t".toList.contains c
  if cs.isEmpty then ['\'', '\'']
  else if cs.any isHidden then spelledOut cs
  else
    let front := match cs with
      | '#' :: _ => ['\\']
      | '~' :: _ => ['\\']
      | _ => []
    front ++ cs.flatMap fun c => if isSpecial c then ['\\', c] else [c]

/-- A text between double quotes, as a shell reads it back. -/
def doubleQuoted (cs : Octets) : Octets :=
  if cs.any isHidden then spelledOut cs
  else '"' :: (cs.flatMap fun c =>
    if "\"\\$\x60".toList.contains c then ['\\', c] else [c]) ++ ['"']

/-- A word in a trace, quoted if it has to be. -/
def traced (cs : Octets) : Octets :=
  let isSpecial (c : Char) : Bool :=
    " '\"\\|&;()<>!\x7b\x7d*[?]^$\x60\t\n".toList.contains c || isHidden c
  let isFirst := match cs with
    | '#' :: _ => true
    | '~' :: _ => true
    | _ => false
  if cs.isEmpty || isFirst || cs.any isSpecial then quoted cs else cs

end EditorAnalysis.Shell.Change
