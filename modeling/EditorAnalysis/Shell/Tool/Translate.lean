/-
EditorAnalysis.Shell.Tool.Translate — characters in the place of others, and parts of
lines.
-/
import EditorAnalysis.Shell.Pattern
import EditorAnalysis.Shell.Tool.Basic

namespace EditorAnalysis.Shell.Tool

open Text (Octets)

/-! ## Sets of characters -/

/-- What a word of `tr` is made of. -/
inductive Span where
  /-- Some characters. -/
  | chars (cs : Octets)
  /-- A kind of characters. -/
  | kind (k : CharClass)
  /-- A character so often; as often as it takes, where there is no number. -/
  | filling (c : Char) (count : Option Nat)
deriving DecidableEq, Repr

namespace Span

/-- The characters of a span; a filling without a number counts for none. -/
def members : Span → Octets
  | chars cs => cs
  | kind k => k.members
  | filling c count => List.replicate (count.getD 0) c

end Span

/-- A character as it is written, and what follows. -/
def writtenChar : Octets → Option (Char × Octets)
  | [] => none
  | '\\' :: c :: rest =>
    let digits := ((c :: rest).takeWhile Numeral.isOctal).take 3
    if !digits.isEmpty then
      let digits := if 255 < Numeral.valueIn 8 digits then digits.take 2 else digits
      some (Char.ofNat (Numeral.valueIn 8 digits), (c :: rest).drop digits.length)
    else
      let letters := [('a', 7), ('b', 8), ('f', 12), ('n', 10), ('r', 13), ('t', 9), ('v', 11)]
      some (((letters.lookup c).map Char.ofNat).getD c, rest)
  | c :: rest => some (c, rest)

/-- The name between brackets and marks at the beginning of a text, and what follows. -/
def bracketed? (mark : Char) (cs : Octets) : Option (Octets × Octets) :=
  match cs with
  | '[' :: c :: rest =>
    if c != mark then none
    else
      let name := rest.takeWhile (· != mark)
      match rest.drop name.length with
      | _ :: ']' :: behind => if name.isEmpty then none else some (name, behind)
      | _ => none
  | _ => none

/-- The repeated character at the beginning of a text, and what follows. -/
def filling? (cs : Octets) : Option (Span × Octets) :=
  match cs with
  | '[' :: rest =>
    match writtenChar rest with
    | some (c, '*' :: rest) =>
      let digits := rest.takeWhile Char.isDigit
      match rest.drop digits.length with
      | ']' :: behind =>
        let n := if digits.head? == some '0' then Numeral.valueIn 8 digits
          else Numeral.valueIn 10 digits
        some (.filling c (if n = 0 then none else some n), behind)
      | _ => none
    | _ => none
  | _ => none

/-- The spans of a word, or what is wrong with it. -/
def spans : Nat → Octets → Except Octets (List Span)
  | 0, _ => .ok []
  | _, [] => .ok []
  | fuel + 1, cs =>
    match bracketed? ':' cs with
    | some (name, rest) =>
      match CharClass.names.lookup (String.ofList name) with
      | some k => (spans fuel rest).map (.kind k :: ·)
      | none => .error ('c' :: name)
    | none =>
      match bracketed? '=' cs with
      | some (name, rest) => (spans fuel rest).map (.chars name :: ·)
      | none =>
        match filling? cs with
        | some (s, rest) => (spans fuel rest).map (s :: ·)
        | none =>
          match writtenChar cs with
          | none => .ok []
          | some (a, '-' :: d :: more) =>
            match writtenChar (d :: more) with
            | some (b, rest) =>
              if b < a then
                .error ('r' :: cs.take (cs.length - rest.length))
              else
                let all := (List.range (b.toNat - a.toNat + 1)).map fun k =>
                  Char.ofNat (a.toNat + k)
                (spans fuel rest).map (.chars all :: ·)
            | none => .ok [.chars [a, '-']]
          | some (a, rest) => (spans fuel rest).map (.chars [a] :: ·)

/-- The characters of the second set in the places of those of the first. -/
def aligned (size : Nat) (second : List Span) : Octets :=
  let fixed := second.foldl (fun n s => n + s.members.length) 0
  let all := second.flatMap fun s =>
    match s with
    | .filling c none => List.replicate (size - fixed) c
    | s => s.members
  match all.getLast? with
  | some c => all ++ List.replicate (size - all.length) c
  | none => []

/-- The pairs of letters in two cases. -/
def alignedCases (first second : List Span) : Option (Octets × Octets) :=
  if first.length = second.length && first.any fun s => match s with
      | .kind _ => true
      | _ => false
  then
    let pairs := (first.zip second).map fun (a, b) =>
      match a, b with
      | .kind .lower, .kind .upper => (a.members, b.members)
      | .kind .upper, .kind .lower => (a.members, b.members)
      | a, b => (a.members, aligned a.members.length [b])
    some ((pairs.map (·.1)).flatten, (pairs.map (·.2)).flatten)
  else none

/-- Of equal neighbours in a set only one stays. -/
def squeezed (set : Octets) (text : Octets) : Octets :=
  let step (state : Octets × Option Char) (c : Char) : Octets × Option Char :=
    if state.2 == some c && set.contains c then state else (c :: state.1, some c)
  (text.foldl step ([], none)).1.reverse

/-- All characters that are not in a set. -/
def complement (set : Octets) : Octets :=
  ((List.range 256).map Char.ofNat).filter fun c => !set.contains c

/-- Translates characters, drops them, or drops equal neighbours. -/
def tr : Tool := fun words => do
  let choices := [flag 'c' "complement", ⟨some 'C', "", none⟩, flag 'd' "delete",
    flag 's' "squeeze-repeats", flag 't' "truncate-set1"]
  withOptions { choices, endsAtWord := true } words fun chosen words => do
    let drops := has chosen 'd'
    let squeezes := has chosen 's'
    let most := if drops && !squeezes then 1 else 2
    match words with
    | [] => misuse failure "missing operand".toList
    | first :: more =>
      if more.isEmpty && drops == squeezes then
        complain ("missing operand after ".toList ++ (← named first))
        Step.note ("Two strings must be given when ".toList
          ++ (if drops then "both deleting and squeezing repeats." else "translating.").toList)
        hint
        return failure
      else if most < words.length then
        complain ("extra operand ".toList ++ (← named (words.getD most [])))
        if words.length = 2 then
          Step.note "Only one string may be given when deleting without squeezing repeats.".toList
        hint
        return failure
      else
        let bad : Option Octets := words.findSome? fun w =>
          match spans (w.length + 1) w with
          | .error text => some text
          | .ok _ => none
        match bad with
        | some ('c' :: name) =>
          complain ("invalid character class ".toList ++ (← named name))
          return failure
        | some text =>
          complain ("range-endpoints of '".toList ++ text.drop 1
            ++ "' are in reverse collating sequence order".toList)
          return failure
        | none => apply chosen drops squeezes first more.head?
where
  /-- The spans of a word. -/
  spansOf (w : Octets) : List Span := (spans (w.length + 1) w).toOption.getD []
  /-- Does what is asked for. -/
  apply (chosen : List Chosen) (drops squeezes : Bool) (first : Octets) (second : Option Octets) :
      Step Nat := do
    let turned := has chosen 'c' || has chosen 'C'
    let set := (spansOf first).flatMap Span.members
    let set := if turned then complement set else set
    let target := spansOf (second.getD [])
    let translates := !drops && second.isSome
    if translates && target.isEmpty && !has chosen 't' then
      complainText "when not truncating set1, string2 must be non-empty"
      return failure
    match ← Step.readAll 0 with
    | .error reason =>
      complain ("read error: ".toList ++ reason.text.toList)
      return failure
    | .ok text =>
      let text := if drops then text.filter fun c => !set.contains c else text
      let text :=
        if translates then
          let cases := if turned then none else alignedCases (spansOf first) target
          let (from_, to_) := match cases with
            | some pair => pair
            | none => (set, aligned (if has chosen 't' then 0 else set.length) target)
          let table := ((from_.zip to_).reverse)
          text.map fun c => (table.lookup c).getD c
        else text
      let text :=
        if !squeezes then text
        else match second with
          | some _ => squeezed (aligned set.length target ++ target.flatMap Span.members) text
          | none => squeezed set text
      Step.write text
      return 0

/-! ## Parts of lines -/

/-- A range of positions, counted from one; without an end it goes on. -/
structure Range where
  /-- The first position. -/
  first : Nat
  /-- The last position. -/
  last : Option Nat
deriving DecidableEq, Repr

namespace Range

/-- The position is in the range. -/
def contains (r : Range) (n : Nat) : Bool := r.first ≤ n && r.last.all fun last => decide (n ≤ last)

end Range

/-- What is wrong with a list of ranges. -/
inductive RangeProblem where
  /-- A part is no number. -/
  | badValue (w : Octets)
  /-- A position is zero. -/
  | zero
  /-- A range ends before it begins. -/
  | decreasing
  /-- A range has no end. -/
  | endless
deriving DecidableEq, Repr

/-- The range that a word writes. -/
def rangeOf (w : Octets) : Except RangeProblem Range :=
  let number (digits : Octets) : Except RangeProblem Nat :=
    match Numeral.natural? digits with
    | some 0 => .error .zero
    | some n => .ok n
    | none => .error (.badValue (digits.dropWhile Char.isDigit))
  if !w.contains '-' then (number w).map fun n => ⟨n, some n⟩
  else
    let first := w.takeWhile (· != '-')
    let last := w.drop (first.length + 1)
    if first.isEmpty && last.isEmpty then .error .endless
    else do
      let a ← if first.isEmpty then .ok 1 else number first
      let b ← if last.isEmpty then .ok none else (number last).map some
      match b with
      | some n => if n < a then .error .decreasing else return ⟨a, b⟩
      | none => return ⟨a, b⟩

/-- The ranges that a list writes. -/
def rangesOf (w : Octets) : Except RangeProblem (List Range) :=
  ((w.map fun c => if c == ' ' || c == '\t' then ',' else c) |> Text.splitOn ',').mapM rangeOf

/-- What is said of a list of ranges. -/
def RangeProblem.message (inFields : Bool) : RangeProblem → Step Octets
  | .badValue w => do
    let what := if inFields then "invalid field value " else "invalid byte/character position "
    return what.toList ++ (← named w)
  | .zero =>
    return (if inFields then "fields are numbered from 1"
      else "byte/character positions are numbered from 1").toList
  | .decreasing => return "invalid decreasing range".toList
  | .endless => return "invalid range with no endpoint: -".toList

/-- Chosen characters of a line, those of different ranges apart if something is put
between. -/
def chosenChars (p : Nat → Bool) (between : Octets) (line : Octets) : Octets :=
  let step (state : Octets × Nat × Bool × Bool) (c : Char) : Octets × Nat × Bool × Bool :=
    let (out, n, inside, any) := state
    if p n then
      let out := if !inside && any then between.reverse ++ out else out
      (c :: out, n + 1, true, true)
    else (out, n + 1, false, any)
  (line.foldl step ([], 1, false, false)).1.reverse

/-- Shows parts of lines. -/
def cut : Tool := fun words => do
  let choices := [wanting 'b' "bytes", wanting 'c' "characters", wanting 'd' "delimiter",
    wanting 'f' "fields", ⟨some 'n', "", none⟩, flag 's' "only-delimited",
    longFlag "complement", ⟨none, "output-delimiter", some true⟩, flag 'z' "zero-terminated"]
  withOptions { choices } words fun chosen names => do
    let lists := chosen.filter fun c => c.hasLetter 'b' || c.hasLetter 'c' || c.hasLetter 'f'
    let inFields := lists.any fun c => c.hasLetter 'f'
    let delimiter := valueOf? chosen 'd'
    match delimiter with
    | some (_ :: _ :: _) => misuse failure "the delimiter must be a single character".toList
    | _ =>
      match lists with
      | [] => misuse failure "you must specify a list of bytes, characters, or fields".toList
      | _ :: _ :: _ => misuse failure "only one list may be specified".toList
      | [list] =>
        if !inFields && delimiter.isSome then
          misuse failure
            "an input delimiter may be specified only when operating on fields".toList
        else if !inFields && has chosen 's' then
          misuse failure ("suppressing non-delimited lines makes sense\n\tonly when "
            ++ "operating on fields").toList
        else match rangesOf (list.value.getD []) with
          | .error problem => misuse failure (← problem.message inFields)
          | .ok ranges =>
            let isIn (n : Nat) : Bool :=
              (ranges.any fun r => r.contains n) != hasName chosen "complement"
            let separator := match delimiter with
              | some (c :: _) => c
              | some [] => Char.ofNat 0
              | none => '\t'
            let out := ((chosen.filter fun c => c.hasName "output-delimiter").getLast?).bind
              (·.value)
            let shownLine (line : Octets) : Option Octets :=
              if !inFields then some (chosenChars isIn (out.getD []) line)
              else if !line.contains separator then
                if has chosen 's' then none else some line
              else
                let fields := Text.splitOn separator line
                let kept := ((List.range fields.length).zip fields).filterMap fun (k, field) =>
                  if isIn (k + 1) then some field else none
                some ((out.getD [separator]).intercalate kept)
            eachContent names fun _ text =>
              Step.write ((lines text).flatMap fun l =>
                match shownLine (body l) with
                | some shown => shown ++ ['\n']
                | none => [])

end EditorAnalysis.Shell.Tool
