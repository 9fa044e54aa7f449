/-
EditorAnalysis.Shell.Builtin.Lines — the commands of bash that read.

A line ends with a delimiter, which need not be a line break, or after so many characters.
It goes into variables, or into a list; `mapfile` makes a list of many lines.
-/
import EditorAnalysis.Shell.Builtin.Reading

namespace EditorAnalysis.Shell.Builtin

open Text (Octets)

/-! ## One line -/

/-- How a line is read. -/
structure LineForm where
  /-- Backslashes mean nothing. -/
  raw : Bool
  /-- What ends the line, if anything does. -/
  delimiter : Option Char
  /-- At most so many characters. -/
  limit : Option Nat

/-- Where the reading of a line stands. -/
structure LineProgress where
  /-- Behind a backslash. -/
  escaped : Bool := false
  /-- So many characters count. -/
  count : Nat := 0

/-- Looks for the end of a line: how many characters of a text belong to it, if it ends
there. -/
def lineStop (f : LineForm) : LineProgress → Nat → Octets → LineProgress ⊕ Nat
  | p, _, [] => .inl p
  | p, n, c :: rest =>
    if !p.escaped && some c == f.delimiter then .inr (n + 1)
    else
      let escapes := c == '\\' && !f.raw && !p.escaped
      let p : LineProgress := ⟨escapes, if escapes then p.count else p.count + 1⟩
      if f.limit == some p.count && !escapes then .inr (n + 1)
      else lineStop f p (n + 1) rest

/-- All fields of a line. -/
def Separators.fields (seps : Separators) : Nat → List Escapable → List Octets
  | 0, _ => []
  | _, [] => []
  | fuel + 1, line =>
    let field := line.takeWhile fun c => !seps.separates c
    field.map (·.1) :: seps.fields fuel (seps.afterOne (line.drop field.length))

/-- A number that an option is given. -/
def numberIn (word : Octets) : Step Nat := do
  match Numeral.natural? word with
  | some n => return n
  | none => Step.error (word ++ ": invalid number".toList)

/-- The descriptor that options name. -/
def descriptorOf (chosen : List Chosen) : Step Nat := do
  match chosen.lookup 'u' with
  | none => return 0
  | some word =>
    let n ← match Numeral.natural? word with
      | some n => pure n
      | none => Step.error (word ++ ": invalid file descriptor specification".toList)
    if (Assoc.get? n (← get).channels).isNone then
      Step.error (word ++ ": invalid file descriptor: Bad file descriptor".toList)
    return n

/-- The character that ends lines by an option; none written stands for the null character. -/
def delimiterOf (chosen : List Chosen) : Char :=
  match chosen.lookup 'd' with
  | none => '\n'
  | some word => (word.head?).getD (Char.ofNat 0)

/-- Reads a line into variables, or into a list. -/
def readLine : Builtin := fun words => do
  let letters :=
    ("ers".toList.map fun c => (c, false)) ++ ("adinNptu".toList.map fun c => (c, true))
  let (chosen, names) ← options letters (words.length + 1) words
  let has (c : Char) : Bool := chosen.any fun x => x.1 == c
  let descriptor ← descriptorOf chosen
  let limit ← match (chosen.lookup 'n').or (chosen.lookup 'N') with
    | some word => pure (some (← numberIn word))
    | none => pure none
  let delimiter := if has 'N' then none else some (delimiterOf chosen)
  let f : LineForm := ⟨has 'r', delimiter, limit⟩
  match names.find? fun name => !isName (name.takeWhile (· != '[')) with
  | some name => refuseName name
  | none => pure ()
  let (text, status) ← if limit == some 0 then pure ([], 0) else do
    match ← Step.readWhile descriptor {} (fun p text => lineStop f p 0 text) with
    | .error _ => pure ([], 1)
    | .ok text =>
      let isWhole := (lineStop f {} 0 text).isRight
      let ended := isWhole && text.getLast? == delimiter
      pure ((if ended then text.dropLast else text).filter (· != Char.ofNat 0),
        if isWhole then 0 else 1)
  let seps : Separators := ⟨(← get).separators⟩
  let whole := unescaped f.raw text
  let line := whole.dropWhile seps.isBlank
  match chosen.lookup 'a', names with
  | some name, _ => Step.storeElements name (.ofValues (seps.fields (line.length + 1) line))
  | none, [] => Step.assign "REPLY".toList (whole.map (·.1))
  | none, name :: more =>
    if has 'N' then
      Step.assignNamed name (whole.map (·.1))
      more.forM fun name => Step.assignNamed name []
    else (seps.distribute names line).forM fun (name, value) => Step.assignNamed name value
  return status

/-! ## Many lines -/

/-- The lines of a text, each with what ends it. -/
def linesOf (delimiter : Char) : Octets → List Octets
  | [] => []
  | c :: rest =>
    let more := linesOf delimiter rest
    if c == delimiter then [c] :: more
    else match more with
      | line :: others => (c :: line) :: others
      | [] => [[c]]

/-- Reads lines into a list. -/
def readLines : Builtin := fun words => do
  let letters := ('t', false) :: ("dnOsuCc".toList.map fun c => (c, true))
  let (chosen, names) ← options letters (words.length + 1) words
  let descriptor ← descriptorOf chosen
  let number (c : Char) : Step Nat := do
    match chosen.lookup c with
    | some word => numberIn word
    | none => return 0
  let limit ← number 'n'
  let skipped ← number 's'
  let start ← number 'O'
  let name := names.head?.getD "MAPFILE".toList
  if !isName name then refuseName name
  match ← Step.readAll descriptor with
  | .error _ => return 1
  | .ok text =>
    let delimiter := delimiterOf chosen
    let lines := (linesOf delimiter text).drop skipped
    let lines := if limit == 0 then lines else lines.take limit
    let drops := chosen.any fun c => c.1 == 't'
    let shorn (line : Octets) : Octets :=
      if (drops && line.getLast? == some delimiter) || line.getLast? == some (Char.ofNat 0) then
        line.dropLast
      else line
    let old ← if chosen.any fun c => c.1 == 'O' then Step.elementsOf name else pure {}
    let numbered := ((List.range lines.length).map (· + start)).zip (lines.map shorn)
    Step.storeElements name (numbered.foldl (fun (e : Elements) (n, line) =>
      e.put (toString n).toList line) old)
    return 0

end EditorAnalysis.Shell.Builtin
