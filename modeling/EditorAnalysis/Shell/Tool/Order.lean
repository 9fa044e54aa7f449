/-
EditorAnalysis.Shell.Tool.Order — lines in order, lines that repeat, rows of numbers.
-/
import EditorAnalysis.Shell.Format
import EditorAnalysis.Shell.Tool.Basic

namespace EditorAnalysis.Shell.Tool

open Text (Octets)

/-! ## Comparing -/

/-- The order of what two functions yield, and then of what two others do. -/
def lexicographic (a b : Ordering) : Ordering := match a with
  | .eq => b
  | o => o

/-- The order of texts byte by byte. -/
def byBytes (a b : Octets) : Ordering :=
  if decide (a < b) then .lt else if a == b then .eq else .gt

/-- The number at the beginning of a text, as a fraction without its sign. -/
def numberAt (cs : Octets) : Bool × Nat × Nat :=
  let cs := cs.dropWhile fun c => c == ' ' || c == '\t'
  let (negative, cs) := match cs with
    | '-' :: rest => (true, rest)
    | rest => (false, rest)
  let whole := cs.takeWhile Char.isDigit
  let fraction := match cs.drop whole.length with
    | '.' :: rest => rest.takeWhile Char.isDigit
    | _ => []
  (negative, Numeral.valueIn 10 (whole ++ fraction), Number.tenTo fraction.length)

/-- The order of two fractions with signs. -/
def byFractions (a b : Bool × Nat × Nat) : Ordering :=
  let signed (x : Bool × Nat × Nat) : Int := if x.1 then -(x.2.1 : Int) else x.2.1
  compare (signed a * b.2.2) (signed b * a.2.2)

/-- The order of the numbers at the beginnings of texts. -/
def byNumbers (a b : Octets) : Ordering := byFractions (numberAt a) (numberAt b)

/-- The rank of a unit behind a number. -/
def unitRank (cs : Octets) : Nat :=
  let rest := (cs.dropWhile fun c => c == ' ' || c == '\t' || c == '-').dropWhile fun c =>
    c.isDigit || c == '.'
  match rest with
  | c :: _ => ("KMGTPEZY".toList.idxOf? c.toUpper).elim 0 (· + 1)
  | [] => 0

/-- The order of numbers with units. -/
def byUnits (a b : Octets) : Ordering :=
  let key (cs : Octets) : Int × (Bool × Nat × Nat) :=
    let n := numberAt cs
    let rank : Int := if n.2.1 = 0 then 0 else unitRank cs + 1
    (if n.1 then -rank else rank, n)
  lexicographic (compare (key a).1 (key b).1) (byFractions (key a).2 (key b).2)

/-- The rank of a month. -/
def monthRank (cs : Octets) : Nat :=
  let name := ((cs.dropWhile Numeral.isBlank).take 3).map Char.toUpper
  (["JAN", "FEB", "MAR", "APR", "MAY", "JUN", "JUL", "AUG", "SEP", "OCT", "NOV", "DEC"].idxOf?
    (String.ofList name)).elim 0 (· + 1)

/-- The order of general numbers. -/
def byReals (a b : Octets) : Ordering :=
  let key (cs : Octets) : Option (Bool × Nat × Nat) :=
    match Real.read? cs with
    | some (.finite negative n d, _) => some (negative, n, d)
    | some (.infinite negative, _) => some (negative, Number.tenTo 5000, 1)
    | _ => none
  match key a, key b with
  | some x, some y => byFractions x y
  | none, some _ => .lt
  | some _, none => .gt
  | none, none => .eq

/-! ## Versions -/

/-- The weight of a character in a version; the end of it weighs less than most. -/
def versionWeight : Octets → Int
  | [] => -1
  | c :: _ =>
    if c.isDigit then 0
    else if c.isAlpha then c.toNat
    else if c == '~' then -2
    else c.toNat + 256

/-- The order of versions, text and numbers in turn. -/
def versionOrder : Nat → Octets → Octets → Ordering
  | 0, _, _ => .eq
  | fuel + 1, a, b =>
    let startsText (cs : Octets) : Bool := (cs.head?.map fun c => !c.isDigit).getD false
    if a.isEmpty && b.isEmpty then .eq
    else if startsText a || startsText b then
      if versionWeight a != versionWeight b then compare (versionWeight a) (versionWeight b)
      else versionOrder fuel (a.drop 1) (b.drop 1)
    else
      let m := a.takeWhile Char.isDigit
      let n := b.takeWhile Char.isDigit
      let o := compare (Numeral.valueIn 10 m) (Numeral.valueIn 10 n)
      lexicographic o (versionOrder fuel (a.drop m.length) (b.drop n.length))

/-- A name without the endings behind its last version. -/
def withoutSuffix (cs : Octets) : Octets :=
  let parts := Text.splitOn '.' cs
  let isSuffix (part : Octets) : Bool :=
    match part with
    | c :: rest => (c.isAlpha || c == '~') && rest.all fun c => c.isAlphanum || c == '~'
    | [] => false
  match parts with
  | first :: more =>
    let kept := (more.reverse.dropWhile isSuffix).reverse
    ['.'].intercalate (first :: kept)
  | [] => []

/-- The order of names that hold versions. -/
def byVersions (a b : Octets) : Ordering :=
  let order (a b : Octets) : Ordering := versionOrder (a.length + b.length + 2) a b
  match a, b with
  | [], [] => .eq
  | [], _ => .lt
  | _, [] => .gt
  | _, _ => lexicographic (order (withoutSuffix a) (withoutSuffix b)) (order a b)

/-! ## Keys -/

/-- How keys are compared. -/
structure Manner where
  /-- The letters that say so. -/
  letters : List Char

namespace Manner

/-- The order of two keys, as it is before it is turned round. -/
def compare (m : Manner) (a b : Octets) : Ordering :=
  let has (c : Char) : Bool := m.letters.contains c
  if has 'n' then byNumbers a b
  else if has 'g' then byReals a b
  else if has 'h' then byUnits a b
  else if has 'M' then Ord.compare (monthRank a) (monthRank b)
  else if has 'V' then byVersions a b
  else
    let shape (cs : Octets) : Octets :=
      let cs := if has 'd' then cs.filter fun c => c.isAlphanum || c == ' ' || c == '\t' else cs
      let cs := if has 'i' then cs.filter fun c => 32 ≤ c.toNat && c.toNat < 127 else cs
      if has 'f' then cs.map Char.toUpper else cs
    byBytes (shape a) (shape b)

/-- The order of two keys. -/
def order (m : Manner) (a b : Octets) : Ordering :=
  if m.letters.contains 'r' then (m.compare a b).swap else m.compare a b

end Manner

/-- A position in a line: a field, a character in it, and letters. -/
structure Position where
  /-- The field, counted from one. -/
  field : Nat
  /-- The character in it, counted from one; none, where nothing says so. -/
  char : Nat
  /-- The letters behind. -/
  letters : List Char

/-- A key: from a position on, to the end or another position. -/
structure SortKey where
  /-- Where it begins. -/
  start : Position
  /-- Where it ends. -/
  stop : Option Position

/-- The fields of a line. Where nothing separates them, each begins with the blanks in front. -/
def sortFields (separator : Option Char) (line : Octets) : List Octets :=
  match separator with
  | some c => Text.splitOn c line
  | none =>
    let isBlank (c : Char) : Bool := c == ' ' || c == '\t'
    let step (state : List Octets × Octets × Bool) (c : Char) : List Octets × Octets × Bool :=
      let (done, current, inText) := state
      if isBlank c && inText then (current.reverse :: done, [c], false)
      else (done, c :: current, inText || !isBlank c)
    let (done, current, _) := line.foldl step ([], [], false)
    (current.reverse :: done).reverse

/-- The part of a line that a key means. -/
def keyOf (separator : Option Char) (skipsBlanks : Bool) (k : SortKey) (line : Octets) : Octets :=
  let fields := sortFields separator line
  let gap := if separator.isSome then 1 else 0
  let offset (n : Nat) : Nat :=
    (fields.take n).foldl (fun width f => width + f.length + gap) 0
  let blanks (n : Nat) : Nat :=
    ((line.drop n).takeWhile fun c => c == ' ' || c == '\t').length
  let begins := offset (k.start.field - 1)
  let begins := if skipsBlanks || k.start.letters.contains 'b' then begins + blanks begins
    else begins
  let begins := min (begins + (k.start.char - 1)) line.length
  let ends := match k.stop with
    | none => line.length
    | some p =>
      if p.char = 0 then offset p.field - (if fields.length ≤ p.field then 0 else gap)
      else
        let from_ := offset (p.field - 1)
        let from_ := if skipsBlanks || p.letters.contains 'b' then from_ + blanks from_ else from_
        from_ + p.char
  (line.take (min ends line.length)).drop begins

/-- A position that a word writes, and what follows it. -/
def position? (cs : Octets) : Option (Position × Octets) :=
  match Numeral.digits? 10 cs with
  | none => none
  | some (field, rest) =>
    let (char, rest) := match rest with
      | '.' :: more => ((Numeral.digits? 10 more).getD (0, more))
      | more => (0, more)
    let letters := rest.takeWhile Char.isAlpha
    some (⟨field, char, letters⟩, rest.drop letters.length)

/-- The key that a word writes. -/
def sortKey? (w : Octets) : Option SortKey :=
  match position? w with
  | none => none
  | some (start, rest) =>
    match rest with
    | [] => some ⟨start, none⟩
    | ',' :: rest =>
      match position? rest with
      | some (stop, []) => some ⟨start, some stop⟩
      | _ => none
    | _ => none

/-- The letters that say how lines are compared. -/
def orderLetters : List Char := "bdfghiMnrV".toList

/-- The order of lines. -/
def lineOrder (separator : Option Char) (letters : List Char) (keys : List SortKey)
    (lastResort : Bool) (a b : Octets) : Ordering :=
  let skips := letters.contains 'b'
  let byKeys := keys.foldl (fun o k =>
    let own := k.start.letters ++ (k.stop.map (·.letters)).getD []
    let m : Manner := ⟨if own.isEmpty then letters else own⟩
    let key (line : Octets) : Octets := keyOf separator (own.isEmpty && skips) k line
    lexicographic o (m.order (key a) (key b))) .eq
  let trimmed (line : Octets) : Octets :=
    if skips then line.dropWhile fun c => c == ' ' || c == '\t' else line
  let first := if keys.isEmpty then (⟨letters⟩ : Manner).order (trimmed a) (trimmed b) else byKeys
  if lastResort then
    lexicographic first (if letters.contains 'r' then (byBytes a b).swap else byBytes a b)
  else first

/-- Lines of which no two neighbours are equal in an order. -/
def withoutRepeats (order : Octets → Octets → Ordering) : List Octets → List Octets
  | a :: b :: rest =>
    if order a b == .eq then withoutRepeats order (a :: rest)
    else a :: withoutRepeats order (b :: rest)
  | lines => lines

/-- The first line that is out of order, and its number. -/
def disorder? (p : Octets → Octets → Bool) : Nat → List Octets → Option (Nat × Octets)
  | n, a :: b :: rest => if p a b then disorder? p (n + 1) (b :: rest) else some (n + 1, b)
  | _, _ => none

/-- Sorts lines. -/
def sort : Tool := fun words => do
  let choices := [flag 'b' "ignore-leading-blanks", flag 'd' "dictionary-order",
    flag 'f' "ignore-case", flag 'g' "general-numeric-sort", flag 'i' "ignore-nonprinting",
    flag 'M' "month-sort", flag 'h' "human-numeric-sort", flag 'n' "numeric-sort",
    flag 'r' "reverse", flag 'V' "version-sort", flag 'c' "check", ⟨some 'C', "", none⟩,
    wanting 'k' "key", flag 'm' "merge", wanting 'o' "output", flag 's' "stable",
    wanting 't' "field-separator", flag 'u' "unique", flag 'z' "zero-terminated"]
  withOptions { choices, status := 2 } words fun chosen names => do
    let separator := valueOf? chosen 't'
    let given := (chosen.filter fun c => c.hasLetter 'k').map fun c => c.value.getD []
    let keys := given.map sortKey?
    let bad := (given.zip keys).find? fun (_, k) => k.all fun k => decide (k.start.field = 0)
    match separator, bad with
    | some (_ :: _ :: _), _ =>
      complain ("multi-character tab ".toList ++ (← named (separator.getD [])))
      return 2
    | _, some (w, none) =>
      complain ("invalid number at field start: invalid count at start of ".toList ++ (← named w))
      return 2
    | _, some (w, some _) =>
      complain ("field number is zero: invalid field specification ".toList ++ (← named w))
      return 2
    | _, none =>
      let letters := (chosen.filterMap fun c => c.choice.letter).filter orderLetters.contains
      let order := lineOrder (separator.bind List.head?) letters (keys.filterMap id)
      let unique := has chosen 'u'
      let names := if names.isEmpty then [['-']] else names
      let texts ← names.mapM fun name => do return (name, ← contentOf name)
      match texts.findSome? fun (name, r) => match r with
          | .error reason => some (name, reason)
          | .ok _ => none with
      | some (name, reason) =>
        let front := if reason == .isDirectory then "read failed: "
          else if has chosen 'c' then "open failed: " else "cannot read: "
        complain (front.toList ++ name ++ ": ".toList ++ reason.text.toList)
        return 2
      | none =>
        let all := texts.flatMap fun (_, r) => (lines (r.toOption.getD [])).map body
        let last := !(unique || has chosen 's')
        if has chosen 'c' || has chosen 'C' then
          let fits (a b : Octets) : Bool :=
            let o := order last a b
            o == .lt || (o == .eq && !unique)
          match disorder? fits 1 all with
          | none => return 0
          | some (n, line) =>
            unless has chosen 'C' do
              complain (names.head?.getD [] ++ ':' :: (toString n).toList
                ++ ": disorder: ".toList ++ line)
            return failure
        else
          let sorted := all.mergeSort fun a b => order last a b != .gt
          let sorted := if unique then withoutRepeats (order false) sorted else sorted
          let text := sorted.flatMap fun l => l ++ ['\n']
          match valueOf? chosen 'o' with
          | none =>
            Step.write text
            return 0
          | some name =>
            let s ← get
            match s.files.write (Octets.toString name) (Octets.toBytes text) with
            | .ok files =>
              set { s with machine := { s.machine with tree := files.tree } }
              return 0
            | .error reason =>
              complain ("open failed: ".toList ++ name ++ ": ".toList ++ reason.text.toList)
              return 2

/-! ## Repeats -/

/-- Neighbours that are equal, with their number. -/
def runs (same : Octets → Octets → Bool) : List Octets → List (Nat × Octets)
  | [] => []
  | line :: rest =>
    match runs same rest with
    | (n, next) :: more => if same line next then (n + 1, line) :: more
        else (1, line) :: (n, next) :: more
    | [] => [(1, line)]

/-- Shows lines without their repeats. -/
def uniq : Tool := fun words => do
  let choices := [flag 'c' "count", flag 'd' "repeated", ⟨some 'D', "all-repeated", none⟩,
    wanting 'f' "skip-fields", flag 'i' "ignore-case", wanting 's' "skip-chars",
    flag 'u' "unique", flag 'z' "zero-terminated", wanting 'w' "check-chars"]
  withOptions { choices } words fun chosen names => do
    match names with
    | _ :: _ :: extra :: _ => misuse failure ("extra operand ".toList ++ (← named extra))
    | _ =>
      let number (c : Char) : Option Nat := (valueOf? chosen c).bind Numeral.natural?
      let dropFields (n : Nat) (line : Octets) : Octets :=
        n.repeat (fun l => (l.dropWhile Numeral.isBlank).dropWhile fun c => !Numeral.isBlank c)
          line
      let key (line : Octets) : Octets :=
        let line := dropFields ((number 'f').getD 0) line
        let line := line.drop ((number 's').getD 0)
        let line := match number 'w' with
          | some n => line.take n
          | none => line
        if has chosen 'i' then line.map Char.toLower else line
      let shown (n : Nat) (line : Octets) : Octets :=
        if (has chosen 'd' && n < 2) || (has chosen 'u' && 1 < n) then []
        else
          let digits := (toString n).toList
          let front :=
            if has chosen 'c' then List.replicate (7 - digits.length) ' ' ++ digits ++ [' ']
            else []
          front ++ line ++ ['\n']
      eachContent (names.take 1) fun _ text => do
        let groups := runs (fun a b => key a == key b) ((lines text).map body)
        let out := groups.flatMap fun (n, line) => shown n line
        match names with
        | [_, target] =>
          let s ← get
          match s.files.write (Octets.toString target) (Octets.toBytes out) with
          | .ok files => set { s with machine := { s.machine with tree := files.tree } }
          | .error reason => complainOf target reason
        | _ => Step.write out

/-! ## Rows of numbers -/

/-- A number of a row as it is written. -/
structure Operand where
  /-- Its sign and size, over a power of ten. -/
  value : Int
  /-- How many places are behind its point; nothing, if it is written in another way. -/
  places : Option Nat
  /-- The power of ten. -/
  scale : Nat
  /-- How wide it is. -/
  width : Nat

/-- The operand that a word writes. -/
def operand? (w : Octets) : Option Operand :=
  let w := w.dropWhile Numeral.isBlank
  let w := if w.head? == some '+' then w.drop 1 else w
  match Real.read? w with
  | some (.finite negative n d, []) =>
    let plain := w.all fun c => c.isDigit || c == '.' || c == '-'
    let fraction := (w.dropWhile (· != '.')).drop 1
    let scale := if plain then fraction.length else 20
    let value : Int := (n * Number.tenTo scale / d : Nat)
    some ⟨if negative then -value else value, if plain then some fraction.length else none,
      scale, w.length⟩
  | _ => none

/-- The word writes an endless number. -/
def isEndless (w : Octets) : Bool :=
  match Real.read? w with
  | some (.infinite false, []) => true
  | _ => false

/-- A number of a row with so many places, over a power of ten. -/
def rowText (places scale width : Nat) (n : Int) : Octets :=
  let digits := Real.fixed places false n.natAbs (Number.tenTo scale)
  let sign := if n < 0 then ['-'] else []
  sign ++ List.replicate (width - sign.length - digits.length) '0' ++ digits

/-- What is wrong with the format of a row, if anything. -/
def formatProblem? (format : Octets) : Option Octets :=
  let rec look : Nat → Octets → Bool → Option Octets
    | 0, _, _ => none
    | _, [], found => if found then none else some " has no % directive".toList
    | fuel + 1, '%' :: '%' :: rest, found => look fuel rest found
    | fuel + 1, '%' :: rest, found =>
      if found then some " has too many % directives".toList
      else
        let rest := rest.dropWhile fun c => "-+#0 '".toList.contains c
        let rest := rest.dropWhile fun c => c.isDigit || c == '.'
        match rest with
        | [] => some " ends in %".toList
        | c :: rest =>
          if "aeEfFgG".toList.contains c then look fuel rest true
          else some (" has unknown %".toList ++ c :: " directive".toList)
    | fuel + 1, _ :: rest, found => look fuel rest found
  look (format.length + 1) format false

/-- The greatest number of numbers that are written. -/
def rowBound : Nat := 1000000

/-- Writes a row of numbers. -/
def seq : Tool := fun words => do
  let choices := [flag 'w' "equal-width", wanting 's' "separator", wanting 'f' "format"]
  let isNumber (w : Octets) : Bool :=
    match w with
    | '-' :: c :: _ => c.isDigit || c == '.'
    | _ => false
  let options := words.takeWhile fun w => !isNumber w
  let guarded := if words.any isNumber then options ++ ["--".toList] ++ words.drop options.length
    else words
  withOptions { choices, endsAtWord := true } guarded fun chosen words => do
    let words := words.filter fun w => w != "--".toList
    match words with
    | [] => misuse failure "missing operand".toList
    | _ :: _ :: _ :: extra :: _ => misuse failure ("extra operand ".toList ++ (← named extra))
    | _ =>
      match words.find? fun w => (operand? w).isNone && !isEndless w with
      | some w => misuse failure ("invalid floating point argument: ".toList ++ (← named w))
      | none =>
        let one : Operand := ⟨1, some 0, 0, 1⟩
        let get (k : Nat) : Operand := ((words[k]?).bind operand?).getD one
        let (first, step, last) := match words.length with
          | 1 => (one, one, get 0)
          | 2 => (get 0, one, get 1)
          | _ => (get 0, get 1, get 2)
        let endless := (words.getLast?.map isEndless).getD false
        if step.value = 0 then
          misuse failure ("invalid Zero increment value: ".toList ++ (← named (words.getD 1 [])))
        else match (valueOf? chosen 'f').bind fun f => (formatProblem? f).map fun p => (f, p) with
          | some (f, problem) =>
            complain ("format ".toList ++ (← named f) ++ problem)
            return failure
          | none => row chosen first step last endless
where
  /-- Writes a row. -/
  row (chosen : List Chosen) (first step last : Operand) (endless : Bool) : Step Nat := do
    let scale := max first.scale (max step.scale last.scale)
    let raised (o : Operand) : Int := o.value * (Number.tenTo (scale - o.scale) : Nat)
    let a := raised first
    let d := raised step
    let z := raised last
    let count := if endless then 20000
      else if 0 < d then (if z < a then 0 else ((z - a) / d).toNat + 1)
      else (if a < z then 0 else ((a - z) / (-d)).toNat + 1)
    let places := max (first.places.getD 0) (step.places.getD 0)
    let widened (o : Operand) : Nat :=
      let own := o.places.getD 0
      let width := o.width + places - own
      if own = 0 && 0 < places then width + 1
      else if 0 < own && places = 0 then width - 1
      else width
    let width := if has chosen 'w' then max (widened first) (widened last) else 0
    let isPlain := first.places.isSome && step.places.isSome && last.places.isSome
    let text (n : Int) : Octets :=
      match valueOf? chosen 'f' with
      | some f =>
        let word := (if n < 0 then ['-'] else [])
          ++ Real.fixed scale false n.natAbs (Number.tenTo scale)
        (Format.write (.program false) f [word]).text
      | none =>
        if isPlain then rowText places scale width n
        else (if n < 0 then ['-'] else [])
          ++ Real.general 6 false n.natAbs (Number.tenTo scale)
    let numbers := (List.range (min count rowBound)).map fun (k : Nat) => text (a + d * k)
    let separator := (valueOf? chosen 's').getD ['\n']
    unless numbers.isEmpty do Step.write (separator.intercalate numbers ++ ['\n'])
    if endless then throw .endless
    return 0

end EditorAnalysis.Shell.Tool
