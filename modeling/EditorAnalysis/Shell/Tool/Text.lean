/-
EditorAnalysis.Shell.Tool.Text — programs that show texts, parts of them or their size.
-/
import EditorAnalysis.Shell.Tool.Basic

namespace EditorAnalysis.Shell.Tool

open Text (Octets)
open Host (Errno)

/-! ## Whole texts -/

/-- How `cat` shows a text. -/
structure Display where
  /-- Lines are numbered. -/
  numbers : Bool
  /-- Lines with something in them are numbered. -/
  fullNumbers : Bool
  /-- Ends of lines are marked. -/
  ends : Bool
  /-- Of several empty lines one is shown. -/
  squeezes : Bool
  /-- Tabs are spelled out. -/
  tabs : Bool
  /-- Other control characters are spelled out. -/
  controls : Bool

namespace Display

/-- Nothing is changed. -/
def isPlain (d : Display) : Bool :=
  !(d.numbers || d.fullNumbers || d.ends || d.squeezes || d.tabs || d.controls)

/-- A character below 128, spelled out if it has to be. -/
def lowChar (d : Display) (c : Char) : Octets :=
  if c == '\t' then if d.tabs then ['^', 'I'] else [c]
  else if !d.controls then [c]
  else if c.toNat == 127 then ['^', '?']
  else if c.toNat < 32 then ['^', Char.ofNat (c.toNat + 64)]
  else [c]

/-- A character in a line. -/
def char (d : Display) (c : Char) : Octets :=
  if d.controls && 128 ≤ c.toNat then 'M' :: '-' :: d.lowChar (Char.ofNat (c.toNat - 128))
  else d.lowChar c

/-- A number in front of a line. -/
def number (n : Nat) : Octets :=
  let digits := (toString n).toList
  List.replicate (6 - digits.length) ' ' ++ digits ++ ['\t']

/-- Where the display stands. -/
structure Position where
  /-- How many lines were numbered. -/
  count : Nat := 0
  /-- At the beginning of a line. -/
  atStart : Bool := true
  /-- The last line was empty. -/
  afterEmpty : Bool := false

/-- A line as it is shown, and where the display stands then. -/
def line (d : Display) (p : Position) (line : Octets) : Octets × Position :=
  let ended := line.getLast? == some '\n'
  let content := body line
  let isEmpty := p.atStart && content.isEmpty && ended
  if isEmpty && p.afterEmpty && d.squeezes then ([], p)
  else
    let numbered := p.atStart && (if d.fullNumbers then !isEmpty else d.numbers)
    let count := if numbered then p.count + 1 else p.count
    let front := if numbered then number count else []
    let last := if ended then if d.ends then ['$', '\n'] else ['\n'] else []
    (front ++ content.flatMap d.char ++ last, ⟨count, ended, isEmpty⟩)

/-- A text as it is shown. -/
def text (d : Display) (p : Position) (text : Octets) : Octets × Position :=
  if d.isPlain then (text, p)
  else
    let (shown, p) := (lines text).foldl (fun (shown, p) l =>
      let (s, p) := d.line p l
      (s :: shown, p)) (([] : List Octets), p)
    (shown.reverse.flatten, p)

end Display

/-- Shows files one behind the other. -/
def cat : Tool := fun words => do
  let choices := [flag 'A' "show-all", flag 'b' "number-nonblank", ⟨some 'e', "", none⟩,
    flag 'E' "show-ends", flag 'n' "number", flag 's' "squeeze-blank", ⟨some 't', "", none⟩,
    flag 'T' "show-tabs", ⟨some 'u', "", none⟩, flag 'v' "show-nonprinting"]
  withOptions { choices } words fun chosen names => do
    if (Assoc.get? 1 (← get).channels).isNone then
      complainOf "standard output".toList .badDescriptor
      return failure
    let all := has chosen 'A'
    let d : Display :=
      { numbers := has chosen 'n'
        fullNumbers := has chosen 'b'
        ends := all || has chosen 'e' || has chosen 'E'
        squeezes := has chosen 's'
        tabs := all || has chosen 't' || has chosen 'T'
        controls := all || has chosen 'e' || has chosen 't' || has chosen 'v' }
    let names := if names.isEmpty then [['-']] else names
    let (_, status) ← names.foldlM (fun (p, status) name => do
      match ← contentOf name with
      | .ok text =>
        let (shown, p) := d.text p text
        Step.write shown
        return (p, status)
      | .error reason =>
        complainOf name reason
        return (p, failure)) (({} : Display.Position), 0)
    return status

/-! ## Parts of texts -/

/-- A part of a text at one of its ends. -/
structure Portion where
  /-- It is counted in lines, not bytes. -/
  inLines : Bool
  /-- How many. -/
  count : Nat
  /-- All but so many; at the end of a text, from the one with that number on. -/
  rest : Bool

namespace Portion

/-- What is shown unless options say something else. -/
def default : Portion := ⟨true, 10, false⟩

/-- The multipliers of numbers. -/
def multipliers : List (String × Nat) :=
  [("", 1), ("b", 512), ("kB", 1000), ("k", 1024), ("K", 1024), ("KiB", 1024), ("MB", 1000000),
    ("M", 1048576), ("MiB", 1048576), ("m", 1048576), ("GB", 1000000000), ("G", 1073741824)]

/-- The number that digits and a multiplier write. -/
def count? (cs : Octets) : Option Nat :=
  let digits := cs.takeWhile Char.isDigit
  if digits.isEmpty then none
  else (multipliers.lookup (String.ofList (cs.drop digits.length))).map fun k =>
    Numeral.valueIn 10 digits * k

/-- The portion that a word asks for; behind the sign all but so much is meant. -/
def ofWord? (inLines : Bool) (sign : Char) (w : Octets) : Option Portion :=
  match w with
  | c :: rest =>
    if c == sign then (count? rest).map fun n => ⟨inLines, n, true⟩
    else if c == '-' || c == '+' then (count? rest).map fun n => ⟨inLines, n, false⟩
    else (count? w).map fun n => ⟨inLines, n, false⟩
  | [] => none

/-- The beginning of a text. -/
def first (p : Portion) (text : Octets) : Octets :=
  if p.inLines then
    let all := lines text
    (all.take (if p.rest then all.length - p.count else p.count)).flatten
  else text.take (if p.rest then text.length - p.count else p.count)

/-- The end of a text. -/
def last (p : Portion) (text : Octets) : Octets :=
  if p.inLines then
    let all := lines text
    (all.drop (if p.rest then p.count - 1 else all.length - p.count)).flatten
  else text.drop (if p.rest then p.count - 1 else text.length - p.count)

/-- The end of the lines that are wanted is in a text: so much of it is enough. -/
def enough (p : Portion) : Nat → Nat → Octets → Nat ⊕ Nat
  | missing, n, [] => if missing = 0 then .inr n else .inl missing
  | missing, n, c :: rest =>
    if missing = 0 then .inr n
    else enough p (if !p.inLines || c == '\n' then missing - 1 else missing) (n + 1) rest

end Portion

/-- What has already come into a buffer is read with what was wanted from it. -/
def dropArrived : Step Unit := do
  let s ← get
  match ← Step.source? 0 with
  | .ok (.buffer number b) =>
    Step.setBuffer number { b with chunks := b.chunks.dropWhile fun c => c.1 ≤ s.clock }
  | _ => pure ()

/-- The beginning of a file, no more of it being read than has to be. -/
def beginning (p : Portion) (name : Octets) : Step (Except Errno Octets) := do
  let zeros : Step (Except Errno Octets) := do
    if p.inLines then throw .endless
    return .ok (List.replicate p.count (Char.ofNat 0))
  if name == "/dev/zero".toList then zeros
  else if name != ['-'] || p.rest then return (← contentOf name).map p.first
  else match ← Step.source? 0 with
    | .ok (.device true) => zeros
    | .ok _ =>
      if p.count = 0 then return .ok []
      let text ← Step.readWhile 0 p.count fun missing text => p.enough missing 0 text
      dropArrived
      return text
    | .error reason => return .error reason

/-- The heading of a file. -/
def heading (name : Octets) : Octets :=
  "==> ".toList ++ (if name == ['-'] then "standard input".toList else name) ++ " <==\n".toList

/-- Shows a part of each file, with headings if there are several or they are wanted. -/
def showParts (chosen : List Chosen) (names : List Octets)
    (part : Octets → Step (Except Errno Octets)) : Step Nat := do
  let names := if names.isEmpty then [['-']] else names
  let decided := (chosen.filter fun c => c.hasLetter 'q' || c.hasLetter 'v').getLast?
  let heads := match decided with
    | some c => c.hasLetter 'v'
    | none => 1 < names.length
  let (_, status) ← names.foldlM (fun (first, status) name => do
    match ← part name with
    | .ok text =>
      if heads then Step.write ((if first then [] else ['\n']) ++ heading name)
      Step.write text
      return (false, status)
    | .error .isDirectory =>
      if heads then Step.write ((if first then [] else ['\n']) ++ heading name)
      complain ("error reading ".toList ++ (← always name) ++ ": ".toList
        ++ Errno.isDirectory.text.toList)
      return (false, failure)
    | .error reason =>
      complain ("cannot open ".toList ++ (← always name) ++ " for reading: ".toList
        ++ reason.text.toList)
      return (first, failure)) (true, 0)
  return status

/-- The portion that options ask for, or the status after a complaint. -/
def portionOf (sign : Char) (chosen : List Chosen) : Step (Except Nat Portion) := do
  match (chosen.filter fun c => c.hasLetter 'n' || c.hasLetter 'c').getLast? with
  | none => return .ok .default
  | some c =>
    let inLines := c.hasLetter 'n'
    let w := c.value.getD []
    match Portion.ofWord? inLines sign w with
    | some p => return .ok p
    | none =>
      let what := if inLines then "lines" else "bytes"
      complain (("invalid number of " ++ what ++ ": ").toList ++ (← named w))
      return .error failure

/-- Words with a number in the place of an option's letter, that letter put in front. -/
def oldStyle (words : List Octets) : List Octets :=
  match words with
  | ('-' :: c :: rest) :: more =>
    if !c.isDigit then words
    else
      let digits := (c :: rest).takeWhile Char.isDigit
      match (c :: rest).drop digits.length with
      | [] => ('-' :: 'n' :: digits) :: more
      | ['c'] => ('-' :: 'c' :: digits) :: more
      | ['q'] => ('-' :: 'n' :: digits) :: "-q".toList :: more
      | _ => words
  | words => words

/-- Shows the beginnings of files. -/
def head : Tool := fun words => do
  let choices := [wanting 'n' "lines", wanting 'c' "bytes", flag 'q' "quiet", longFlag "silent",
    flag 'v' "verbose", flag 'z' "zero-terminated"]
  withOptions { choices } (oldStyle words) fun chosen names => do
    match ← portionOf '-' chosen with
    | .error status => return status
    | .ok p => showParts chosen names (beginning p)

/-- Shows the ends of files. -/
def tail : Tool := fun words => do
  let choices := [wanting 'n' "lines", wanting 'c' "bytes", flag 'q' "quiet", longFlag "silent",
    flag 'v' "verbose", flag 'z' "zero-terminated", ⟨some 'f', "follow", some false⟩,
    ⟨some 'F', "", none⟩]
  withOptions { choices } (oldStyle words) fun chosen names => do
    match ← portionOf '+' chosen with
    | .error status => return status
    | .ok p =>
      let status ← showParts chosen names fun name => do
        return (← contentOf name).map p.last
      if has chosen 'f' || has chosen 'F' then throw .endless
      return status

/-! ## Sizes -/

/-- The sizes of a text. -/
structure Sizes where
  /-- Line ends. -/
  lines : Nat := 0
  /-- Words. -/
  words : Nat := 0
  /-- Characters. -/
  chars : Nat := 0
  /-- Bytes. -/
  bytes : Nat := 0
  /-- The length of the longest line. -/
  longest : Nat := 0

namespace Sizes

/-- How many words a text has. -/
def wordCount (text : Octets) : Nat :=
  (text.foldl (fun (n, inside) c =>
    if Numeral.isBlank c then (n, false) else if inside then (n, true) else (n + 1, true))
    (0, false)).1

/-- The sizes of a text. -/
def ofText (utf8 : Bool) (text : Octets) : Sizes :=
  let chars := if utf8 then (Text.Utf8.decodeDropping (Octets.toBytes text)).length
    else text.length
  let longest := ((Tool.lines text).map fun l => (body l).length).foldl max 0
  ⟨text.count '\n', wordCount text, chars, text.length, longest⟩

/-- Both together. -/
def add (a b : Sizes) : Sizes :=
  ⟨a.lines + b.lines, a.words + b.words, a.chars + b.chars, a.bytes + b.bytes,
    max a.longest b.longest⟩

/-- The sizes that are wanted, in their order. -/
def chosen (s : Sizes) (letters : List Char) : List Nat :=
  [('l', s.lines), ('w', s.words), ('m', s.chars), ('c', s.bytes), ('L', s.longest)].filterMap
    fun (c, n) => if letters.contains c then some n else none

end Sizes

/-- How wide numbers are: as wide as that of all bytes in the files, or wider if there is
something else than files. -/
def sizesWidth (s : State) (names : List Octets) (single : Bool) : Nat :=
  let size (name : Octets) : Except Errno (Option Nat) :=
    if name == ['-'] then
      match Assoc.get? 0 s.channels with
      | some (.file number) =>
        match Assoc.get? number s.machine.opened with
        | some f => .ok (some (s.machine.contentOf f).length)
        | none => .ok none
      | _ => .ok none
    else match s.files.look (Octets.toString name) with
      | .ok (.file content _) => .ok (some content.length)
      | .ok _ => .ok none
      | .error reason => .error reason
  let sizes := names.map size
  if single || (sizes.head?.any fun r => r.toOption.isNone) then 1
  else
    let known := sizes.filterMap Except.toOption
    let total := (known.filterMap id).foldl (· + ·) 0
    max (toString total).length (if known.any Option.isNone then 7 else 1)

/-- Shows the sizes of files. -/
def wc : Tool := fun words => do
  let choices := [flag 'c' "bytes", flag 'm' "chars", flag 'l' "lines", flag 'w' "words",
    flag 'L' "max-line-length"]
  withOptions { choices } words fun chosen names => do
    let given := (chosen.filterMap fun c => c.choice.letter).eraseDups
    let letters := if given.isEmpty then ['l', 'w', 'c'] else given
    let s ← get
    let all := if names.isEmpty then [['-']] else names
    let width := sizesWidth s all (all.length = 1 && letters.length = 1)
    let pad (n : Nat) : Octets :=
      let digits := (toString n).toList
      List.replicate (width - digits.length) ' ' ++ digits
    let line (sizes : Sizes) (name : Octets) : Octets :=
      [' '].intercalate ((sizes.chosen letters).map pad)
        ++ (if name.isEmpty then [] else ' ' :: name) ++ ['\n']
    let (total, status) ← all.foldlM (fun (total, status) name => do
      let shownName := if names.isEmpty then [] else name
      match ← contentOf name with
      | .ok text =>
        let sizes := Sizes.ofText (readsUtf8 s) text
        Step.write (line sizes shownName)
        return (Sizes.add total sizes, status)
      | .error reason =>
        complainOf name reason
        if reason == .isDirectory then Step.write (line {} shownName)
        return (total, failure)) (({} : Sizes), 0)
    if 1 < all.length then Step.write (line total "total".toList)
    return status

/-! ## Copies -/

/-- Writes what it reads to the output and to files. -/
def tee : Tool := fun words => do
  let choices := [flag 'a' "append", flag 'i' "ignore-interrupts", ⟨some 'p', "", none⟩]
  withOptions { choices } words fun chosen names => do
    match ← Step.readAll 0 with
    | .error reason =>
      complain ("read error: ".toList ++ reason.text.toList)
      return failure
    | .ok text =>
      Step.write text
      let results ← names.mapM fun name => do
        let s ← get
        let path := Octets.toString name
        match s.files.look path with
        | .ok (.device _) => return true
        | _ =>
          let old := match has chosen 'a', s.files.read path with
            | true, .ok content => content
            | _, _ => []
          match s.files.write path (old ++ Octets.toBytes text) with
          | .ok files =>
            set { s with machine := { s.machine with tree := files.tree } }
            return true
          | .error reason =>
            complainOf name reason
            return false
      return if results.all id then 0 else failure

/-- Shows lines in the reverse order. -/
def tac : Tool := fun words => do
  withOptions { choices := [] } words fun _ names =>
    eachContent names fun _ text => Step.write (lines text).reverse.flatten

/-- Shows lines with their characters in the reverse order. -/
def rev : Tool := fun words => do
  withOptions { choices := [] } words fun _ names =>
    eachContent names fun _ text => Step.write ((lines text).flatMap fun l =>
      (body l).reverse ++ (if l.getLast? == some '\n' then ['\n'] else []))

/-- How many bytes a program writes that never stops by itself, before the one behind it has
read enough. -/
def endlessBytes : Nat := 131072

/-- Writes a line again and again. -/
def yes : Tool := fun words => do
  withOptions { choices := [], endsAtWord := true } words fun _ words => do
    let line := (if words.isEmpty then ['y'] else [' '].intercalate words) ++ ['\n']
    match Assoc.get? 1 (← get).channels with
    | some (.pipe _) => Step.write (List.replicate (endlessBytes / line.length) line).flatten
    | _ => pure ()
    throw .endless

end EditorAnalysis.Shell.Tool
