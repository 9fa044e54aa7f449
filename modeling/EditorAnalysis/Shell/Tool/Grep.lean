/-
EditorAnalysis.Shell.Tool.Grep — the program that looks for lines with a pattern.

A line is selected if the pattern matches somewhere in it, or nowhere, as asked for. What
is written about selected lines is their number, the names of their files, the matches in
them or the lines themselves, perhaps with the lines around.
-/
import EditorAnalysis.Shell.Regex
import EditorAnalysis.Shell.Tool.Text

namespace EditorAnalysis.Shell.Tool

open Text (Octets)
open Host (Errno Place Tree)

namespace Grep

/-- What is looked for, and what is written about it. -/
structure Task where
  /-- The pattern. -/
  regex : Regex
  /-- Bytes are read as UTF-8. -/
  utf8 : Bool
  /-- Letters match in both cases. -/
  ignoresCase : Bool
  /-- A match is a whole line. -/
  wholeLine : Bool
  /-- A match is made of whole words. -/
  wholeWord : Bool
  /-- Lines without a match are selected. -/
  inverted : Bool
  /-- At most so many lines are selected. -/
  limit : Option Nat
  /-- Matches are written, not lines. -/
  onlyMatches : Bool
  /-- Lines are numbered. -/
  numbered : Bool
  /-- Places are told in bytes. -/
  placed : Bool
  /-- The files' names are written. -/
  named : Bool
  /-- So many lines before a selected one are written, and so many behind it. -/
  before : Nat
  /-- So many lines behind a selected one are written. -/
  after : Nat
  /-- There are lines around selected ones, in groups. -/
  groups : Bool
  /-- Every file is a text. -/
  asText : Bool

/-- A line of a file: its number, where it begins, and what it says. -/
structure Line where
  /-- Its number. -/
  number : Nat
  /-- How many bytes are in front of it. -/
  offset : Nat
  /-- What it says. -/
  text : Octets

/-- The lines of a text. -/
def linesOf (text : Octets) : List Line :=
  let step (state : List Line × Nat × Nat) (line : Octets) : List Line × Nat × Nat :=
    let (done, number, offset) := state
    (⟨number, offset, body line⟩ :: done, number + 1, offset + line.length)
  ((lines text).foldl step ([], 1, 0)).1.reverse

namespace Task

/-- A line as it is searched. -/
def subject (t : Task) (text : Octets) : Regex.Subject :=
  ⟨(letters t.utf8 text).toArray, t.ignoresCase, false⟩

/-- What may be a match from one place to another. -/
def allows (t : Task) (s : Regex.Subject) (start stop : Nat) : Bool :=
  (!t.wholeLine || (start == 0 && stop == s.chars.size))
    && (!t.wholeWord || (!(0 < start && s.inWord (start - 1)) && !s.inWord stop))

/-- The first match in a line from a place on. -/
def find (t : Task) (s : Regex.Subject) (n : Nat) : Option Regex.Found :=
  Regex.searchWhere s t.regex (t.allows s) n

/-- The line is selected. -/
def selects (t : Task) (text : Octets) : Bool :=
  (t.find (t.subject text) 0).isSome != t.inverted

/-- The matches in a line that are not empty: where they begin, in bytes, and their text. -/
def matchesFrom (t : Task) (s : Regex.Subject) : Nat → Nat → List (Nat × Octets)
  | 0, _ => []
  | fuel + 1, n =>
    match t.find s n with
    | none => []
    | some f =>
      if f.start == f.stop then
        if f.stop < s.chars.size then t.matchesFrom s fuel (f.stop + 1) else []
      else
        let front := unletters t.utf8 (s.chars.extract 0 f.start).toList
        (front.length, unletters t.utf8 (f.text s)) :: t.matchesFrom s fuel f.stop

/-- What stands in front of a line. -/
def front (t : Task) (name : Octets) (mark : Char) (number offset : Nat) : Octets :=
  (if t.named then name ++ [mark] else [])
    ++ (if t.numbered then (toString number).toList ++ [mark] else [])
    ++ (if t.placed then (toString offset).toList ++ [mark] else [])

/-- The first lines that are selected, as many as may be. -/
def selected (t : Task) (all : List Line) : List Line :=
  let found := all.filter fun l => t.selects l.text
  match t.limit with
  | some n => found.take n
  | none => found

/-- A selected line as it is written. -/
def written (t : Task) (name : Octets) (l : Line) : Octets :=
  if t.onlyMatches then
    if t.inverted then []
    else
      let s := t.subject l.text
      (t.matchesFrom s (s.chars.size + 2) 0).flatMap fun (offset, text) =>
        t.front name ':' l.number (l.offset + offset) ++ text ++ ['\n']
  else t.front name ':' l.number l.offset ++ l.text ++ ['\n']

/-- Lines with those around them; the number of the last line written is known. Behind a gap
stands a mark. -/
def around (t : Task) (name : Octets) (numbers : List Nat) : Nat → Nat → List Line → List Octets
  | _, _, [] => []
  | left, last, l :: rest =>
    let isSelected := numbers.contains l.number
    let isBefore := numbers.any fun n => l.number < n && n ≤ l.number + t.before
    let follows := 0 < left
    if isSelected || isBefore || follows then
      let gap := if t.groups && 0 < last && last + 1 < l.number then "--\n".toList else []
      let text := if isSelected then t.written name l
        else if t.onlyMatches then []
        else t.front name '-' l.number l.offset ++ l.text ++ ['\n']
      let left := if isSelected then t.after else left - 1
      (gap ++ text) :: t.around name numbers left l.number rest
    else t.around name numbers 0 last rest

end Task

/-- What is written about a file. -/
inductive Report where
  /-- Nothing; the first selected line ends everything. -/
  | nothing
  /-- Its name, if a line is selected, or if none is. -/
  | name (selected : Bool)
  /-- How many lines are selected. -/
  | count
  /-- The lines. -/
  | lines

/-- The options of the program. -/
def style : Style :=
  { choices := [flag 'E' "extended-regexp", flag 'F' "fixed-strings", flag 'G' "basic-regexp",
      flag 'P' "perl-regexp", wanting 'e' "regexp", wanting 'f' "file", flag 'i' "ignore-case",
      flag 'y' "", flag 'v' "invert-match", flag 'w' "word-regexp", flag 'x' "line-regexp",
      flag 'c' "count", flag 'l' "files-with-matches", flag 'L' "files-without-match",
      flag 'q' "quiet", longFlag "silent", flag 's' "no-messages", flag 'h' "no-filename",
      flag 'H' "with-filename", flag 'n' "line-number", flag 'o' "only-matching",
      wanting 'm' "max-count", wanting 'A' "after-context", wanting 'B' "before-context",
      wanting 'C' "context", flag 'a' "text", flag 'I' "", flag 'b' "byte-offset",
      flag 'r' "recursive", flag 'R' "dereference-recursive", flag 'U' "binary",
      ⟨none, "color", some false⟩, ⟨none, "colour", some false⟩, longFlag "line-buffered",
      longFlag "no-ignore-case", ⟨none, "include", some true⟩, flag 'Z' "null"]
    status := 2
    usage := ["Usage: grep [OPTION]... PATTERNS [FILE]...",
      "Try 'grep --help' for more information."] }

/-- The status of trouble. -/
def trouble : Nat := 2

/-- Options of digits ask for lines around. -/
def withNumbers (words : List Octets) : List Octets :=
  words.map fun w =>
    match w with
    | '-' :: digits => if (Numeral.natural? digits).isSome then '-' :: 'C' :: digits else w
    | w => w

/-- The lines of a pattern. -/
def patternLines (text : Octets) : List Octets := Text.splitOn '\n' text

/-- The expression that matches what one of some patterns does. -/
def regexOf (utf8 fixed extended digits : Bool) (patterns : List Octets) :
    Except Regex.Problem Regex := do
  let d : Regex.Dialect :=
    { extended, refusesLooseClasses := !digits, hasDigits := digits }
  let all ← patterns.mapM fun p =>
    if fixed then .ok (Regex.literally (letters utf8 p)) else Regex.ofText d (letters utf8 p)
  match all with
  | [] => return .oneOf false []
  | r :: more => return more.foldl Regex.either r

/-- The files below a directory, with their paths. -/
def below (tree : Tree) : Nat → Octets → Place → List (Octets × Place)
  | 0, _, _ => []
  | fuel + 1, path, place =>
    match tree.get? place with
    | some .directory =>
      (tree.entries place).flatMap fun name =>
        let path := if path.isEmpty then Octets.ofString name
          else path ++ '/' :: Octets.ofString name
        below tree fuel path (place ++ [name])
    | some (.file ..) => [(path, place)]
    | _ => []

/-- How deeply directories are searched. -/
def searchDepth : Nat := 64

/-- The contents of the files to be searched under their names; what cannot be read is complained
of, or passed over. -/
def contents (silent recursive : Bool) (names : List Octets) :
    Step (List (Octets × Except Errno Octets)) := do
  let s ← get
  let all ← names.mapM fun name => do
    if name == ['-'] then return [(name, ← Step.readAll 0)]
    else match s.files.look (Octets.toString name), s.files.locate (Octets.toString name) with
      | .ok .directory, .ok place =>
        if recursive then
          let start := if name == ['.'] && names.length == 1 then [] else name
          return (below s.machine.tree searchDepth start place).map fun (path, place) =>
            (path, match s.machine.tree.get? place with
              | some (.file content _) => .ok (Octets.ofBytes content)
              | _ => .error .noEntry)
        else
          unless silent do complain (name ++ ": Is a directory".toList)
          return [(name, .error .isDirectory)]
      | _, _ =>
        match ← contentOf name with
        | .ok text => return [(name, .ok text)]
        | .error reason =>
          unless silent do complainOf name reason
          return [(name, .error reason)]
  return all.flatten

/-- Writes what there is to be written about a file; says whether a line is selected. -/
def report (t : Task) (r : Report) (name text : Octets) : Step Bool := do
  let all := linesOf text
  let found := t.selected all
  let shownName := if name == ['-'] then "(standard input)".toList else name
  match r with
  | .nothing => pure ()
  | .name wanted => if found.isEmpty != wanted then Step.write (shownName ++ ['\n'])
  | .count =>
    let front := if t.named then shownName ++ [':'] else []
    Step.write (front ++ (toString found.length).toList ++ ['\n'])
  | .lines =>
    if !t.asText && text.contains (Char.ofNat 0) then
      if !found.isEmpty && !(t.onlyMatches && t.inverted) then
        complain (shownName ++ ": binary file matches".toList)
    else
      Step.write (t.around shownName (found.map (·.number)) 0 0 all).flatten
  return !found.isEmpty

/-- A number that an option gives. -/
def number? (chosen : List Chosen) (letter : Char) : Option (Except Octets Nat) :=
  (valueOf? chosen letter).map fun w =>
    match Numeral.natural? w with
    | some n => .ok n
    | none => .error w

/-- Looks for patterns in files. -/
def search (extended fixed : Bool) (chosen : List Chosen) (patterns : List Octets)
    (names : List Octets) : Step Nat := do
  let utf8 := readsUtf8 (← get)
  let context (letter : Char) : Step (Except Nat Nat) := do
    match (number? chosen letter).or (number? chosen 'C') with
    | none => return .ok 0
    | some (.ok n) => return .ok n
    | some (.error w) =>
      complain (w ++ ": invalid context length argument".toList)
      return .error trouble
  match ← context 'A', ← context 'B' with
  | .error status, _ => return status
  | _, .error status => return status
  | .ok after, .ok before =>
    match number? chosen 'm' with
    | some (.error _) =>
      complainText "invalid max count"
      return trouble
    | limit =>
      match regexOf utf8 fixed extended (has chosen 'P') patterns with
      | .error problem =>
        complainText problem.message
        return trouble
      | .ok regex =>
        let recursive := has chosen 'r' || has chosen 'R'
        let names := if !names.isEmpty then names else if recursive then [['.']] else [['-']]
        let several := 1 < names.length || recursive
        let naming := (chosen.filter fun c => c.hasLetter 'h' || c.hasLetter 'H').getLast?
        let t : Task :=
          { regex, utf8
            ignoresCase := has chosen 'i' || has chosen 'y'
            wholeLine := has chosen 'x'
            wholeWord := has chosen 'w'
            inverted := has chosen 'v'
            limit := limit.bind Except.toOption
            onlyMatches := has chosen 'o'
            numbered := has chosen 'n'
            placed := has chosen 'b'
            named := (naming.map fun c => c.hasLetter 'H').getD several
            before, after
            groups := 0 < before || 0 < after
            asText := has chosen 'a' }
        let quiet := has chosen 'q' || hasName chosen "silent"
        let r : Report := if quiet then .nothing
          else if has chosen 'l' then .name true
          else if has chosen 'L' then .name false
          else if has chosen 'c' then .count else .lines
        let files ← contents (has chosen 's') recursive names
        let found ← files.mapM fun (name, text) =>
          match text with
          | .ok text => report t r name text
          | .error _ => return false
        let anyFound := found.any (fun b => b)
        let anyTrouble := files.any fun (_, text) => !text.toOption.isSome
        return if anyTrouble && !(quiet && anyFound) then trouble
          else if anyFound then 0 else failure

end Grep

/-- Looks for lines with a pattern. -/
def grepAs (extended fixed : Bool) : Tool := fun words => do
  let words := Grep.withNumbers words
  withOptions Grep.style words fun chosen words => do
    let kind := (chosen.filter fun c => ['E', 'F', 'G', 'P'].any c.hasLetter).getLast?
    let extended := (kind.map fun c => c.hasLetter 'E' || c.hasLetter 'P').getD extended
    let fixed := (kind.map fun c => c.hasLetter 'F').getD fixed
    let given := chosen.filterMap fun c => if c.hasLetter 'e' then c.value else none
    let sources := chosen.filterMap fun c => if c.hasLetter 'f' then c.value else none
    let texts ← sources.mapM fun name => do
      match ← contentOf name with
      | .ok text => return some ((lines text).map body)
      | .error reason =>
        complainOf name reason
        return none
    if texts.any Option.isNone then return Grep.trouble
    let named := given.flatMap Grep.patternLines ++ (texts.filterMap fun t => t).flatten
    if !given.isEmpty || !sources.isEmpty then Grep.search extended fixed chosen named words
    else match words with
      | [] =>
        Grep.style.usage.forM fun line => Step.note line.toList
        return Grep.trouble
      | pattern :: names =>
        Grep.search extended fixed chosen (Grep.patternLines pattern) names

/-- Looks for lines with a basic expression. -/
def grep : Tool := grepAs false false

/-- Looks for lines with an extended expression. -/
def egrep : Tool := grepAs true false

/-- Looks for lines with a text. -/
def fgrep : Tool := grepAs false true

end EditorAnalysis.Shell.Tool
