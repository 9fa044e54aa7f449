/-
EditorAnalysis.Shell.Tool.Sed.Script — scripts that edit lines.

A script is a list of commands, each for the lines that its selector chooses. Blocks and
labels become places in the list. `Script.ofText` reads a script; what is wrong with one
is told with the place up to which it was read.
-/
import EditorAnalysis.Shell.Regex

namespace EditorAnalysis.Shell.Sed

open Text (Octets)

/-! ## Scripts -/

/-- A pattern: an expression, or the one that was used last. -/
structure Pattern where
  /-- The expression. -/
  regex : Option Regex
  /-- Letters match in both cases. -/
  ignoresCase : Bool
  /-- Lines begin and end inside, too. -/
  manyLines : Bool

/-- What a line is chosen by. -/
inductive Address where
  /-- Its number. -/
  | line (n : Nat)
  /-- There is none behind it. -/
  | last
  /-- Its number is one of a row. -/
  | row (first step : Nat)
  /-- A pattern matches. -/
  | pattern (p : Pattern)

/-- Where a range ends. -/
inductive Bound where
  /-- At a line. -/
  | at (a : Address)
  /-- So many lines behind its beginning. -/
  | after (n : Nat)
  /-- At a line whose number is a multiple. -/
  | multiple (n : Nat)

/-- The lines that a command is for. -/
inductive Selector where
  /-- All. -/
  | all
  /-- Those with an address. -/
  | one (a : Address)
  /-- Those from an address up to a bound. -/
  | range (a : Address) (b : Bound)

/-- How letters are written from some place on. -/
inductive Casing where
  /-- As they are. -/
  | plain
  /-- In upper case. -/
  | upper
  /-- In lower case. -/
  | lower
deriving DecidableEq

/-- A part of what is put in the place of a match. -/
inductive Part where
  /-- A text. -/
  | text (cs : List Char)
  /-- What a group has matched; group zero is the whole match. -/
  | group (n : Nat)
  /-- Letters are written so from here on. -/
  | casing (c : Casing)
  /-- The next letter is written so. -/
  | nextCasing (c : Casing)

/-- A replacement of matches. -/
structure Substitution where
  /-- What is replaced. -/
  pattern : Pattern
  /-- What is put in its place. -/
  parts : List Part
  /-- Which match is replaced, counted from one. -/
  number : Nat
  /-- All matches behind that one are replaced, too. -/
  global : Bool
  /-- A changed line is written. -/
  prints : Bool
  /-- A changed line is written to a file. -/
  file : Option Octets

/-- When a script goes on elsewhere. -/
inductive Condition where
  /-- In any case. -/
  | always
  /-- Something was replaced. -/
  | replaced
  /-- Nothing was replaced. -/
  | unchanged
deriving DecidableEq

/-- What a command does. Places in the script are told by their numbers. -/
inductive Action where
  /-- A block begins; behind it the script goes on at a place. -/
  | block (behind : Nat)
  /-- Nothing. -/
  | nothing
  /-- Writes a text behind the line. -/
  | append (text : Octets)
  /-- Writes a text in front of the line. -/
  | insert (text : Octets)
  /-- Writes a text in the place of the line. -/
  | change (text : Octets)
  /-- Goes on at a place, if a condition holds. -/
  | jump (condition : Condition) (place : Nat)
  /-- Ends with a status; the line is written, or not. -/
  | quit (status : Nat) (silent : Bool)
  /-- Goes on with the next line. -/
  | delete
  /-- Goes on with the rest of a line behind the first line break in it. -/
  | deleteFirst
  /-- Writes the line. -/
  | print
  /-- Writes the line up to the first line break in it. -/
  | printFirst
  /-- Takes the next line. -/
  | next
  /-- Takes the next line behind this one. -/
  | nextToo
  /-- Holds the line, behind what is held or in its place. -/
  | hold (appends : Bool)
  /-- Takes what is held, behind the line or in its place. -/
  | get (appends : Bool)
  /-- Exchanges the line and what is held. -/
  | exchange
  /-- Writes the line's number. -/
  | number
  /-- Writes the file's name. -/
  | fileName
  /-- Writes the line with everything in it spelled out. -/
  | list (width : Option Nat)
  /-- Writes a file behind the line. -/
  | read (path : Octets)
  /-- Writes the line to a file. -/
  | write (path : Octets)
  /-- Replaces matches. -/
  | substitute (s : Substitution)
  /-- Replaces characters. -/
  | translate (pairs : List (Char × Char))
  /-- Empties the line. -/
  | empty

/-- A command. -/
structure Command where
  /-- The lines that it is for. -/
  selector : Selector
  /-- It is for all others. -/
  negated : Bool
  /-- What it does. -/
  action : Action

/-! ## What is wrong with scripts -/

/-- What is wrong with a script. -/
inductive Problem where
  /-- A command is unknown. -/
  | unknown (c : Char)
  /-- There is no command behind an address. -/
  | noCommand
  /-- Something follows a command. -/
  | junk
  /-- A replacement is not closed. -/
  | openSubstitution
  /-- A translation is not closed. -/
  | openTranslation
  /-- A pattern is not closed. -/
  | openAddress
  /-- A replacement has an unknown option. -/
  | unknownOption
  /-- A replacement has an option twice. -/
  | twice (option : String)
  /-- The matches are counted from zero. -/
  | zeroNumber
  /-- A group is named that the pattern does not have. -/
  | noGroup (n : Nat)
  /-- Something is wrong with a pattern. -/
  | pattern (p : Regex.Problem)
  /-- Options stand behind an empty pattern. -/
  | emptyWithOptions
  /-- A block is not closed. -/
  | openBlock
  /-- A block is closed that was not open. -/
  | closedBlock
  /-- An address stands in front of the end of a block. -/
  | blockAddress
  /-- An address stands in front of a label. -/
  | labelAddress
  /-- An address stands in front of a remark. -/
  | remarkAddress
  /-- A label has no name. -/
  | noLabel
  /-- There is no text. -/
  | noText
  /-- A comma stands where it cannot. -/
  | comma
  /-- Two addresses stand where one can. -/
  | oneAddress
  /-- The lines are counted from zero. -/
  | zeroLine
  /-- Something is denied twice. -/
  | deniedTwice
  /-- There is no file's name. -/
  | noFile
  /-- Both texts of a translation are not equally long. -/
  | unequal
  /-- No pattern was used before. -/
  | noPattern

/-- The wording. -/
def Problem.message : Problem → String
  | unknown c => "unknown command: \x60" ++ String.singleton c ++ "'"
  | noCommand => "missing command"
  | junk => "extra characters after command"
  | openSubstitution => "unterminated \x60s' command"
  | openTranslation => "unterminated \x60y' command"
  | openAddress => "unterminated address regex"
  | unknownOption => "unknown option to \x60s'"
  | twice option => "multiple " ++ option ++ " options to \x60s' command"
  | zeroNumber => "number option to \x60s' command may not be zero"
  | noGroup n => "invalid reference \\" ++ toString n ++ " on \x60s' command's RHS"
  | pattern p => p.message
  | emptyWithOptions => "no previous regular expression"
  | openBlock => "unmatched \x60\x7b'"
  | closedBlock => "unexpected \x60\x7d'"
  | blockAddress => "\x7d doesn't want any addresses"
  | labelAddress => ": doesn't want any addresses"
  | remarkAddress => "comments don't accept any addresses"
  | noLabel => "\":\" lacks a label"
  | noText => "expected \\ after \x60a', \x60c' or \x60i'"
  | comma => "unexpected \x60,'"
  | oneAddress => "command only uses one address"
  | zeroLine => "invalid usage of line address 0"
  | deniedTwice => "multiple \x60!'s"
  | noFile => "missing filename in r/R/w/W commands"
  | unequal => "strings for \x60y' command are different lengths"
  | noPattern => "no previous regular expression"

/-- A problem and how much was left to read, or a label that is missing. -/
inductive Refusal where
  /-- A problem, with how much was left to read; nothing, if that says nothing. -/
  | problem (p : Problem) (left : Option Nat)
  /-- A label that is missing. -/
  | missingLabel (name : Octets)

/-! ## Reading -/

/-- A reader of a script. -/
abbrev Reader := StateT Octets (Except Refusal)

namespace Reader

/-- Something is wrong. -/
def fail {α : Type} (p : Problem) : Reader α := do throw (.problem p (some (← get).length))

/-- The next character, if there is one. -/
def char? : Reader (Option Char) := do
  match ← get with
  | [] => return none
  | c :: rest =>
    set rest
    return some c

/-- Passes over some characters. -/
def skip (p : Char → Bool) : Reader Unit := modify (·.dropWhile p)

/-- White space. -/
def isSpace (c : Char) : Bool := Numeral.isBlank c

/-- A blank. -/
def isBlank (c : Char) : Bool := c == ' ' || c == '\t'

/-- The next character that is not a blank. -/
def nonBlank? : Reader (Option Char) := do
  skip isBlank
  char?

/-- A number, as far as there are digits. -/
def number : Reader Nat := do
  let digits := (← get).takeWhile Char.isDigit
  modify (·.drop digits.length)
  return Numeral.valueIn 10 digits

/-- Reads the end of a command. -/
def commandEnd : Reader Unit := do
  skip isBlank
  match ← get with
  | [] => return
  | c :: rest =>
    if c == '\x7d' || c == '#' then return
    set rest
    if c != '\n' && c != ';' then fail .junk

/-- How long what stands in brackets is, the closing one counted, if there is one on the line. -/
def bracketLength? : Nat → Bool → Octets → Option Nat
  | 0, _, _ => none
  | _, _, [] => none
  | _, _, '\n' :: _ => none
  | fuel + 1, _, '[' :: mark :: rest =>
    if [':', '.', '='].contains mark then
      let name := rest.takeWhile fun c => c != mark && c != '\n'
      match rest.drop name.length with
      | _ :: ']' :: behind =>
        (bracketLength? fuel false behind).map (· + name.length + 4)
      | _ => (bracketLength? fuel false (mark :: rest)).map (· + 1)
    else (bracketLength? fuel false (mark :: rest)).map (· + 1)
  | fuel + 1, first, c :: rest =>
    if c == ']' && !first then some 1 else (bracketLength? fuel false rest).map (· + 1)

/-- The text in brackets that a text begins with behind the opening one, and what follows. -/
def bracketed? (cs : Octets) : Option (Octets × Octets) :=
  let front : Nat := if cs.head? == some '^' then 1 else 0
  (bracketLength? (cs.length + 1) true (cs.drop front)).map fun n =>
    (cs.take (front + n), cs.drop (front + n))

/-- Reads up to a closing mark, if there is one. What stands in brackets of a pattern is no mark. -/
def delimited (mark : Char) (isPattern : Bool) : Nat → Reader (Option Octets)
  | 0 => return none
  | fuel + 1 => do
    match ← get with
    | [] => return none
    | '\n' :: _ => return none
    | '\\' :: c :: rest =>
      set rest
      let kept : Octets :=
        if c == 'n' && isPattern then ['\n']
        else if c == '\n' then ['\n']
        else if c == mark && (isPattern || c != '&') then [c]
        else ['\\', c]
      return (← delimited mark isPattern fuel).map (kept ++ ·)
    | ['\\'] =>
      set ([] : Octets)
      return none
    | c :: rest =>
      set rest
      if c == mark then return some []
      else if c == '[' && isPattern then
        match bracketed? rest with
        | some (inside, behind) =>
          set behind
          return (← delimited mark isPattern fuel).map (c :: inside ++ ·)
        | none =>
          set (rest.dropWhile (· != '\n'))
          return none
      else return (← delimited mark isPattern fuel).map (c :: ·)

/-- Reads up to a closing mark, if there is one. -/
def delimitedBy (mark : Option Char) (isPattern : Bool) : Reader (Option Octets) := do
  match mark with
  | none => return none
  | some c => delimited c isPattern ((← get).length + 1)

end Reader

/-- The options of all scripts. -/
structure Options where
  /-- Operators stand without backslashes. -/
  extended : Bool
  /-- Bytes are read as UTF-8. -/
  utf8 : Bool

/-- The characters of a script's text. -/
def Options.chars (o : Options) (cs : Octets) : List Char :=
  if o.utf8 && cs.any (128 ≤ ·.toNat) then (Text.Utf8.decode? (Octets.toBytes cs)).getD cs else cs

/-- Characters that are written by their numbers behind a backslash; the flag says that they stand
for themselves in any case. -/
def numbered (isPattern : Bool) : Nat → List Char → List Char
  | 0, cs => cs
  | _, [] => []
  | fuel + 1, '\\' :: c :: rest =>
    let coded (base count : Nat) (digit : Char → Bool) : List Char :=
      let digits := (rest.takeWhile digit).take count
      if digits.isEmpty then '\\' :: c :: numbered isPattern fuel rest
      else
        let d := Char.ofNat (Numeral.valueIn base digits % 256)
        let special := if isPattern then "*.[]^$\\/+?()|".toList.contains d
          else d == '&' || d == '\\'
        (if special then ['\\', d] else [d]) ++ numbered isPattern fuel (rest.drop digits.length)
    match c with
    | 'x' => coded 16 2 Numeral.isHex
    | 'o' => coded 8 3 Numeral.isOctal
    | 'd' => coded 10 3 Char.isDigit
    | 'c' =>
      match rest with
      | d :: rest => Char.ofNat (d.toUpper.toNat ^^^ 64) :: numbered isPattern fuel rest
      | [] => ['\\', 'c']
    | _ => '\\' :: c :: numbered isPattern fuel rest
  | fuel + 1, c :: rest => c :: numbered isPattern fuel rest

/-- The pattern that a text writes. -/
def patternOf (o : Options) (text : Octets) (ignoresCase manyLines : Bool) : Reader Pattern := do
  if text.isEmpty then
    if ignoresCase || manyLines then Reader.fail .emptyWithOptions
    return ⟨none, false, false⟩
  else
    let d : Regex.Dialect :=
      { extended := o.extended, escaping := .controls, refusesLooseClasses := true, strict := true }
    match Regex.ofText d (numbered true (text.length + 1) (o.chars text)) with
    | .ok r => return ⟨some r, ignoresCase, manyLines⟩
    | .error p => Reader.fail (.pattern p)

/-- What is put in the place of a match, as a text writes it. -/
def partsOf : Nat → List Char → List Part
  | 0, _ => []
  | _, [] => []
  | fuel + 1, '\\' :: c :: rest =>
    let first : Part := match c with
      | 'L' => .casing .lower
      | 'U' => .casing .upper
      | 'E' => .casing .plain
      | 'l' => .nextCasing .lower
      | 'u' => .nextCasing .upper
      | '&' => .text ['&']
      | '\n' => .text ['\n']
      | c =>
        if c.isDigit then .group (c.toNat - '0'.toNat)
        else .text [(Regex.escapedChar? c).getD c]
    first :: partsOf fuel rest
  | fuel + 1, '&' :: rest => .group 0 :: partsOf fuel rest
  | fuel + 1, c :: rest => .text [c] :: partsOf fuel rest

/-- Reads the marks behind a pattern. -/
def addressMarks : Nat → Bool → Bool → Reader (Bool × Bool)
  | 0, i, m => return (i, m)
  | fuel + 1, i, m => do
    Reader.skip Reader.isBlank
    match ← get with
    | 'I' :: rest =>
      set rest
      addressMarks fuel true m
    | 'M' :: rest =>
      set rest
      addressMarks fuel i true
    | _ => return (i, m)

/-- Reads an address that a character begins, if it does begin one. -/
def address? (o : Options) (c : Char) : Reader (Option Address) := do
  if c == '/' || c == '\\' then
    let mark ← if c == '\\' then Reader.char? else pure (some c)
    match ← Reader.delimitedBy mark true with
    | none => Reader.fail .openAddress
    | some text =>
      let (i, m) ← addressMarks ((← get).length + 1) false false
      return some (.pattern (← patternOf o text i m))
  else if c.isDigit then
    modify (c :: ·)
    let n ← Reader.number
    Reader.skip Reader.isBlank
    match ← get with
    | '~' :: rest =>
      set rest
      Reader.skip Reader.isBlank
      let step ← Reader.number
      return some (if step = 0 then .line n else .row n step)
    | _ => return some (.line n)
  else if c == '$' then return some .last
  else return none

/-- Reads the bound of a range that a character begins, if it does begin one. -/
def bound? (o : Options) (c : Char) : Reader (Option Bound) := do
  if c == '+' || c == '~' then
    Reader.skip Reader.isBlank
    let n ← Reader.number
    return some (if c == '+' then .after n else .multiple n)
  else return (← address? o c).map .at

/-- The selector is about line zero. -/
def startsAtZero : Selector → Bool
  | .one (.line 0) => true
  | .range (.line 0) (.at (.pattern _)) => false
  | .range (.line 0) _ => true
  | _ => false

/-- Reads a selector that a character begins, and the character behind it. -/
def selector (o : Options) (c : Char) : Reader (Selector × Option Char) := do
  match ← address? o c with
  | none => return (.all, some c)
  | some a =>
    let (s, next) ← do
      match ← Reader.nonBlank? with
      | some ',' =>
        match ← Reader.nonBlank? with
        | none => Reader.fail .comma
        | some d =>
          match ← bound? o d with
          | none => Reader.fail .comma
          | some b => pure (Selector.range a b, ← Reader.nonBlank?)
      | next => pure (.one a, next)
    if startsAtZero s then Reader.fail .zeroLine
    return (s, next)

/-- Reads the text of a command up to the end of its line; a backslash takes the next character as
it is. -/
def textLine : Nat → Reader Octets
  | 0 => return []
  | fuel + 1 => do
    match ← Reader.char? with
    | none => return ['\n']
    | some '\n' => return ['\n']
    | some '\\' =>
      match ← Reader.char? with
      | none => return ['\n']
      | some c => return (Regex.escapedChar? c).getD c :: (← textLine fuel)
    | some c => return c :: (← textLine fuel)

/-- Reads the text behind a command for one. -/
def commandText : Reader Octets := do
  Reader.skip Reader.isBlank
  match ← get with
  | [] => Reader.fail .noText
  | '\\' :: rest =>
    let behind := rest.dropWhile Reader.isBlank
    match behind with
    | [] =>
      set ([] : Octets)
      return []
    | '\n' :: text =>
      set text
      if text.isEmpty then return []
      else textLine (text.length + 1)
    | _ =>
      set rest
      textLine (rest.length + 1)
  | text => textLine (text.length + 1)

/-- Reads a label. -/
def label : Reader Octets := do
  Reader.skip Reader.isBlank
  let name := (← get).takeWhile fun c => !Reader.isSpace c && c != ';' && c != '\x7d'
  modify (·.drop name.length)
  return name

/-- Reads a file's name up to the end of the line. -/
def fileName : Reader Octets := do
  Reader.skip Reader.isBlank
  let name := (← get).takeWhile (· != '\n')
  modify fun cs => cs.drop (name.length + 1)
  if name.isEmpty then Reader.fail .noFile
  return name

/-- The options of a replacement. -/
structure SubstitutionOptions where
  /-- All matches are replaced. -/
  global : Bool := false
  /-- A changed line is written. -/
  prints : Bool := false
  /-- Which match is replaced. -/
  number : Option Nat := none
  /-- Letters match in both cases. -/
  ignoresCase : Bool := false
  /-- Lines begin and end inside, too. -/
  manyLines : Bool := false
  /-- A changed line is written to a file. -/
  file : Option Octets := none

/-- Reads the options of a replacement. -/
def substitutionOptions : Nat → SubstitutionOptions → Reader SubstitutionOptions
  | 0, s => return s
  | fuel + 1, s => do
    match ← Reader.char? with
    | none => return s
    | some c =>
      match c with
      | '\n' => return s
      | ';' => return s
      | 'g' =>
        if s.global then Reader.fail (.twice "\x60g'")
        substitutionOptions fuel { s with global := true }
      | 'p' =>
        if s.prints then Reader.fail (.twice "\x60p'")
        substitutionOptions fuel { s with prints := true }
      | 'w' => return { s with file := some (← fileName) }
      | _ =>
        if c == 'i' || c == 'I' then substitutionOptions fuel { s with ignoresCase := true }
        else if c == 'm' || c == 'M' then substitutionOptions fuel { s with manyLines := true }
        else if Reader.isBlank c then substitutionOptions fuel s
        else if c == '\x7d' || c == '#' then
          modify (c :: ·)
          return s
        else if c.isDigit then
          modify (c :: ·)
          if s.number.isSome then
            discard Reader.char?
            Reader.fail (.twice "number")
          let n ← Reader.number
          if n = 0 then Reader.fail .zeroNumber
          substitutionOptions fuel { s with number := some n }
        else Reader.fail .unknownOption

/-- Reads a replacement behind its letter. -/
def substitution (o : Options) : Reader Substitution := do
  let mark ← Reader.char?
  match ← Reader.delimitedBy mark true with
  | none => Reader.fail .openSubstitution
  | some text =>
    match ← Reader.delimitedBy mark false with
    | none => Reader.fail .openSubstitution
    | some replacement =>
      let s ← substitutionOptions ((← get).length + 1) {}
      let pattern ← patternOf o text s.ignoresCase s.manyLines
      let cs := numbered false (replacement.length + 1) (o.chars replacement)
      let parts := partsOf (cs.length + 1) cs
      let greatest := parts.foldl (fun n part =>
        match part with
        | .group k => max n k
        | _ => n) 0
      match pattern.regex with
      | some r => if r.groupCount < greatest then Reader.fail (.noGroup greatest)
      | none => pure ()
      return { pattern, parts, number := s.number.getD 1, global := s.global, prints := s.prints
               file := s.file }

/-- The characters of a text of a translation. -/
def translated : Nat → List Char → List Char
  | 0, _ => []
  | fuel + 1, '\\' :: c :: rest =>
    if c == '\\' then '\\' :: translated fuel rest
    else match Regex.escapedChar? c with
      | some d => d :: translated fuel rest
      | none => '\\' :: c :: translated fuel rest
  | fuel + 1, c :: rest => c :: translated fuel rest
  | _, [] => []

/-- Reads a translation behind its letter. -/
def translation (o : Options) : Reader (List (Char × Char)) := do
  let mark ← Reader.char?
  match ← Reader.delimitedBy mark false with
  | none => Reader.fail .openTranslation
  | some first =>
    match ← Reader.delimitedBy mark false with
    | none => Reader.fail .openTranslation
    | some second =>
      let chars (cs : Octets) : List Char := translated (cs.length + 1) (o.chars cs)
      let (first, second) := (chars first, chars second)
      if first.length != second.length then Reader.fail .unequal
      Reader.commandEnd
      return first.zip second

/-- A command before its places are known. -/
inductive Draft where
  /-- A command. -/
  | action (a : Action)
  /-- A block begins. -/
  | openBlock
  /-- A block ends. -/
  | closeBlock
  /-- A place has a name. -/
  | label (name : Octets)
  /-- The script goes on at a name, or at its end. -/
  | jump (condition : Condition) (name : Octets)

/-- Reads an optional number behind a command. -/
def optionalNumber : Reader (Option Nat) := do
  Reader.skip Reader.isBlank
  match (← get).head? with
  | some c => if c.isDigit then return some (← Reader.number) else return none
  | none => return none

/-- Reads a command that a letter names. -/
def draft (o : Options) (s : Selector) (depth : Nat) (c : Char) : Reader Draft := do
  let hasAddress := match s with
    | .all => false
    | _ => true
  let simply (a : Action) : Reader Draft := do
    Reader.commandEnd
    return .action a
  match c with
  | '\x7b' => return .openBlock
  | '\x7d' =>
    if depth = 0 then Reader.fail .closedBlock
    if hasAddress then Reader.fail .blockAddress
    Reader.commandEnd
    return .closeBlock
  | ':' =>
    if hasAddress then Reader.fail .labelAddress
    let name ← label
    if name.isEmpty then Reader.fail .noLabel
    return .label name
  | 'a' => return .action (.append (← commandText))
  | 'i' => return .action (.insert (← commandText))
  | 'c' => return .action (.change (← commandText))
  | 'b' => return .jump .always (← label)
  | 't' => return .jump .replaced (← label)
  | 'T' => return .jump .unchanged (← label)
  | 's' => return .action (.substitute (← substitution o))
  | 'y' => return .action (.translate (← translation o))
  | 'r' => return .action (.read (← fileName))
  | 'w' => return .action (.write (← fileName))
  | 'v' =>
    discard label
    return .action .nothing
  | '=' => simply .number
  | 'd' => simply .delete
  | 'D' => simply .deleteFirst
  | 'F' => simply .fileName
  | 'g' => simply (.get false)
  | 'G' => simply (.get true)
  | 'h' => simply (.hold false)
  | 'H' => simply (.hold true)
  | 'n' => simply .next
  | 'N' => simply .nextToo
  | 'p' => simply .print
  | 'P' => simply .printFirst
  | 'x' => simply .exchange
  | 'z' => simply .empty
  | _ =>
    if c == 'l' then simply (.list (← optionalNumber))
    else if c == 'q' || c == 'Q' then
      match s with
      | .range _ _ => Reader.fail .oneAddress
      | _ =>
        let status ← optionalNumber
        simply (.quit (status.getD 0) (c == 'Q'))
    else Reader.fail (.unknown c)

/-- A selector with a draft for its lines, or the others. -/
abbrev Drafted := Selector × Bool × Draft

/-- Reads the commands of a script. -/
def drafts (o : Options) : Nat → Nat → Reader (List Drafted)
  | 0, _ => return []
  | fuel + 1, depth => do
    Reader.skip fun c => c == ';' || Reader.isSpace c
    match ← Reader.char? with
    | none => if depth = 0 then return [] else throw (.problem .openBlock none)
    | some c =>
      let (s, next) ← selector o c
      let (negated, next) ← do
        match next with
        | some '!' =>
          let next ← Reader.nonBlank?
          if next == some '!' then Reader.fail .deniedTwice
          pure (true, next)
        | next => pure (false, next)
      match next with
      | none => Reader.fail .noCommand
      | some '#' =>
        match s with
        | .all =>
          Reader.skip (· != '\n')
          drafts o fuel depth
        | _ => Reader.fail .remarkAddress
      | some c =>
        let d ← draft o s depth c
        let depth := match d with
          | .openBlock => depth + 1
          | .closeBlock => depth - 1
          | _ => depth
        return (s, negated, d) :: (← drafts o fuel depth)

/-- The place of the end of the block that is open, from a place on. -/
def blockEnd : Nat → Nat → List Drafted → Nat
  | place, _, [] => place
  | place, depth, (_, _, d) :: rest =>
    match d, depth with
    | .openBlock, depth => blockEnd (place + 1) (depth + 1) rest
    | .closeBlock, 0 => place
    | .closeBlock, depth + 1 => blockEnd (place + 1) depth rest
    | _, depth => blockEnd (place + 1) depth rest

/-- The place of a label. -/
def labelPlace? (name : Octets) (all : List Drafted) : Option Nat :=
  all.findIdx? fun (_, _, d) =>
    match d with
    | .label n => n == name
    | _ => false

/-- The commands of drafts, places being known. -/
def resolved (all : List Drafted) : Nat → List Drafted → Except Refusal (List Command)
  | _, [] => .ok []
  | place, (s, negated, d) :: rest => do
    let action : Action ← match d with
      | .action a => pure a
      | .openBlock => pure (Action.block (blockEnd (place + 1) 0 rest + 1))
      | .closeBlock => pure Action.nothing
      | .label _ => pure Action.nothing
      | .jump condition name =>
        if name.isEmpty then pure (Action.jump condition all.length)
        else match labelPlace? name all with
          | some target => pure (Action.jump condition target)
          | none => throw (.missingLabel name)
    return ⟨s, negated, action⟩ :: (← resolved all (place + 1) rest)

/-- The script that a text writes. -/
def ofText (o : Options) (text : Octets) : Except Refusal (List Command) := do
  let (all, _) ← (drafts o (text.length + 1) 0).run text
  resolved all 0 all

/-- A first line that says that lines are not written by themselves. -/
def isSilent (text : Octets) : Bool :=
  match text with
  | ['#', 'n'] => true
  | '#' :: 'n' :: '\n' :: _ => true
  | _ => false

end EditorAnalysis.Shell.Sed
