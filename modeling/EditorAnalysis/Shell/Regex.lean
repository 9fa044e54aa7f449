/-
EditorAnalysis.Shell.Regex — regular expressions of POSIX, basic and extended.

A match is the leftmost one, and of those the longest. `ends` finds where matches end;
`trail` then finds the groups of one that ends there, repetitions taking what they can. An
expression that refers to its own groups is matched by `trail` alone.
-/
import EditorAnalysis.Shell.Numeral
import EditorAnalysis.Shell.Pattern

namespace EditorAnalysis.Shell

open Text (Octets)

/-- What holds at a place between two characters. -/
inductive Assertion where
  /-- The text begins. -/
  | start
  /-- The text ends. -/
  | stop
  /-- A word begins. -/
  | wordStart
  /-- A word ends. -/
  | wordStop
  /-- A word begins or ends. -/
  | edge
  /-- No word begins or ends. -/
  | noEdge
deriving DecidableEq, Repr

/-- A regular expression. -/
inductive Regex where
  /-- The empty text. -/
  | empty
  /-- Any character. -/
  | any
  /-- One of some characters, or one that is none of them. -/
  | oneOf (negated : Bool) (members : List Member)
  /-- Something holds here. -/
  | holds (a : Assertion)
  /-- One behind the other. -/
  | both (first second : Regex)
  /-- One or the other. -/
  | either (first second : Regex)
  /-- Again and again, at least and at most so often. -/
  | again (least : Nat) (most : Option Nat) (r : Regex)
  /-- A group, by its number. -/
  | group (number : Nat) (r : Regex)
  /-- What a group has matched. -/
  | same (number : Nat)
deriving DecidableEq, Repr

namespace Regex

/-- The expression refers to its groups. -/
def refers : Regex → Bool
  | both a b => a.refers || b.refers
  | either a b => a.refers || b.refers
  | again _ _ r => r.refers
  | group _ r => r.refers
  | same _ => true
  | _ => false

/-- How many parts the expression has. -/
def size : Regex → Nat
  | both a b => a.size + b.size + 1
  | either a b => a.size + b.size + 1
  | again _ _ r => r.size + 1
  | group _ r => r.size + 1
  | _ => 1

/-- How many groups the expression has. -/
def groupCount : Regex → Nat
  | both a b => a.groupCount + b.groupCount
  | either a b => a.groupCount + b.groupCount
  | again _ _ r => r.groupCount
  | group _ r => r.groupCount + 1
  | _ => 0

/-! ## Matching -/

/-- A text and how its characters are compared. -/
structure Subject where
  /-- The characters. -/
  chars : Array Char
  /-- Letters match in both cases. -/
  ignoresCase : Bool
  /-- Lines begin and end inside, too. -/
  manyLines : Bool := false

namespace Subject

/-- A character of a word. -/
def isWordChar (c : Char) : Bool := c.isAlphanum || c == '_'

/-- A word's character stands at a place. -/
def inWord (s : Subject) (n : Nat) : Bool := (s.chars[n]?.map isWordChar).getD false

/-- Something holds at a place. -/
def satisfies (s : Subject) (n : Nat) (a : Assertion) : Bool :=
  let before := 0 < n && s.inWord (n - 1)
  let behind := s.inWord n
  match a with
  | .start => n == 0 || (s.manyLines && s.chars[n - 1]? == some '\n')
  | .stop => n == s.chars.size || (s.manyLines && s.chars[n]? == some '\n')
  | .wordStart => !before && behind
  | .wordStop => before && !behind
  | .edge => before != behind
  | .noEdge => before == behind

/-- A character is one of some. -/
def fits (s : Subject) (members : List Member) (c : Char) : Bool :=
  members.any (Pattern.Member.holds c)
    || (s.ignoresCase
      && [c.toLower, c.toUpper].any fun c => members.any (Pattern.Member.holds c))

end Subject

/-- A place put into a list of different places. -/
def insert (n : Nat) (ns : List Nat) : List Nat := if ns.contains n then ns else n :: ns

/-- The places of two lists. -/
def union (ms ns : List Nat) : List Nat := ms.foldl (fun all n => insert n all) ns

/-- The places to which repetitions lead. -/
def closure (step : List Nat → List Nat) : Nat → List Nat → List Nat → List Nat
  | 0, _, all => all
  | fuel + 1, last, all =>
    let new := (step last).filter fun n => !all.contains n
    if new.isEmpty then all else closure step fuel new (union new all)

/-- The places to which so many repetitions lead. -/
def repeated (step : List Nat → List Nat) : Nat → List Nat → List Nat
  | 0, ns => ns
  | n + 1, ns => repeated step n (step ns)

/-- The places to which at most so many repetitions lead. -/
def upTo (step : List Nat → List Nat) : Nat → List Nat → List Nat
  | 0, ns => ns
  | n + 1, ns => union ns (upTo step n (step ns))

/-- Where matches that begin at some places end. -/
def ends (s : Subject) : Regex → List Nat → List Nat
  | empty, ns => ns
  | any, ns => (ns.filter (· < s.chars.size)).map (· + 1)
  | oneOf negated members, ns =>
    (ns.filter fun n => match s.chars[n]? with
      | some c => s.fits members c != negated
      | none => false).map (· + 1)
  | holds a, ns => ns.filter fun n => s.satisfies n a
  | both a b, ns => ends s b (ends s a ns)
  | either a b, ns => union (ends s a ns) (ends s b ns)
  | again least most r, ns =>
    let first := repeated (ends s r) least ns
    match most with
    | none => closure (ends s r) (s.chars.size + 2) first first
    | some most => upTo (ends s r) (most - least) first
  | group _ r, ns => ends s r ns
  | same _, _ => []

/-- The groups that have matched: number, beginning and end. -/
abbrev Groups := List (Nat × Nat × Nat)

/-- The text of one place behind that of another. -/
def isAgain (s : Subject) (start stop n : Nat) : Bool :=
  (List.range (stop - start)).all fun k =>
    match s.chars[start + k]?, s.chars[n + k]? with
    | some c, some d => c == d || (s.ignoresCase && c.toLower == d.toLower)
    | _, _ => false

/-- The groups of a match that begins at a place, if what follows it matches, too. -/
def trail (s : Subject) : Nat → Regex → Nat → Groups →
    (Nat → Groups → Option (Nat × Groups)) → Option (Nat × Groups)
  | 0, _, _, _, _ => none
  | fuel + 1, r, n, gs, follow =>
    match r with
    | empty => follow n gs
    | any => if n < s.chars.size then follow (n + 1) gs else none
    | oneOf negated members =>
      match s.chars[n]? with
      | some c => if s.fits members c != negated then follow (n + 1) gs else none
      | none => none
    | holds a => if s.satisfies n a then follow n gs else none
    | both a b => trail s fuel a n gs fun n gs => trail s fuel b n gs follow
    | either a b => (trail s fuel a n gs follow).or (trail s fuel b n gs follow)
    | group k r => trail s fuel r n gs fun m gs => follow m ((k, n, m) :: gs)
    | same k =>
      match gs.lookup k with
      | some (start, stop) =>
        if isAgain s start stop n then follow (n + (stop - start)) gs else none
      | none => none
    | again least most r =>
      let more : Option (Nat × Groups) :=
        if most == some 0 then none
        else trail s fuel r n gs fun m gs =>
          if m == n && least == 0 then none
          else trail s fuel (again (least - 1) (most.map (· - 1)) r) m gs follow
      if least == 0 then more.or (follow n gs) else more

/-- A match. -/
structure Found where
  /-- Where it begins. -/
  start : Nat
  /-- Where it ends. -/
  stop : Nat
  /-- Its groups. -/
  groups : Groups

/-- Enough fuel for the groups of a match. -/
def fuelFor (r : Regex) (s : Subject) : Nat := (r.size + 2) * (s.chars.size + 3) + 64

/-- The match that begins at a place and ends where it may, if there is one. -/
def matchWhere (s : Subject) (r : Regex) (may : Nat → Bool) (n : Nat) : Option Found :=
  let trailTo (p : Nat → Bool) : Option (Nat × Groups) :=
    trail s (fuelFor r s) r n [] fun m gs => if p m then some (m, gs) else none
  if r.refers then (trailTo may).map fun (m, gs) => ⟨n, m, gs⟩
  else match (ends s r [n]).filter may with
    | [] => none
    | m :: ms =>
      let stop := ms.foldl max m
      let groups := if r.groupCount = 0 then [] else ((trailTo (· == stop)).map (·.2)).getD []
      some ⟨n, stop, groups⟩

/-- The match that begins at a place, if there is one. -/
def matchAt (s : Subject) (r : Regex) (n : Nat) : Option Found :=
  matchWhere s r (fun _ => true) n

/-- The first match that begins at one of so many places, from a place on; what may be one
depends on both its ends. -/
def searchFrom (s : Subject) (r : Regex) (may : Nat → Nat → Bool) : Nat → Nat → Option Found
  | 0, _ => none
  | count + 1, n =>
    match matchWhere s r (may n) n with
    | some f => some f
    | none => searchFrom s r may count (n + 1)

/-- The first match in a text from a place on, among those that may be one. -/
def searchWhere (s : Subject) (r : Regex) (may : Nat → Nat → Bool) (n : Nat) : Option Found :=
  searchFrom s r may (s.chars.size + 1 - n) n

/-- The first match in a text from a place on. -/
def search (s : Subject) (r : Regex) (n : Nat) : Option Found :=
  searchWhere s r (fun _ _ => true) n

/-- The whole text of a match. -/
def Found.text (f : Found) (s : Subject) : Octets := (s.chars.extract f.start f.stop).toList

/-- The text of a group of a match. -/
def Found.groupText (f : Found) (s : Subject) (k : Nat) : Octets :=
  match f.groups.lookup k with
  | some (start, stop) => (s.chars.extract start stop).toList
  | none => []

/-! ## Reading -/

/-- Which backslashes stand for characters that cannot be seen. -/
inductive Escaping where
  /-- None. -/
  | nowhere
  /-- Those in front of a letter that names one, also between brackets. -/
  | controls
  /-- All; and one between brackets takes away what the character behind it means. -/
  | everywhere
deriving DecidableEq, Repr

/-- How an expression is written. -/
structure Dialect where
  /-- Operators stand without backslashes. -/
  extended : Bool
  /-- Which backslashes stand for characters that cannot be seen. -/
  escaping : Escaping := .nowhere
  /-- A class of characters has to stand in brackets of its own. -/
  refusesLooseClasses : Bool := false
  /-- A backslash in front of `d` stands for a digit. -/
  hasDigits : Bool := false
  /-- An operator that has no meaning where it stands is an error. -/
  strict : Bool := false
  /-- A repetition or an alternative of nothing is an error. -/
  wantsOperands : Bool := false

/-- What is wrong with an expression. -/
inductive Problem where
  /-- A bracket is not closed. -/
  | openBracket
  /-- A parenthesis is not closed. -/
  | openParen
  /-- A parenthesis is closed that was not open. -/
  | closedParen
  /-- A brace is not closed. -/
  | openBrace
  /-- There is something wrong between braces. -/
  | badBraces
  /-- There is no group with a number. -/
  | badGroup
  /-- Nothing is in front of a repetition. -/
  | nothingRepeated
  /-- The expression ends behind a backslash. -/
  | trailingBackslash
  /-- There is no such kind of characters. -/
  | badClass
  /-- A range ends before it begins. -/
  | badRange
  /-- A kind of characters has no brackets of its own. -/
  | looseClass
deriving DecidableEq, Repr

/-- The wording. -/
def Problem.message : Problem → String
  | openBracket => "Unmatched [, [^, [:, [., or [="
  | openParen => "Unmatched ( or \\("
  | closedParen => "Unmatched ) or \\)"
  | openBrace => "Unmatched \\\x7b"
  | badBraces => "Invalid content of \\\x7b\\\x7d"
  | badGroup => "Invalid back reference"
  | nothingRepeated => "Invalid preceding regular expression"
  | trailingBackslash => "Trailing backslash"
  | badClass => "Invalid character class name"
  | badRange => "Invalid range end"
  | looseClass => "character class syntax is [[:space:]], not [:space:]"

/-- The text itself. -/
def literally (cs : Octets) : Regex :=
  cs.foldr (fun c r => if r == empty then oneOf false [.range c c]
    else both (oneOf false [.range c c]) r) empty

/-- One character. -/
def char (c : Char) : Regex := oneOf false [.range c c]

/-- A character that a letter behind a backslash stands for. -/
def escapedChar? (c : Char) : Option Char :=
  match c with
  | 'n' => some '\n'
  | 't' => some '\t'
  | 'f' => some (Char.ofNat 12)
  | 'v' => some (Char.ofNat 11)
  | 'r' => some '\r'
  | 'a' => some (Char.ofNat 7)
  | _ => none

/-- The first character between brackets, and what follows. -/
def bracketChar (d : Dialect) (c : Char) (rest : Octets) : Char × Octets :=
  match c, rest with
  | '\\', e :: more =>
    match d.escaping, escapedChar? e with
    | .nowhere, _ => (c, rest)
    | .controls, none => (c, rest)
    | _, known => (known.getD e, more)
  | _, _ => (c, rest)

/-- A name between two marks that follows an opening bracket, and what follows it. -/
def bracketName? (mark : Char) : Octets → Option (Octets × Octets)
  | e :: more =>
    if e != mark then none
    else
      let name := more.takeWhile (· != mark)
      match more.drop name.length with
      | _ :: ']' :: behind => some (name, behind)
      | _ => none
  | [] => none

/-- What stands between brackets, and what follows. A closing bracket right at the beginning
stands for itself. -/
def bracket (d : Dialect) : Nat → Bool → Octets → Except Problem (List Member × Octets)
  | 0, _, _ => .error .openBracket
  | _, _, [] => .error .openBracket
  | fuel + 1, first, c :: rest =>
    if c == ']' && !first then .ok ([], rest)
    else
      let named (mark : Char) : Option (Octets × Octets) :=
        if c == '[' then bracketName? mark rest else none
      match named ':' with
      | some (name, behind) =>
        match CharClass.names.lookup (String.ofList name) with
        | some k => (bracket d fuel false behind).map fun (ms, r) => (.kind k :: ms, r)
        | none => .error .badClass
      | none =>
        match (named '=').or (named '.') with
        | some (name, behind) =>
          (bracket d fuel false behind).map fun (ms, r) =>
            (name.map (fun c => Member.range c c) ++ ms, r)
        | none =>
          let (c, rest) := bracketChar d c rest
          match rest with
          | '-' :: e :: more =>
            if e == ']' then
              (bracket d fuel false rest).map fun (ms, r) => (.range c c :: ms, r)
            else
              let (e, more) := bracketChar d e more
              if e < c then .error .badRange
              else (bracket d fuel false more).map fun (ms, r) => (.range c e :: ms, r)
          | _ => (bracket d fuel false rest).map fun (ms, r) => (.range c c :: ms, r)

/-- Bounds between braces, and what follows the closing one. -/
def bounds? (d : Dialect) (cs : Octets) : Option (Nat × Option Nat × Octets) :=
  let low := cs.takeWhile Char.isDigit
  let rest := cs.drop low.length
  let (high, hasComma, rest) := match rest with
    | ',' :: more => (more.takeWhile Char.isDigit, true, more.dropWhile Char.isDigit)
    | more => ([], false, more)
  let closed : Option Octets := match d.extended, rest with
    | true, '\x7d' :: more => some more
    | false, '\\' :: '\x7d' :: more => some more
    | _, _ => none
  if low.isEmpty && !hasComma then none
  else closed.map fun rest =>
    let least := Numeral.valueIn 10 low
    let most := if !hasComma then some least
      else if high.isEmpty then none else some (Numeral.valueIn 10 high)
    (least, most, rest)

/-- An operator of an expression. -/
inductive Mark where
  /-- A repetition. -/
  | repetition (least : Nat) (most : Option Nat)
  /-- A group begins. -/
  | openGroup
  /-- A group ends. -/
  | closeGroup
  /-- Between alternatives. -/
  | bar
  /-- A part that is matched. -/
  | part (r : Regex)

/-- The part that a letter behind a backslash stands for. -/
def escaped (d : Dialect) (c : Char) : Regex :=
  let word : List Member := [.kind .alnum, .range '_' '_']
  if d.escaping == .everywhere then char ((escapedChar? c).getD c)
  else match c with
  | 'w' => oneOf false word
  | 'W' => oneOf true word
  | 's' => oneOf false [.kind .space]
  | 'S' => oneOf true [.kind .space]
  | 'b' => holds .edge
  | 'B' => holds .noEdge
  | '<' => holds .wordStart
  | '>' => holds .wordStop
  | 'd' => if d.hasDigits then oneOf false [.kind .digit] else char 'd'
  | 'D' => if d.hasDigits then oneOf true [.kind .digit] else char 'D'
  | '`' => holds .start
  | '\'' => holds .stop
  | c =>
    if c.isDigit && c != '0' then same (c.toNat - '0'.toNat)
    else if d.escaping == .nowhere then char c
    else char ((escapedChar? c).getD c)

/-- The next operator or part; whether something is in front of it says what some characters
mean. -/
def nextMark (d : Dialect) (atStart : Bool) (cs : Octets) : Except Problem (Mark × Octets) :=
  let braces (rest : Octets) : Except Problem (Mark × Octets) :=
    match bounds? d rest with
    | some (least, most, rest) =>
      if most.any (· < least) then .error .badBraces else .ok (.repetition least most, rest)
    | none =>
      if d.extended && !d.strict then .ok (.part (char '\x7b'), rest)
      else
        let behind := rest.dropWhile fun c => c.isDigit || c == ','
        .error (if behind.isEmpty then .openBrace else .badBraces)
  let repeats (least : Nat) (most : Option Nat) (rest : Octets) : Except Problem (Mark × Octets) :=
    if !atStart then .ok (.repetition least most, rest)
    else if d.strict || d.wantsOperands then .error .nothingRepeated
    else .ok (.part empty, rest)
  match cs with
  | [] => .ok (.part empty, [])
  | '\\' :: rest =>
    match rest with
    | [] => .error .trailingBackslash
    | c :: rest =>
      if d.extended then
        if "(){}|+?*.[]^$\\/-".toList.contains c || c == '\x7b' then .ok (.part (char c), rest)
        else .ok (.part (escaped d c), rest)
      else match c with
        | '(' => .ok (.openGroup, rest)
        | ')' => .ok (.closeGroup, rest)
        | '|' => .ok (.bar, rest)
        | '\x7b' => if atStart then .error .nothingRepeated else braces rest
        | '+' => .ok (if atStart then .part (char '+') else .repetition 1 none, rest)
        | '?' => .ok (if atStart then .part (char '?') else .repetition 0 (some 1), rest)
        | c => .ok (.part (escaped d c), rest)
  | '[' :: rest =>
    let (negated, inside) := match rest with
      | '^' :: inside => (true, inside)
      | inside => (false, inside)
    let loose := d.refusesLooseClasses && rest.head? == some ':'
      && ((rest.drop 1).takeWhile (· != ']')).getLast? == some ':'
    if loose then .error .looseClass
    else (bracket d (inside.length + 1) true inside).map fun (ms, rest) =>
      (.part (oneOf negated ms), rest)
  | '.' :: rest => .ok (.part any, rest)
  | '*' :: rest =>
    if d.extended then repeats 0 none rest
    else .ok (if atStart then .part (char '*') else .repetition 0 none, rest)
  | '^' :: rest => .ok (.part (if d.extended || atStart then holds .start else char '^'), rest)
  | '$' :: rest =>
    let atEnd := match rest with
      | [] => true
      | '\\' :: ')' :: _ => true
      | '\\' :: '|' :: _ => true
      | _ => false
    .ok (.part (if d.extended || atEnd then holds .stop else char '$'), rest)
  | c :: rest =>
    if !d.extended then .ok (.part (char c), rest)
    else match c with
      | '(' => .ok (.openGroup, rest)
      | ')' => .ok (.closeGroup, rest)
      | '|' => .ok (.bar, rest)
      | '+' => repeats 1 none rest
      | '?' => repeats 0 (some 1) rest
      | '\x7b' =>
        if !atStart then braces rest
        else if d.strict then .error .nothingRepeated else .ok (.part (char c), rest)
      | c => .ok (.part (char c), rest)

/-- What has been read of an expression, up to a place in some groups. -/
structure Parsed where
  /-- The alternatives before the current one. -/
  earlier : Option Regex := none
  /-- The parts of the current one but the last. -/
  parts : Regex := .empty
  /-- The last part. -/
  last : Option Regex := none
  /-- The number of the group, if this is one. -/
  number : Option Nat := none

namespace Parsed

/-- The current alternative. -/
def current (p : Parsed) : Regex :=
  match p.last with
  | none => p.parts
  | some r => if p.parts == .empty then r else .both p.parts r

/-- All alternatives. -/
def whole (p : Parsed) : Regex :=
  match p.earlier with
  | none => p.current
  | some r => .either r p.current

/-- Nothing has been read of the current alternative. -/
def isOpen (p : Parsed) : Bool := p.last.isNone && p.parts == .empty

/-- One more part behind. -/
def add (p : Parsed) (r : Regex) : Parsed := { p with parts := p.current, last := some r }

end Parsed

/-- Reads an expression. The groups that are open come innermost first. -/
def parse (d : Dialect) : Nat → Nat → Parsed → List Parsed → Octets → Except Problem Regex
  | 0, _, _, _, _ => .error .openParen
  | _ + 1, _, p, [], [] =>
    if d.wantsOperands && p.earlier.isSome && p.isOpen then .error .nothingRepeated
    else .ok p.whole
  | _ + 1, _, _, _ :: _, [] => .error .openParen
  | fuel + 1, count, p, outer, cs => do
    let anchored := match p.last with
      | some (.holds .start) => !d.extended || d.strict || d.wantsOperands
      | _ => false
    let (mark, rest) ← nextMark d (p.last.isNone || anchored) cs
    let lacksOperand := d.wantsOperands && p.isOpen && (match mark with
      | .bar => true
      | .closeGroup => true
      | _ => false)
    if lacksOperand && !(outer.isEmpty && cs.head? == some ')') then throw .nothingRepeated
    match mark with
    | .part (.same k) =>
      if count < k then throw .badGroup
      parse d fuel count (p.add (.same k)) outer rest
    | .part (.holds .start) =>
      let r := if d.extended || p.last.isNone then Regex.holds .start else char '^'
      parse d fuel count (p.add r) outer rest
    | .part r => parse d fuel count (p.add r) outer rest
    | .repetition least most =>
      let r := Regex.again least most (p.last.getD .empty)
      parse d fuel count { p with last := some r } outer rest
    | .bar =>
      parse d fuel count { earlier := some p.whole, number := p.number } outer rest
    | .openGroup =>
      parse d fuel (count + 1) { number := some (count + 1) } (p :: outer) rest
    | .closeGroup =>
      match outer with
      | [] =>
        if d.extended && !d.strict then parse d fuel count (p.add (char ')')) outer rest
        else throw .closedParen
      | above :: outer =>
        parse d fuel count (above.add (.group (p.number.getD 0) p.whole)) outer rest

/-- The expression that a text writes. -/
def ofText (d : Dialect) (cs : Octets) : Except Problem Regex :=
  parse d (cs.length + 2) 0 {} [] cs

end Regex

end EditorAnalysis.Shell
