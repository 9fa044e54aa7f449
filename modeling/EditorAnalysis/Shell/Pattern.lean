/-
EditorAnalysis.Shell.Pattern — patterns for names and texts.

A star matches any text, a question mark any character, and brackets any of the
characters, ranges or classes in them, or any other character behind an exclamation
mark. Quoted characters match themselves.
-/
import EditorAnalysis.Text.Octets

namespace EditorAnalysis.Shell

open Text (Octets)

/-- A kind of characters that has a name. -/
inductive CharClass where
  | alpha
  | digit
  | alnum
  | upper
  | lower
  | space
  | blank
  | punct
  | print
  | graph
  | cntrl
  | xdigit
deriving DecidableEq, Repr

namespace CharClass

/-- All of them with their names. -/
def names : List (String × CharClass) :=
  [("alpha", alpha), ("digit", digit), ("alnum", alnum), ("upper", upper), ("lower", lower),
    ("space", space), ("blank", blank), ("punct", punct), ("print", print), ("graph", graph),
    ("cntrl", cntrl), ("xdigit", xdigit)]

/-- A character that leaves a mark on paper. -/
def isGraphic (c : Char) : Bool := 33 ≤ c.toNat && c.toNat ≤ 126

/-- A character is of the kind. -/
def contains : CharClass → Char → Bool
  | alpha, c => c.isAlpha
  | digit, c => c.isDigit
  | alnum, c => c.isAlphanum
  | upper, c => c.isUpper
  | lower, c => c.isLower
  | space, c => c == ' ' || (9 ≤ c.toNat && c.toNat ≤ 13)
  | blank, c => c == ' ' || c == '\t'
  | punct, c => isGraphic c && !c.isAlphanum
  | print, c => isGraphic c || c == ' '
  | graph, c => isGraphic c
  | cntrl, c => c.toNat < 32 || c.toNat == 127
  | xdigit, c => c.isDigit || ('a' ≤ c && c ≤ 'f') || ('A' ≤ c && c ≤ 'F')

/-- All characters of the kind. -/
def members (k : CharClass) : Octets :=
  ((List.range 256).map Char.ofNat).filter k.contains

end CharClass

/-- What stands in brackets. -/
inductive Member where
  /-- The characters from one to another. -/
  | range (least greatest : Char)
  /-- A kind of characters. -/
  | kind (k : CharClass)
deriving DecidableEq, Repr

/-- What a place in a pattern matches. -/
inductive Matcher where
  /-- Any text. -/
  | anyText
  /-- Any character. -/
  | anyChar
  /-- One character. -/
  | char (c : Char)
  /-- Any of some characters, or any other. -/
  | oneOf (negated : Bool) (members : List Member)
deriving DecidableEq, Repr

/-- A character of a pattern, and whether it is quoted. -/
abbrev Marked := Char × Bool

namespace Pattern

/-- The kind of characters whose name begins here, and what follows. -/
def kind? (cs : List Marked) : Option (CharClass × List Marked) :=
  match cs with
  | ('[', false) :: (':', _) :: rest =>
    let name := (rest.takeWhile fun m => m.1.isAlpha).map (·.1)
    match rest.drop name.length with
    | (':', _) :: (']', _) :: behind =>
      (CharClass.names.lookup (String.ofList name)).map fun k => (k, behind)
    | _ => none
  | _ => none

/-- The members between brackets, up to the closing one. A closing bracket right at the
beginning stands for itself. -/
def members : Nat → Bool → List Marked → Option (List Member × List Marked)
  | 0, _, _ => none
  | _, _, [] => none
  | fuel + 1, first, (c, quoted) :: rest =>
    if c == ']' && !quoted && !first then some ([], rest)
    else match kind? ((c, quoted) :: rest) with
      | some (k, behind) =>
        (members fuel false behind).map fun (ms, behind) => (.kind k :: ms, behind)
      | none =>
        let (c, rest) := match c, quoted, rest with
          | '\\', false, (d, _) :: more => (d, more)
          | _, _, _ => (c, rest)
        match rest with
        | ('-', false) :: (d, q) :: more =>
          if d == ']' && !q then
            (members fuel false rest).map fun (ms, behind) => (.range c c :: ms, behind)
          else
            let (d, more) := match d, q, more with
              | '\\', false, (e, _) :: more => (e, more)
              | _, _, _ => (d, more)
            (members fuel false more).map fun (ms, behind) => (.range c d :: ms, behind)
        | _ => (members fuel false rest).map fun (ms, behind) => (.range c c :: ms, behind)

/-- The matchers of a pattern. A backslash that is not quoted has come out of a variable, and
quotes what follows it. -/
def compile : Nat → List Marked → List Matcher
  | 0, _ => []
  | _, [] => []
  | fuel + 1, (c, quoted) :: rest =>
    if quoted then .char c :: compile fuel rest
    else if c == '*' then .anyText :: compile fuel rest
    else if c == '?' then .anyChar :: compile fuel rest
    else if c == '\\' then
      match rest with
      | (d, _) :: rest => .char d :: compile fuel rest
      | [] => [.char c]
    else if c == '[' then
      let (negated, body) := match rest with
        | ('!', false) :: body => (true, body)
        | ('^', false) :: body => (true, body)
        | body => (false, body)
      match members (body.length + 1) true body with
      | some (ms, behind) => .oneOf negated ms :: compile fuel behind
      | none => .char c :: compile fuel rest
    else .char c :: compile fuel rest

/-- The pattern of marked characters. -/
def ofMarked (cs : List Marked) : List Matcher := compile (cs.length + 1) cs

/-- The pattern of characters none of which is quoted. -/
def ofText (cs : Octets) : List Matcher := ofMarked (cs.map fun c => (c, false))

/-- A member of brackets holds a character. -/
def Member.holds (c : Char) : Member → Bool
  | .range least greatest => least ≤ c && c ≤ greatest
  | .kind k => k.contains c

/-- One character is matched. -/
def matchesChar : Matcher → Char → Bool
  | .anyText, _ => false
  | .anyChar, _ => true
  | .char d, c => d == c
  | .oneOf negated ms, c => ms.any (Member.holds c) != negated

/-- A star in front of a pattern matches: the pattern matches behind some of the
characters. -/
def afterAny (rest : Octets → Bool) : Octets → Bool
  | [] => rest []
  | c :: cs => rest (c :: cs) || afterAny rest cs

/-- The whole text is matched. -/
def fits : List Matcher → Octets → Bool
  | [], cs => cs.isEmpty
  | .anyText :: ms, cs => afterAny (fits ms) cs
  | m :: ms, c :: cs => matchesChar m c && fits ms cs
  | _ :: _, [] => false

/-- Something in the pattern is more than a character. -/
def isGeneral (ms : List Matcher) : Bool :=
  ms.any fun
    | .char _ => false
    | _ => true

/-- The text without what the pattern matches at one end: the longest such part,
or the shortest. -/
def cut (atEnd longest : Bool) (ms : List Matcher) (cs : Octets) : Octets :=
  let lengths := List.range (cs.length + 1)
  let lengths := if longest then lengths.reverse else lengths
  match lengths.find? fun n =>
    fits ms (if atEnd then cs.drop (cs.length - n) else cs.take n) with
  | none => cs
  | some n => if atEnd then cs.take (cs.length - n) else cs.drop n

end Pattern

end EditorAnalysis.Shell
