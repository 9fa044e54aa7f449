/-
EditorAnalysis.Shell.Tool.Condition — the programs that decide conditions.

How many words there are says how a short condition is read. A longer one is made of
alternatives of conditions that all have to hold. What a condition says of files and texts
is what it says to a shell; numbers are as great as they like.
-/
import EditorAnalysis.Shell.Condition
import EditorAnalysis.Shell.Tool.Basic

namespace EditorAnalysis.Shell.Tool

open Text (Octets)

/-- What is wrong with a condition. -/
inductive ConditionProblem where
  /-- Words end too early. -/
  | missingBehind (word : Octets)
  /-- Words go on. -/
  | extra (word : Octets)
  /-- A word stands where an operator between two others should. -/
  | notBinary (word : Octets)
  /-- A word stands where an operator about the next one should. -/
  | notUnary (word : Octets)
  /-- A word is no number. -/
  | notInteger (word : Octets)
  /-- A word is missing. -/
  | missing (word : Octets)
  /-- Another word stands in the place of one. -/
  | notExpected (word found : Octets)

/-- The wording. -/
def ConditionProblem.message (problem : ConditionProblem) : Step Octets := do
  match problem with
  | missingBehind w => return "missing argument after ".toList ++ (← named w)
  | extra w => return "extra argument ".toList ++ (← named w)
  | notBinary w => return (← named w) ++ ": binary operator expected".toList
  | notUnary w => return (← named w) ++ ": unary operator expected".toList
  | notInteger w => return "invalid integer ".toList ++ (← named w)
  | missing w => return "missing ".toList ++ (← named w)
  | notExpected w found =>
    if found.isEmpty then return (← named w) ++ " expected".toList
    else return (← named w) ++ " expected, found ".toList ++ (← named found)

namespace Decision

/-- The operators about one word. -/
def unaryLetters : List Char := "bcdefghkLnprstuwxzGNOS".toList

/-- The operators between two words. -/
def binaryNames : List String :=
  ["=", "==", "!=", "-eq", "-ne", "-ge", "-gt", "-le", "-lt", "-nt", "-ot", "-ef"]

/-- The word is an operator between two words. -/
def isBinary (w : Octets) : Bool := binaryNames.contains (String.ofList w)

/-- The word looks like an operator about the next one. -/
def looksUnary (w : Octets) : Bool := w.head? == some '-' && w.length == 2

/-- The number that a word writes, with blanks around it. -/
def integer (w : Octets) : Except ConditionProblem Int :=
  let isBlank (c : Char) : Bool := c == ' ' || c == '\t'
  match Numeral.signed? (Numeral.digits? 10) w with
  | some (n, rest) => if rest.all isBlank then .ok n else .error (.notInteger w)
  | none => .error (.notInteger w)

/-- A condition that has been read, and what is left, or what is wrong. -/
abbrev Result := Except ConditionProblem (Bool × List Octets)

/-- Words end too early. -/
def endsEarly {α : Type} (all : List Octets) : Except ConditionProblem α :=
  .error (.missingBehind (all.getLast?.getD []))

/-- What an operator says of two words, each of which may be the length of the next. -/
def binary (fs : Host.Files) (operator a b : Octets) : Except ConditionProblem Bool := do
  let name := String.ofList operator
  let numbers (compare : Int → Int → Bool) : Except ConditionProblem Bool := do
    return compare (← integer a) (← integer b)
  match name with
  | "-eq" => numbers (· == ·)
  | "-ne" => numbers (· != ·)
  | "-lt" => numbers (· < ·)
  | "-le" => numbers (· ≤ ·)
  | "-gt" => numbers fun m n => n < m
  | "-ge" => numbers fun m n => n ≤ m
  | _ => return ((Condition.binary fs name a b).toOption).getD false

/-- What an operator says of the next word. -/
def unary (fs : Host.Files) (all : List Octets) : List Octets → Result
  | [] => endsEarly all
  | operator :: words => do
    if !(unaryLetters.any fun c => operator == ['-', c]) then throw (.notUnary operator)
    match words with
    | [] => endsEarly all
    | operand :: rest =>
      let name := String.ofList operator
      if name == "-t" then
        discard (integer operand)
        return (false, rest)
      else return (((Condition.unary fs name operand).toOption).getD false, rest)

/-- The length of a word as a word. -/
def lengthOf (w : Octets) : Octets := (toString w.length).toList

/-- A condition of two words and an operator, where lengths of words may be meant. -/
def comparison? (fs : Host.Files) (words : List Octets) : Option Result :=
  let compare (operator a b : Octets) (rest : List Octets) : Result :=
    (binary fs operator a b).map (·, rest)
  let behind (a operator : Octets) (rest : List Octets) : Option Result :=
    if !isBinary operator then none
    else match rest with
      | ['-', 'l'] :: b :: rest => some (compare operator a (lengthOf b) rest)
      | b :: rest => some (compare operator a b rest)
      | [] => none
  match words with
  | ['-', 'l'] :: a :: operator :: rest =>
    (behind (lengthOf a) operator rest).or (behind ['-', 'l'] a (operator :: rest))
  | a :: operator :: rest => behind a operator rest
  | _ => none

mutual

/-- Reads alternatives. -/
def alternatives (fs : Host.Files) (all : List Octets) : Nat → List Octets → Result
  | 0, _ => endsEarly all
  | fuel + 1, words => do
    if words.isEmpty then endsEarly all
    else
      let (a, rest) ← conjunction fs all fuel words
      match rest with
      | ['-', 'o'] :: rest =>
        let (b, rest) ← alternatives fs all fuel rest
        return (a || b, rest)
      | rest => return (a, rest)

/-- Reads conditions that all have to hold. -/
def conjunction (fs : Host.Files) (all : List Octets) : Nat → List Octets → Result
  | 0, _ => endsEarly all
  | fuel + 1, words => do
    let (a, rest) ← term fs all fuel words
    match rest with
    | ['-', 'a'] :: rest =>
      let (b, rest) ← conjunction fs all fuel rest
      return (a && b, rest)
    | rest => return (a, rest)

/-- Reads a condition that may be denied or stand in parentheses. -/
def term (fs : Host.Files) (all : List Octets) : Nat → List Octets → Result
  | 0, _ => endsEarly all
  | fuel + 1, words => do
    match words with
    | [] => endsEarly all
    | ['!'] :: rest =>
      if rest.isEmpty then endsEarly all
      let (a, rest) ← term fs all fuel rest
      return (!a, rest)
    | ['('] :: inside =>
      if inside.isEmpty then endsEarly all
      let before := (inside.drop 1).takeWhile (· != [')'])
      let count := if 4 ≤ before.length then inside.length else before.length + 1
      let (a, rest) ← counted fs all fuel count inside
      match rest with
      | [] => throw (.notExpected [')'] [])
      | [')'] :: rest => return (a, rest)
      | other :: _ => throw (.notExpected [')'] other)
    | word :: rest =>
      match comparison? fs words with
      | some result => result
      | none =>
        if looksUnary word then unary fs all words
        else return (!word.isEmpty, rest)

/-- Reads a condition of so many words. -/
def counted (fs : Host.Files) (all : List Octets) : Nat → Nat → List Octets → Result
  | 0, _, _ => endsEarly all
  | fuel + 1, count, words => do
    let one (words : List Octets) : Result :=
      match words with
      | [] => endsEarly all
      | w :: rest => .ok (!w.isEmpty, rest)
    match count, words with
    | 1, words => one words
    | 2, ['!'] :: rest => do
      let (a, rest) ← one rest
      return (!a, rest)
    | 2, word :: rest =>
      if looksUnary word then unary fs all (word :: rest)
      else endsEarly all
    | 3, a :: operator :: b :: rest =>
      if isBinary operator then return (← binary fs operator a b, rest)
      else if a == ['!'] then
        let (c, rest) ← counted fs all fuel 2 (operator :: b :: rest)
        return (!c, rest)
      else if a == ['('] && b == [')'] then return (!operator.isEmpty, rest)
      else if operator == ['-', 'a'] || operator == ['-', 'o'] then
        alternatives fs all fuel words
      else throw (.notBinary operator)
    | 4, ['!'] :: rest => do
      let (a, rest) ← counted fs all fuel 3 rest
      return (!a, rest)
    | 4, a :: b :: c :: d :: rest =>
      if a == ['('] && d == [')'] then do
        let (value, _) ← counted fs all fuel 2 [b, c]
        return (value, rest)
      else alternatives fs all fuel words
    | _, words => alternatives fs all fuel words

end

/-- Decides the condition of words. -/
def decide (fs : Host.Files) (name : Octets) (words : List Octets) :
    Except ConditionProblem Bool := do
  if words.isEmpty then return false
  let (value, rest) ← counted fs (name :: words) (8 * words.length + 16) words.length words
  match rest with
  | [] => return value
  | word :: _ => throw (.extra word)

end Decision

/-- The status of a condition that cannot be decided. -/
def undecided : Nat := 2

/-- Decides the condition of words. -/
def decideWords (words : List Octets) : Step Nat := do
  let s ← get
  match Decision.decide s.files s.name words with
  | .ok value => return if value then 0 else failure
  | .error problem =>
    complain (← problem.message)
    return undecided

/-- Decides a condition. -/
def test : Tool := decideWords

/-- Decides a condition that a bracket closes. -/
def bracket : Tool := fun words => do
  if words.getLast? == some [']'] then decideWords words.dropLast
  else
    complain (← (ConditionProblem.missing [']']).message)
    return undecided

end EditorAnalysis.Shell.Tool
