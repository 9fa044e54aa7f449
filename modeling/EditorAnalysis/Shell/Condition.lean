/-
EditorAnalysis.Shell.Condition — the conditions that `test` decides.

A condition is about texts, numbers or files. Words are taken for operators where
that makes sense: `primary` looks at the words around. A condition of three words
whose second is an operator between two others is always read that way.
-/
import EditorAnalysis.Shell.Numeral
import EditorAnalysis.Host.Tree

namespace EditorAnalysis.Shell.Condition

open Text (Octets)
open Host (Files)

/-- The operators about one word. -/
def unaryNames : List String :=
  ["-r", "-w", "-x", "-e", "-f", "-d", "-c", "-b", "-p", "-u", "-g", "-k", "-s", "-t", "-z", "-n",
    "-h", "-O", "-G", "-L", "-S"]

/-- The operators between two words. -/
def binaryNames : List String :=
  ["=", "==", "!=", "<", ">", "-eq", "-ne", "-ge", "-gt", "-le", "-lt", "-nt", "-ot", "-ef"]

/-- The word is an operator about one word. -/
def isUnary (word : Octets) : Bool := unaryNames.contains (String.ofList word)

/-- The word is an operator between two words. -/
def isBinary (word : Octets) : Bool := binaryNames.contains (String.ofList word)

/-! ## What operators say -/

/-- A word that is no number where one is wanted. -/
abbrev Objection := Octets

/-- The number that a word writes. -/
def number (word : Octets) : Except Objection Int :=
  match Numeral.integer? word with
  | some n => .ok n
  | none => .error ("Illegal number: ".toList ++ word)

/-- What an operator says of a word. -/
def unary (fs : Files) (operator : String) (operand : Octets) : Except Objection Bool :=
  let path := Text.Octets.toString operand
  let node := (fs.look path).toOption
  match operator with
  | "-n" => .ok !operand.isEmpty
  | "-z" => .ok operand.isEmpty
  | "-f" => .ok (match node with
    | some (.file ..) => true
    | some (.program _) => true
    | _ => false)
  | "-d" => .ok (fs.isDirectory path)
  | "-c" => .ok (match node with
    | some (.device _) => true
    | _ => false)
  | "-s" => .ok (match node with
    | some (.file content _) => !content.isEmpty
    | some .directory => true
    | some (.program _) => true
    | _ => false)
  | "-x" => .ok (fs.isExecutable path || fs.isDirectory path)
  | "-t" => do
    discard (number operand)
    return false
  | "-h" => .ok (match fs.lookLink path with
    | .ok (.link _) => true
    | _ => false)
  | "-L" => .ok (match fs.lookLink path with
    | .ok (.link _) => true
    | _ => false)
  | "-u" => .ok (match node with
    | some (.file _ mode) => mode &&& 0o4000 != 0
    | _ => false)
  | "-g" => .ok (match node with
    | some (.file _ mode) => mode &&& 0o2000 != 0
    | _ => false)
  | "-k" => .ok (match node with
    | some (.file _ mode) => mode &&& 0o1000 != 0
    | _ => path = "/tmp")
  | "-b" => .ok false
  | "-p" => .ok false
  | "-S" => .ok false
  | _ => .ok node.isSome

/-- What an operator says of two words. -/
def binary (fs : Files) (operator : String) (a b : Octets) : Except Objection Bool :=
  let numbers (compare : Int → Int → Bool) : Except Objection Bool := do
    return compare (← number a) (← number b)
  let place (word : Octets) : Option Host.Place :=
    let path := Text.Octets.toString word
    match fs.look path with
    | .ok _ => (fs.locate path).toOption
    | .error _ => none
  match operator with
  | "!=" => .ok (a != b)
  | "<" => .ok (decide (a < b))
  | ">" => .ok (decide (b < a))
  | "-eq" => numbers (· == ·)
  | "-ne" => numbers (· != ·)
  | "-lt" => numbers (· < ·)
  | "-le" => numbers (· ≤ ·)
  | "-gt" => numbers fun m n => n < m
  | "-ge" => numbers fun m n => n ≤ m
  | "-nt" => .ok ((place a).isSome && (place b).isNone)
  | "-ot" => .ok ((place a).isNone && (place b).isSome)
  | "-ef" => .ok ((place a).isSome && place a == place b)
  | _ => .ok (a == b)

/-! ## Reading -/

/-- What a word is taken for. -/
inductive Role where
  /-- There is none. -/
  | absent
  /-- A text. -/
  | operand
  /-- An operator. -/
  | operator (name : String)
deriving DecidableEq, Repr

/-- What the first of some words is taken for. An operator about one word is a text if
nothing follows it, or an operator between two words and a word do; a parenthesis is a
text if nothing follows it. -/
def role : List Octets → Role
  | [] => .absent
  | word :: rest =>
    let name := String.ofList word
    if isUnary word then
      match rest with
      | [] => .operand
      | [_] => .operator name
      | next :: _ :: _ => if isBinary next then .operand else .operator name
    else if name == "(" then if rest.isEmpty then .operand else .operator name
    else if isBinary word || ["!", "-a", "-o", ")"].contains name then .operator name
    else .operand

/-- The wording of an objection, behind what it is about. -/
def syntaxError (word : String) (what : String) : Objection :=
  (if word = "" then what else word ++ ": " ++ what).toList

/-- The value of a condition and the words from its last one on, or what is wrong. -/
abbrev Step := Except Objection (Bool × List Octets)

mutual

/-- Reads alternatives; the first word's role is known. -/
def alternatives (fs : Files) : Nat → Role → List Octets → Step
  | 0, _, _ => .error []
  | fuel + 1, r, words => do
    let (a, last) ← conjunction fs fuel r words
    if role (last.drop 1) == .operator "-o" then
      let words := last.drop 2
      let (b, last) ← alternatives fs fuel (role words) words
      return (a || b, last)
    else return (a, last)

/-- Reads conditions that all have to hold. -/
def conjunction (fs : Files) : Nat → Role → List Octets → Step
  | 0, _, _ => .error []
  | fuel + 1, r, words => do
    let (a, last) ← negation fs fuel r words
    if role (last.drop 1) == .operator "-a" then
      let words := last.drop 2
      let (b, last) ← conjunction fs fuel (role words) words
      return (a && b, last)
    else return (a, last)

/-- Reads a condition that may be denied. -/
def negation (fs : Files) : Nat → Role → List Octets → Step
  | 0, _, _ => .error []
  | fuel + 1, r, words => do
    if r != .operator "!" then primary fs fuel r words
    else
      let next := role (words.drop 1)
      let (a, last) ← negation fs fuel next (if next == .absent then words else words.drop 1)
      return (!a, last)

/-- Reads a condition about one word or two, or one in parentheses. -/
def primary (fs : Files) : Nat → Role → List Octets → Step
  | 0, _, _ => .error []
  | fuel + 1, r, words => do
    match r with
    | .absent => return (false, words)
    | .operator "(" =>
      let inside := words.drop 1
      let next := role inside
      if next == .operator ")" then return (false, inside)
      let (a, last) ← alternatives fs fuel next inside
      let last := last.drop 1
      if role last != .operator ")" then throw (syntaxError "" "closing paren expected")
      return (a, last)
    | _ =>
      let name := match r with
        | .operator name => name
        | _ => ""
      if unaryNames.contains name then
        match words.drop 1 with
        | [] => throw (syntaxError name "argument expected")
        | operand :: rest => return (← unary fs name operand, operand :: rest)
      else match words with
        | a :: operator :: rest =>
          if isBinary operator then
            match rest with
            | [] => throw (syntaxError (String.ofList operator) "argument expected")
            | b :: more => return (← binary fs (String.ofList operator) a b, b :: more)
          else return (!a.isEmpty, words)
        | a :: _ => return (!a.isEmpty, words)
        | [] => return (false, words)

end

/-- Decides the condition of words whose first has a role. -/
def decided (fs : Files) (r : Role) (words : List Octets) : Except Objection Bool := do
  let (value, last) ← alternatives fs (8 * words.length + 16) r words
  match last with
  | word :: _ :: _ => throw (syntaxError (String.ofList word) "unexpected operator")
  | _ => return value

/-- Decides the condition that words write. -/
def decide? (fs : Files) : Nat → List Octets → Except Objection Bool
  | 0, _ => .ok false
  | fuel + 1, words =>
    let inParens := words.head? == some ['('] && words.getLast? == some [')']
    match words with
    | [] => .ok false
    | [_, operator, _] =>
      if isBinary operator then decided fs .operand words
      else short fs fuel inParens words
    | [_, _, _, _] => short fs fuel inParens words
    | _ => decided fs (role words) words
where
  /-- Decides a condition of three or four words. -/
  short (fs : Files) (fuel : Nat) (inParens : Bool) (words : List Octets) :
      Except Objection Bool :=
    if inParens then
      let inside := (words.drop 1).dropLast
      decided fs (role inside) inside
    else if words.head? == some ['!'] then (decide? fs fuel (words.drop 1)).map not
    else decided fs (role words) words

end EditorAnalysis.Shell.Condition
