/-
EditorAnalysis.Json.Reader — reading JSON.

The grammar is RFC 8259's, with `NaN`, `Infinity` and `-Infinity` as numbers. A
document has one value with white space around it. Reading stops at the first
fault; an integer with more digits than the reader allows, and a value within more
others than it allows, are faults of their own at the place where they are met.
-/
import EditorAnalysis.Assoc
import EditorAnalysis.Json.Value
import EditorAnalysis.Text.ReadFault

namespace EditorAnalysis.Json

open Text (ReadFault)

/-- How much a reader takes. -/
structure Limits where
  /-- The most digits that an integer may have. -/
  digits : Option Nat := none
  /-- How many arrays and objects may lie within each other. -/
  depth : Option Nat := none

namespace Limits

/-- The limits inside one more array or object, which is refused where none is allowed. -/
def enter (limits : Limits) (inside : Text.Nesting) : Except ReadFault Limits :=
  match limits.depth with
  | none => .ok limits
  | some 0 => .error (.nestedTooDeep (some inside))
  | some (depth + 1) => .ok { limits with depth := some depth }

end Limits

namespace Reader

/-- What a reading step gives: a result and the characters behind it. -/
abbrev Step (α : Type) := Except ReadFault (α × List Char)

/-- The white space of JSON. -/
def isSpace (c : Char) : Bool := c == ' ' || c == '\t' || c == '\n' || c == '\r'

/-- Skips white space. -/
def skip (cs : List Char) : List Char := cs.dropWhile isSpace

/-- The value of a hexadecimal digit. -/
def hexDigit? (c : Char) : Option Nat :=
  if '0' ≤ c && c ≤ '9' then some (c.toNat - '0'.toNat)
  else if 'a' ≤ c && c ≤ 'f' then some (c.toNat - 'a'.toNat + 10)
  else if 'A' ≤ c && c ≤ 'F' then some (c.toNat - 'A'.toNat + 10)
  else none

/-- The unit that four hexadecimal digits name. -/
def hexUnit? (a b c d : Char) : Option UInt16 := do
  let a ← hexDigit? a
  let b ← hexDigit? b
  let c ← hexDigit? c
  let d ← hexDigit? d
  return (((a * 16 + b) * 16 + c) * 16 + d).toUInt16

/-- The unit that a one-letter escape names. -/
def escaped? : Char → Option UInt16
  | '"' => some 0x22
  | '\\' => some 0x5C
  | '/' => some 0x2F
  | 'b' => some 0x08
  | 'f' => some 0x0C
  | 'n' => some 0x0A
  | 'r' => some 0x0D
  | 't' => some 0x09
  | _ => none

/-- Reads a string behind its opening quote. -/
def string : List Char → Step Units
  | [] => .error .malformed
  | '"' :: rest => .ok ([], rest)
  | '\\' :: 'u' :: a :: b :: c :: d :: rest =>
    match hexUnit? a b c d with
    | none => .error .malformed
    | some unit => (string rest).map fun (units, rest) => (unit :: units, rest)
  | '\\' :: e :: rest =>
    match escaped? e with
    | none => .error .malformed
    | some unit => (string rest).map fun (units, rest) => (unit :: units, rest)
  | c :: rest =>
    if c < ' ' || c == '\\' then .error .malformed
    else (string rest).map fun (units, rest) => (Units.ofChar c ++ units, rest)

/-- A fraction, if the characters begin with one: a point and digits. -/
def fraction (cs : List Char) : List Char × List Char :=
  match cs with
  | '.' :: rest =>
    let digits := rest.takeWhile Char.isDigit
    if digits.isEmpty then ([], cs) else ('.' :: digits, rest.dropWhile Char.isDigit)
  | _ => ([], cs)

/-- An exponent, if the characters begin with one: a letter, a sign or none, and
digits. -/
def exponent (cs : List Char) : List Char × List Char :=
  match cs with
  | e :: rest =>
    if e == 'e' || e == 'E' then
      let (sign, body) := match rest with
        | '+' :: body => (['+'], body)
        | '-' :: body => (['-'], body)
        | body => ([], body)
      let digits := body.takeWhile Char.isDigit
      if digits.isEmpty then ([], cs)
      else (e :: (sign ++ digits), body.dropWhile Char.isDigit)
    else ([], cs)
  | [] => ([], cs)

/-- Reads a number. The whole part is a zero or digits without one in front; an
integer is measured against the limit. -/
def number (limits : Limits) (cs : List Char) : Step Value :=
  let (sign, body) := match cs with
    | '-' :: body => (['-'], body)
    | body => ([], body)
  let whole := match body with
    | '0' :: _ => ['0']
    | _ => body.takeWhile Char.isDigit
  if whole.isEmpty then .error .malformed
  else
    let (frac, rest) := fraction (body.drop whole.length)
    let (exp, rest) := exponent rest
    let tooLong := match limits.digits with
      | some most => frac.isEmpty && exp.isEmpty && most < whole.length
      | none => false
    if tooLong then .error (.numeralTooLong whole.length)
    else .ok (.number (sign ++ whole ++ frac ++ exp), rest)

/-- What follows a literal, if the characters begin with it. -/
def after? (literal : String) (cs : List Char) : Option (List Char) :=
  if literal.toList.isPrefixOf cs then some (cs.drop literal.length) else none

/-- Reads a literal, or else a number. -/
def scalar (limits : Limits) (cs : List Char) : Step Value :=
  if let some rest := after? "null" cs then .ok (.null, rest)
  else if let some rest := after? "true" cs then .ok (.boolean true, rest)
  else if let some rest := after? "false" cs then .ok (.boolean false, rest)
  else if let some rest := after? "NaN" cs then .ok (.number "NaN".toList, rest)
  else if let some rest := after? "Infinity" cs then .ok (.number "Infinity".toList, rest)
  else if let some rest := after? "-Infinity" cs then .ok (.number "-Infinity".toList, rest)
  else number limits cs

mutual

/-- Reads a value. The fuel bounds how many values and separators are read. -/
def value (limits : Limits) : Nat → List Char → Step Value
  | 0, _ => .error .malformed
  | fuel + 1, cs =>
    match cs with
    | '"' :: rest => (string rest).map fun (units, rest) => (.string units, rest)
    | '[' :: rest =>
      match limits.enter .array with
      | .error fault => .error fault
      | .ok inner =>
        match skip rest with
        | ']' :: rest => .ok (.array [], rest)
        | rest => (items inner fuel rest).map fun (vs, rest) => (.array vs, rest)
    | '{' :: rest =>
      match limits.enter .object with
      | .error fault => .error fault
      | .ok inner =>
        match skip rest with
        | '}' :: rest => .ok (.object [], rest)
        | rest => (entries inner fuel rest).map fun (es, rest) =>
            (.object (Assoc.ofList es), rest)
    | _ => scalar limits cs

/-- Reads the items of an array up to its closing bracket, at least one. -/
def items (limits : Limits) : Nat → List Char → Step (List Value)
  | 0, _ => .error .malformed
  | fuel + 1, cs =>
    match value limits fuel cs with
    | .error fault => .error fault
    | .ok (v, rest) =>
      match skip rest with
      | ']' :: rest => .ok ([v], rest)
      | ',' :: rest => (items limits fuel (skip rest)).map fun (vs, rest) => (v :: vs, rest)
      | _ => .error .malformed

/-- Reads the entries of an object up to its closing brace, at least one. -/
def entries (limits : Limits) : Nat → List Char → Step (List (Units × Value))
  | 0, _ => .error .malformed
  | fuel + 1, cs =>
    match cs with
    | '"' :: rest =>
      match string rest with
      | .error fault => .error fault
      | .ok (name, rest) =>
        match skip rest with
        | ':' :: rest =>
          match value limits fuel (skip rest) with
          | .error fault => .error fault
          | .ok (v, rest) =>
            match skip rest with
            | '}' :: rest => .ok ([(name, v)], rest)
            | ',' :: rest =>
              (entries limits fuel (skip rest)).map fun (es, rest) => ((name, v) :: es, rest)
            | _ => .error .malformed
        | _ => .error .malformed
    | _ => .error .malformed

end

/-- Reads a document: one value and white space. -/
def document (limits : Limits) (cs : List Char) : Except ReadFault Value :=
  match value limits (2 * cs.length + 1) (skip cs) with
  | .error fault => .error fault
  | .ok (v, rest) => if (skip rest).isEmpty then .ok v else .error .malformed

end Reader

/-- Reads a JSON document within limits. -/
def read (limits : Limits) (cs : List Char) : Except ReadFault Value :=
  Reader.document limits cs

end EditorAnalysis.Json
