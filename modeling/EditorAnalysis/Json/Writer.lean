/-
EditorAnalysis.Json.Writer — writing JSON with ASCII characters only.

Inside a string the printable ASCII characters stand for themselves, apart from
the quote and the backslash; every other unit is escaped, with one letter where
there is one and with four hexadecimal digits otherwise. `compact` writes on one
line, `indented` puts every entry on a line of its own.
-/
import EditorAnalysis.Json.Value

namespace EditorAnalysis.Json

namespace Writer

/-- The hexadecimal digit of a number below sixteen. -/
def hexDigit (n : Nat) : Char :=
  if n < 10 then Char.ofNat ('0'.toNat + n) else Char.ofNat ('a'.toNat + (n - 10))

/-- The escape that names a unit by its four hexadecimal digits. -/
def hexEscape (u : UInt16) : List Char :=
  let n := u.toNat
  ['\\', 'u', hexDigit (n / 4096), hexDigit (n / 256 % 16), hexDigit (n / 16 % 16),
    hexDigit (n % 16)]

/-- A unit inside a string. -/
def unit (u : UInt16) : List Char :=
  if u = 0x22 then ['\\', '"']
  else if u = 0x5C then ['\\', '\\']
  else if u = 0x0A then ['\\', 'n']
  else if u = 0x0D then ['\\', 'r']
  else if u = 0x09 then ['\\', 't']
  else if u = 0x0C then ['\\', 'f']
  else if u = 0x08 then ['\\', 'b']
  else if 0x20 ≤ u.toNat && u.toNat ≤ 0x7E then [Char.ofNat u.toNat]
  else hexEscape u

/-- A string with its quotes. -/
def string (units : Units) : List Char := '"' :: (units.flatMap unit ++ ['"'])

/-- How the parts of arrays and objects are set apart: what stands before the
first part, between two parts, and behind the last one, at a depth. -/
structure Layout where
  /-- Behind the opening bracket. -/
  opening : Nat → List Char
  /-- Between two parts. -/
  between : Nat → List Char
  /-- Before the closing bracket. -/
  closing : Nat → List Char

/-- A line break and two spaces for each level. -/
def newLine (depth : Nat) : List Char := '\n' :: List.replicate (2 * depth) ' '

/-- Everything on one line. -/
def Layout.compact : Layout := ⟨fun _ => [], fun _ => [',', ' '], fun _ => []⟩

/-- Every part on a line of its own. -/
def Layout.indented : Layout :=
  ⟨fun depth => newLine (depth + 1), fun depth => ',' :: newLine (depth + 1), newLine⟩

mutual

/-- Writes a value at a depth. -/
def value (l : Layout) (depth : Nat) : Value → List Char
  | .null => "null".toList
  | .boolean b => if b then "true".toList else "false".toList
  | .number written => written
  | .string units => string units
  | .array [] => ['[', ']']
  | .array (v :: vs) =>
    '[' :: (l.opening depth ++ value l (depth + 1) v ++ items l depth vs
      ++ l.closing depth ++ [']'])
  | .object [] => ['{', '}']
  | .object ((name, v) :: es) =>
    '{' :: (l.opening depth ++ string name ++ [':', ' '] ++ value l (depth + 1) v
      ++ entries l depth es ++ l.closing depth ++ ['}'])

/-- Writes the items of an array behind its first one. -/
def items (l : Layout) (depth : Nat) : List Value → List Char
  | [] => []
  | v :: vs => l.between depth ++ value l (depth + 1) v ++ items l depth vs

/-- Writes the entries of an object behind its first one. -/
def entries (l : Layout) (depth : Nat) : List (Units × Value) → List Char
  | [] => []
  | (name, v) :: es =>
    l.between depth ++ string name ++ [':', ' '] ++ value l (depth + 1) v
      ++ entries l depth es

end

end Writer

namespace Value

/-- The document on one line. -/
def compact (v : Value) : String := String.ofList (Writer.value .compact 0 v)

/-- The document with every entry on a line of its own. -/
def indented (v : Value) : String := String.ofList (Writer.value .indented 0 v)

end Value

end EditorAnalysis.Json
