/-
EditorAnalysis.Shell.Numeral — numbers as commands read them.

Numbers are 64-bit integers. A literal is decimal, octal behind a zero, or hexadecimal
behind `0x`; one that is too great counts as the greatest number. What a command makes
of text behind the number is its own affair, so readers hand it on.
-/
import EditorAnalysis.Host.Seconds
import EditorAnalysis.Number.Power
import EditorAnalysis.Text.Octets

namespace EditorAnalysis.Shell.Numeral

open Text (Octets)

/-! ## Digits -/

/-- White space around numbers. -/
def isBlank (c : Char) : Bool := c == ' ' || (9 ≤ c.toNat && c.toNat ≤ 13)

/-- An octal digit. -/
def isOctal (c : Char) : Bool := '0' ≤ c && c ≤ '7'

/-- A hexadecimal digit. -/
def isHex (c : Char) : Bool :=
  c.isDigit || ('a' ≤ c && c ≤ 'f') || ('A' ≤ c && c ≤ 'F')

/-- The value of a digit in bases up to thirty-six. -/
def digitValue (c : Char) : Nat :=
  if c.isDigit then c.toNat - '0'.toNat
  else if 'a' ≤ c && c ≤ 'z' then c.toNat - 'a'.toNat + 10
  else if 'A' ≤ c && c ≤ 'Z' then c.toNat - 'A'.toNat + 10
  else 36

/-- The number that digits write in a base. -/
def valueIn (base : Nat) (digits : Octets) : Nat :=
  digits.foldl (fun n c => base * n + digitValue c) 0

/-- The digits of a number in a base. -/
def digitsIn (base n : Nat) : Octets := Nat.toDigits base n

/-! ## 64 bits -/

/-- How many 64-bit integers there are. -/
def wordSize : Nat := Number.twoTo 64

/-- The 64-bit integer that a number wraps to. -/
def wrap (n : Int) : Int := Int.bmod n wordSize

/-- The greatest 64-bit integer. -/
def greatest : Int := (Number.twoTo 63 : Int) - 1

/-- The least 64-bit integer. -/
def least : Int := -(Number.twoTo 63 : Int)

/-- The nearest 64-bit integer. -/
def saturate (n : Int) : Int := max least (min greatest n)

/-! ## Reading -/

/-- Digits of a base, and what follows them; nothing, where none are. -/
def digits? (base : Nat) (cs : Octets) : Option (Nat × Octets) :=
  let digits := cs.takeWhile fun c => digitValue c < base
  if digits.isEmpty then none else some (valueIn base digits, cs.drop digits.length)

/-- A literal without a sign, and what follows it. -/
def literal? (cs : Octets) : Option (Nat × Octets) :=
  match cs with
  | '0' :: x :: rest =>
    if x == 'x' || x == 'X' then (digits? 16 rest).or (some (0, x :: rest)) else digits? 8 cs
  | '0' :: _ => digits? 8 cs
  | _ => digits? 10 cs

/-- A number behind white space, with a sign perhaps, and what follows it; the reader of the
digits is given. -/
def signed? (unsigned? : Octets → Option (Nat × Octets)) (cs : Octets) : Option (Int × Octets) :=
  match cs.dropWhile isBlank with
  | '-' :: rest => (unsigned? rest).map fun (n, rest) => (-(n : Int), rest)
  | '+' :: rest => (unsigned? rest).map fun (n, rest) => ((n : Int), rest)
  | rest => (unsigned? rest).map fun (n, rest) => ((n : Int), rest)

/-- The number that digits write, if all characters are digits. -/
def natural? (cs : Octets) : Option Nat :=
  if !cs.isEmpty && cs.all Char.isDigit then some (valueIn 10 cs) else none

/-- The bound of the numbers that commands count with. -/
def countBound : Nat := Number.twoTo 31

/-- A count: digits, not too many of them. -/
def count? (cs : Octets) : Option Nat := (natural? cs).filter (· < countBound)

/-- A decimal integer with white space around it. -/
def integer? (cs : Octets) : Option Int :=
  match signed? (digits? 10) cs with
  | some (n, rest) => if rest.all isBlank && least ≤ n && n ≤ greatest then some n else none
  | none => none

/-! ## Times -/

/-- The number of nanoseconds that a text writes as seconds, perhaps with a fraction and a
unit. -/
def duration? (cs : Octets) : Option Nat :=
  let whole := cs.takeWhile Char.isDigit
  let rest := cs.drop whole.length
  let (fraction, unit) := match rest with
    | '.' :: more => (more.takeWhile Char.isDigit, more.dropWhile Char.isDigit)
    | more => ([], more)
  let scale? : Option Nat := match unit with
    | [] => some 1
    | ['s'] => some 1
    | ['m'] => some 60
    | ['h'] => some 3600
    | ['d'] => some 86400
    | _ => none
  if whole.isEmpty && fraction.isEmpty then none
  else scale?.map fun scale =>
    valueIn 10 (whole ++ fraction) * scale * Host.Seconds.nanoseconds
      / Number.tenTo fraction.length

end EditorAnalysis.Shell.Numeral
