/-
EditorAnalysis.Shell.Real — numbers with a fraction as commands read and write them.

A number is read exactly and then rounded to a mantissa of so many bits, ties to even.
What is written is the exact value of the rounded number, rounded to decimal places,
ties to even again.
-/
import EditorAnalysis.Number.Binary64
import EditorAnalysis.Shell.Numeral

namespace EditorAnalysis.Shell

open Text (Octets)

/-- A kind of numbers with a fraction. -/
structure Precision where
  /-- The bits of a mantissa. -/
  bits : Nat
  /-- Numbers are below two to this power. -/
  ends : Nat
deriving DecidableEq, Repr

namespace Precision

/-- Numbers of 64 bits. -/
def double : Precision := ⟨53, 1024⟩

/-- Numbers of 80 bits. -/
def extended : Precision := ⟨64, 16384⟩

end Precision

/-- A number with a fraction. -/
inductive Real where
  /-- A fraction. -/
  | finite (negative : Bool) (num den : Nat)
  /-- Beyond every number. -/
  | infinite (negative : Bool)
  /-- No number. -/
  | undefined (negative : Bool)
deriving DecidableEq, Repr

namespace Real

/-! ## Reading -/

/-- Beyond this power of ten every number is too great or counts as zero. -/
def exponentBound : Nat := 6000

/-- The power of a base that an exponent behind a mark writes, and what follows it. -/
def exponentOf (marks : List Char) (cs : Octets) : Int × Octets :=
  match cs with
  | c :: rest =>
    if !marks.contains c then (0, cs)
    else
      let (negative, digits) := match rest with
        | '-' :: digits => (true, digits)
        | '+' :: digits => (false, digits)
        | digits => (false, digits)
      match Numeral.digits? 10 digits with
      | some (n, behind) => (if negative then -(n : Int) else n, behind)
      | none => (0, cs)
  | [] => (0, [])

/-- Digits with a point among them in a base: the number without the point, how many digits
were behind the point, and what follows. -/
def pointed? (base : Nat) (cs : Octets) : Option (Nat × Nat × Octets) :=
  let isDigit (c : Char) : Bool := Numeral.digitValue c < base
  let whole := cs.takeWhile isDigit
  let rest := cs.drop whole.length
  let (fraction, rest) := match rest with
    | '.' :: more => (more.takeWhile isDigit, more.dropWhile isDigit)
    | more => ([], more)
  if whole.isEmpty && fraction.isEmpty then none
  else some (Numeral.valueIn base (whole ++ fraction), fraction.length, rest)

/-- A number times a power of a base. -/
def scaled (negative : Bool) (n base : Nat) (exponent : Int) : Real :=
  if n = 0 then .finite negative 0 1
  else if (exponentBound : Int) < exponent then .infinite negative
  else if exponent < -2 * (exponentBound : Int) then .finite negative 0 1
  else if 0 ≤ exponent then .finite negative (n * Nat.pow base exponent.toNat) 1
  else .finite negative n (Nat.pow base (-exponent).toNat)

/-- A word in any letter case, and what follows it. -/
def word? (word : String) (cs : Octets) : Option Octets :=
  if (cs.take word.length).map Char.toLower == word.toList then some (cs.drop word.length)
  else none

/-- A number without a sign, and what follows it. -/
def unsigned? (negative : Bool) (cs : Octets) : Option (Real × Octets) :=
  let hexadecimal : Option (Real × Octets) :=
    match cs with
    | '0' :: x :: rest =>
      if x == 'x' || x == 'X' then
        (pointed? 16 rest).map fun (n, places, rest) =>
          let (exponent, rest) := exponentOf ['p', 'P'] rest
          (scaled negative n 2 (exponent - 4 * places), rest)
      else none
    | _ => none
  let decimal : Option (Real × Octets) :=
    (pointed? 10 cs).map fun (n, places, rest) =>
      let (exponent, rest) := exponentOf ['e', 'E'] rest
      (scaled negative n 10 (exponent - places), rest)
  (((hexadecimal.or decimal).or
    ((word? "infinity" cs).map fun rest => (.infinite negative, rest))).or
    ((word? "inf" cs).map fun rest => (.infinite negative, rest))).or
    ((word? "nan" cs).map fun rest => (.undefined negative, rest))

/-- A number behind white space, and what follows it. -/
def read? (cs : Octets) : Option (Real × Octets) :=
  match cs.dropWhile Numeral.isBlank with
  | '-' :: rest => unsigned? true rest
  | '+' :: rest => unsigned? false rest
  | rest => unsigned? false rest

/-- The number rounded to a precision. -/
def round (p : Precision) : Real → Real
  | .finite negative num den =>
    if num = 0 then .finite negative 0 1
    else
      let e : Int := num.log2 - den.log2 - p.bits
      let (n, d) := Number.Binary64.scaled num den e
      let e := if Number.twoTo p.bits ≤ n / d then e + 1 else e
      let (n, d) := Number.Binary64.scaled num den e
      let m := Number.roundDiv n d
      let (n, d) := Number.Binary64.ratio m e
      if Number.twoTo p.ends * d ≤ n then .infinite negative else .finite negative n d
  | r => r

/-- The number is negative. -/
def isNegative : Real → Bool
  | .finite negative .. => negative
  | .infinite negative => negative
  | .undefined negative => negative

/-- The number is finite. -/
def isFinite : Real → Bool
  | .finite .. => true
  | _ => false

/-! ## Writing -/

/-- Digits with a point in front of the last so many; the point always, if it is wanted. -/
def withPoint (places : Nat) (always : Bool) (digits : Octets) : Octets :=
  let digits := List.replicate (places + 1 - digits.length) '0' ++ digits
  let whole := digits.take (digits.length - places)
  let fraction := digits.drop (digits.length - places)
  if fraction.isEmpty && !always then whole else whole ++ '.' :: fraction

/-- A fraction with some decimal places. -/
def fixed (places : Nat) (always : Bool) (num den : Nat) : Octets :=
  withPoint places always
    (Numeral.digitsIn 10 (Number.roundDiv (num * Number.tenTo places) den))

/-- A power of ten below a fraction that is not zero, the greatest one or its neighbour, by
search from a guess. -/
def tenBelow (num den : Nat) : Nat → Int → Int
  | 0, e => e
  | fuel + 1, e =>
    let above (e : Int) : Bool :=
      if 0 ≤ e then num < Number.tenTo e.toNat * den
      else num * Number.tenTo (-e).toNat < den
    if above e then tenBelow num den fuel (e - 1)
    else if above (e + 1) then e else tenBelow num den fuel (e + 1)

/-- The digits of a fraction, one more than the places, and the power of ten of the first. -/
def digitsOf (places : Nat) (num den : Nat) : Octets × Int :=
  if num = 0 then (List.replicate (places + 1) '0', 0)
  else
    let guess : Int := ((num.log2 : Int) - den.log2) * 3 / 10
    let e := tenBelow num den 10000 guess
    let shift : Int := places - e
    let n := if 0 ≤ shift then Number.roundDiv (num * Number.tenTo shift.toNat) den
      else Number.roundDiv num (den * Number.tenTo (-shift).toNat)
    let digits := Numeral.digitsIn 10 n
    if digits.length = places + 2 then (digits.take (places + 1), e + 1) else (digits, e)

/-- An exponent of at least two digits behind a mark. -/
def exponentText (mark : Char) (e : Int) : Octets :=
  let digits := Numeral.digitsIn 10 e.natAbs
  mark :: (if e < 0 then '-' else '+') :: (if digits.length < 2 then '0' :: digits else digits)

/-- A fraction with an exponent. -/
def scientific (places : Nat) (always : Bool) (num den : Nat) : Octets :=
  let (digits, e) := digitsOf places num den
  withPoint places always digits ++ exponentText 'e' e

/-- Without the zeros behind a point, nor the point if nothing is left behind it. -/
def withoutZeros (cs : Octets) : Octets :=
  if !cs.contains '.' then cs
  else
    let cs := (cs.reverse.dropWhile (· == '0')).reverse
    if cs.getLast? == some '.' then cs.dropLast else cs

/-- A fraction with so many digits, in the shorter of both ways. -/
def general (digits : Nat) (always : Bool) (num den : Nat) : Octets :=
  let wanted := max digits 1
  let (ds, e) := digitsOf (wanted - 1) num den
  let trim (cs : Octets) : Octets := if always then cs else withoutZeros cs
  if -4 ≤ e && e < (wanted : Int) then trim (fixed ((wanted : Int) - 1 - e).toNat always num den)
  else trim (withPoint (wanted - 1) always ds) ++ exponentText 'e' e

/-- A fraction in hexadecimal digits, with one digit of so many bits in front of the point. -/
def hexadecimal (leading : Nat) (places : Option Nat) (always : Bool) (num den : Nat) : Octets :=
  if num = 0 then "0x0".toList ++ withPoint 0 always [] ++ "p+0".toList
  else
    let e0 : Int := num.log2 - den.log2
    let (n, d) := Number.Binary64.scaled num den e0
    let e := if n < d then e0 - 1 else e0
    let shift : Int := e - (leading - 1 : Nat)
    let (n, d) := Number.Binary64.scaled num den shift
    let digits := places.getD 16
    let m := Number.roundDiv (n * Nat.pow 16 digits) d
    let text := withPoint digits always (Numeral.digitsIn 16 m)
    let text := if places.isNone then withoutZeros text else text
    "0x".toList ++ text ++ 'p' :: (if shift < 0 then '-' else '+')
      :: Numeral.digitsIn 10 shift.natAbs

/-- The places that are written unless others are asked for. -/
def defaultPlaces : Nat := 6

/-- The number without its sign, as a conversion writes it. -/
def text (p : Precision) (conversion : Char) (precision : Option Nat) (always : Bool) :
    Real → Octets
  | .infinite _ => if conversion.isUpper then "INF".toList else "inf".toList
  | .undefined _ => if conversion.isUpper then "NAN".toList else "nan".toList
  | .finite _ num den =>
    let places := precision.getD defaultPlaces
    let lower := match conversion.toLower with
      | 'e' => scientific places always num den
      | 'g' => general places always num den
      | 'a' => hexadecimal (if p = .double then 1 else 4) precision always num den
      | _ => fixed places always num den
    if conversion.isUpper then lower.map Char.toUpper else lower

end Real

end EditorAnalysis.Shell
