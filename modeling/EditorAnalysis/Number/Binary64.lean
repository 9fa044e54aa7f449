/-
EditorAnalysis.Number.Binary64 — binary floating-point numbers of 64 bits.

A finite number is a mantissa below 2^53 times a power of two between 2^-1074
and 2^971. `ofRatio` is rounding to nearest, ties to the even mantissa, in exact
integer arithmetic; `shortest` finds the fewest decimal digits that read back;
`fixed` rounds the exact value to a number of decimal places, ties to even.
-/
import EditorAnalysis.Number.Power
import EditorAnalysis.Text.Numeral

namespace EditorAnalysis.Number

/-- A floating-point number. -/
inductive Binary64 where
  /-- Not a number. -/
  | nan
  /-- Beyond every finite number. -/
  | infinity (negative : Bool)
  /-- The mantissa times two to the exponent. -/
  | finite (negative : Bool) (mantissa : Nat) (exponent : Int)
deriving DecidableEq, Repr

/-- The quotient rounded to nearest, a half going to the even neighbour. -/
def roundDiv (n d : Nat) : Nat :=
  let q := n / d
  let r := n % d
  if 2 * r < d then q
  else if d < 2 * r then q + 1
  else if q % 2 == 0 then q else q + 1

namespace Binary64

/-- The least exponent of a finite number. -/
def minExponent : Int := -1074

/-- The greatest exponent of a finite number. -/
def maxExponent : Int := 971

/-- The fraction `num / den` divided by two to the power `e`. -/
def scaled (num den : Nat) (e : Int) : Nat × Nat :=
  if 0 ≤ e then (num, den * twoTo e.toNat) else (num * twoTo (-e).toNat, den)

/-- The exponent at which `num / den` has a mantissa of 53 bits, or the least
exponent where that is greater. -/
def exponentOf (num den : Nat) : Int :=
  let e : Int := num.log2 - den.log2 - 52
  let (n, d) := scaled num den e
  max minExponent (if n / d < twoTo 52 then e - 1 else e)

/-- The number nearest to `num / den`. -/
def ofRatio (negative : Bool) (num den : Nat) : Binary64 :=
  if num = 0 then .finite negative 0 minExponent
  else
    let e := exponentOf num den
    let (n, d) := scaled num den e
    let m := roundDiv n d
    let (m, e) := if m = twoTo 53 then (twoTo 52, e + 1) else (m, e)
    if maxExponent < e then .infinity negative else .finite negative m e

/-- The magnitude of a mantissa and an exponent as a fraction. -/
def ratio (m : Nat) (e : Int) : Nat × Nat :=
  if 0 ≤ e then (m * twoTo e.toNat, 1) else (m, twoTo (-e).toNat)

/-- Exponents of ten beyond this bound leave the range of finite numbers whatever
the digits are. -/
def decimalBound (digits : List Char) : Int := 400 + digits.length

/-- The number nearest to the digits times ten to the power `exponent`. -/
def ofDecimal (negative : Bool) (digits : List Char) (exponent : Int) : Binary64 :=
  let n := Text.Numeral.value digits
  if n = 0 then .finite negative 0 minExponent
  else if decimalBound digits < exponent then .infinity negative
  else if exponent < -decimalBound digits then .finite negative 0 minExponent
  else if 0 ≤ exponent then ofRatio negative (n * tenTo exponent.toNat) 1
  else ofRatio negative n (tenTo (-exponent).toNat)

/-- Reads an optional sign, digits, an optional fraction and an optional
exponent. The caller has checked the form; underscores are skipped. -/
def ofNumeral (text : List Char) : Binary64 :=
  let text := text.filter (· != '_')
  let negative := text.head? == some '-'
  let body := text.dropWhile fun c => c == '-' || c == '+'
  let whole := body.takeWhile Char.isDigit
  let afterWhole := body.dropWhile Char.isDigit
  let (fraction, afterFraction) := match afterWhole with
    | '.' :: rest => (rest.takeWhile Char.isDigit, rest.dropWhile Char.isDigit)
    | rest => ([], rest)
  let exponent : Int := match afterFraction with
    | _ :: '-' :: rest => -(Text.Numeral.value rest : Int)
    | _ :: '+' :: rest => Text.Numeral.value rest
    | _ :: rest => Text.Numeral.value rest
    | [] => 0
  ofDecimal negative (whole ++ fraction) (exponent - fraction.length)

/-- The integer a number is equal to, if it is one. -/
def toInt? : Binary64 → Option Int
  | finite negative m e =>
    let (n, d) := ratio m e
    if n % d = 0 then
      let magnitude : Int := (n / d : Nat)
      some (if negative then -magnitude else magnitude)
    else none
  | _ => none

/-- The number is finite. -/
def isFinite : Binary64 → Bool
  | finite .. => true
  | _ => false

/-! ## Shortest decimal digits -/

/-- The reals that round to a finite number, as four times the number and four
times the distances to the ends, all over one denominator: the lower end is
nearer where the mantissa is the least of its power of two. -/
structure Interval where
  /-- Four times the number. -/
  centre : Nat
  /-- Four times the lower end. -/
  low : Nat
  /-- Four times the upper end. -/
  high : Nat
  /-- The common denominator. -/
  den : Nat
  /-- The ends belong to the interval. -/
  closed : Bool

/-- The interval of reals that round to a mantissa and an exponent. -/
def interval (m : Nat) (e : Int) : Interval :=
  let (num, den) := ratio 1 e
  let gap := if m = twoTo 52 && minExponent < e then 1 else 2
  { centre := 4 * m * num, low := (4 * m - gap) * num, high := (4 * m + 2) * num,
    den := den, closed := m % 2 == 0 }

/-- The decimal `digits · 10^place` lies in the interval. -/
def Interval.holds (i : Interval) (digits : Nat) (place : Int) : Bool :=
  let (n, d) := if 0 ≤ place then (digits * tenTo place.toNat, 1)
    else (digits, tenTo (-place).toNat)
  let x := 4 * n * i.den
  if i.closed then i.low * d ≤ x && x ≤ i.high * d else i.low * d < x && x < i.high * d

/-- The least power of ten above the number at the centre, found from an
estimate by its binary logarithm. -/
def Interval.magnitude (i : Interval) : Int :=
  let estimate : Int := ((i.centre.log2 : Int) - 2 - i.den.log2) * 30103 / 100000 - 1
  let above (k : Int) : Bool :=
    if 0 ≤ k then i.centre < 4 * tenTo k.toNat * i.den
    else i.centre * tenTo (-k).toNat < 4 * i.den
  ((List.range 5).map fun (j : Nat) => estimate + j).find? above |>.getD (estimate + 5)

/-- The decimal of `count` digits in the interval that is nearest to its centre,
of its two neighbours on that grid, as digits and place. -/
def Interval.onGrid? (i : Interval) (magnitude : Int) (count : Nat) : Option (Nat × Int) :=
  let place : Int := magnitude - count
  let (n, d) := if 0 ≤ place then (i.centre, 4 * i.den * tenTo place.toNat)
    else (i.centre * tenTo (-place).toNat, 4 * i.den)
  let below := n / d
  let near := roundDiv n d
  let far := if near = below then below + 1 else below
  if i.holds near place then some (near, place)
  else if i.holds far place then some (far, place)
  else none

/-- The digits without zeros at the end, and the power of ten above them. -/
def trimZeros (digits : Nat) (place : Int) : List Char × Int :=
  let text := Text.Numeral.write digits
  (((text.reverse.dropWhile (· == '0')).reverse), place + text.length)

/-- The fewest digits that read back as the number, nearest to it among those;
they stand behind the point of a fraction times ten to the second component. -/
def shortest (m : Nat) (e : Int) : List Char × Int :=
  let i := interval m e
  let magnitude := i.magnitude
  match (List.range 17).findSome? fun k => i.onGrid? magnitude (k + 1) with
  | some (digits, place) => trimZeros digits place
  | none => trimZeros 0 0

/-! ## Text -/

/-- Where a decimal is written with an exponent instead of positionally: outside
these powers of ten. -/
structure Layout where
  /-- The least power of ten written positionally. -/
  low : Int
  /-- The first power of ten above those written positionally. -/
  high : Int
  /-- The least number of digits of an exponent. -/
  exponentDigits : Nat

/-- Positional from 0.0001 up to below 10^16, and exponents of two digits. -/
def layout : Layout := ⟨-4, 16, 2⟩

/-- Zeros in front, up to a width. -/
def padZeros (width : Nat) (cs : List Char) : List Char :=
  List.replicate (width - cs.length) '0' ++ cs

/-- Writes digits behind a point at the power of ten `point`. -/
def Layout.write (l : Layout) (digits : List Char) (point : Int) : List Char :=
  let power := point - 1
  if l.low ≤ power && power < l.high then
    if point ≤ 0 then "0.".toList ++ List.replicate (-point).toNat '0' ++ digits
    else
      let whole := digits.take point.toNat
      let fraction := digits.drop point.toNat
      whole ++ List.replicate (point.toNat - whole.length) '0' ++ '.'
        :: (if fraction.isEmpty then ['0'] else fraction)
  else
    let mantissa := match digits with
      | [d] => [d]
      | d :: rest => d :: '.' :: rest
      | [] => []
    mantissa ++ 'e' :: (if power < 0 then '-' else '+')
      :: padZeros l.exponentDigits (Text.Numeral.write power.natAbs)

/-- A minus sign in front of a negative number. -/
def signed (negative : Bool) (cs : List Char) : String :=
  String.ofList (if negative then '-' :: cs else cs)

/-- The shortest text that reads back as the number; it always shows a point or
an exponent. -/
def render : Binary64 → String
  | nan => "nan"
  | infinity negative => signed negative "inf".toList
  | finite negative m e =>
    if m = 0 then signed negative "0.0".toList
    else
      let (digits, point) := shortest m e
      signed negative (layout.write digits point)

/-- The number with a fixed count of decimal places, its exact value rounded to
nearest with a half going to the even neighbour. -/
def fixed (places : Nat) : Binary64 → String
  | nan => "nan"
  | infinity negative => signed negative "inf".toList
  | finite negative m e =>
    let (n, d) := ratio m e
    let digits := padZeros (places + 1) (Text.Numeral.write (roundDiv (n * tenTo places) d))
    let whole := digits.take (digits.length - places)
    signed negative (if places = 0 then whole
      else whole ++ '.' :: digits.drop (digits.length - places))

end Binary64

end EditorAnalysis.Number
