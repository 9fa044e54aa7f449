/-
EditorAnalysis.Shell.Tool.Awk.Value — values that are texts or numbers, or both.

Numbers are those of 64 bits with a fraction; every result is rounded. A text from the
input that looks like a number is compared as one.
-/
import EditorAnalysis.Shell.Format

namespace EditorAnalysis.Shell

open Text (Octets)

namespace Real

/-! ## Arithmetic -/

/-- Zero. -/
def zero : Real := .finite false 0 1

/-- A number without a fraction. -/
def ofInt (n : Int) : Real := round .double (.finite (n < 0) n.natAbs 1)

/-- A number without a sign and a fraction. -/
def ofNat (n : Nat) : Real := ofInt n

/-- No number at all. -/
def nothing : Real := .undefined true

/-- A fraction of integers. -/
def ofFraction (num : Int) (den : Nat) : Real := round .double (.finite (num < 0) num.natAbs den)

/-- The number as a fraction of integers, if it is one. -/
def fraction? : Real → Option (Int × Nat)
  | .finite negative num den => some (if negative then -(num : Int) else num, den)
  | _ => none

/-- The number is zero. -/
def isZero : Real → Bool
  | .finite _ num _ => num == 0
  | _ => false

/-- The number with the other sign. -/
def negate : Real → Real
  | .finite negative num den => .finite (!negative) num den
  | .infinite negative => .infinite (!negative)
  | .undefined negative => .undefined (!negative)

/-- The sum. -/
def add (a b : Real) : Real :=
  match a, b with
  | .finite s m d, .finite t n e =>
    let signed (negative : Bool) (k : Nat) : Int := if negative then -(k : Int) else k
    let sum := signed s m * (e : Int) + signed t n * (d : Int)
    if sum = 0 then .finite (s && t) 0 1 else ofFraction sum (d * e)
  | .undefined s, _ => .undefined s
  | _, .undefined t => .undefined t
  | .infinite s, .infinite t => if s = t then .infinite s else nothing
  | .infinite s, _ => .infinite s
  | _, .infinite t => .infinite t

/-- The product. -/
def mul (a b : Real) : Real :=
  let negative := a.isNegative != b.isNegative
  match a, b with
  | .finite _ m d, .finite _ n e => round .double (.finite negative (m * n) (d * e))
  | .undefined s, _ => .undefined s
  | _, .undefined t => .undefined t
  | a, b => if a.isZero || b.isZero then nothing else .infinite negative

/-- The quotient. -/
def div (a b : Real) : Real :=
  let negative := a.isNegative != b.isNegative
  match a, b with
  | .finite _ m d, .finite _ n e =>
    if n = 0 then if m = 0 then nothing else .infinite negative
    else round .double (.finite negative (m * e) (d * n))
  | .undefined s, _ => .undefined s
  | _, .undefined t => .undefined t
  | .infinite _, .infinite _ => nothing
  | .infinite _, _ => .infinite negative
  | _, .infinite _ => .finite negative 0 1

/-- What is left of a number when another is taken from it as often as possible. -/
def rest (a b : Real) : Real :=
  match a, b with
  | .finite s m d, .finite _ n e =>
    if n = 0 then nothing else round .double (.finite s ((m * e) % (n * d)) (d * e))
  | .undefined s, _ => .undefined s
  | _, .undefined t => .undefined t
  | .infinite _, _ => nothing
  | a, .infinite _ => a

/-- The number without its fraction. -/
def truncated : Real → Real
  | .finite s m d => .finite s (m / d) 1
  | r => r

/-- The integer that the number is without its fraction; nothing, if there is none. -/
def toInt? : Real → Option Int
  | .finite s m d => some (if s then -((m / d : Nat) : Int) else (m / d : Nat))
  | _ => none

/-- The number has no fraction. -/
def isWhole : Real → Bool
  | .finite _ m d => m % d == 0
  | _ => false

/-- The order of two numbers; nothing, if there is none. -/
def order? (a b : Real) : Option Ordering :=
  match a, b with
  | .undefined _, _ => none
  | _, .undefined _ => none
  | .infinite s, .infinite t => some (if s = t then .eq else if s then .lt else .gt)
  | .infinite s, _ => some (if s then .lt else .gt)
  | _, .infinite t => some (if t then .gt else .lt)
  | .finite s m d, .finite t n e =>
    let signed (negative : Bool) (k : Nat) : Int := if negative then -(k : Int) else k
    some (compare (signed s m * (e : Int)) (signed t n * (d : Int)))

/-- The greatest power of a number that is computed by multiplication. -/
def powerBound : Nat := 5000

/-- A power with a whole exponent. -/
def powNat (a : Real) (n : Nat) : Real :=
  match a with
  | .finite s num den =>
    let (m, d) := (num / Nat.gcd num den, den / Nat.gcd num den)
    if m = 0 || n = 0 || powerBound < n * (m.log2 + d.log2 + 1) then
      if n = 0 then ofNat 1 else if m = 0 then zero
      else if d ≤ m then (if m = d then .finite (s && n % 2 == 1) 1 1
        else .infinite (s && n % 2 == 1))
      else zero
    else round .double (.finite (s && n % 2 == 1) (Nat.pow m n) (Nat.pow d n))
  | .infinite s => if n = 0 then ofNat 1 else .infinite (s && n % 2 == 1)
  | r => if n = 0 then ofNat 1 else r

/-- The square root. -/
def sqrt : Real → Real
  | .finite s m d =>
    if m = 0 then .finite s 0 1
    else if s then nothing
    else
      let scale := Number.twoTo (2 * (64 + d.log2 + m.log2))
      let r := Nat.sqrt (m * scale / d)
      let exact := r * r * d == m * scale
      round .double (.finite false (if exact then r else 2 * r + 1)
        ((if exact then 1 else 2) * Nat.sqrt scale))
  | .infinite false => .infinite false
  | r => r.negate.negate

/-- A number with a whole exponent, or one half. -/
def pow (a b : Real) : Real :=
  match b.toInt?, b.isWhole with
  | some n, true =>
    if 0 ≤ n then powNat a n.toNat else div (ofNat 1) (powNat a n.natAbs)
  | _, _ => if b = .finite false 1 2 then sqrt a else nothing

end Real

/-! ## Values -/

namespace Awk

/-- A value. -/
inductive Value where
  /-- None has been given. -/
  | unset
  /-- A number. -/
  | number (r : Real)
  /-- A text. -/
  | text (cs : Octets)
  /-- A text that looks like a number. -/
  | numeral (cs : Octets) (r : Real)

namespace Value

/-- A character that may stand in a text that looks like a number. -/
def mayStand (c : Char) : Bool :=
  c.isDigit || Numeral.isBlank c || ['+', '-', '.', 'e', 'E'].contains c

/-- A text that may look like a number. -/
def ofInput (cs : Octets) : Value :=
  match if cs.all mayStand then Real.read? cs else none with
  | some (r, rest) =>
    if rest.all Numeral.isBlank then .numeral cs (r.round .double) else .text cs
  | none => .text cs

/-- The number that a text begins with. -/
def numberIn (cs : Octets) : Real :=
  match Real.read? cs with
  | some (r, _) => r.round .double
  | none => .zero

/-- The value as a number. -/
def toReal : Value → Real
  | unset => .zero
  | number r => r
  | text cs => numberIn cs
  | numeral _ r => r

/-- The numbers that are written without a fraction, below and up to these. -/
def wholeBounds : Int × Int := (-(Number.twoTo 63 : Int), (Number.twoTo 64 : Int))

/-- A number as a text; a fraction is written in a format. -/
def realText (format : Octets) (r : Real) : Octets :=
  match r.toInt?, r.isWhole with
  | some n, true =>
    if wholeBounds.1 ≤ n && n < wholeBounds.2 then (toString n).toList
    else fractionText
  | _, _ => fractionText
where
  /-- The number in the format. -/
  fractionText : Octets :=
    let (l, conversion, front, behind) := formatOf format
    let text := l.number (l.sign r.isNegative)
      (r.text .double conversion l.precision l.alternate) r.isFinite
    front ++ text ++ behind
  /-- The parts of a format with one conversion. -/
  formatOf (format : Octets) : Format.Layout × Char × Octets × Octets :=
    let front := format.takeWhile (· != '%')
    let rest := format.drop (front.length + 1)
    let (l, rest) := Format.marks .shell {} rest
    let width := rest.takeWhile Char.isDigit
    let rest := rest.drop width.length
    let (precision, rest) := match rest with
      | '.' :: rest =>
        let digits := rest.takeWhile Char.isDigit
        (some (Numeral.valueIn 10 digits), rest.drop digits.length)
      | rest => (none, rest)
    ({ l with width := Numeral.valueIn 10 width, precision },
      rest.head?.getD 'g', front, rest.drop 1)

/-- The value as a text; a fraction is written in a format. -/
def toText (format : Octets) : Value → Octets
  | unset => []
  | number r => realText format r
  | text cs => cs
  | numeral cs _ => cs

/-- The value counts as true. -/
def holds : Value → Bool
  | unset => false
  | number r => !r.isZero
  | text cs => !cs.isEmpty
  | numeral _ r => !r.isZero

/-- The value is compared as a number with another one that is. -/
def isNumeric : Value → Bool
  | text _ => false
  | _ => true

/-- The order of two values, as numbers or as texts; nothing, if there is none. -/
def order? (format : Octets) (a b : Value) : Option Ordering :=
  if a.isNumeric && b.isNumeric then a.toReal.order? b.toReal
  else
    let (s, t) := (a.toText format, b.toText format)
    some (if s == t then .eq else if s < t then .lt else .gt)

end Value

end Awk

end EditorAnalysis.Shell
