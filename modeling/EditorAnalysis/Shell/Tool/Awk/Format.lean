/-
EditorAnalysis.Shell.Tool.Awk.Format — writing values in a format, and functions of numbers.
-/
import EditorAnalysis.Shell.Tool.Awk.Program

namespace EditorAnalysis.Shell

open Text (Octets)

namespace Real

/-! ## Functions of numbers -/

/-- The number of 64 bits that a number is. -/
def toFloat : Real → Float
  | .finite negative num den =>
    let f := (Float.ofNat num).scaleB (-(den.log2 : Int))
    if negative then -f else f
  | .infinite negative => if negative then -1.0 / 0.0 else 1.0 / 0.0
  | .undefined _ => 0.0 / 0.0

/-- The number that a number of 64 bits is. -/
def ofFloat (x : Float) : Real :=
  if x.isNaN then nothing
  else if x.isInf then .infinite (x < 0)
  else
    let (m, e) := x.abs.frExp
    let n := (m.scaleB 53).toUInt64.toNat
    let shift := e - 53
    if 0 ≤ shift then .finite (x < 0) (n * Number.twoTo shift.toNat) 1
    else round .double (.finite (x < 0) n (Number.twoTo shift.natAbs))

/-- A function of numbers of 64 bits. -/
def through (f : Float → Float) (r : Real) : Real := ofFloat (f r.toFloat)

end Real

namespace Awk

/-! ## Formats -/

/-- What is wrong with a format. -/
inductive FormatProblem where
  /-- There are not enough values. -/
  | tooFew
  /-- A conversion, by its number, has no meaning. -/
  | unknown (number : Nat)

/-- The greatest number that is written without a fraction. -/
def greatestWhole : Int := (Number.twoTo 64 : Int) - 1

/-- The integer that a conversion writes. -/
def integerOf (v : Value) : Int :=
  match v.toReal with
  | .infinite negative => if negative then Numeral.least + 1 else greatestWhole
  | .undefined _ => Numeral.least
  | r =>
    let n := (r.toInt?).getD 0
    if n < Numeral.least then Numeral.least + 1 else min n greatestWhole

/-- A width or a precision, from the format or from the next value. -/
def measure (cs : Octets) (values : List Value) : Option (Option Int × Octets × List Value) :=
  match cs, values with
  | '*' :: _, [] => none
  | '*' :: rest, v :: values => some (some (integerOf v), rest, values)
  | _, _ =>
    let digits := cs.takeWhile Char.isDigit
    some (if digits.isEmpty then none else some (Numeral.valueIn 10 digits),
      cs.drop digits.length, values)

/-- A value written by a conversion, if there is such a one. -/
def converted? (format : Octets) (l : Format.Layout) (conversion : Char) (v : Value) :
    Option Octets :=
  let cut (cs : Octets) : Octets := match l.precision with
    | none => cs
    | some n => cs.take n
  let signed : Octets :=
    let n := integerOf v
    l.integer (l.sign (n < 0)) (Numeral.digitsIn 10 n.natAbs)
  let unsigned (base : Nat) (front : Octets) (shape : Octets → Octets) : Octets :=
    let n := (integerOf v % Numeral.wordSize).toNat
    l.integer (if l.alternate && n != 0 then front else []) (shape (Numeral.digitsIn base n))
  let real : Octets :=
    let r := v.toReal
    l.number (l.sign r.isNegative) (r.text .double conversion l.precision l.alternate) r.isFinite
  match conversion with
  | 's' => some (l.fill (cut (v.toText format)))
  | 'c' =>
    let text := match v with
      | .text cs => cs.take 1
      | .number r => [Format.byte (((r.toInt?).getD 0) % 256).toNat]
      | .numeral _ r => [Format.byte (((r.toInt?).getD 0) % 256).toNat]
      | .unset => []
    some (l.fill (if text.isEmpty then [Char.ofNat 0] else text))
  | 'd' => some signed
  | 'i' => some signed
  | 'o' => some (unsigned 8 ['0'] id)
  | 'x' => some (unsigned 16 ['0', 'x'] id)
  | 'X' => some (unsigned 16 ['0', 'X'] (·.map Char.toUpper))
  | 'u' => some (unsigned 10 [] id)
  | c => if "eEfFgGaA".toList.contains c then some real else none

/-- Values written in a format, piece by piece, and what is wrong. The number is that of the
conversion to come. -/
def formatted (own : Octets) : Nat → Nat → Octets → List Value → Octets × Option FormatProblem
  | 0, _, _, _ => ([], none)
  | _, _, [], _ => ([], none)
  | fuel + 1, number, '%' :: '%' :: rest, values =>
    let (text, problem) := formatted own fuel number rest values
    ('%' :: text, problem)
  | fuel + 1, number, '%' :: rest, values =>
    let (l, rest) := Format.marks .shell {} rest
    match measure rest values with
    | none => ([], some .tooFew)
    | some (width, rest, values) =>
      let precise : Option (Option Int × Octets × List Value) := match rest with
        | '.' :: rest => (measure rest values).map fun (n, rest, values) =>
          (some (n.getD 0), rest, values)
        | rest => some (none, rest, values)
      match precise with
      | none => ([], some .tooFew)
      | some (precision, rest, values) =>
        let l := { l with
          left := l.left || width.any (· < 0), width := (width.getD 0).natAbs
          precision := (precision.filter (0 ≤ ·)).map Int.toNat }
        match rest.dropWhile "hlqjzt".toList.contains, values with
        | _, [] => ([], some .tooFew)
        | [], _ => ([], some (.unknown number))
        | c :: rest, v :: values =>
          match converted? own l c v with
          | none => ([], some (.unknown number))
          | some front =>
            let (text, problem) := formatted own fuel (number + 1) rest values
            (front ++ text, problem)
  | fuel + 1, number, c :: rest, values =>
    let (text, problem) := formatted own fuel number rest values
    (c :: text, problem)

end Awk

end EditorAnalysis.Shell
