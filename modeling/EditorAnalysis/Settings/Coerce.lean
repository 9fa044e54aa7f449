/-
EditorAnalysis.Settings.Coerce — reading a setting's value from a datum.

A text setting takes texts only. An integer setting also takes truth values,
numbers without a fraction, and numerals: surrounding white space, one sign,
zeros in front, single underscores between digits and a fraction of zeros are
allowed. A truth setting also takes 0 and 1 and a few words in any letter case.
-/
import EditorAnalysis.Settings.Datum
import EditorAnalysis.Settings.Issue
import EditorAnalysis.Text.Blank

namespace EditorAnalysis.Settings

open Number

/-! ## Texts -/

/-- A text. -/
def asText : Datum → Except Reason String
  | .text s => .ok s
  | _ => .error .notText

/-- A text or nothing. -/
def asOptionalText : Datum → Except Reason (Option String)
  | .null => .ok none
  | .text s => .ok (some s)
  | _ => .error .notText

/-- A blank text counts as nothing. -/
def blankAsUnset : Datum → Datum
  | .text s => if Text.isBlankText s then .null else .text s
  | d => d

/-- A text loses the white space at its ends. -/
def trimmed : Datum → Datum
  | .text s => .text (Text.trim s)
  | d => d

/-! ## Integers -/

/-- A numeral in its plain form: an optional minus sign, then digits without
zeros in front. The digits are counted without the sign, and the count is checked
before anything that follows them. -/
def plainInteger (cs : List Char) : Except Reason Int :=
  let negative := cs.head? == some '-'
  let body := if negative then cs.drop 1 else cs
  let digits := body.takeWhile Char.isDigit
  match digits with
  | [] => .error .badNumeral
  | '0' :: more =>
    if more.isEmpty && body.length == 1 then .ok 0 else .error .badNumeral
  | _ =>
    if Text.Numeral.maxDigits < digits.length then .error .numeralTooLong
    else if digits.length < body.length then .error .badNumeral
    else
      let n : Int := Text.Numeral.value digits
      .ok (if negative then -n else n)

/-- Drops the zeros in front, underscores among them included, and keeps one zero
where nothing else or a point follows. A minus sign may stand in front or behind the
zeros. -/
def dropLeadingZeros : List Char → Option (List Char)
  | [] => none
  | '0' :: rest =>
    let zeros := rest.takeWhile fun c => c == '0' || c == '_'
    match rest.dropWhile fun c => c == '0' || c == '_' with
    | [] => some [zeros.getLast?.getD '0']
    | '.' :: fraction => some (zeros.getLast?.getD '0' :: '.' :: fraction)
    | c :: more => if c.isDigit || c == '-' then some (c :: more) else none
  | c :: rest => if c.isDigit || c == '-' then some (c :: rest) else none

/-- Drops a fraction that consists of zeros, at least one. -/
def dropZeroFraction (cs : List Char) : List Char :=
  match cs.dropWhile (· != '.') with
  | '.' :: fraction =>
    if !fraction.isEmpty && fraction.all (· == '0') then cs.takeWhile (· != '.') else cs
  | _ => cs

/-- Drops single underscores between digits; an underscore anywhere else stays. -/
def dropUnderscores (cs : List Char) : List Char :=
  let doubled := (cs.zip (cs.drop 1)).any fun (a, b) => a == '_' && b == '_'
  if cs.head? == some '_' || cs.getLast? == some '_' || doubled then cs
  else cs.filter (· != '_')

/-- Splits a numeral's sign off, which is true for a minus sign. A plus sign before a
minus sign is refused. -/
def splitSign? : List Char → Option (Bool × List Char)
  | '+' :: '-' :: _ => none
  | '+' :: rest => some (false, rest)
  | '-' :: rest => some (true, rest)
  | cs => some (false, cs)

/-- Brings a numeral to its plain form: no white space around it, no plus sign, no zeros
in front, no fraction of zeros and no underscores between the digits. -/
def cleanNumeral? (cs : List Char) : Option (List Char) :=
  (splitSign? (Text.trimWhile Text.isPadding cs)).bind fun (negative, body) =>
    (dropLeadingZeros body).map fun n =>
      let digits := dropUnderscores (dropZeroFraction n)
      if negative then '-' :: digits else digits

/-- The integer that a text spells: in plain form, or after cleaning. Only a numeral that
is too long as it stands is refused for its length. -/
def integerOfText (s : String) : Except Reason Int :=
  match plainInteger s.toList with
  | .ok n => .ok n
  | .error .numeralTooLong => .error .numeralTooLong
  | .error _ =>
    match (cleanNumeral? s.toList).map plainInteger with
    | some (.ok n) => .ok n
    | _ => .error .badNumeral

/-- The absolute value of the least number of 64 bits. -/
def wordBound : Nat := twoTo 63

/-- The integer lies strictly between the ends of the 64-bit range. -/
def fitsWord (n : Int) : Bool := -(wordBound : Int) < n && n < wordBound

/-- The integer that a number is equal to. -/
def integerOfReal (x : Binary64) : Except Reason Int :=
  if !x.isFinite then .error .notFinite
  else match x.toInt? with
    | none => .error .fractional
    | some n => if fitsWord n then .ok n else .error .numeralTooLong

/-- An integer. -/
def asInteger : Datum → Except Reason Int
  | .boolean b => .ok (if b then 1 else 0)
  | .integer n => .ok n
  | .real x => integerOfReal x
  | .text s => integerOfText s
  | _ => .error .notInteger

/-! ## Truth values -/

/-- The words that mean no. -/
def falseWords : List String := ["0", "off", "f", "false", "n", "no"]

/-- The words that mean yes. -/
def trueWords : List String := ["1", "on", "t", "true", "y", "yes"]

/-- The truth value that an integer stands for. -/
def truthOfInteger (n : Int) : Except Reason Bool :=
  if n = 0 then .ok false else if n = 1 then .ok true else .error .badTruth

/-- A truth value. -/
def asTruth : Datum → Except Reason Bool
  | .boolean b => .ok b
  | .text s =>
    let word := s.toLower
    if falseWords.contains word then .ok false
    else if trueWords.contains word then .ok true
    else .error .badTruth
  | .integer n =>
    if -(wordBound : Int) ≤ n && n < wordBound then truthOfInteger n else .error .notTruth
  | .real x =>
    match integerOfReal x with
    | .ok n => truthOfInteger n
    | .error _ => .error .notTruth
  | _ => .error .notTruth

/-! ## Bounds -/

/-- An integer within bounds, both included. -/
def between (least greatest : Int) (n : Int) : Except Reason Int :=
  if greatest < n then .error (.above greatest)
  else if n < least then .error (.below least)
  else .ok n

/-- An integer above a bound. -/
def aboveBound (bound : Int) (n : Int) : Except Reason Int :=
  if bound < n then .ok n else .error (.notAbove bound)

end EditorAnalysis.Settings
