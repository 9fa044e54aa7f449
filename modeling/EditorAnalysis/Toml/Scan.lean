/-
EditorAnalysis.Toml.Scan — the words of TOML: blanks, comments, strings, numbers
and moments.

Each reader takes the characters in front of it and gives what it read with the
characters behind, or the reason why it reads nothing.
-/
import EditorAnalysis.Settings.Datum
import EditorAnalysis.Text.Newlines
import EditorAnalysis.Text.ReadFault

namespace EditorAnalysis.Toml

open Text (ReadFault)

/-- What a reader gives: a result and the characters behind it. -/
abbrev Step (α : Type) := Except ReadFault (α × List Char)

namespace Scan

/-! ## Characters -/

/-- The blanks inside a line. -/
def isBlank (c : Char) : Bool := c == ' ' || c == '\t'

/-- The blanks inside an array. -/
def isSpace (c : Char) : Bool := isBlank c || c == '\n'

/-- Control characters other than the tab. -/
def isControl (c : Char) : Bool := (c.toNat < 0x20 && c != '\t') || c.toNat == 0x7F

/-- Control characters that may not stand in a text, which may or may not go over
several lines. -/
def isIllegal (multiline : Bool) (c : Char) : Bool :=
  isControl c && !(multiline && c == '\n')

/-- The characters of a bare key. -/
def isKeyChar (c : Char) : Bool := c.isAlphanum || c == '-' || c == '_'

/-- The characters that a key begins with. -/
def isKeyStart (c : Char) : Bool := isKeyChar c || c == '"' || c == '\''

/-! ## Blanks and comments -/

/-- Skips the blanks of a line. -/
def skipBlanks (cs : List Char) : List Char := cs.dropWhile isBlank

/-- Skips a comment, if one is there. -/
def skipComment (cs : List Char) : Except ReadFault (List Char) :=
  match cs with
  | '#' :: rest =>
    if (rest.takeWhile (· != '\n')).any isControl then .error .malformed
    else .ok (rest.dropWhile (· != '\n'))
  | _ => .ok cs

/-- Skips blanks, line breaks and comments. The fuel bounds the number of
comments. -/
def skipSpace : Nat → List Char → Except ReadFault (List Char)
  | 0, cs => .ok cs
  | fuel + 1, cs =>
    let rest := cs.dropWhile isSpace
    match rest with
    | '#' :: _ =>
      match skipComment rest with
      | .error fault => .error fault
      | .ok rest => skipSpace fuel rest
    | _ => .ok rest

/-! ## Strings -/

/-- The number that hexadecimal digits write, if all of them are such digits. -/
def hexValue? (cs : List Char) : Option Nat :=
  cs.foldlM (fun n c =>
    if '0' ≤ c && c ≤ '9' then some (16 * n + (c.toNat - '0'.toNat))
    else if 'a' ≤ c && c ≤ 'f' then some (16 * n + (c.toNat - 'a'.toNat + 10))
    else if 'A' ≤ c && c ≤ 'F' then some (16 * n + (c.toNat - 'A'.toNat + 10))
    else none) 0

/-- Reads a character written by its number in so many hexadecimal digits. -/
def numbered (digits : Nat) (cs : List Char) : Step (List Char) :=
  if (cs.take digits).length < digits then .error .malformed
  else match hexValue? (cs.take digits) with
    | none => .error .malformed
    | some n =>
      if n.isValidChar then .ok ([Char.ofNat n], cs.drop digits) else .error .malformed

/-- Reads what a backslash begins. In a text over several lines a backslash at the
end of a line takes the line break and all blanks behind it away. -/
def escape (multiline : Bool) (cs : List Char) : Step (List Char) :=
  match cs with
  | 'b' :: rest => .ok ([Char.ofNat 8], rest)
  | 't' :: rest => .ok (['\t'], rest)
  | 'n' :: rest => .ok (['\n'], rest)
  | 'f' :: rest => .ok ([Char.ofNat 12], rest)
  | 'r' :: rest => .ok (['\r'], rest)
  | '"' :: rest => .ok (['"'], rest)
  | '\\' :: rest => .ok (['\\'], rest)
  | 'u' :: rest => numbered 4 rest
  | 'U' :: rest => numbered 8 rest
  | c :: _ =>
    if multiline && isSpace c then
      match skipBlanks cs with
      | [] => .ok ([], [])
      | '\n' :: rest => .ok ([], rest.dropWhile isSpace)
      | _ => .error .malformed
    else .error .malformed
  | [] => .error .malformed

/-- Reads a text in double quotes behind its opening quotes. The fuel bounds the
number of its characters. -/
def basic (multiline : Bool) : Nat → List Char → Step (List Char)
  | 0, _ => .error .malformed
  | fuel + 1, cs =>
    match cs with
    | [] => .error .malformed
    | '"' :: rest =>
      if multiline then
        match rest with
        | '"' :: '"' :: rest => .ok ([], rest)
        | _ => (basic multiline fuel rest).map fun (text, rest) => ('"' :: text, rest)
      else .ok ([], rest)
    | '\\' :: rest =>
      match escape multiline rest with
      | .error fault => .error fault
      | .ok (piece, rest) =>
        (basic multiline fuel rest).map fun (text, rest) => (piece ++ text, rest)
    | c :: rest =>
      if isIllegal multiline c then .error .malformed
      else (basic multiline fuel rest).map fun (text, rest) => (c :: text, rest)

/-- What stands before the first occurrence of a delimiter, and what behind it. -/
def before? (delimiter : List Char) : List Char → Option (List Char × List Char)
  | [] => none
  | c :: rest =>
    if delimiter.isPrefixOf (c :: rest) then some ([], (c :: rest).drop delimiter.length)
    else (before? delimiter rest).map fun (text, rest) => (c :: text, rest)

/-- Reads a text in single quotes behind its opening quotes. -/
def literal (multiline : Bool) (cs : List Char) : Step (List Char) :=
  match before? (if multiline then ['\'', '\'', '\''] else ['\'']) cs with
  | none => .error .malformed
  | some (text, rest) =>
    if text.any (isIllegal multiline) then .error .malformed else .ok (text, rest)

/-- Up to two quotes behind the closing quotes of a text over several lines
belong to the text. -/
def extraQuotes (quote : Char) (text rest : List Char) : List Char × List Char :=
  let extra := ((rest.takeWhile (· == quote)).take 2)
  (text ++ extra, rest.drop extra.length)

/-- Skips a line break right behind opening quotes. -/
def skipFirstBreak : List Char → List Char
  | '\n' :: rest => rest
  | cs => cs

/-- Reads a text that begins with a quote. -/
def string (cs : List Char) : Step (List Char) :=
  match cs with
  | '"' :: '"' :: '"' :: rest =>
    (basic true (rest.length + 1) (skipFirstBreak rest)).map fun (text, rest) =>
      extraQuotes '"' text rest
  | '"' :: rest => basic false (rest.length + 1) rest
  | '\'' :: '\'' :: '\'' :: rest =>
    (literal true (skipFirstBreak rest)).map fun (text, rest) => extraQuotes '\'' text rest
  | '\'' :: rest => literal false rest
  | _ => .error .malformed

/-- Reads one part of a key: bare, or a text in quotes on one line. -/
def keyPart (cs : List Char) : Step String :=
  match cs with
  | '"' :: rest =>
    (basic false (rest.length + 1) rest).map fun (text, rest) => (String.ofList text, rest)
  | '\'' :: rest => (literal false rest).map fun (text, rest) => (String.ofList text, rest)
  | _ =>
    let name := cs.takeWhile isKeyChar
    if name.isEmpty then .error .malformed
    else .ok (String.ofList name, cs.dropWhile isKeyChar)

/-- Reads the parts of a key with points between them, and the blanks behind it.
The fuel bounds the number of parts. -/
def key : Nat → List Char → Step (List String)
  | 0, _ => .error .malformed
  | fuel + 1, cs =>
    match keyPart cs with
    | .error fault => .error fault
    | .ok (part, rest) =>
      match skipBlanks rest with
      | '.' :: rest => (key fuel (skipBlanks rest)).map fun (parts, rest) => (part :: parts, rest)
      | rest => .ok ([part], rest)

/-! ## Numbers -/

/-- Digits, single underscores between them, behind a first digit. -/
def moreDigits (isDigit : Char → Bool) : List Char → List Char × List Char
  | [] => ([], [])
  | '_' :: d :: rest =>
    if isDigit d then
      let (digits, rest) := moreDigits isDigit rest
      (d :: digits, rest)
    else ([], '_' :: d :: rest)
  | d :: rest =>
    if isDigit d then
      let (digits, rest) := moreDigits isDigit rest
      (d :: digits, rest)
    else ([], d :: rest)

/-- Digits with single underscores between them; the underscores are dropped. -/
def digits? (isDigit : Char → Bool) : List Char → Option (List Char × List Char)
  | [] => none
  | d :: rest =>
    if isDigit d then
      let (digits, rest) := moreDigits isDigit rest
      some (d :: digits, rest)
    else none

/-- A digit below a base. -/
def isDigitBelow (base : Nat) (c : Char) : Bool :=
  match hexValue? [c] with
  | some n => n < base
  | none => false

/-- The number that digits write in a base. -/
def valueIn (base : Nat) (digits : List Char) : Nat :=
  digits.foldl (fun n c => base * n + (hexValue? [c]).getD 0) 0

/-- The base that a letter behind a zero announces. -/
def base? : Char → Option Nat
  | 'x' => some 16
  | 'o' => some 8
  | 'b' => some 2
  | _ => none

/-- A whole number in the base that its first two characters announce. -/
def based? (cs : List Char) : Option (Nat × List Char) :=
  match cs with
  | '0' :: letter :: rest => do
    let base ← base? letter
    let (digits, rest) ← digits? (isDigitBelow base) rest
    return (valueIn base digits, rest)
  | _ => none

/-- The whole part of a decimal number: a zero, or digits that do not begin with
one. -/
def wholePart? (cs : List Char) : Option (List Char × List Char) :=
  match cs with
  | '0' :: rest => some (['0'], rest)
  | _ => digits? Char.isDigit cs

/-- A fraction: a point and digits. -/
def fraction (cs : List Char) : List Char × List Char :=
  match cs with
  | '.' :: rest =>
    match digits? Char.isDigit rest with
    | some (digits, rest) => ('.' :: digits, rest)
    | none => ([], cs)
  | _ => ([], cs)

/-- An exponent: a letter, a sign or none, and digits. -/
def exponent (cs : List Char) : List Char × List Char :=
  match cs with
  | e :: rest =>
    if e == 'e' || e == 'E' then
      let (sign, body) := match rest with
        | '+' :: body => (['+'], body)
        | '-' :: body => (['-'], body)
        | _ => ([], rest)
      match digits? Char.isDigit body with
      | some (digits, rest) => ('e' :: (sign ++ digits), rest)
      | none => ([], cs)
    else ([], cs)
  | [] => ([], cs)

/-- A decimal number: an integer, or a floating-point number if it has a fraction
or an exponent. -/
def decimal (cs : List Char) : Step Datum :=
  let (sign, body) := match cs with
    | '+' :: body => (['+'], body)
    | '-' :: body => (['-'], body)
    | _ => ([], cs)
  match wholePart? body with
  | none => .error .malformed
  | some (whole, rest) =>
    let (frac, rest) := fraction rest
    let (exp, rest) := exponent rest
    if frac.isEmpty && exp.isEmpty then
      if Text.Numeral.maxDigits < whole.length then .error (.numeralTooLong whole.length)
      else
        let n : Int := Text.Numeral.value whole
        .ok (.integer (if sign == ['-'] then -n else n), rest)
    else .ok (.real (Number.Binary64.ofNumeral (sign ++ whole ++ frac ++ exp)), rest)

/-- The floating-point numbers that are written with letters. -/
def specialReals : List (String × Number.Binary64) :=
  [("inf", .infinity false), ("+inf", .infinity false), ("-inf", .infinity true),
    ("nan", .nan), ("+nan", .nan), ("-nan", .nan)]

/-- A floating-point number that is written with letters. -/
def specialReal? (cs : List Char) : Option (Datum × List Char) :=
  (specialReals.find? fun entry => entry.1.toList.isPrefixOf cs).map fun (name, x) =>
    (.real x, cs.drop name.length)

/-! ## Moments -/

/-- A number of exactly so many digits, within bounds. -/
def field? (digits least greatest : Nat) (cs : List Char) : Option (Nat × List Char) :=
  let written := cs.take digits
  let n := Text.Numeral.value written
  if written.length == digits && written.all Char.isDigit && least ≤ n && n ≤ greatest then
    some (n, cs.drop digits)
  else none

/-- Skips one character. -/
def sign? (c : Char) : List Char → Option (List Char)
  | d :: rest => if d == c then some rest else none
  | [] => none

/-- Skips a time of day: hours, minutes, seconds and a fraction of a second. -/
def time? (cs : List Char) : Option (List Char) := do
  let (_, rest) ← field? 2 0 23 cs
  let (_, rest) ← field? 2 0 59 (← sign? ':' rest)
  let (_, rest) ← field? 2 0 59 (← sign? ':' rest)
  match rest with
  | '.' :: d :: more =>
    if d.isDigit then return more.dropWhile Char.isDigit else return rest
  | _ => return rest

/-- Skips the distance from universal time, if one is there. -/
def skipOffset (cs : List Char) : List Char :=
  match cs with
  | c :: rest =>
    if c == 'Z' || c == 'z' then rest
    else if c == '+' || c == '-' then
      (do
        let (_, rest) ← field? 2 0 23 rest
        let (_, rest) ← field? 2 0 59 (← sign? ':' rest)
        return rest).getD cs
    else cs
  | [] => []

/-- Skips the time of day behind a date, if one is there. -/
def skipTime (cs : List Char) : List Char :=
  match cs with
  | c :: rest =>
    if c == 'T' || c == 't' || c == ' ' then ((time? rest).map skipOffset).getD cs else cs
  | [] => []

/-- The days of a month. -/
def daysIn (year month : Nat) : Nat :=
  if month == 2 then
    if year % 4 == 0 && (year % 100 != 0 || year % 400 == 0) then 29 else 28
  else if [4, 6, 9, 11].contains month then 30
  else 31

/-- Year, month and day, and what follows them. -/
def date? (cs : List Char) : Option ((Nat × Nat × Nat) × List Char) := do
  let (year, rest) ← field? 4 0 9999 cs
  let (month, rest) ← field? 2 1 12 (← sign? '-' rest)
  let (day, rest) ← field? 2 1 31 (← sign? '-' rest)
  return ((year, month, day), rest)

/-- Reads a date, with or without a time of day. The day must exist. -/
def moment? (cs : List Char) : Option (Step Datum) :=
  match date? cs with
  | some ((year, month, day), rest) =>
    some (if 1 ≤ year && day ≤ daysIn year month then .ok (.moment, skipTime rest)
      else .error .malformed)
  | none => (time? cs).map fun rest => .ok (.moment, rest)

/-! ## Values without parts -/

/-- Reads a value that has no parts. -/
def scalar (cs : List Char) : Step Datum :=
  if cs.head? == some '"' || cs.head? == some '\'' then
    (string cs).map fun (text, rest) => (.text (String.ofList text), rest)
  else if "true".toList.isPrefixOf cs then .ok (.boolean true, cs.drop 4)
  else if "false".toList.isPrefixOf cs then .ok (.boolean false, cs.drop 5)
  else match moment? cs with
    | some step => step
    | none =>
      match based? cs with
      | some (n, rest) => .ok (.integer n, rest)
      | none =>
        match specialReal? cs with
        | some step => .ok step
        | none => decimal cs

end Scan

end EditorAnalysis.Toml
