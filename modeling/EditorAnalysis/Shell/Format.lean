/-
EditorAnalysis.Shell.Format — texts with escapes and conversions.

A format is written once, and again while arguments are left. A percent sign begins a
conversion of the next argument, a backslash begins an escape. The commands of the shells
and the program of the same name differ in some points; `Manner` says which one is
meant.
-/
import EditorAnalysis.Shell.Change
import EditorAnalysis.Shell.Real
import EditorAnalysis.Text.Utf8

namespace EditorAnalysis.Shell.Format

open Text (Octets)

/-- Who writes a format. -/
inductive Manner where
  /-- The shell. -/
  | shell
  /-- The program; the flag says whether it reads bytes as UTF-8. -/
  | program (utf8 : Bool)
  /-- The shell bash; the flag says whether it reads bytes as UTF-8. -/
  | bash (utf8 : Bool)
deriving DecidableEq, Repr

/-- It is the program. -/
def Manner.isProgram : Manner → Bool
  | .program _ => true
  | _ => false

/-- It is bash. -/
def Manner.isBash : Manner → Bool
  | .bash _ => true
  | _ => false

/-- Bytes are read as UTF-8. -/
def Manner.readsUtf8 : Manner → Bool
  | .shell => false
  | .program utf8 => utf8
  | .bash utf8 => utf8

/-! ## Escapes -/

/-- The character of a number of one byte. -/
def byte (n : Nat) : Char := Char.ofNat (n % 256)

/-- The character that a letter behind a backslash stands for. -/
def letter? : Char → Option Char
  | 'a' => some (Char.ofNat 7)
  | 'b' => some (Char.ofNat 8)
  | 'e' => some (Char.ofNat 27)
  | 'f' => some (Char.ofNat 12)
  | 'n' => some '\n'
  | 'r' => some '\r'
  | 't' => some '\t'
  | 'v' => some (Char.ofNat 11)
  | '\\' => some '\\'
  | _ => none

/-- What a backslash begins, behind which some text stands. -/
inductive Escape where
  /-- Some characters, and what follows. -/
  | text (cs : Octets) (rest : Octets)
  /-- The end of everything. -/
  | stop
  /-- Digits are missing. -/
  | noDigits
  /-- There is no such character. -/
  | noChar (text : Octets)
deriving DecidableEq, Repr

/-- A byte by its number in one or two hexadecimal digits. -/
def byteEscape (cs : Octets) : Escape :=
  let digits := (cs.takeWhile Numeral.isHex).take 2
  if digits.isEmpty then .noDigits
  else .text [byte (Numeral.valueIn 16 digits)] (cs.drop digits.length)

/-- A number in so many hexadecimal digits. -/
def hexDigits (count n : Nat) : Octets :=
  let digits := Numeral.digitsIn 16 n
  List.replicate (count - digits.length) '0' ++ digits

/-- A character by its number in so many hexadecimal digits, behind a letter. One that the
program cannot write stays spelled out. -/
def charEscape (m : Manner) (letter : Char) (count : Nat) (cs : Octets) : Escape :=
  let digits := (cs.takeWhile Numeral.isHex).take count
  if digits.length < (if m.isBash then 1 else count) then .noDigits
  else
    let n := Numeral.valueIn 16 digits
    let rest := cs.drop digits.length
    if 0xD800 ≤ n && n < 0xE000 then
      .noChar ('\\' :: letter :: hexDigits count n)
    else if n < 128 || m.readsUtf8 then
      .text (Octets.ofString (String.singleton (Char.ofNat n))) rest
    else if n < 0x10000 then .text ('\\' :: 'u' :: (hexDigits 4 n).map Char.toUpper) rest
    else .text ('\\' :: 'U' :: (hexDigits 8 n).map Char.toUpper) rest

/-- What a backslash in a format begins. -/
def escape (m : Manner) (cs : Octets) : Escape :=
  match cs with
  | [] => .text ['\\'] []
  | c :: rest =>
    match letter? c with
    | some d => .text [d] rest
    | none =>
      let digits := (cs.takeWhile Numeral.isOctal).take 3
      if !digits.isEmpty then
        .text [byte (Numeral.valueIn 8 digits)] (cs.drop digits.length)
      else if m == .shell then .text ['\\'] cs
      else match c with
        | '"' => .text ['"'] rest
        | 'c' => if m.isBash then .text ['\\', 'c'] rest else .stop
        | 'x' => byteEscape rest
        | '\'' => .text (if m.isBash then [c] else ['\\', c]) rest
        | '?' => .text (if m.isBash then [c] else ['\\', c]) rest
        | 'E' => .text (if m.isBash then [byte 27] else ['\\', c]) rest
        | 'u' => charEscape m 'u' 4 rest
        | 'U' => charEscape m 'U' 8 rest
        | _ => .text ['\\', c] rest

/-- What a backslash in an argument begins: octal digits may stand behind a zero. -/
def argumentEscape (m : Manner) (cs : Octets) : Escape :=
  match cs with
  | 'c' :: _ => .stop
  | '0' :: c :: rest => if Numeral.isOctal c then escape m (c :: rest) else escape m cs
  | _ => escape m cs

/-- What a text with escapes spells, and whether it goes on. -/
def escaped (m : Manner) : Nat → Octets → Octets × Bool
  | 0, _ => ([], true)
  | _, [] => ([], true)
  | fuel + 1, '\\' :: rest =>
    match argumentEscape m rest with
    | .text cs rest =>
      let (text, goesOn) := escaped m fuel rest
      (cs ++ text, goesOn)
    | _ => ([], false)
  | fuel + 1, c :: rest =>
    let (text, goesOn) := escaped m fuel rest
    (c :: text, goesOn)

/-- What a text with escapes spells, and whether it goes on. -/
def unescape (m : Manner) (cs : Octets) : Octets × Bool := escaped m (cs.length + 1) cs

/-! ## Conversions -/

/-- How a conversion is laid out. -/
structure Layout where
  /-- To the left. -/
  left : Bool := false
  /-- With zeros in front. -/
  zeros : Bool := false
  /-- With a sign in any case. -/
  plus : Bool := false
  /-- With a blank in the place of a sign. -/
  blank : Bool := false
  /-- With the base in front, or a point in any case. -/
  alternate : Bool := false
  /-- With digits in groups, which shows nowhere. -/
  grouped : Bool := false
  /-- At least so wide. -/
  width : Nat := 0
  /-- So many characters, digits or places. -/
  precision : Option Nat := none

namespace Layout

/-- A text filled up with blanks. -/
def fill (l : Layout) (cs : Octets) : Octets :=
  let blanks := List.replicate (l.width - cs.length) ' '
  if l.left then cs ++ blanks else blanks ++ cs

/-- A number behind a sign or a base, filled up with blanks or zeros. -/
def number (l : Layout) (front digits : Octets) (mayZero : Bool) : Octets :=
  if l.zeros && !l.left && mayZero then
    front ++ List.replicate (l.width - front.length - digits.length) '0' ++ digits
  else l.fill (front ++ digits)

/-- An integer's digits, as many as the precision asks for. -/
def integer (l : Layout) (front digits : Octets) : Octets :=
  let digits := if l.precision == some 0 && digits == ['0'] then [] else digits
  let digits := List.replicate ((l.precision.getD 1) - digits.length) '0' ++ digits
  l.number front digits l.precision.isNone

/-- The sign in front of a number. -/
def sign (l : Layout) (negative : Bool) : Octets :=
  if negative then ['-'] else if l.plus then ['+'] else if l.blank then [' '] else []

end Layout

/-- What is wrong with an argument. -/
inductive Objection where
  /-- It begins with no number. -/
  | notNumber (word : Octets)
  /-- Something follows the number. -/
  | notOnly (word : Octets)
  /-- The number is too great. -/
  | outOfRange (word : Octets)
  /-- Something follows the character that stands for a number. -/
  | notOnlyChar (rest : Octets)
deriving DecidableEq, Repr

/-- What is wrong with a format. -/
inductive Problem where
  /-- A conversion has no letter. -/
  | noLetter
  /-- A conversion has a letter without a meaning, or has something that does not go with it. -/
  | badConversion (text : Octets)
  /-- An escape has no digits. -/
  | noDigits
  /-- An escape names no character. -/
  | noChar (text : Octets)
deriving DecidableEq, Repr

/-- What has been written, and what is left to write. -/
structure Outcome where
  /-- What has been written, latest first. -/
  pieces : List Octets := []
  /-- The arguments to come. -/
  arguments : List Octets
  /-- What is wrong with arguments, latest first. -/
  objections : List Objection := []
  /-- Nothing more is written. -/
  stops : Bool := false
  /-- What is wrong with the format. -/
  problem : Option Problem := none

namespace Outcome

/-- Writes something more. -/
def add (o : Outcome) (cs : Octets) : Outcome := { o with pieces := cs :: o.pieces }

/-- Objects to an argument. -/
def object (o : Outcome) (b : Objection) : Outcome := { o with objections := b :: o.objections }

/-- Stops because of the format. -/
def fail (o : Outcome) (p : Problem) : Outcome := { o with stops := true, problem := some p }

/-- The next argument, if there is one. -/
def next (o : Outcome) : Option Octets × Outcome :=
  (o.arguments.head?, { o with arguments := o.arguments.drop 1 })

/-- All that has been written. -/
def text (o : Outcome) : Octets := o.pieces.reverse.flatten

end Outcome

/-- The number of the character behind a quote, if an argument is so written. -/
def charNumber? (word : Octets) : Option (Nat × Octets) :=
  match word with
  | '\'' :: rest => some (((rest.head?.map Char.toNat).getD 0), rest.drop 1)
  | '"' :: rest => some (((rest.head?.map Char.toNat).getD 0), rest.drop 1)
  | _ => none

/-- Looks at what follows a number in an argument. -/
def checked (o : Outcome) (word : Octets) (rest : Option Octets) (tooGreat : Bool) : Outcome :=
  match rest with
  | none => if word.isEmpty then o else o.object (.notNumber word)
  | some rest =>
    if !rest.isEmpty then o.object (.notOnly word)
    else if tooGreat then o.object (.outOfRange word) else o

/-- Looks at what follows a character that stands for a number. -/
def checkedChar (m : Manner) (o : Outcome) (rest : Octets) : Outcome :=
  if m.isProgram && !rest.isEmpty then o.object (.notOnlyChar rest) else o

/-- The number that an argument writes; one that is too great counts as the greatest. -/
def integer (m : Manner) (signed : Bool) (o : Outcome) : Int × Outcome :=
  match o.next with
  | (none, o) => (0, o)
  | (some word, o) =>
    match charNumber? word with
    | some (n, rest) => (n, checkedChar m o rest)
    | none =>
      let word := if m.isBash then word.dropWhile Numeral.isBlank else word
      let read := Numeral.signed? Numeral.literal? word
      let n := (read.map (·.1)).getD 0
      let bound : Int := Numeral.wordSize
      let (value, tooGreat) :=
        if signed then (Numeral.saturate n, Numeral.saturate n != n)
        else if n.natAbs < bound.toNat then (n % bound, false) else (bound - 1, true)
      (value, checked o word (read.map (·.2)) tooGreat)

/-- The number with a fraction that an argument writes. -/
def real (m : Manner) (p : Precision) (o : Outcome) : Real × Outcome :=
  match o.next with
  | (none, o) => (.finite false 0 1, o)
  | (some word, o) =>
    match charNumber? word with
    | some (n, rest) => (.finite false n 1, checkedChar m o rest)
    | none =>
      match Real.read? word with
      | none => (.finite false 0 1, checked o word none false)
      | some (r, rest) =>
        let rounded := r.round p
        (rounded, checked o word (some rest) (r.isFinite && !rounded.isFinite))

/-- The precision of numbers with a fraction. -/
def precisionOf : Manner → Precision
  | .shell => .double
  | _ => .extended

/-- Writes the next argument by a conversion. -/
def convert (m : Manner) (l : Layout) (conversion : Char) (o : Outcome) : Outcome :=
  let cutTo (cs : Octets) : Octets := match l.precision with
    | none => cs
    | some n => cs.take n
  let ofText (f : Octets → Octets) : Outcome :=
    let (word, o) := o.next
    o.add (f (word.getD []))
  let unsigned (base : Nat) (front : Octets) (shape : Octets → Octets) : Outcome :=
    let (n, o) := integer m false o
    let front := if l.alternate && n != 0 then front else []
    o.add (l.integer front (shape (Numeral.digitsIn base n.toNat)))
  match conversion with
  | 's' => ofText fun cs => l.fill (cutTo cs)
  | 'c' => ofText fun cs =>
      if o.arguments.isEmpty && m.isProgram then l.fill []
      else l.fill (match cs with
        | c :: _ => [c]
        | [] => [Char.ofNat 0])
  | 'q' => ofText fun cs =>
      l.fill (if m.isBash then Change.escaped cs else Quotation.word m.readsUtf8 cs)
  | 'b' =>
    let (word, o) := o.next
    let (text, goesOn) := unescape m (word.getD [])
    { o.add (l.fill (cutTo text)) with stops := !goesOn }
  | 'x' => unsigned 16 ['0', 'x'] id
  | 'X' => unsigned 16 ['0', 'X'] (·.map Char.toUpper)
  | 'o' => unsigned 8 ['0'] id
  | 'u' => unsigned 10 [] id
  | 'd' =>
    let (n, o) := integer m true o
    o.add (l.integer (l.sign (n < 0)) (Numeral.digitsIn 10 n.natAbs))
  | 'i' =>
    let (n, o) := integer m true o
    o.add (l.integer (l.sign (n < 0)) (Numeral.digitsIn 10 n.natAbs))
  | _ =>
    let p := precisionOf m
    let (r, o) := real m p o
    o.add (l.number (l.sign r.isNegative) (r.text p conversion l.precision l.alternate)
      r.isFinite)

/-- A letter is one of a conversion that goes with what stands in front of it. -/
def isConversion (m : Manner) (l : Layout) (hasPrecision : Bool) (c : Char) : Bool :=
  if m == .shell then "bcsdiouxXaAeEfFgG".toList.contains c
  else if m.isBash then "bcqsdiouxXaAeEfFgG".toList.contains c
  else
    "csdiouxXaAeEfFgG".toList.contains c
      && !(l.grouped && "aAceEosxX".toList.contains c)
      && !(l.alternate && "cdisu".toList.contains c)
      && !(l.zeros && "cs".toList.contains c)
      && !(hasPrecision && c == 'c')

/-- Reads marks in front of a width. -/
def marks (m : Manner) : Layout → Octets → Layout × Octets
  | l, '-' :: rest => marks m { l with left := true } rest
  | l, '0' :: rest => marks m { l with zeros := true } rest
  | l, '+' :: rest => marks m { l with plus := true } rest
  | l, ' ' :: rest => marks m { l with blank := true } rest
  | l, '#' :: rest => marks m { l with alternate := true } rest
  | l, c :: rest =>
    if m != .shell && (c == '\'' || c == 'I') then marks m { l with grouped := true } rest
    else (l, c :: rest)
  | l, [] => (l, [])

/-- What stands behind sizes of numbers, which say nothing. -/
def behindSizes (m : Manner) (cs : Octets) : Octets :=
  if m == .shell then cs else cs.dropWhile "lLhjtz".toList.contains

/-- A number for a width or a precision, from the format or an argument. -/
def measure (m : Manner) (o : Outcome) (cs : Octets) : Option Int × Outcome × Octets :=
  match cs with
  | '*' :: rest =>
    let (n, o) := integer m true o
    (some n, o, rest)
  | _ =>
    let digits := cs.takeWhile Char.isDigit
    (if digits.isEmpty then none else some (Numeral.valueIn 10 digits), o, cs.drop digits.length)

/-- Writes a format once. -/
def once (m : Manner) : Nat → Octets → Outcome → Outcome
  | 0, _, o => o
  | _, [], o => o
  | fuel + 1, '%' :: '%' :: rest, o => once m fuel rest (o.add ['%'])
  | fuel + 1, '%' :: text, o =>
    let spelled := text.head?.filter fun c => m.isProgram && (c == 'b' || c == 'q')
    let (l, rest) := marks m {} text
    let (width, o, rest) := measure m o rest
    let (precision, o, rest) := match rest with
      | '.' :: rest =>
        let (precision, o, rest) := measure m o rest
        (some (precision.getD 0), o, rest)
      | _ => (none, o, rest)
    let left := l.left || width.any (· < 0)
    let l := { l with
      left
      width := (width.getD 0).natAbs
      precision := (precision.filter (0 ≤ ·)).map Int.toNat }
    match behindSizes m rest with
    | [] => o.fail (if m.isProgram then .badConversion ('%' :: text) else .noLetter)
    | c :: rest =>
      if spelled != some c && !isConversion m l precision.isSome c then
        let written := '%' :: text.take (text.length - rest.length)
        o.fail (.badConversion (if m.isBash then [c] else written))
      else
        let o := convert m l c o
        if o.stops then o else once m fuel rest o
  | fuel + 1, '\\' :: rest, o =>
    match escape m rest with
    | .text cs rest => once m fuel rest (o.add cs)
    | .stop => { o with stops := true }
    | .noDigits =>
      if m.isBash then once m fuel rest { o.add ['\\'] with problem := some .noDigits }
      else o.fail .noDigits
    | .noChar text =>
      if m.isBash then once m fuel rest (o.add ['\\']) else o.fail (.noChar text)
  | fuel + 1, c :: rest, o => once m fuel rest (o.add [c])

/-- Writes a format again and again while arguments are left. -/
def repeated (m : Manner) : Nat → Octets → Outcome → Outcome
  | 0, _, o => o
  | fuel + 1, format, o =>
    let next := once m (format.length + 1) format o
    if next.stops || next.arguments.isEmpty || next.arguments.length == o.arguments.length then
      next
    else repeated m fuel format next

/-- What comes of a format with arguments. -/
def write (m : Manner) (format : Octets) (arguments : List Octets) : Outcome :=
  repeated m (arguments.length + 1) format { arguments }

end EditorAnalysis.Shell.Format
