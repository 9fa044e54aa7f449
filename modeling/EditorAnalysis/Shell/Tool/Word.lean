/-
EditorAnalysis.Shell.Tool.Word — programs that look at nothing but their arguments.
-/
import EditorAnalysis.Shell.Format
import EditorAnalysis.Shell.Tool.Basic

namespace EditorAnalysis.Shell.Tool

open Text (Octets)

/-! ## Constants -/

/-- Succeeds. -/
def succeed : Tool := fun _ => return 0

/-- Fails. -/
def fail : Tool := fun _ => return failure

/-! ## Texts -/

/-- A byte in up to three octal digits, the first of which is given. -/
def octalByte (c : Char) (rest : Octets) : Octets × Octets :=
  let more := (rest.takeWhile Numeral.isOctal).take 2
  ([Format.byte (Numeral.valueIn 8 (c :: more))], rest.drop more.length)

/-- What a backslash in a word of `echo` spells, and what follows; nothing, if all ends there. -/
def echoEscape (cs : Octets) : Option (Octets × Octets) :=
  match cs with
  | [] => some (['\\'], [])
  | 'c' :: _ => none
  | 'x' :: rest =>
    match Format.byteEscape rest with
    | .text text rest => some (text, rest)
    | _ => some (['\\', 'x'], rest)
  | '0' :: c :: rest =>
    some (if Numeral.isOctal c then octalByte c rest else ([Format.byte 0], c :: rest))
  | c :: rest =>
    match Format.letter? c with
    | some d => some ([d], rest)
    | none => some (if Numeral.isOctal c then octalByte c rest else (['\\', c], rest))

/-- What a text with escapes spells for `echo`, and whether it goes on. -/
def echoText : Nat → Octets → Octets × Bool
  | 0, _ => ([], true)
  | _, [] => ([], true)
  | fuel + 1, '\\' :: rest =>
    match echoEscape rest with
    | none => ([], false)
    | some (text, rest) =>
      let (more, goesOn) := echoText fuel rest
      (text ++ more, goesOn)
  | fuel + 1, c :: rest =>
    let (more, goesOn) := echoText fuel rest
    (c :: more, goesOn)

/-- The options of `echo`: whether the line ends, and whether escapes are understood. -/
def echoOptions : Bool × Bool → List Octets → (Bool × Bool) × List Octets
  | flags, ('-' :: c :: letters) :: rest =>
    if (c :: letters).all "neE".toList.contains then
      let flags := (c :: letters).foldl (fun (ends, escapes) c =>
        if c == 'n' then (false, escapes) else (ends, c == 'e')) flags
      echoOptions flags rest
    else (flags, ('-' :: c :: letters) :: rest)
  | flags, words => (flags, words)

/-- Writes its arguments. -/
def echo : Tool := fun words => do
  let ((ends, escapes), words) := echoOptions (true, false) words
  let text := [' '].intercalate words
  let (text, goesOn) := if escapes then echoText (text.length + 1) text else (text, true)
  Step.write (if ends && goesOn then text ++ ['\n'] else text)
  return 0

/-- Complains about an argument of a format. -/
def complainOfArgument : Format.Objection → Step Unit
  | .notNumber w => do complain ((← named w) ++ ": expected a numeric value".toList)
  | .notOnly w => do complain ((← named w) ++ ": value not completely converted".toList)
  | .outOfRange w => do complain ((← named w) ++ ": Numerical result out of range".toList)
  | .notOnlyChar rest => complain ("warning: ".toList ++ rest
      ++ ": character(s) following character constant have been ignored".toList)

/-- An objection makes the program fail. -/
def isFailure : Format.Objection → Bool
  | .notOnlyChar _ => false
  | _ => true

/-- Complains about a format. -/
def complainOfFormat : Format.Problem → Step Unit
  | .noLetter => complainText "%: invalid conversion specification"
  | .badConversion text => complain (text ++ ": invalid conversion specification".toList)
  | .noDigits => complainText "missing hexadecimal number in escape"
  | .noChar text => complain ("invalid universal character name ".toList ++ text)

/-- Writes arguments in a format. -/
def printf : Tool := fun words => do
  let words := if words.head? == some ['-', '-'] then words.drop 1 else words
  match words with
  | [] => misuse failure "missing operand".toList
  | format :: arguments =>
    let o := Format.write (.program (readsUtf8 (← get))) format arguments
    o.objections.reverse.forM complainOfArgument
    match o.problem with
    | some problem =>
      complainOfFormat problem
      Step.write o.text
      return failure
    | none =>
      match o.arguments with
      | w :: _ =>
        if !o.stops then
          complain ("warning: ignoring excess arguments, starting with ".toList ++ (← named w))
      | [] => pure ()
      Step.write o.text
      return if o.objections.any isFailure then failure else 0

/-! ## Time -/

/-- A text that writes a time, in nanoseconds; one that is endless is nothing inside. -/
def duration? (w : Octets) : Option (Option Nat) :=
  let scaled (r : Real) (rest : Octets) : Option (Option Nat) :=
    let scale? : Option Nat := match rest with
      | [] => some 1
      | ['s'] => some 1
      | ['m'] => some 60
      | ['h'] => some 3600
      | ['d'] => some 86400
      | _ => none
    scale?.bind fun scale =>
      match r with
      | .finite false num den =>
        some (some ((num * scale * Host.Seconds.nanoseconds + den - 1) / den))
      | .finite true 0 _ => some (some 0)
      | .infinite false => some none
      | _ => none
  (Real.read? w).bind fun (r, rest) => scaled r rest

/-- Waits. -/
def sleep : Tool := fun words => withOptions { choices := [] } words fun _ words => do
  if words.isEmpty then misuse failure "missing operand".toList
  else
    let times := words.map duration?
    (words.zip times).forM fun (w, time) => do
      if time.isNone then complain ("invalid time interval ".toList ++ (← named w))
    if times.any Option.isNone then
      hint
      return failure
    else
      let total := times.foldl (fun sum time =>
        match sum, time with
        | some sum, some (some time) => some (sum + time)
        | _, _ => none) (some 0)
      let clock := (← get).clock
      Step.waitUntil (total.map (clock + ·))
      return 0

end EditorAnalysis.Shell.Tool
