/-
EditorAnalysis.Shell.Builtin.Writing — the commands that write and decide.
-/
import EditorAnalysis.Shell.Builtin.Basic
import EditorAnalysis.Shell.Condition
import EditorAnalysis.Shell.Format
import EditorAnalysis.Shell.Tool.Condition

namespace EditorAnalysis.Shell.Builtin

open Text (Octets)

/-! ## Plain writing -/

/-- What a backslash begins, where bash writes words: some characters and what follows, or the
end. -/
def wordEscape (m : Format.Manner) (cs : Octets) : Option (Octets × Octets) :=
  match cs with
  | [] => some (['\\'], [])
  | 'c' :: _ => none
  | '0' :: rest =>
    let digits := (rest.takeWhile Numeral.isOctal).take 3
    some ([Format.byte (Numeral.valueIn 8 digits)], rest.drop digits.length)
  | c :: rest =>
    if c.isDigit || "\"'?".toList.contains c then some (['\\', c], rest)
    else match Format.escape m cs with
      | .text text rest => some (text, rest)
      | _ => some (['\\', c], rest)

/-- What a text with escapes spells where bash writes words, and whether it goes on. -/
def wordText (m : Format.Manner) : Nat → Octets → Octets × Bool
  | 0, _ => ([], true)
  | _, [] => ([], true)
  | fuel + 1, '\\' :: rest =>
    match wordEscape m rest with
    | none => ([], false)
    | some (text, rest) =>
      let (more, goesOn) := wordText m fuel rest
      (text ++ more, goesOn)
  | fuel + 1, c :: rest =>
    let (more, goesOn) := wordText m fuel rest
    (c :: more, goesOn)

/-- The options of `echo` in bash: whether the line ends, and whether escapes are understood. -/
def wordOptions : Bool × Bool → List Octets → (Bool × Bool) × List Octets
  | marks, ('-' :: c :: letters) :: rest =>
    if (c :: letters).all "neE".toList.contains then
      let marks := (c :: letters).foldl (fun (ends, escapes) c =>
        if c == 'n' then (false, escapes) else (ends, c == 'e')) marks
      wordOptions marks rest
    else (marks, ('-' :: c :: letters) :: rest)
  | marks, words => (marks, words)

/-- The manner in which bash writes. -/
def bashManner (s : State) : Format.Manner := .bash (Tool.readsUtf8 s)

/-- Writes its arguments, escapes in them understood; in bash only if that is asked for. -/
def echo : Builtin := fun arguments => do
  let s ← get
  let ((ends, escapes), words) := match s.language, arguments with
    | .bash, words => wordOptions (true, false) words
    | .posix, ['-', 'n'] :: rest => ((false, true), rest)
    | .posix, words => ((true, true), words)
  let (text, goesOn) := match s.language with
    | .bash =>
      let text := spaced words
      if escapes then wordText (bashManner s) (text.length + 1) text else (text, true)
    | .posix => Format.unescape .shell (spaced words)
  Step.write (if ends && goesOn then text ++ ['\n'] else text)
  return 0

/-! ## Formats -/

/-- Complains about arguments of a format. -/
def complainOfArgument : Format.Objection → Step Unit
  | .notNumber word => Step.complainOf word "expected numeric value"
  | .notOnly word => Step.complainOf word "not completely converted"
  | .outOfRange word => Step.complainOf word "Numerical result out of range"
  | .notOnlyChar _ => return

/-- The wording of bash. -/
def complainOfBashArgument : Format.Objection → Step Unit
  | .notNumber word => Step.complainOf word (badNumber word)
  | .notOnly word => Step.complainOf word (badNumber word)
  | .outOfRange word =>
    Step.complain ("warning: ".toList ++ word ++ ": Numerical result out of range".toList)
  | .notOnlyChar _ => return
where
  /-- What kind of number it is not. -/
  badNumber : Octets → String
    | '0' :: 'x' :: _ => "invalid hex number"
    | '0' :: _ :: _ => "invalid octal number"
    | _ => "invalid number"

/-- The objection makes the command fail. -/
def isFailing : Format.Objection → Bool
  | .notNumber _ => true
  | .notOnly _ => true
  | _ => false

/-- Writes arguments in a format as bash does, perhaps to a variable. -/
def printfInBash : Builtin := fun arguments => do
  let (chosen, arguments) ← options [('v', true)] (arguments.length + 1) arguments
  match arguments with
  | [] => showUsage
  | format :: rest =>
    let o := Format.write (bashManner (← get)) format rest
    o.objections.reverse.forM complainOfBashArgument
    match o.problem with
    | none => pure ()
    | some .noLetter => Step.complain "\x60%': missing format character".toList
    | some (.badConversion text) =>
      Step.complain ('\x60' :: text ++ "': invalid format character".toList)
    | some .noDigits => Step.complain "missing hex digit for \\x".toList
    | some (.noChar _) => pure ()
    match chosen with
    | [] => Step.write o.text
    | c :: _ => Step.assignNamed c.2 (o.text.filter (· != Char.ofNat 0))
    let isBad := o.stops && o.problem.isSome
    return if isBad || o.objections.any isFailing then 1 else 0

/-- Writes arguments in a format. -/
def printfInPosix : Builtin := fun arguments => do
  let (_, arguments) ← flags [] arguments
  match arguments with
  | [] => Step.fail "usage: printf format [arg ...]"
  | format :: rest =>
    let o := Format.write .shell format rest
    o.objections.reverse.forM complainOfArgument
    let status := if o.objections.isEmpty then 0 else 1
    match o.problem with
    | none =>
      Step.write o.text
      return status
    | some .noLetter =>
      Step.complain "missing format character".toList
      Step.write o.text
    | some (.badConversion text) =>
      Step.complain (text ++ ": invalid directive".toList)
      Step.write o.text
    | some _ => Step.write o.text
    return Step.errorStatus

/-- Writes arguments in a format, in the manner of the shell's language. -/
def printf : Builtin := fun arguments => do
  if (← get).isBash then printfInBash arguments else printfInPosix arguments

/-! ## Conditions -/

/-- The wording of bash for what is wrong with a condition. -/
def conditionText : Tool.ConditionProblem → Octets
  | .missingBehind _ => "argument expected".toList
  | .extra _ => "too many arguments".toList
  | .notBinary w => w ++ ": binary operator expected".toList
  | .notUnary w => w ++ ": unary operator expected".toList
  | .notInteger w => w ++ ": integer expression expected".toList
  | .missing w => "missing \x60".toList ++ w ++ ['\'']
  | .notExpected w _ => '\x60' :: w ++ "' expected".toList

/-- Decides the condition of words as bash does. -/
def decideInBash (words : List Octets) : Except Tool.ConditionProblem Bool → Step Nat
  | .ok value => return if value then 0 else 1
  | .error (.missingBehind w) => do
    let text := if words.length == 2 then (words.head?.getD w) ++ ": unary operator expected".toList
      else conditionText (.missingBehind w)
    Step.complain text
    return usageStatus
  | .error problem => do
    Step.complain (conditionText problem)
    return usageStatus

/-- The condition of words in bash. -/
def bashCondition (s : State) (words : List Octets) : Except Tool.ConditionProblem Bool :=
  match words with
  | [a, ['<'], b] => .ok (a < b)
  | [a, ['>'], b] => .ok (b < a)
  | [['-', 'v'], name] => .ok (s.get? name).isSome
  | [['!'], ['-', 'v'], name] => .ok (s.get? name).isNone
  | words => Tool.Decision.decide s.files s.name words

/-- Decides the condition of words. -/
def decide (words : List Octets) : Step Nat := do
  let s ← get
  if s.isBash then decideInBash words (bashCondition s words)
  else match Condition.decide? s.files (words.length + 1) words with
    | .ok value => return if value then 0 else 1
    | .error objection => Step.error objection

/-- Decides a condition. -/
def test : Builtin := decide

/-- Decides a condition that a bracket closes. -/
def bracket : Builtin := fun words => do
  if words.getLast? == some [']'] then decide words.dropLast
  else if (← get).isBash then decideInBash words (.error (.missing [']']))
  else Step.fail "missing ]"

end EditorAnalysis.Shell.Builtin
