/-
EditorAnalysis.Shell.Tool.Expression — the program that computes with words.

Operators stand on six levels, those of a level from left to right. What the left side of
an alternative decides already is read, but not computed.
-/
import EditorAnalysis.Shell.Regex
import EditorAnalysis.Shell.Tool.Basic

namespace EditorAnalysis.Shell.Tool

open Text (Octets)

namespace Expression

/-- What is wrong with an expression. -/
inductive Problem where
  /-- Words end too early. -/
  | missingBehind (word : Octets)
  /-- Words go on. -/
  | extra (word : Octets)
  /-- Words end before a parenthesis is closed. -/
  | openBehind (word : Octets)
  /-- A word stands where a parenthesis should be closed. -/
  | openAt (word : Octets)
  /-- A parenthesis is closed that was not open. -/
  | closed
  /-- A word is no number. -/
  | notInteger
  /-- A number is divided by zero. -/
  | divided
  /-- A pattern is wrong. -/
  | pattern (p : Regex.Problem)

/-- The wording. -/
def Problem.message : Problem → Step Octets
  | missingBehind w => return "syntax error: missing argument after ".toList ++ (← named w)
  | extra w => return "syntax error: unexpected argument ".toList ++ (← named w)
  | openBehind w => return "syntax error: expecting ')' after ".toList ++ (← named w)
  | openAt w => return "syntax error: expecting ')' instead of ".toList ++ (← named w)
  | closed => return "syntax error: unexpected ')'".toList
  | notInteger => return "non-integer argument".toList
  | divided => return "division by zero".toList
  | pattern p => return p.message.toList

/-- A value counts as nothing: it is empty or zero. -/
def isNull (w : Octets) : Bool :=
  w.isEmpty || (let digits := if w.head? == some '-' then w.drop 1 else w
    !digits.isEmpty && digits.all (· == '0'))

/-- The number that a word writes. -/
def integer? : Octets → Option Int
  | '-' :: digits => (Numeral.natural? digits).map fun n => -(n : Int)
  | digits => (Numeral.natural? digits).map Int.ofNat

/-- A number as a word. -/
def ofInt (n : Int) : Octets := (toString n).toList

/-- A truth as a word. -/
def ofBool (b : Bool) : Octets := if b then ['1'] else ['0']

/-- The characters of a text, each as its bytes. -/
def chars (utf8 : Bool) (w : Octets) : List Octets :=
  (Quotation.symbolsOf utf8 w).map (·.bytes)

/-- What a text's beginning has of a pattern: its group, or how long it is. -/
def matched (utf8 : Bool) (text pattern : Octets) : Except Problem Octets := do
  let r ← (Regex.ofText { extended := false } pattern).mapError Problem.pattern
  let subject : Regex.Subject := ⟨text.toArray, false, false⟩
  match Regex.matchAt subject r 0 with
  | some found =>
    if r.groupCount = 0 then return ofInt (chars utf8 (found.text subject)).length
    else return found.groupText subject 1
  | none => return if r.groupCount = 0 then ['0'] else []

/-- What an operator makes of two values. -/
def compute (utf8 : Bool) (operator a b : Octets) : Except Problem Octets := do
  let arithmetic (f : Int → Int → Except Problem Int) : Except Problem Octets := do
    match integer? a, integer? b with
    | some m, some n => return ofInt (← f m n)
    | _, _ => throw .notInteger
  let divide (f : Int → Int → Int) : Except Problem Octets :=
    arithmetic fun m n => if n = 0 then throw .divided else return f m n
  let order : Ordering := match integer? a, integer? b with
    | some m, some n => Ord.compare m n
    | _, _ => if a == b then .eq else if a < b then .lt else .gt
  match String.ofList operator with
  | "*" => arithmetic fun m n => return m * n
  | "/" => divide Int.tdiv
  | "%" => divide Int.tmod
  | "+" => arithmetic fun m n => return m + n
  | "-" => arithmetic fun m n => return m - n
  | "<" => return ofBool (order == .lt)
  | "<=" => return ofBool (order != .gt)
  | "=" => return ofBool (order == .eq)
  | "==" => return ofBool (order == .eq)
  | "!=" => return ofBool (order != .eq)
  | ">=" => return ofBool (order != .lt)
  | ">" => return ofBool (order == .gt)
  | ":" => matched utf8 a b
  | "&" => return if isNull a || isNull b then ['0'] else a
  | _ => return if !isNull a then a else if isNull b then ['0'] else b

/-- The operators of a level. -/
def operators : Nat → List String
  | 0 => ["|"]
  | 1 => ["&"]
  | 2 => ["<", "<=", "=", "==", "!=", ">=", ">"]
  | 3 => ["+", "-"]
  | 4 => ["*", "/", "%"]
  | _ => [":"]

/-- How many levels there are. -/
def levelCount : Nat := 6

/-- The right side of an operator has to be computed. -/
def wants (operator a : Octets) : Bool :=
  if operator == ['|'] then isNull a
  else if operator == ['&'] then !isNull a
  else true

/-- A value and the words that follow, or what is wrong. -/
abbrev Result := Except Problem (Octets × Octets × List Octets)

mutual

/-- Reads what stands on a level; the word before it is known. The flag says that it has to be
computed. -/
def level (utf8 : Bool) : Nat → Nat → Bool → Octets → List Octets → Result
  | 0, _, _, last, _ => .error (.missingBehind last)
  | fuel + 1, n, computes, last, words => do
    if n = levelCount then part utf8 fuel computes last words
    else
      let (a, last, rest) ← level utf8 fuel (n + 1) computes last words
      further utf8 fuel n computes a last rest

/-- Reads further operators of a level behind a value. -/
def further (utf8 : Bool) : Nat → Nat → Bool → Octets → Octets → List Octets → Result
  | 0, _, _, _, last, _ => .error (.missingBehind last)
  | fuel + 1, n, computes, a, last, words => do
    match words with
    | [] => return (a, last, [])
    | operator :: rest =>
      if !(operators n).contains (String.ofList operator) then return (a, last, words)
      else
        let (b, last, rest) ←
          level utf8 fuel (n + 1) (computes && wants operator a) operator rest
        let value ← if computes then compute utf8 operator a b else pure a
        further utf8 fuel n computes value last rest

/-- Reads a word, a function or what stands in parentheses. -/
def part (utf8 : Bool) : Nat → Bool → Octets → List Octets → Result
  | 0, _, last, _ => .error (.missingBehind last)
  | fuel + 1, computes, last, words => do
    match words with
    | [] => throw (.missingBehind last)
    | word :: rest =>
      match String.ofList word with
      | "+" =>
        match rest with
        | [] => throw (.missingBehind word)
        | w :: rest => return (w, w, rest)
      | "length" =>
        let (a, last, rest) ← part utf8 fuel computes word rest
        return (ofInt (chars utf8 a).length, last, rest)
      | "match" =>
        let (a, last, rest) ← part utf8 fuel computes word rest
        let (b, last, rest) ← part utf8 fuel computes last rest
        return (← if computes then matched utf8 a b else pure a, last, rest)
      | "index" =>
        let (a, last, rest) ← part utf8 fuel computes word rest
        let (b, last, rest) ← part utf8 fuel computes last rest
        let wanted := chars utf8 b
        let place := ((chars utf8 a).findIdx? fun c => wanted.contains c).map Nat.succ
        return (ofInt (Int.ofNat (place.getD 0)), last, rest)
      | "substr" =>
        let (a, last, rest) ← part utf8 fuel computes word rest
        let (b, last, rest) ← part utf8 fuel computes last rest
        let (c, last, rest) ← part utf8 fuel computes last rest
        let value := match integer? b, integer? c with
          | some first, some count =>
            if first ≤ 0 || count ≤ 0 then []
            else (((chars utf8 a).drop (first.toNat - 1)).take count.toNat).flatten
          | _, _ => []
        return (value, last, rest)
      | "(" =>
        let (a, last, rest) ← level utf8 fuel 0 computes word rest
        match rest with
        | [] => throw (.openBehind last)
        | w :: rest => if w == [')'] then return (a, w, rest) else throw (.openAt w)
      | ")" => throw .closed
      | _ => return (word, word, rest)

end

/-- The value of an expression. -/
def evaluate (utf8 : Bool) (name : Octets) (words : List Octets) : Except Problem Octets := do
  let (value, _, rest) ← level utf8 (20 * words.length + 40) 0 true name words
  match rest with
  | [] => return value
  | w :: _ => throw (.extra w)

end Expression

/-- The status of an expression that cannot be computed. -/
def uncomputed : Nat := 2

/-- Computes with words. -/
def expr : Tool := fun words => do
  let words := if words.head? == some ['-', '-'] then words.drop 1 else words
  if words.isEmpty then misuse uncomputed "missing operand".toList
  else
    let s ← get
    match Expression.evaluate (readsUtf8 s) s.name words with
    | .error problem =>
      complain (← problem.message)
      return uncomputed
    | .ok value =>
      Step.write (value ++ ['\n'])
      return if Expression.isNull value then failure else 0

end EditorAnalysis.Shell.Tool
