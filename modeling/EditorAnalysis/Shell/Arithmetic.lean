/-
EditorAnalysis.Shell.Arithmetic — arithmetic expressions.

A name stands for the number in its variable, and assignments change variables. What
does not count, such as the second side of `0 && 1/0`, is read but not performed: such
parts are not live. The language of bash has more operators, and elements of lists.
-/
import EditorAnalysis.Shell.Grammar
import EditorAnalysis.Shell.Numeral

namespace EditorAnalysis.Shell.Arithmetic

open Text (Octets)

/-! ## Tokens -/

/-- An operator between two numbers. -/
inductive Operator where
  | multiply
  | divide
  | remainder
  | add
  | subtract
  | shiftLeft
  | shiftRight
  | less
  | lessEqual
  | greater
  | greaterEqual
  | equal
  | unequal
  | bitAnd
  | bitXor
  | bitOr
  | power
deriving DecidableEq, Repr

namespace Operator

/-- How loosely an operator binds. -/
def looseness : Operator → Nat
  | multiply => 0
  | divide => 0
  | remainder => 0
  | add => 1
  | subtract => 1
  | shiftLeft => 2
  | shiftRight => 2
  | less => 3
  | lessEqual => 3
  | greater => 3
  | greaterEqual => 3
  | equal => 4
  | unequal => 4
  | bitAnd => 5
  | bitXor => 6
  | bitOr => 7
  | power => 0

end Operator

/-- A token of an expression. -/
inductive Token where
  /-- A number. -/
  | number (n : Int)
  /-- A variable. -/
  | name (text : Octets)
  /-- An operator between two numbers, or a sign. -/
  | operator (o : Operator)
  /-- An assignment, perhaps through an operator. -/
  | assign (o : Option Operator)
  /-- Both sides are true. -/
  | both
  /-- One side is true. -/
  | either
  /-- Not true. -/
  | negation
  /-- All bits turned. -/
  | complement
  /-- One more, or one less. -/
  | step (up : Bool)
  /-- Raised to a power. -/
  | power
  /-- Between expressions. -/
  | comma
  /-- Behind a condition. -/
  | question
  /-- Between alternatives. -/
  | colon
  /-- An opening parenthesis. -/
  | openParen
  /-- A closing parenthesis. -/
  | closeParen
  /-- Something else. -/
  | unknown
deriving DecidableEq, Repr

/-- The marks with their meanings, those first that begin with others. -/
def marks : List (String × Token) :=
  [("<<=", .assign (some .shiftLeft)), (">>=", .assign (some .shiftRight)),
    ("<<", .operator .shiftLeft), (">>", .operator .shiftRight),
    ("<=", .operator .lessEqual), (">=", .operator .greaterEqual),
    ("<", .operator .less), (">", .operator .greater),
    ("==", .operator .equal), ("=", .assign none),
    ("!=", .operator .unequal), ("!", .negation),
    ("||", .either), ("|=", .assign (some .bitOr)), ("|", .operator .bitOr),
    ("&&", .both), ("&=", .assign (some .bitAnd)), ("&", .operator .bitAnd),
    ("*=", .assign (some .multiply)), ("*", .operator .multiply),
    ("/=", .assign (some .divide)), ("/", .operator .divide),
    ("%=", .assign (some .remainder)), ("%", .operator .remainder),
    ("+=", .assign (some .add)), ("+", .operator .add),
    ("-=", .assign (some .subtract)), ("-", .operator .subtract),
    ("^=", .assign (some .bitXor)), ("^", .operator .bitXor),
    ("~", .complement), ("?", .question), (":", .colon), ("(", .openParen), (")", .closeParen)]

/-- The marks that bash has besides. -/
def bashMarks : List (String × Token) :=
  [("**=", .assign (some .power)), ("**", .power), ("++", .step true), ("--", .step false),
    (",", .comma)]

/-- The marks of a language. -/
def marksOf : Language → List (String × Token)
  | .posix => marks
  | .bash => bashMarks ++ marks

/-- The text up to the bracket that closes one, the bracket counted. -/
def bracketed (depth : Nat) : Octets → Octets
  | [] => []
  | '[' :: rest => '[' :: bracketed (depth + 1) rest
  | ']' :: rest => if depth ≤ 1 then [']'] else ']' :: bracketed (depth - 1) rest
  | c :: rest => c :: bracketed depth rest

/-- The value of a digit in a base that may be great. -/
def digitOf (base : Nat) (c : Char) : Nat :=
  if c.isDigit then c.toNat - '0'.toNat
  else if c.isLower then c.toNat - 'a'.toNat + 10
  else if c.isUpper then c.toNat - 'A'.toNat + (if base ≤ 36 then 10 else 36)
  else if c == '@' then 62 else 63

/-- A number with its base in front of it. -/
def based? (cs : Octets) : Option (Int × Octets) :=
  let base := cs.takeWhile Char.isDigit
  match cs.drop base.length with
  | '#' :: rest =>
    let isDigit (c : Char) : Bool := c.isAlphanum || c == '@' || c == '_'
    let digits := rest.takeWhile isDigit
    let b := Numeral.valueIn 10 base
    let n := digits.foldl (fun n c => n * b + digitOf b c) 0
    if base.isEmpty || digits.isEmpty then none
    else some (Numeral.wrap n, rest.drop digits.length)
  | _ => none

/-- The first token of a text that begins with no blank, and what follows it. -/
def firstToken (l : Language) (c : Char) (cs : Octets) : Token × Octets :=
  if isNameStart c then
    let name := (c :: cs).takeWhile isNameChar
    let rest := (c :: cs).drop name.length
    let index := if l == .bash && rest.head? == some '[' then bracketed 0 rest else []
    (.name (name ++ index), rest.drop index.length)
  else match (if l == .bash then based? (c :: cs) else none).or
      ((Numeral.literal? (c :: cs)).map fun (n, rest) => (Numeral.saturate n, rest)) with
    | some (n, rest) => (.number n, rest)
    | none =>
      match (marksOf l).find? fun (text, _) => text.toList.isPrefixOf (c :: cs) with
      | some (text, token) => (token, (c :: cs).drop text.length)
      | none => (.unknown, cs)

/-- The tokens of a text; a part that is none ends them. -/
def tokens (l : Language) : Nat → Octets → List Token
  | 0, _ => []
  | _, [] => []
  | fuel + 1, c :: cs =>
    if c == ' ' || c == '\t' || c == '\n' then tokens l fuel cs
    else
      let (token, rest) := firstToken l c cs
      if token == .unknown then [token] else token :: tokens l fuel rest

/-! ## Evaluation -/

/-- Why an expression has no value. -/
inductive Problem where
  /-- A number, a name or a parenthesis is missing. -/
  | noPrimary
  /-- A parenthesis is not closed. -/
  | noParen
  /-- An alternative is missing. -/
  | noColon
  /-- Something stands behind the expression. -/
  | notAtEnd
  /-- A number is divided by zero. -/
  | divisionByZero
  /-- A variable holds no number. -/
  | badNumber (text : Octets)
deriving DecidableEq, Repr

/-- What is said of a problem with an expression. -/
def Problem.message (problem : Problem) (expression : Octets) : Octets :=
  let said (what : String) : Octets :=
    ("arithmetic expression: " ++ what ++ ": \"").toList ++ expression ++ ['"']
  match problem with
  | .noPrimary => said "expecting primary"
  | .noParen => said "expecting ')'"
  | .noColon => said "expecting ':'"
  | .notAtEnd => said "expecting EOF"
  | .divisionByZero => said "division by zero"
  | .badNumber text => "Illegal number: ".toList ++ text

/-- The wording of bash. -/
def Problem.bashMessage (problem : Problem) (expression : Octets) : Octets :=
  let isOperator (c : Char) : Bool := "+-*/%<>=!&|^~?:,(".toList.contains c
  let behind := (expression.reverse.takeWhile fun c => !isOperator c).reverse
  let operator := ((expression.take (expression.length - behind.length)).reverse.take 1)
  let blank (cs : Octets) : Octets := cs.dropWhile (· == ' ')
  let said (what : String) (token : Octets) : Octets :=
    expression ++ (": " ++ what ++ " (error token is \"").toList ++ token ++ ['"', ')']
  match problem with
  | .divisionByZero => said "division by 0" (blank behind)
  | .noPrimary => said "syntax error: operand expected" (operator ++ behind)
  | .noParen => said "missing \x60)'" (blank behind)
  | .noColon => said "\x60:' expected for conditional expression" (blank behind)
  | .notAtEnd =>
    let last := ((expression.reverse.dropWhile (· == ' ')).takeWhile fun c =>
      c != ' ' && !isOperator c).reverse
    if last.head? == some '0' && last.all Char.isDigit then
      last ++ (": value too great for base (error token is \"").toList ++ last ++ ['"', ')']
    else said "syntax error in expression" last
  | .badNumber text => said "syntax error in expression" text

/-- The evaluation's state: the tokens to come, and what variables hold. -/
structure State where
  /-- The tokens to come. -/
  rest : List Token
  /-- What was assigned, latest first. -/
  assigned : List (Octets × Int)

/-- A step of an evaluation, which may fail. -/
abbrev Eval := StateT State (Except Problem)

/-- A truth value as a number. -/
def truth (b : Bool) : Int := if b then 1 else 0

/-- An operator on the bits of numbers. -/
def onBits (f : BitVec 64 → BitVec 64 → BitVec 64) (a b : Int) : Int :=
  (f (BitVec.ofInt 64 a) (BitVec.ofInt 64 b)).toInt

/-- A power, wrapped at every step. -/
def wrappedPower (a : Int) (n : Nat) : Int :=
  (List.range (min n 4096)).foldl (fun r _ => Numeral.wrap (r * a)) 1

/-- What an operator makes of two numbers. -/
def Operator.apply (a b : Int) : Operator → Except Problem Int
  | multiply => .ok (Numeral.wrap (a * b))
  | divide => if b = 0 then .error .divisionByZero else .ok (Numeral.wrap (Int.tdiv a b))
  | remainder => if b = 0 then .error .divisionByZero else .ok (Int.tmod a b)
  | add => .ok (Numeral.wrap (a + b))
  | subtract => .ok (Numeral.wrap (a - b))
  | shiftLeft => .ok (Numeral.wrap (a * (Number.twoTo (b % 64).toNat : Int)))
  | shiftRight => .ok (a >>> (b % 64).toNat)
  | less => .ok (truth (a < b))
  | lessEqual => .ok (truth (a ≤ b))
  | greater => .ok (truth (b < a))
  | greaterEqual => .ok (truth (b ≤ a))
  | equal => .ok (truth (a == b))
  | unequal => .ok (truth (a != b))
  | bitAnd => .ok (onBits (· &&& ·) a b)
  | bitXor => .ok (onBits (· ^^^ ·) a b)
  | bitOr => .ok (onBits (· ||| ·) a b)
  | power => .ok (Numeral.wrap (wrappedPower a b.toNat))

/-- The number that a variable's text stands for; a blank one counts as zero. -/
def ofText (text : Octets) : Except Problem Int :=
  match Numeral.signed? Numeral.literal? text with
  | some (n, rest) =>
    if rest.all Numeral.isBlank && Numeral.least ≤ n && n ≤ Numeral.greatest then .ok n
    else .error (.badNumber text)
  | none => if text.all Numeral.isBlank then .ok 0 else .error (.badNumber text)

section

variable (l : Language) (lookUp : Octets → Except Problem Octets)

/-- The number in a variable. -/
def valueOf (name : Octets) : Eval Int := do
  match (← get).assigned.lookup name with
  | some n => return n
  | none => ofText (← lookUp name)

/-- Reads a token if it is a certain one. -/
def accept (t : Token) : Eval Bool := do
  let s ← get
  if s.rest.head? == some t then
    set { s with rest := s.rest.drop 1 }
    return true
  else return false

/-- The operator that comes next. -/
def nextOperator? : Eval (Option Operator) := do
  match (← get).rest with
  | .operator o :: _ => return some o
  | _ => return none

/-- Leaves a token behind. -/
def advance : Eval Unit := modify fun s => { s with rest := s.rest.drop 1 }

/-- Gives a variable a number. -/
def give (name : Octets) (n : Int) : Eval Unit :=
  modify fun s => { s with assigned := (name, n) :: s.assigned }

/-- The step that comes next. -/
def nextStep? : Eval (Option Bool) := do
  match (← get).rest with
  | .step up :: rest =>
    modify fun s => { s with rest }
    return some up
  | _ => return none

mutual

/-- Evaluates expressions one after the other. -/
def series : Nat → Bool → Eval Int
  | 0, _ => throw .noPrimary
  | fuel + 1, live => do
    let n ← assignment fuel live
    if ← accept .comma then series fuel live else return n

/-- Evaluates an expression with assignments and alternatives. -/
def assignment : Nat → Bool → Eval Int
  | 0, _ => throw .noPrimary
  | fuel + 1, live => do
    let s ← get
    match s.rest with
    | .name name :: .assign o :: rest =>
      set { s with rest }
      let b ← assignment fuel live
      if !live then return b
      let n ← match o with
        | none => pure b
        | some o => do
          let a ← valueOf lookUp name
          o.apply a b
      give name n
      return n
    | _ => conditional fuel live

/-- Evaluates a condition with alternatives. -/
def conditional : Nat → Bool → Eval Int
  | 0, _ => throw .noPrimary
  | fuel + 1, live => do
    let a ← disjunction fuel live
    if !(← accept .question) then return a
    let b ← assignment fuel (live && a != 0)
    unless ← accept .colon do throw .noColon
    let c ← conditional fuel (live && a == 0)
    return if a != 0 then b else c

/-- Evaluates an expression of which one side has to be true. -/
def disjunction : Nat → Bool → Eval Int
  | 0, _ => throw .noPrimary
  | fuel + 1, live => do
    let a ← conjunction fuel live
    if !(← accept .either) then return a
    let b ← disjunction fuel (live && a == 0)
    return truth (a != 0 || b != 0)

/-- Evaluates an expression of which both sides have to be true. -/
def conjunction : Nat → Bool → Eval Int
  | 0, _ => throw .noPrimary
  | fuel + 1, live => do
    let a ← power fuel live
    let a ← match ← nextOperator? with
      | none => pure a
      | some o => operation fuel live a o 8
    if !(← accept .both) then return a
    let b ← conjunction fuel (live && a != 0)
    return truth (a != 0 && b != 0)

/-- Applies operators to a number, as long as they bind more tightly than a bound. -/
def operation : Nat → Bool → Int → Operator → Nat → Eval Int
  | 0, _, _, _, _ => throw .noPrimary
  | fuel + 1, live, a, o, bound => do
    advance
    let b ← power fuel live
    let b ← match ← nextOperator? with
      | some tighter =>
        if tighter.looseness < o.looseness then operation fuel live b tighter o.looseness
        else pure b
      | none => pure b
    let a ← if live then o.apply a b else pure b
    match ← nextOperator? with
    | some next => if next.looseness < bound then operation fuel live a next bound else return a
    | none => return a

/-- Evaluates a number that may be raised to a power. -/
def power : Nat → Bool → Eval Int
  | 0, _ => throw .noPrimary
  | fuel + 1, live => do
    let a ← primary fuel live
    if ← accept .power then
      let b ← power fuel live
      if live then Operator.apply a b .power else return b
    else return a

/-- Evaluates a number, a name, an expression in parentheses or one with a sign. -/
def primary : Nat → Bool → Eval Int
  | 0, _ => throw .noPrimary
  | fuel + 1, live => do
    let t := (← get).rest.head?
    advance
    match t with
    | some (.number n) => return n
    | some (.name name) =>
      let n ← if live then valueOf lookUp name else pure 0
      match ← nextStep? with
      | some up =>
        if live then give name (Numeral.wrap (if up then n + 1 else n - 1))
        return n
      | none => return n
    | some (.step up) =>
      match (← get).rest with
      | .name name :: rest =>
        modify fun s => { s with rest }
        let n ← if live then valueOf lookUp name else pure 0
        let n := Numeral.wrap (if up then n + 1 else n - 1)
        if live then give name n
        return n
      | _ => primary fuel live
    | some (.operator .add) => primary fuel live
    | some (.operator .subtract) => return Numeral.wrap (-(← primary fuel live))
    | some .negation => return truth ((← primary fuel live) == 0)
    | some .complement => return -(← primary fuel live) - 1
    | some .openParen =>
      let n ← series fuel live
      unless ← accept .closeParen do throw .noParen
      return n
    | _ => throw .noPrimary

end

/-- The value of an expression, and what it assigns, latest first. -/
def evaluate (text : Octets) : Except Problem (Int × List (Octets × Int)) :=
  let run : Eval Int := do
    if l == .bash && text.all Numeral.isBlank then return 0
    let n ← series lookUp (8 * text.length + 16) true
    if (← get).rest.isEmpty then return n else throw .notAtEnd
  (run.run ⟨tokens l (text.length + 1) text, []⟩).map fun (n, s) => (n, s.assigned)

end

end EditorAnalysis.Shell.Arithmetic
