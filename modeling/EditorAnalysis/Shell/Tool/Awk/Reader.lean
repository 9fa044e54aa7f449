/-
EditorAnalysis.Shell.Tool.Awk.Reader — reading programs that look at records.

Every function here takes fuel, which bounds how deeply a program is nested. The flag
`writes` says that an expression is to be written: a mark of comparison outside of
parentheses then says where to. The flag `assigns` says that a value may be given to what
stands next.
-/
import EditorAnalysis.Shell.Tool.Awk.Lexer

namespace EditorAnalysis.Shell.Awk

open Text (Octets)

/-- Why a program cannot be read. -/
inductive Failure where
  /-- The first of these words cannot stand there. -/
  | word (rest : List Lexeme)
  /-- Something is said of a line. -/
  | said (line : Nat) (text : String)

/-- A reader of words, which may fail. -/
abbrev Reader := StateT (List Lexeme) (Except Failure)

namespace Reader

/-! ## Words -/

/-- The next word. -/
def peek : Reader Token := return ((← get).head?.map (·.token)).getD .finish

/-- The word behind the next one. -/
def peekSecond : Reader Token := return (((← get)[1]?).map (·.token)).getD .finish

/-- Goes on behind the next word. -/
def skip : Reader Unit := modify (·.drop 1)

/-- The next word cannot stand there. -/
def fail {α : Type} : Reader α := do throw (.word (← get))

/-- The next word is a mark. -/
def sees (m : String) : Reader Bool := return (← peek).isMark m

/-- The next word is one with a meaning. -/
def seesKeyword (w : String) : Reader Bool := return (← peek).isKeyword w

/-- Takes a mark that has to stand there. -/
def demand (m : String) : Reader Unit := do if ← sees m then skip else fail

/-- Takes a mark if it stands there. -/
def takes (m : String) : Reader Bool := do
  if ← sees m then
    skip
    return true
  else return false

/-- Takes ends of lines. -/
def newlines : Reader Unit := modify fun rest =>
  rest.dropWhile fun l => match l.token with
    | .newline => true
    | _ => false

/-- Takes a name that has to stand there. -/
def demandName : Reader Octets := do
  match ← peek with
  | .name n =>
    skip
    return n
  | _ => fail

/-- Takes one of some marks, and says what it means. -/
def takesOne {α : Type} (meanings : List (String × α)) : Reader (Option α) := do
  match ← peek with
  | .mark m =>
    match meanings.lookup m with
    | some a =>
      skip
      return some a
    | none => return none
  | _ => return none

/-- The line of the next word. -/
def line : Reader Nat := return ((← get).head?.map (·.line)).getD 1

/-! ## Meanings of marks -/

/-- The marks that add. -/
def sums : List (String × Operation) := [("+", .add), ("-", .subtract)]

/-- The marks that multiply. -/
def products : List (String × Operation) :=
  [("*", .multiply), ("/", .divide), ("%", .remainder)]

/-- The marks that compare. -/
def relations : List (String × Relation) :=
  [("<", .less), ("<=", .lessEqual), ("==", .equal), ("!=", .unequal), (">", .greater),
    (">=", .greaterEqual)]

/-- The marks that give a value. -/
def assignments : List (String × Option Operation) :=
  [("=", none), ("+=", some .add), ("-=", some .subtract), ("*=", some .multiply),
    ("/=", some .divide), ("%=", some .remainder), ("^=", some .power)]

/-- The marks of a step. -/
def steps : List (String × Operation) := [("++", .add), ("--", .subtract)]

/-- The marks that say where something is written. -/
def directions : List (String × Direction) := [(">", .file), (">>", .append), ("|", .command)]

/-- An expression may begin with the word, behind another one. -/
def beginsOperand (t : Token) : Bool :=
  match t with
  | .number _ _ => true
  | .text _ => true
  | .name _ => true
  | .callee _ => true
  | .builtin _ => true
  | .mark m => ["$", "!", "(", "++", "--"].contains m
  | .keyword w => w == "getline"
  | _ => false

/-- A statement ends in front of the word. -/
def endsStatement (t : Token) : Bool :=
  match t with
  | .newline => true
  | .finish => true
  | .mark m => [";", "\x7d"].contains m
  | _ => false

/-- What is written ends in front of the word. -/
def endsOutput (t : Token) : Bool :=
  endsStatement t || [">", ">>", "|"].any t.isMark

/-- A list in parentheses that is all there is, without them. -/
def ungrouped : List Expr → List Expr
  | [.group es] => es
  | es => es

/-! ## Expressions -/

mutual

/-- An expression. -/
def expression : Nat → Bool → Reader Expr
  | 0, _ => fail
  | fuel + 1, writes => do
    let condition ← disjunction fuel writes
    if ← takes "?" then
      newlines
      let yes ← expression fuel writes
      newlines
      demand ":"
      newlines
      return .choice condition yes (← expression fuel writes)
    else return condition

/-- Alternatives. -/
def disjunction : Nat → Bool → Reader Expr
  | 0, _ => fail
  | fuel + 1, writes => do disjunctionBehind fuel writes (← conjunction fuel writes)

/-- Alternatives behind the first. -/
def disjunctionBehind : Nat → Bool → Expr → Reader Expr
  | 0, _, _ => fail
  | fuel + 1, writes, a => do
    if ← takes "||" then
      newlines
      disjunctionBehind fuel writes (.either a (← conjunction fuel writes))
    else return a

/-- Conditions that all hold. -/
def conjunction : Nat → Bool → Reader Expr
  | 0, _ => fail
  | fuel + 1, writes => do conjunctionBehind fuel writes (← membership fuel writes)

/-- Conditions behind the first. -/
def conjunctionBehind : Nat → Bool → Expr → Reader Expr
  | 0, _, _ => fail
  | fuel + 1, writes, a => do
    if ← takes "&&" then
      newlines
      conjunctionBehind fuel writes (.both a (← membership fuel writes))
    else return a

/-- Whether a table has an entry. -/
def membership : Nat → Bool → Reader Expr
  | 0, _ => fail
  | fuel + 1, writes => do membershipBehind fuel (← finding fuel writes)

/-- Tables behind an expression. -/
def membershipBehind : Nat → Expr → Reader Expr
  | 0, _ => fail
  | fuel + 1, a => do
    if ← seesKeyword "in" then
      skip
      let table ← demandName
      membershipBehind fuel (.member (ungrouped [a]) table)
    else return a

/-- Whether a pattern is found. -/
def finding : Nat → Bool → Reader Expr
  | 0, _ => fail
  | fuel + 1, writes => do findingBehind fuel writes (← comparison fuel writes)

/-- Patterns behind an expression. -/
def findingBehind : Nat → Bool → Expr → Reader Expr
  | 0, _, _ => fail
  | fuel + 1, writes, a => do
    match ← takesOne [("~", false), ("!~", true)] with
    | some negated => findingBehind fuel writes (.finds negated a (← comparison fuel writes))
    | none => return a

/-- A comparison. -/
def comparison : Nat → Bool → Reader Expr
  | 0, _ => fail
  | fuel + 1, writes => do comparisonBehind fuel writes (← joined fuel)

/-- Comparisons behind an expression. -/
def comparisonBehind : Nat → Bool → Expr → Reader Expr
  | 0, _, _ => fail
  | fuel + 1, writes, a => do
    if writes && (← sees ">") then return a
    match ← takesOne relations with
    | some r => comparisonBehind fuel writes (.relation r a (← joined fuel))
    | none => return a

/-- Texts one behind the other. -/
def joined : Nat → Reader Expr
  | 0 => fail
  | fuel + 1 => do joinedBehind fuel (← sum fuel true)

/-- Texts behind the first. -/
def joinedBehind : Nat → Expr → Reader Expr
  | 0, _ => fail
  | fuel + 1, a => do
    if beginsOperand (← peek) then joinedBehind fuel (.join a (← sum fuel false))
    else return a

/-- A sum. -/
def sum : Nat → Bool → Reader Expr
  | 0, _ => fail
  | fuel + 1, assigns => do sumBehind fuel (← product fuel assigns)

/-- Numbers behind the first of a sum. -/
def sumBehind : Nat → Expr → Reader Expr
  | 0, _ => fail
  | fuel + 1, a => do
    match ← takesOne sums with
    | some o => sumBehind fuel (.operation o a (← product fuel false))
    | none => return a

/-- A product. -/
def product : Nat → Bool → Reader Expr
  | 0, _ => fail
  | fuel + 1, assigns => do productBehind fuel (← signed fuel assigns)

/-- Numbers behind the first of a product. -/
def productBehind : Nat → Expr → Reader Expr
  | 0, _ => fail
  | fuel + 1, a => do
    match ← takesOne products with
    | some o => productBehind fuel (.operation o a (← signed fuel false))
    | none => return a

/-- A number behind signs. -/
def signed : Nat → Bool → Reader Expr
  | 0, _ => fail
  | fuel + 1, assigns => do
    if ← takes "!" then return .negation (← signed fuel assigns)
    else if ← takes "-" then return .signed true (← signed fuel false)
    else if ← takes "+" then return .signed false (← signed fuel false)
    else
      let base ← stepped fuel assigns
      if ← takes "^" then return .operation .power base (← signed fuel false) else return base

/-- An operand, a step or a value behind it, and the readings of what it writes. -/
def stepped : Nat → Bool → Reader Expr
  | 0, _ => fail
  | fuel + 1, assigns => do
    let e ← operand fuel
    if e.isTarget then
      match ← takesOne steps with
      | some o => readings fuel (.step false o e)
      | none =>
        match ← if assigns then takesOne assignments else pure none with
        | some o =>
          newlines
          return .assign o e (← expression fuel false)
        | none => readings fuel e
    else readings fuel e

/-- The readings of what a command writes. -/
def readings : Nat → Expr → Reader Expr
  | 0, _ => fail
  | fuel + 1, e => do
    if (← sees "|") && (← peekSecond).isKeyword "getline" then
      skip
      skip
      readings fuel (.readCommand (← target fuel) e)
    else return e

/-- What a reading gives a value to, if anything. -/
def target : Nat → Reader (Option Expr)
  | 0 => fail
  | fuel + 1 => do
    match ← peek with
    | .name _ => return some (← operand fuel)
    | .mark "$" => return some (← operand fuel)
    | _ => return none

/-- An operand without a step behind it. -/
def operand : Nat → Reader Expr
  | 0 => fail
  | fuel + 1 => do
    match ← peek with
    | .number r _ =>
      skip
      return .number r
    | .text cs =>
      skip
      return .text cs
    | .regex r _ =>
      skip
      return .regex r
    | .name n =>
      skip
      if ← takes "[" then
        let keys ← expressions fuel "]"
        if keys.isEmpty then fail
        demand "]"
        return .entry n keys
      else return .name n
    | .callee n =>
      skip
      return .call n (← arguments fuel)
    | .builtin b =>
      let here ← line
      skip
      let bare := b == .length && !(← sees "(")
      let es ← if bare then pure [] else arguments fuel
      if es.length < b.arity.1 || b.arity.2 < es.length then
        throw (.said here ("wrong number of arguments in call to " ++ b.name))
      return .builtin b es
    | .mark "$" =>
      skip
      match ← takesOne steps with
      | some o => return .field (.step true o (← operand fuel))
      | none =>
        if ← takes "-" then return .field (.signed true (← operand fuel))
        else return .field (← operand fuel)
    | .mark "(" =>
      skip
      let es ← expressions fuel ")"
      if es.isEmpty then fail
      demand ")"
      return .group es
    | .keyword "getline" =>
      skip
      let t ← target fuel
      if ← takes "<" then return .readFile t (← operand fuel) else return .readRecord t
    | _ =>
      match ← takesOne steps with
      | some o =>
        let e ← operand fuel
        if e.isTarget then return .step true o e else fail
      | none => fail

/-- Arguments in parentheses. -/
def arguments : Nat → Reader (List Expr)
  | 0 => fail
  | fuel + 1 => do
    demand "("
    let es ← expressions fuel ")"
    demand ")"
    return es

/-- Expressions between commas, in front of a mark. -/
def expressions : Nat → String → Reader (List Expr)
  | 0, _ => fail
  | fuel + 1, close => do
    newlines
    if ← sees close then return []
    else
      let first ← expression fuel false
      newlines
      return first :: (← expressionsBehind fuel)

/-- Expressions behind a comma. -/
def expressionsBehind : Nat → Reader (List Expr)
  | 0 => fail
  | fuel + 1 => do
    if ← takes "," then
      newlines
      let e ← expression fuel false
      newlines
      return e :: (← expressionsBehind fuel)
    else return []

end

/-! ## Statements -/

/-- Expressions that are written, up to a mark that says where to. -/
def written : Nat → Reader (List Expr)
  | 0 => fail
  | fuel + 1 => do
    let e ← expression fuel true
    if ← takes "," then
      newlines
      return e :: (← written fuel)
    else return [e]

/-- The end of a statement; a brace that ends a block may stand in its place. -/
def terminator : Reader Unit := do
  match ← peek with
  | .mark ";" =>
    skip
    newlines
  | .newline => newlines
  | .mark "\x7d" => pure ()
  | .finish => pure ()
  | _ => fail

/-- Something that is written. -/
def output (fuel : Nat) (formatted : Bool) : Reader Stmt := do
  let es ← if endsOutput (← peek) then pure [] else written fuel
  if formatted && es.isEmpty then fail
  match ← takesOne directions with
  | none => return .write formatted (ungrouped es) none
  | some d => return .write formatted (ungrouped es) (some (d, ← expression fuel false))

/-- A statement that others may follow on its line. -/
def simple (fuel : Nat) : Reader Stmt := do
  match ← peek with
  | .keyword "print" =>
    skip
    output fuel false
  | .keyword "printf" =>
    skip
    output fuel true
  | .keyword "delete" =>
    skip
    let table ← demandName
    if ← takes "[" then
      let keys ← expressions fuel "]"
      demand "]"
      return .delete table keys
    else return .delete table []
  | _ => return .value (← expression fuel false)

/-- A statement of one word, perhaps with an expression behind it. -/
def single? (fuel : Nat) : Reader (Option Stmt) := do
  let value : Reader (Option Expr) := do
    if endsStatement (← peek) then return none else return some (← expression fuel false)
  let found (s : Stmt) : Reader (Option Stmt) := do
    skip
    return some s
  match ← peek with
  | .keyword "break" => found .leaveLoop
  | .keyword "continue" => found .nextRound
  | .keyword "next" => found .nextRecord
  | .keyword "nextfile" => found .nextFile
  | .keyword "exit" =>
    skip
    return some (.exit (← value))
  | .keyword "return" =>
    skip
    return some (.return (← value))
  | _ => return none

mutual

/-- A statement and its end. -/
def statement : Nat → Reader Stmt
  | 0 => fail
  | fuel + 1 => do
    match ← peek with
    | .mark "\x7b" =>
      let body ← block fuel
      newlines
      return body
    | .mark ";" =>
      skip
      newlines
      return .nothing
    | .mark "\x7d" => return .nothing
    | .keyword "if" =>
      skip
      demand "("
      let condition ← expression fuel false
      demand ")"
      newlines
      let yes ← statement fuel
      if ← seesKeyword "else" then
        skip
        newlines
        return .choice condition yes (← statement fuel)
      else if (← sees ";") && (← peekSecond).isKeyword "else" then
        skip
        skip
        newlines
        return .choice condition yes (← statement fuel)
      else return .choice condition yes .nothing
    | .keyword "while" =>
      skip
      demand "("
      let condition ← expression fuel false
      demand ")"
      newlines
      return .loop condition (← statement fuel)
    | .keyword "do" =>
      skip
      newlines
      let body ← statement fuel
      if ← seesKeyword "while" then skip else fail
      demand "("
      let condition ← expression fuel false
      demand ")"
      terminator
      return .bodyFirst body condition
    | .keyword "for" =>
      skip
      demand "("
      counted fuel
    | _ =>
      let s ← match ← single? fuel with
        | some s => pure s
        | none => simple fuel
      terminator
      return s

/-- A loop, behind its opening parenthesis. -/
def counted : Nat → Reader Stmt
  | 0 => fail
  | fuel + 1 => do
    match (← get).map Lexeme.token with
    | .name counter :: .keyword "in" :: .name table :: .mark ")" :: _ =>
      modify (·.drop 4)
      newlines
      return .each counter table (← statement fuel)
    | _ =>
      let first ← if ← sees ";" then pure Stmt.nothing else simple fuel
      demand ";"
      newlines
      let condition ← if ← sees ";" then pure none else pure (some (← expression fuel false))
      demand ";"
      newlines
      let next ← if ← sees ")" then pure Stmt.nothing else simple fuel
      demand ")"
      newlines
      return .count first condition next (← statement fuel)

/-- Statements between braces. -/
def block : Nat → Reader Stmt
  | 0 => fail
  | fuel + 1 => do
    demand "\x7b"
    newlines
    let body ← statements fuel
    demand "\x7d"
    return .block body

/-- Statements in front of a closing brace. -/
def statements : Nat → Reader (List Stmt)
  | 0 => fail
  | fuel + 1 => do
    if (← sees "\x7d") || (← peek) matches .finish then return []
    else
      let s ← statement fuel
      return s :: (← statements fuel)

end

/-! ## Programs -/

/-- Names between commas, up to a parenthesis. -/
def names : Nat → Reader (List Octets)
  | 0 => fail
  | fuel + 1 => do
    newlines
    if ← takes ")" then return []
    let n ← demandName
    newlines
    if ← takes "," then return n :: (← names fuel)
    else
      demand ")"
      return [n]

/-- The body of a rule; without one, the record is written. -/
def body (fuel : Nat) : Reader Stmt := do
  if ← sees "\x7b" then block fuel
  else
    match ← peek with
    | .newline => return .write false [] none
    | .finish => return .write false [] none
    | .mark ";" => return .write false [] none
    | _ => fail

/-- A rule or a function, behind others. -/
def item (fuel : Nat) (p : Program) : Reader Program := do
  let rule (condition : Condition) (body : Stmt) : Program :=
    { p with rules := p.rules ++ [⟨condition, body⟩] }
  match ← peek with
  | .keyword "BEGIN" =>
    skip
    return rule .atStart (← block fuel)
  | .keyword "END" =>
    skip
    return rule .atEnd (← block fuel)
  | .keyword "function" =>
    skip
    let here ← line
    let name ← match ← peek with
      | .name n => pure n
      | .callee n => pure n
      | _ => fail
    skip
    demand "("
    let parameters ← names fuel
    newlines
    if (p.functions.lookup name).isSome then
      throw (.said here ("redefinition of " ++ String.ofList name))
    let body ← block fuel
    return { p with functions := p.functions ++ [(name, ⟨parameters, body⟩)] }
  | .mark "\x7b" => return rule .always (← block fuel)
  | _ =>
    let first ← expression fuel false
    if ← takes "," then
      newlines
      let last ← expression fuel false
      return rule (.between first last) (← body fuel)
    else return rule (.holds first) (← body fuel)

/-- All rules and functions. -/
def items : Nat → Nat → Program → Reader Program
  | 0, _, _ => fail
  | count + 1, fuel, p => do
    newlines
    if (← peek) matches .finish then return p
    else
      let p ← item fuel p
      newlines
      discard (takes ";")
      items count fuel p

/-- What is said of a word that cannot stand where it is. -/
def complaint (all rest : List Lexeme) : List Octets :=
  let seen := all.take (all.length - rest.length + 1)
  let notices := (seen.map (·.notices)).flatten
  let count (m : String) : Nat := (seen.filter fun l => l.token.isMark m).length
  let start (line : Nat) : Octets := ("line " ++ toString line ++ ": ").toList
  let tokens := rest.head?.getD ⟨1, .finish, []⟩
  let unclosed := count ")" < count "("
  let unended := count "\x7d" < count "\x7b"
  let spoken (text : String) : Octets := start tokens.line ++ text.toList ++ tokens.token.shown
  let last := match tokens.token with
    | .fault text => text
    | .finish => if unended then spoken "missing \x7d near " else spoken "syntax error at or near "
    | .newline => spoken (if unclosed then "missing ) near " else "syntax error at or near ")
    | .mark m =>
      spoken (if unclosed && (m == ";" || m == "\x7d") then "missing ) near "
        else "syntax error at or near ")
    | _ => spoken "syntax error at or near "
  notices ++ [last]

/-- The program that a text writes, or what is said of it. -/
def program (text : Octets) : Except (List Octets) Program :=
  let all := Lexer.lexemes text
  match (items (all.length + 1) (16 * all.length + 64) {}).run all with
  | .error (.word rest) => .error (complaint all rest)
  | .error (.said line text) => .error [("line " ++ toString line ++ ": " ++ text).toList]
  | .ok (p, _) =>
    let notices := (all.map (·.notices)).flatten
    let called := (all.filterMap fun l => match l.token with
      | .callee n => some n
      | _ => none).eraseDups
    let unknown := (called.filter fun n => (p.functions.lookup n).isNone).reverse
    let last := (all.getLast?.map (·.line)).getD 1
    let undefined := unknown.map fun n =>
      ("line " ++ toString last ++ ": function ").toList ++ n ++ " never defined".toList
    if notices.isEmpty && undefined.isEmpty then .ok p else .error (notices ++ undefined)

end Reader

end EditorAnalysis.Shell.Awk
