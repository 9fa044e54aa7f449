/-
EditorAnalysis.Shell.Reader — reading the commands of a script.

A script is read one complete line of commands at a time, since a command may end
the script before the rest of it is looked at, and may say how later words are to be
read (`Reading.aliases`). Texts given in the script itself follow the line that asks
for them; a command refers to them by number. Words are read by scope: the scope says
which characters have a meaning and where the word ends.
-/
import EditorAnalysis.Assoc
import EditorAnalysis.Shell.Braces
import EditorAnalysis.Shell.Format
import EditorAnalysis.Shell.Token
import EditorAnalysis.Text.Search

namespace EditorAnalysis.Shell

open Text (Octets)

/-! ## The reader's state -/

/-- A text in the script that a line has asked for. -/
structure Awaited where
  /-- Its number. -/
  number : Nat
  /-- The line that ends it. -/
  delimiter : Octets
  /-- Its parameters are expanded. -/
  expanded : Bool
  /-- Tabs at the beginning of its lines are dropped. -/
  dropsTabs : Bool

/-- A word that stands for a text, while that text is read. -/
structure Expansion where
  /-- The word. -/
  name : Octets
  /-- How many characters follow the text. -/
  behind : Nat
  /-- The text ends in a blank, so that the word behind it may stand for a text too. -/
  goesOn : Bool

/-- The reader's state. -/
structure Reading where
  /-- What is not read yet. -/
  rest : Octets
  /-- The number of the current line. -/
  line : Nat := 1
  /-- A token that is to be read again. -/
  pushed : Option Token := none
  /-- The texts that the current line has asked for, oldest first. -/
  awaited : List Awaited := []
  /-- The texts read so far, by number, latest first. -/
  documents : List (Nat × Word) := []
  /-- The number of the next text. -/
  nextDocument : Nat := 0
  /-- Words that stand for texts at the beginning of commands. -/
  aliases : List (Octets × Octets) := []
  /-- Those whose texts are being read, latest first. -/
  expansions : List Expansion := []
  /-- The text stands in a file. -/
  inFile : Bool := false
  /-- The language of the text. -/
  language : Language := .posix

/-- A reader, which may meet an error. -/
abbrev Reader := StateT Reading (Except SyntaxError)

namespace Reader

/-- Something is wrong on the current line. -/
def fail {α : Type} (problem : SyntaxProblem) : Reader α := do
  throw ⟨problem, (← get).line⟩

/-- A token stands where it cannot, perhaps in the place of another. -/
def unexpected {α : Type} (found : Token) (wanted : Option Token) : Reader α :=
  fail (.unexpected found wanted)

/-- The script nests more deeply than anything that ends. -/
def exhausted {α : Type} : Reader α := unexpected (.mark .endOfFile) none

/-- The text is in the language of bash. -/
def isBash : Reader Bool := return (← get).language == .bash

/-- Reads something that has to be closed; bash says on which line it was opened. -/
def opened {α : Type} (inner : Reader α) : Reader α := do
  let r ← get
  match inner.run r with
  | .ok (a, r) =>
    set r
    return a
  | .error e =>
    let line := match r.language, e.problem with
      | .posix, _ => e.line
      | .bash, .unexpected _ _ => e.line
      | .bash, _ => min r.line e.line
    throw { e with line }

/-- Reads something that a mark closes; in bash a script that ends before that lacks the mark. -/
def closedBy {α : Type} (mark : Char) (inner : Reader α) : Reader α := do
  let r ← get
  match inner.run r, r.language with
  | .ok (a, r), _ =>
    set r
    return a
  | .error ⟨.unexpected (.mark .endOfFile) _, line⟩, .bash => throw ⟨.openQuotes mark, line⟩
  | .error e, _ => throw e

/-! ## Characters -/

/-- Goes on behind some characters. -/
def setRest (cs : Octets) : Reader Unit := modify fun r => { r with rest := cs }

/-- Counts lines. -/
def countLines (n : Nat) : Reader Unit := modify fun r => { r with line := r.line + n }

/-- The characters to come, behind lines that are joined; how many lines those are. -/
def joined : Octets → Octets × Nat
  | '\\' :: '\n' :: cs =>
    let (rest, lines) := joined cs
    (rest, lines + 1)
  | cs => (cs, 0)

/-- The characters to come. -/
def rest : Reader Octets := do
  let (cs, lines) := joined (← get).rest
  if lines != 0 then
    setRest cs
    countLines lines
  return cs

/-- Reads a character if it comes next. -/
def accept (c : Char) : Reader Bool := do
  match ← rest with
  | d :: cs =>
    if c == d then
      setRest cs
      return true
    else return false
  | [] => return false

/-! ## Scopes -/

/-- What is around the braces of a parameter. -/
inductive Context where
  /-- No quotes. -/
  | bare
  /-- Double quotes. -/
  | quotes
  /-- A text in the script. -/
  | document
deriving DecidableEq

/-- Where a word ends, and which characters have a meaning in it. -/
inductive Scope where
  /-- At a delimiter. -/
  | word
  /-- At a double quote; the flag says whether braces are around the quotes. -/
  | quotes (inBraces : Bool)
  /-- At a closing brace. -/
  | braces (context : Context)
  /-- At the end of the text. -/
  | document
  /-- At two closing parentheses, when so many others are open. -/
  | expression (depth : Nat)
  /-- At a closing bracket, when so many others are open. -/
  | index (depth : Nat)
  /-- At a blank, when so many parentheses are open. -/
  | regex (depth : Nat)
  /-- At a slash, or a closing brace. -/
  | slash
  /-- At a colon, or a closing brace. -/
  | colon
deriving DecidableEq

namespace Scope

/-- Characters without a meaning are quoted. -/
def isQuoted : Scope → Bool
  | word => false
  | braces .bare => false
  | regex _ => false
  | slash => false
  | _ => true

/-- No quotes and no braces are around. -/
def isOutside : Scope → Bool
  | word => true
  | regex _ => true
  | _ => false

/-- Single quotes have a meaning. -/
def hasSingleQuotes : Scope → Bool
  | word => true
  | regex _ => true
  | slash => true
  | index _ => true
  | braces .bare => true
  | _ => false

/-- The scope of a parameter's braces in this scope. -/
def inner : Scope → Scope
  | word => braces .bare
  | quotes _ => braces .quotes
  | braces context => braces context
  | document => braces .document
  | regex _ => braces .bare
  | slash => braces .bare
  | _ => braces .quotes

/-- What is wrong when the script ends in this scope. -/
def problem? : Scope → Option SyntaxProblem
  | word => none
  | regex _ => none
  | quotes _ => some (.openQuotes '"')
  | braces .quotes => some (.openQuotes '"')
  | document => none
  | expression _ => some .openExpression
  | _ => some .openBraces

/-- A character ends the scope. -/
def endsAt : Scope → Char → Bool
  | word, c => isDelimiter c
  | quotes _, c => c == '"'
  | braces _, c => c == '\x7d'
  | index depth, c => c == ']' && depth == 0
  | regex depth, c => depth == 0 && (c == ' ' || c == '\t' || c == '\n')
  | slash, c => c == '/' || c == '\x7d'
  | colon, c => c == ':' || c == '\x7d'
  | _, _ => false

/-- A backslash takes the meaning of a character away, and is not seen itself. -/
def escapes (scope : Scope) (c : Char) : Bool :=
  !scope.isQuoted || c == '\\' || c == '`' || c == '$'
    || (c == '"' && scope != .document)
    || (c == '\x7d' && match scope with
      | quotes inBraces => inBraces
      | braces _ => true
      | _ => false)

/-- A character that stands for itself. -/
def literal (scope : Scope) (c : Char) : Piece :=
  if scope.isQuoted then .quoted [c] else .bare [c]

end Scope

/-! ## Parts of words -/

/-- Reads text in single quotes, behind the first of them. -/
def singleQuoted : Reader Piece := do
  let cs := (← get).rest
  let text := cs.takeWhile (· != '\'')
  countLines (text.count '\n')
  match cs.drop text.length with
  | [] => fail (.openQuotes '\'')
  | _ :: behind =>
    setRest behind
    return .quoted text

/-- The text up to a single quote that no backslash stands before, what backslashes stand for
spelled out, and what follows it. -/
def spelledOut : Nat → Octets → Option (Octets × Octets)
  | 0, _ => none
  | _, [] => none
  | _, '\'' :: rest => some ([], rest)
  | fuel + 1, '\\' :: c :: rest =>
    let (text, behind) : Octets × Octets :=
      if c == '\'' || c == '"' || c == '?' then ([c], rest)
      else match Format.escape (.bash true) (c :: rest) with
        | .text text behind => (text, behind)
        | _ => (['\\', c], rest)
    (spelledOut fuel behind).map fun (more, end_) => (text ++ more, end_)
  | fuel + 1, c :: rest => (spelledOut fuel rest).map fun (more, end_) => (c :: more, end_)

/-- Reads text in single quotes behind a dollar sign. -/
def dollarQuoted : Reader Piece := do
  let cs := (← get).rest
  match spelledOut (cs.length + 1) cs with
  | none => fail (.openQuotes '\'')
  | some (text, behind) =>
    countLines ((cs.take (cs.length - behind.length)).count '\n')
    setRest behind
    return .quoted text

/-- Splits at a closing backquote and takes the backslashes inside away. -/
def backquoteEnd? (inQuotes : Bool) : Octets → Option (Octets × Octets)
  | [] => none
  | '`' :: rest => some ([], rest)
  | '\\' :: '\n' :: rest => backquoteEnd? inQuotes rest
  | '\\' :: c :: rest =>
    (backquoteEnd? inQuotes rest).map fun (inside, behind) =>
      (if c == '`' || c == '\\' || c == '$' || (c == '"' && inQuotes) then c :: inside
        else '\\' :: c :: inside, behind)
  | c :: rest => (backquoteEnd? inQuotes rest).map fun (inside, behind) => (c :: inside, behind)

/-- Reads with another reader in another text, on its first line; texts in the script and
what words stand for are shared. -/
def inText {α : Type} (text : Octets) (line : Nat) (inner : Reader α) : Reader α := do
  let outer ← get
  let (a, r) ← inner.run
    { outer with rest := text, line, pushed := none, awaited := [], expansions := [] }
  set { outer with documents := r.documents, nextDocument := r.nextDocument }
  return a

/-- The pieces stand for nothing but all arguments or elements, each a field of its own. -/
def isAllArguments : Word → Bool
  | [.parameter _ ['@'] .value] => true
  | [.parameter _ ['@'] (.part ..)] => true
  | [.element _ _ index _] => index.all fun
    | .quoted text => text == ['@']
    | _ => false
  | [.indices ..] => true
  | _ => false

/-- Reads the rest of a line that is a comment. -/
def comment : Reader Unit := do
  setRest ((← get).rest.dropWhile (· != '\n'))

/-- The lines up to one that is the delimiter, and what follows it; how many lines
were read. A line that is joined to the one before is not the delimiter. -/
def untilLine (asked : Awaited) : Nat → Bool → Octets → Octets × Octets × Nat
  | 0, _, cs => ([], cs, 0)
  | fuel + 1, isJoined, cs =>
    if cs.isEmpty then ([], [], 0)
    else
      let line := cs.takeWhile (· != '\n')
      let behind := (cs.drop line.length).drop 1
      let ended := line.length < cs.length
      let line := if asked.dropsTabs && !isJoined then line.dropWhile (· == '\t') else line
      if line == asked.delimiter && !isJoined then ([], behind, if ended then 1 else 0)
      else
        let backslashes := (line.reverse.takeWhile (· == '\\')).length
        let joins := asked.expanded && backslashes % 2 == 1
        let (text, behind, count) := untilLine asked fuel joins behind
        (line ++ (if ended then '\n' :: text else text), behind,
          count + if ended then 1 else 0)

/-! ## Aliases -/

/-- Forgets the texts that are read. -/
def dropExpansions : Reader Unit :=
  modify fun r => { r with expansions := r.expansions.filter fun e => e.behind ≤ r.rest.length }

/-- The word behind a text that ended in a blank is looked at. -/
def expansionGoesOn (r : Reading) : Bool :=
  r.expansions.any fun e => e.goesOn && r.rest.length < e.behind

/-- Puts the text of a word in its place, if it stands for one. -/
def expandAlias (name : Octets) : Reader Bool := do
  let r ← get
  match Assoc.get? name r.aliases with
  | none => return false
  | some text =>
    if r.expansions.any fun e => e.name == name then return false
    else
      let goesOn := match text.getLast? with
        | some c => c == ' ' || c == '\t'
        | none => false
      set { r with
        rest := text ++ r.rest
        expansions := ⟨name, r.rest.length, goesOn⟩ :: r.expansions }
      return true

/-! ## Tokens -/

/-- What is looked for when a token is read. -/
structure Look where
  /-- Ends of lines are skipped. -/
  newlines : Bool := false
  /-- Words may be reserved. -/
  reserved : Bool := false
  /-- Words may stand for texts. -/
  aliases : Bool := false

namespace Look

/-- What the first word of a command is looked at for. -/
def command : Look := { reserved := true, aliases := true }

/-- The same on a later line. -/
def laterCommand : Look := { newlines := true, reserved := true, aliases := true }

end Look

/-- Reads a token again. -/
def push (t : Token) : Reader Unit := modify fun r => { r with pushed := some t }

/-- An operator and what may follow it in a longer one. -/
def operator (short long : Mark) (second : Char) : Reader Token := do
  if ← accept second then return .mark long else return .mark short

/-- Reads the rest of the operator that an arrow begins. -/
def arrow (toRight : Bool) (descriptor : Option Nat) : Reader Token := do
  if toRight then
    let a : Arrow ←
      if ← accept '>' then pure (.file .append)
      else if ← accept '|' then pure (.file .overwrite)
      else if ← accept '&' then pure .same
      else pure (.file .write)
    return .arrow (descriptor.getD 1) a
  else
    let a : Arrow ←
      if ← accept '<' then
        if (← isBash) && (← accept '<') then pure .text else pure (.document (← accept '-'))
      else if ← accept '&' then pure .same
      else if ← accept '>' then pure (.file .readWrite)
      else pure (.file .read)
    return .arrow (descriptor.getD 0) a

/-- The descriptor that a word in front of an arrow names: a digit, or none. -/
def descriptor? (word : Word) : Option (Option Nat) :=
  match bareText? word with
  | some [] => some none
  | some [c] => if c.isDigit then some (some (c.toNat - '0'.toNat)) else none
  | _ => none

/-- What a list of commands is part of. -/
inductive ListKind where
  /-- A line of the script. -/
  | line
  /-- A command, where it must not be empty. -/
  | some
  /-- A command, where it may be empty. -/
  | any
deriving DecidableEq

/-- The commands that make no good name for a function. -/
def reservedNames : List String :=
  [".", ":", "break", "continue", "eval", "exec", "exit", "export", "local", "readonly",
    "return", "set", "shift", "times", "trap", "unset"]

/-- Splits an expression at its semicolons. -/
def expressionParts : Word → List Word
  | [] => [[]]
  | piece :: rest =>
    let more := expressionParts rest
    let parts : List Word := match piece with
      | .quoted text => (Text.splitOn ';' text).map fun part => [Piece.quoted part]
      | piece => [[piece]]
    match parts.reverse, more with
    | last :: front, first :: behind => front.reverse ++ (last ++ first) :: behind
    | _, more => more

/-- The first word of a command behind which lists may be assigned. -/
def declarers : List String := ["declare", "export", "local", "readonly", "typeset"]

/-- The operators about a word in a test. -/
def isTestOperator (text : Octets) : Bool :=
  match text with
  | ['-', c] => "abcdefghknoprstuvwxzGLNORS".toList.contains c
  | _ => false

/-- The operators between words in a test. -/
def testOperators : List String :=
  ["==", "=~", "=", "!=", "-eq", "-ne", "-lt", "-le", "-gt", "-ge", "-nt", "-ot", "-ef", "<", ">"]

/-- A command with one more behind it. -/
def sequence : Option Command → Command → Command
  | none, c => c
  | some first, c => .sequence first c

/-- The text of a word that ends a text in the script: nothing in it is expanded. -/
def delimiterOf : Word → Octets
  | [] => []
  | .bare text :: rest => text ++ delimiterOf rest
  | .quoted text :: rest => text ++ delimiterOf rest
  | .parameter _ name _ :: rest => '$' :: name ++ delimiterOf rest
  | _ :: rest => delimiterOf rest

/-- Reads blanks and ends of lines in a test, and yields what comes next. -/
def testRest : Reader Octets := do
  let cs ← rest
  let blanks := cs.takeWhile fun c => c == ' ' || c == '\t' || c == '\n'
  countLines (blanks.count '\n')
  setRest (cs.drop blanks.length)
  rest

/-- Reads a mark of a test, if it comes next. -/
def takesMark (m : String) : Reader Bool := do
  let cs ← testRest
  if m.toList.isPrefixOf cs then
    setRest (cs.drop m.length)
    return true
  else return false

/-- Reads the end of a test. -/
def closeTest : Reader Unit := do
  unless ← takesMark "]]" do
    if (← testRest).isEmpty then unexpected (.mark .endOfFile) none
    else unexpected (.word [.bare ((← testRest).takeWhile fun c => !isDelimiter c)]) none

/-- The test ends here, or a part of it. -/
def testEnds : Reader Bool := do
  let cs ← testRest
  return cs.isEmpty || [")", "]]", "&&", "||"].any fun m => m.toList.isPrefixOf cs

/-- The text begins with a name, an index and an equals sign. -/
def indexesValue (cs : Octets) : Bool :=
  let name := cs.takeWhile isNameChar
  let rest := cs.drop name.length
  isName name && rest.head? == some '[' &&
    let line := rest.takeWhile (· != '\n')
    let inside := line.takeWhile (· != ']')
    match line.drop inside.length with
    | ']' :: '=' :: _ => true
    | ']' :: '+' :: '=' :: _ => true
    | _ => false

/-- The words that a word of the script stands for. -/
def wordsOf (w : Word) : Reader (List Word) :=
  return if ← isBash then Braces.expand w else [w]

/-! ## Words, tokens and commands -/

mutual

/-- Reads pieces up to the end of a scope. -/
def pieces : Nat → Scope → Reader Word
  | 0, _ => exhausted
  | fuel + 1, scope => do
    match ← rest with
    | [] =>
      match scope.problem? with
      | none => return []
      | some problem => fail problem
    | '\\' :: cs =>
      setRest cs
      match cs with
      | [] => return [.quoted ['\\']]
      | c :: cs =>
        setRest cs
        if c == '\n' then countLines 1
        let text := if scope.escapes c then [c] else ['\\', c]
        return .quoted text :: (← pieces fuel scope)
    | '$' :: cs =>
      setRest cs
      let piece ← dollar fuel scope
      return piece :: (← pieces fuel scope)
    | '`' :: cs =>
      setRest cs
      let piece ← opened (backquoted fuel scope)
      return piece :: (← pieces fuel scope)
    | c :: cs =>
      if scope.endsAt c then return []
      setRest cs
      if c == '\n' then countLines 1
      match scope, c with
      | .expression 0, ')' =>
        if ← accept ')' then return [] else return .quoted [')'] :: (← pieces fuel scope)
      | .expression (depth + 1), ')' =>
        return .quoted [')'] :: (← pieces fuel (.expression depth))
      | .expression depth, '(' => return .quoted ['('] :: (← pieces fuel (.expression (depth + 1)))
      | .expression _, '"' => pieces fuel scope
      | .index depth, '[' => return .quoted ['['] :: (← pieces fuel (.index (depth + 1)))
      | .index (depth + 1), ']' => return .quoted [']'] :: (← pieces fuel (.index depth))
      | .regex depth, '(' => return .bare ['('] :: (← pieces fuel (.regex (depth + 1)))
      | .regex (depth + 1), ')' => return .bare [')'] :: (← pieces fuel (.regex depth))
      | .document, '"' => return .quoted ['"'] :: (← pieces fuel scope)
      | _, '"' =>
        let inside ← opened (pieces fuel (.quotes (!scope.isOutside)))
        discard (accept '"')
        let marks : Word := if isAllArguments inside then [] else [.quoted []]
        return marks ++ inside ++ (← pieces fuel scope)
      | _, _ =>
        if c == '\'' && scope.hasSingleQuotes then
          let piece ← opened singleQuoted
          return piece :: (← pieces fuel scope)
        else return scope.literal c :: (← pieces fuel scope)

/-- Reads what a dollar sign begins. -/
def dollar : Nat → Scope → Reader Piece
  | 0, _ => exhausted
  | fuel + 1, scope => do
    match ← rest with
    | '(' :: cs =>
      setRest cs
      if ← accept '(' then
        return .arithmetic scope.isQuoted (fuse (← pieces fuel (.expression 0)))
      else
        let command ← closedBy ')' (substituted fuel)
        return .output scope.isQuoted command
    | '\x7b' :: cs =>
      setRest cs
      let piece ← opened (braced fuel scope)
      let bash ← isBash
      let behind := (← get).rest
      return match piece with
        | .parameter inQuotes name .unknown =>
          let read := cs.take (cs.length - behind.length - 1)
          .parameter inQuotes (if bash then read else name) .unknown
        | piece => piece
    | c :: cs =>
      if isNameStart c then
        let name := (c :: cs).takeWhile isNameChar
        setRest ((c :: cs).drop name.length)
        return .parameter scope.isQuoted name .value
      else if isSpecial c then
        setRest cs
        return .parameter scope.isQuoted [c] .value
      else if (c == '\'' || c == '"') && scope.hasSingleQuotes && (← isBash) then
        if c == '"' then return .quoted []
        setRest cs
        opened dollarQuoted
      else return scope.literal '$'
    | [] => return scope.literal '$'

/-- Reads a command up to a closing parenthesis. -/
def substituted : Nat → Reader Command
  | 0 => exhausted
  | fuel + 1 => do
    let outer ← get
    set { outer with awaited := [], pushed := none }
    let command ← commands fuel .any none
    expect fuel (.mark .closeParen)
    modify fun r => { r with awaited := outer.awaited }
    return command.getD .nothing

/-- Reads a command in backquotes, behind the first of them. -/
def backquoted : Nat → Scope → Reader Piece
  | 0, _ => exhausted
  | fuel + 1, scope => do
    let cs := (← get).rest
    match backquoteEnd? scope.isQuoted cs with
    | none =>
      countLines (cs.count '\n')
      fail .openBackquotes
    | some (inside, behind) =>
      countLines ((cs.take (cs.length - behind.length)).count '\n')
      setRest behind
      let r ← get
      let line := if r.language == .bash then r.line else 1
      let command ← inText inside line (commands fuel .any none)
      return .output scope.isQuoted (command.getD .nothing)

/-- Reads a parameter behind an opening brace. -/
def braced : Nat → Scope → Reader Piece
  | 0, _ => exhausted
  | fuel + 1, scope => do
    let quotes := scope.isQuoted
    let bash ← isBash
    let plainly (name : Octets) : Reader Piece := do
      if bash && (← accept '[') then
        let index ← indexWord fuel
        return .element quotes name index (← useOf fuel scope)
      return .parameter quotes name (← useOf fuel scope)
    match ← rest with
    | '!' :: c :: cs =>
      if bash && (isNameStart c || c.isDigit) then
        let name := (c :: cs).takeWhile isNameChar
        setRest ((c :: cs).drop name.length)
        if ← accept '[' then
          discard (indexWord fuel)
          discard (useOf fuel scope)
          return .indices quotes name
        return .indirect quotes name (← useOf fuel scope)
      else
        setRest (c :: cs)
        plainly ['!']
    | '#' :: c :: cs =>
      if c == '_' || c.isAlphanum then
        let p (d : Char) : Bool := if c.isDigit then d.isDigit else isNameChar d
        let name := (c :: cs).takeWhile p
        setRest ((c :: cs).drop name.length)
        if ← accept '\x7d' then return .parameter quotes name .length
        else if bash && (← accept '[') then
          let index ← indexWord fuel
          if ← accept '\x7d' then return .element quotes name index .length
          else return .parameter quotes name (← unknownUse fuel scope)
        else return .parameter quotes name (← unknownUse fuel scope)
      else if c != '\x7d' && cs.head? == some '\x7d' && isSpecial c then
        setRest (cs.drop 1)
        return .parameter quotes [c] .length
      else
        setRest (c :: cs)
        plainly ['#']
    | c :: cs =>
      if isNameStart c then
        let name := (c :: cs).takeWhile isNameChar
        setRest ((c :: cs).drop name.length)
        plainly name
      else if c.isDigit then
        let name := (c :: cs).takeWhile Char.isDigit
        setRest ((c :: cs).drop name.length)
        plainly name
      else if isSpecial c then
        setRest cs
        plainly [c]
      else return .parameter quotes [] (← unknownUse fuel scope)
    | [] => return .parameter quotes [] (← unknownUse fuel scope)

/-- Reads an index and the closing bracket. -/
def indexWord : Nat → Reader Word
  | 0 => exhausted
  | fuel + 1 => do
    let w ← pieces fuel (.index 0)
    discard (accept ']')
    return fuse w

/-- Reads how a parameter is used in a way that only bash has, behind the first character of
that. -/
def furtherUse : Nat → Scope → Char → Reader Use
  | 0, _, _ => exhausted
  | fuel + 1, scope, c => do
    let close : Reader Unit := discard (accept '\x7d')
    match c with
    | '^' =>
      let all ← accept '^'
      discard (pieces fuel (.braces .bare))
      close
      return .cased true all
    | ',' =>
      let all ← accept ','
      discard (pieces fuel (.braces .bare))
      close
      return .cased false all
    | '@' =>
      let letter := ((← rest).head?).getD ' '
      discard (pieces fuel (.braces .bare))
      close
      return .transformed letter
    | ':' =>
      let start ← pieces fuel .colon
      let length ← if ← accept ':' then pure (some (fuse (← pieces fuel (.braces .quotes))))
        else pure none
      close
      return .part (fuse start) length
    | '/' =>
      let all ← accept '/'
      let anchor ← if all then pure none
        else if ← accept '#' then pure (some false)
        else if ← accept '%' then pure (some true)
        else pure none
      let pattern ← pieces fuel .slash
      let word ← if ← accept '/' then pieces fuel (.braces .bare) else pure []
      close
      return .replaced all anchor (fuse pattern) (fuse word)
    | _ => unknownUse fuel scope

/-- Reads up to the closing brace of a parameter that is used in no known way. -/
def unknownUse : Nat → Scope → Reader Use
  | 0, _ => exhausted
  | fuel + 1, scope => do
    discard (pieces fuel scope.inner)
    discard (accept '\x7d')
    return .unknown

/-- Reads how a parameter in braces is used, and the closing brace. -/
def useOf : Nat → Scope → Reader Use
  | 0, _ => exhausted
  | fuel + 1, scope => do
    let operand (inner : Scope) : Reader Word := do
      let word ← pieces fuel inner
      discard (accept '\x7d')
      return fuse word
    match ← rest with
    | '\x7d' :: cs =>
      setRest cs
      return .value
    | c :: cs =>
      setRest cs
      if c == '#' || c == '%' then
        let longest ← accept c
        return .cut (c == '%') longest (← operand (.braces .bare))
      let orEmpty := c == ':'
      let operator ← if orEmpty then pure ((← rest).head?) else pure (some c)
      let known := ['-', '=', '?', '+'].contains (operator.getD ' ')
      if (← isBash) && !known then return ← furtherUse fuel scope c
      if orEmpty && (known || operator == some '\x7d') then setRest ((← rest).drop 1)
      match operator with
      | some '-' => return .otherwise orEmpty (← operand scope.inner)
      | some '=' => return .assign orEmpty (← operand scope.inner)
      | some '?' => return .require orEmpty (← operand scope.inner)
      | some '+' => return .alternative orEmpty (← operand scope.inner)
      | some '\x7d' =>
        discard (operand scope.inner)
        return .value
      | _ => unknownUse fuel scope
    | [] => unknownUse fuel scope

/-- Reads a word of a scope of its own. -/
def word : Nat → Reader Word
  | 0 => exhausted
  | fuel + 1 => return fuse (← pieces fuel .word)

/-- Reads a word that begins with a name and an index, in which blanks end nothing. -/
def indexed : Nat → Reader Word
  | 0 => exhausted
  | fuel + 1 => do
    let cs ← rest
    let name := cs.takeWhile isNameChar
    setRest (cs.drop (name.length + 1))
    let index ← indexWord fuel
    return fuse (.bare (name ++ ['[']) :: index ++ .bare [']'] :: (← word fuel))

/-- Reads a token as it stands. -/
def rawToken : Nat → Reader Token
  | 0 => exhausted
  | fuel + 1 => do
    match ← rest with
    | [] => return .mark .endOfFile
    | c :: cs =>
      setRest cs
      match c with
      | ' ' => rawToken fuel
      | '\t' => rawToken fuel
      | '#' =>
        comment
        rawToken fuel
      | '\n' =>
        countLines 1
        return .mark .newline
      | '&' =>
        if (← isBash) && (← accept '>') then
          return .arrow 1 (.both (if ← accept '>' then .append else .overwrite))
        else operator .background .andThen '&'
      | '|' =>
        if (← isBash) && (← accept '&') then return .mark .pipeAll
        else operator .pipe .orElse '|'
      | ';' =>
        if (← isBash) && (← accept '&') then return .mark .fallThrough
        else
          let t ← operator .semicolon .endArm ';'
          if t.isMark .endArm && (← isBash) && (← accept '&') then return .mark .endTest
          else return t
      | '(' => return .mark .openParen
      | ')' => return .mark .closeParen
      | '<' =>
        if (← isBash) && cs.head? == some '(' then
          setRest (cs.drop 1)
          let command ← substituted fuel
          return .word (.place command :: (← word fuel))
        else arrow false none
      | '>' => arrow true none
      | _ =>
        setRest (c :: cs)
        let w ← if (← isBash) && indexesValue (c :: cs) then indexed fuel else word fuel
        match (← get).rest, descriptor? w with
        | '<' :: behind, some descriptor =>
          setRest behind
          arrow false descriptor
        | '>' :: behind, some descriptor =>
          setRest behind
          arrow true descriptor
        | _, _ => return .word w

/-- Reads a token. -/
def token : Nat → Look → Reader Token
  | 0, _ => exhausted
  | fuel + 1, look => do
    let r ← get
    set { r with pushed := none }
    let t ← match r.pushed with
      | some t => pure t
      | none => rawToken fuel
    match t with
    | .mark .newline =>
      if look.newlines then
        documents fuel
        token fuel look
      else return t
    | .word w =>
      match bareText? w with
      | none => return t
      | some text =>
        match (if look.reserved then Reserved.ofText? text else none) with
        | some r => return .reserved r
        | none =>
          let mayStand := look.aliases || expansionGoesOn (← get)
          if mayStand && !r.aliases.isEmpty && r.language == .posix then
            dropExpansions
            if ← expandAlias text then token fuel look else return t
          else return t
    | t => return t

/-- Reads a token that must be a certain one. -/
def expect : Nat → Token → Reader Unit
  | 0, _ => exhausted
  | fuel + 1, wanted => do
    let t ← token fuel {}
    let found := match wanted with
      | .mark m => t.isMark m
      | .reserved r => t.isReserved r
      | _ => false
    unless found do unexpected t (some wanted)

/-- Reads the texts that a line has asked for. -/
def documents : Nat → Reader Unit
  | 0 => exhausted
  | fuel + 1 => do
    let r ← get
    match r.awaited with
    | [] => return
    | asked :: more =>
      let (text, behind, lines) := untilLine asked (r.rest.length + 1) false r.rest
      set { r with awaited := more }
      let body ←
        if asked.expanded then inText text r.line (pieces fuel .document)
        else pure [.quoted text]
      modify fun s =>
        { s with
          rest := behind
          line := r.line + lines
          documents := (asked.number, fuse body) :: s.documents }
      documents fuel

/-- Reads commands one after the other, behind those that are given. -/
def commands : Nat → ListKind → Option Command → Reader (Option Command)
  | 0, _, _ => exhausted
  | fuel + 1, kind, sofar => do
    let isLine := kind == .line
    let t ← token fuel { Look.command with newlines := !isLine }
    if t.isMark .newline then
      documents fuel
      return sofar
    if t.isMark .endOfFile then
      documents fuel
      push t
      return sofar
    push t
    if kind == .any && t.endsList then return sofar
    let next ← conditional fuel
    let t ← token fuel {}
    let next := if t.isMark .background then .background next else next
    let all := some (sequence sofar next)
    let kind := if isLine then .line else .any
    match t with
    | .mark .endOfFile =>
      documents fuel
      push t
      return all
    | .mark .newline =>
      push t
      commands fuel kind all
    | .mark .background => commands fuel kind all
    | .mark .semicolon => commands fuel kind all
    | t =>
      if isLine then unexpected t none
      push t
      return all

/-- Reads the commands of a body. -/
def body : Nat → Reader Command
  | 0 => exhausted
  | fuel + 1 => return (← commands fuel .some none).getD .nothing

/-- Reads pipelines that depend on each other's success. -/
def conditional : Nat → Reader Command
  | 0 => exhausted
  | fuel + 1 => do
    let first ← pipeline fuel {}
    dependents fuel first

/-- Reads the pipelines that depend on a command's success. -/
def dependents : Nat → Command → Reader Command
  | 0, _ => exhausted
  | fuel + 1, first => do
    let t ← token fuel {}
    if t.isMark .andThen then
      let second ← pipeline fuel .laterCommand
      dependents fuel (.andThen first second)
    else if t.isMark .orElse then
      let second ← pipeline fuel .laterCommand
      dependents fuel (.orElse first second)
    else
      push t
      return first

/-- Reads commands that read from each other. -/
def pipeline : Nat → Look → Reader Command
  | 0, _ => exhausted
  | fuel + 1, look => do
    let t ← token fuel look
    let isNegated := t.isReserved .notWord
    unless isNegated do push t
    let stages ← stages fuel (if isNegated then .command else {})
    let all : Command := match stages with
      | [command] => command
      | commands => .pipeline commands
    return if isNegated then .negated all else all

/-- Reads the commands of a pipeline. -/
def stages : Nat → Look → Reader (List Command)
  | 0, _ => exhausted
  | fuel + 1, look => do
    let first ← command fuel look
    let t ← token fuel {}
    if t.isMark .pipe then return first :: (← stages fuel .laterCommand)
    else if t.isMark .pipeAll then
      let line := (← get).line
      let first := Command.block line false first [.same 2 [.bare ['1']]]
      return first :: (← stages fuel .laterCommand)
    else
      push t
      return [first]

/-- Reads one command. -/
def command : Nat → Look → Reader Command
  | 0, _ => exhausted
  | fuel + 1, look => do
    let line := (← get).line
    let t ← token fuel look
    let asBlock (c : Command) : Reader Command := do
      let redirections ← redirections fuel
      return if redirections.isEmpty then c else .block line false c redirections
    match t with
    | .reserved .ifWord =>
      let choice ← choices fuel
      expect fuel (.reserved .fiWord)
      asBlock choice
    | .reserved .whileWord => asBlock (← loop fuel true)
    | .reserved .untilWord => asBlock (← loop fuel false)
    | .reserved .forWord => asBlock (← forLoop fuel line)
    | .reserved .caseWord => asBlock (← selection fuel line)
    | .mark .openParen =>
      if (← isBash) && (← get).rest.head? == some '(' then
        discard (accept '(')
        let e ← pieces fuel (.expression 0)
        asBlock (.arithmetic line (fuse e))
      else
        let inside ← body fuel
        expect fuel (.mark .closeParen)
        return .block line true inside (← redirections fuel)
    | .reserved .openBrace =>
      let inside ← body fuel
      expect fuel (.reserved .closeBrace)
      asBlock inside
    | .word w =>
      let special := if ← isBash then bareText? w else none
      match special.map String.ofList with
      | some "[[" =>
        let test ← test fuel
        closeTest
        asBlock (.test line test)
      | some "function" =>
        match ← token fuel {} with
        | .word name =>
          let t ← token fuel {}
          if t.isMark .openParen then expect fuel (.mark .closeParen) else push t
          return .define (spelled name) (← command fuel .laterCommand)
        | t => unexpected t none
      | _ =>
        push t
        simple fuel (← get).line [] [] []
    | .arrow .. =>
      push t
      simple fuel (← get).line [] [] []
    | t => unexpected t none

/-- Reads alternatives in a test. -/
def test : Nat → Reader Test
  | 0 => exhausted
  | fuel + 1 => do
    let first ← testTerms fuel
    if ← takesMark "||" then return .either first (← test fuel) else return first

/-- Reads conditions in a test that all have to hold. -/
def testTerms : Nat → Reader Test
  | 0 => exhausted
  | fuel + 1 => do
    let first ← testTerm fuel
    if ← takesMark "&&" then return .both first (← testTerms fuel) else return first

/-- Reads one condition in a test. -/
def testTerm : Nat → Reader Test
  | 0 => exhausted
  | fuel + 1 => do
    let cs ← testRest
    if ["! ", "!\t", "!(", "!\n"].any fun m => m.toList.isPrefixOf cs then
      discard (takesMark "!")
      return .negation (← testTerm fuel)
    else if ← takesMark "(" then
      let inside ← test fuel
      unless ← takesMark ")" do unexpected (.word []) none
      return inside
    else
      let w ← word fuel
      if w.isEmpty then unexpected (.word [.bare ((← testRest).take 1)]) none
      if ← testEnds then return .unary "-n".toList w
      match (bareText? w).filter isTestOperator with
      | some operator =>
        let next ← testRest
        let isBinary := testOperators.any fun o => (o.toList ++ [' ']).isPrefixOf next
        if isBinary then compared fuel w else
          return .unary operator (← word fuel)
      | none => compared fuel w

/-- Reads the operator behind the first word of a comparison, and the other word. -/
def compared : Nat → Word → Reader Test
  | 0, _ => exhausted
  | fuel + 1, w => do
    let cs ← testRest
    match testOperators.find? fun o => o.toList.isPrefixOf cs with
    | none => unexpected (.word [.bare (cs.takeWhile fun c => !isDelimiter c)]) none
    | some operator =>
      setRest (cs.drop operator.length)
      discard testRest
      let scope := if operator == "=~" then Scope.regex 0 else .word
      return .binary operator.toList w (fuse (← pieces fuel scope))

/-- Reads the condition and the body of a loop. -/
def loop : Nat → Bool → Reader Command
  | 0, _ => exhausted
  | fuel + 1, whileSucceeds => do
    let condition ← body fuel
    expect fuel (.reserved .doWord)
    let inside ← body fuel
    expect fuel (.reserved .doneWord)
    return .loop whileSucceeds condition inside

/-- Reads the conditions and branches of a choice. -/
def choices : Nat → Reader Command
  | 0 => exhausted
  | fuel + 1 => do
    let condition ← body fuel
    expect fuel (.reserved .thenWord)
    let yes ← body fuel
    let t ← token fuel {}
    match t with
    | .reserved .elifWord => return .choice condition yes (← choices fuel)
    | .reserved .elseWord => return .choice condition yes (← body fuel)
    | t =>
      push t
      return .choice condition yes .nothing

/-- Reads the name, words and body of a loop over words. -/
def forLoop : Nat → Nat → Reader Command
  | 0, _ => exhausted
  | fuel + 1, line => do
    let t ← token fuel {}
    if t.isMark .openParen && (← isBash) && (← accept '(') then
      let e ← pieces fuel (.expression 0)
      match expressionParts (fuse e) with
      | [first, condition, next] => return ← counted fuel line first condition next
      | _ => unexpected t none
    let name ← match t with
      | .word w => pure ((bareText? w).filter isName)
      | _ => pure none
    match name with
    | none => fail .badLoopVariable
    | some name =>
      let t ← token fuel .laterCommand
      let words ←
        if t.isReserved .inWord then
          let words ← wordList fuel
          let t ← token fuel {}
          unless t.isMark .newline || t.isMark .semicolon do unexpected t none
          if t.isMark .newline then push t
          pure (some words)
        else
          unless t.isMark .semicolon do push t
          pure none
      let t ← token fuel .laterCommand
      unless t.isReserved .doWord do unexpected t (some (.reserved .doWord))
      let inside ← body fuel
      expect fuel (.reserved .doneWord)
      return .forEach line name words inside

/-- Reads the body of a loop with expressions. -/
def counted : Nat → Nat → Word → Word → Word → Reader Command
  | 0, _, _, _, _ => exhausted
  | fuel + 1, line, first, condition, next => do
    let t ← token fuel .laterCommand
    let t ← if t.isMark .semicolon then token fuel .laterCommand else pure t
    let closing := if t.isReserved .openBrace then Reserved.closeBrace else .doneWord
    unless t.isReserved .doWord || t.isReserved .openBrace do
      unexpected t (some (.reserved .doWord))
    let inside ← body fuel
    expect fuel (.reserved closing)
    return .count line first condition next inside

/-- Reads words as long as there are any. -/
def wordList : Nat → Reader (List Word)
  | 0 => exhausted
  | fuel + 1 => do
    match ← token fuel {} with
    | .word w =>
      let ws ← wordsOf w
      return ws ++ (← wordList fuel)
    | t =>
      push t
      return []

/-- Reads the word and the arms of a selection. -/
def selection : Nat → Nat → Reader Command
  | 0, _ => exhausted
  | fuel + 1, line => do
    match ← token fuel {} with
    | .word w =>
      let t ← token fuel .laterCommand
      unless t.isReserved .inWord do unexpected t (some (.reserved .inWord))
      return .select line w (← arms fuel line w)
    | t => unexpected t (some (.word []))

/-- Reads the arms of a selection and its end. An arm may go on with the body of the next one,
or with a selection among those behind it. -/
def arms : Nat → Nat → Word → Reader (List (List Word × Command))
  | 0, _, _ => exhausted
  | fuel + 1, line, w => do
    let look : Look := { newlines := true, reserved := true }
    let t ← token fuel look
    if t.isReserved .esacWord then return []
    let first ← if t.isMark .openParen then token fuel {} else pure t
    let patterns ← patterns fuel first
    let inside := (← commands fuel .any none).getD .nothing
    let t ← token fuel look
    if t.isReserved .esacWord then return [(patterns, inside)]
    else if t.isMark .endArm then return (patterns, inside) :: (← arms fuel line w)
    else if t.isMark .fallThrough then
      let more ← arms fuel line w
      let next := (more.head?.map (·.2)).getD .nothing
      return (patterns, .sequence inside next) :: more
    else if t.isMark .endTest then
      let more ← arms fuel line w
      return (patterns, .sequence inside (.select line w more)) :: more
    else unexpected t (some (.mark .endArm))

/-- Reads the patterns of an arm and the parenthesis behind them. -/
def patterns : Nat → Token → Reader (List Word)
  | 0, _ => exhausted
  | fuel + 1, first => do
    let t ← token fuel {}
    if t.isMark .pipe then return first.asWord :: (← patterns fuel (← token fuel {}))
    else if t.isMark .closeParen then return [first.asWord]
    else unexpected t (some (.mark .closeParen))

/-- Reads the rest of a simple command, whose parts read so far come last first. -/
def simple : Nat → Nat → List Assignment → List Word → List Redirection → Reader Command
  | 0, _, _, _, _ => exhausted
  | fuel + 1, line, assignments, words, redirections => do
    let finished : Command :=
      .simple line assignments.reverse words.reverse redirections.reverse
    match ← token fuel { aliases := words.isEmpty } with
    | .word w =>
      let r ← get
      let declares := (words.getLast?.bind bareText?).any fun text =>
        declarers.contains (String.ofList text)
      match (if words.isEmpty || declares then assignmentIn? r.language w else none) with
      | none => simple fuel line assignments ((← wordsOf w).reverse ++ words) redirections
      | some a =>
        match a, r.language, r.rest with
        | .value name none appends [], .bash, '(' :: behind =>
          setRest behind
          let list := Assignment.list name appends (← elements fuel)
          if words.isEmpty then simple fuel line (list :: assignments) words redirections
          else
            let first ← simple fuel line assignments ([.bare name] :: words) redirections
            return .sequence first (.simple line [list] [] [])
        | a, _, _ =>
          if words.isEmpty then simple fuel line (a :: assignments) words redirections
          else simple fuel line assignments (w :: words) redirections
    | .arrow descriptor a =>
      let r ← redirection fuel descriptor a
      simple fuel line assignments words (r :: redirections)
    | .mark .openParen =>
      match words, assignments, redirections with
      | [name], [], [] => function fuel name
      | _, _, _ =>
        push (.mark .openParen)
        return finished
    | t =>
      push t
      return finished

/-- Reads the elements of a list and the parenthesis behind them. -/
def elements : Nat → Reader (List (Option Word × Word))
  | 0 => exhausted
  | fuel + 1 => do
    match ← token fuel { newlines := true } with
    | .mark .closeParen => return []
    | .word (.bare ('[' :: text) :: rest) =>
      match bracketed? (textBefore text rest) with
      | some (index, .bare ('=' :: value) :: more) =>
        return (some index, textBefore value more) :: (← elements fuel)
      | _ => return (none, .bare ('[' :: text) :: rest) :: (← elements fuel)
    | .word w =>
      let ws ← wordsOf w
      return (ws.map fun w => (none, w)) ++ (← elements fuel)
    | t => unexpected t none

/-- Reads the definition of a function behind its name and a parenthesis. -/
def function : Nat → Word → Reader Command
  | 0, _ => exhausted
  | fuel + 1, name => do
    expect fuel (.mark .closeParen)
    let bash ← isBash
    match (bareText? name).filter fun text =>
        bash || (isName text && !reservedNames.contains (String.ofList text)) with
    | none => fail .badFunctionName
    | some text => return .define text (← command fuel .laterCommand)

/-- Reads redirections. -/
def redirections : Nat → Reader (List Redirection)
  | 0 => exhausted
  | fuel + 1 => do
    match ← token fuel .command with
    | .arrow descriptor a =>
      let r ← redirection fuel descriptor a
      return r :: (← redirections fuel)
    | t =>
      push t
      return []

/-- Reads the word of a redirection. -/
def redirection : Nat → Nat → Arrow → Reader Redirection
  | 0, _, _ => exhausted
  | fuel + 1, descriptor, a => do
    match ← token fuel {} with
    | .word w =>
      match a with
      | .file opening => return .file descriptor opening w
      | .same =>
        let leadsAway := match bareText? w with
          | some text => !(text == ['-'] || text.all Char.isDigit)
          | none => false
        if leadsAway && descriptor == 1 && (← isBash) then return .both .overwrite w
        else return .same descriptor w
      | .text => return .text descriptor w
      | .both opening => return .both opening w
      | .document dropsTabs =>
        let r ← get
        let number := r.nextDocument
        let asked : Awaited := ⟨number, delimiterOf w, !isQuoted w, dropsTabs⟩
        set { r with awaited := r.awaited ++ [asked], nextDocument := number + 1 }
        return .document descriptor number
    | t => unexpected t none

end

/-- Enough fuel for a text. -/
def fuelFor (r : Reading) : Nat :=
  let aliasLengths := r.aliases.foldl (fun n a => n + a.2.length) 0
  16 * (r.rest.length + aliasLengths) + 400

end Reader

/-- The next line of commands of a script that holds any: nothing, where none is left. The
fuel bounds how many lines hold none. -/
def nextCommandWithin : Nat → Reading → Except SyntaxError (Option Command × Reading)
  | 0, r => .ok (none, r)
  | fuel + 1, r =>
    let r := { r with pushed := none, awaited := [] }
    match (Reader.commands (Reader.fuelFor r) .line none).run r with
    | .error e => .error e
    | .ok (some command, r) => .ok (some command, r)
    | .ok (none, r) => if r.rest.isEmpty then .ok (none, r) else nextCommandWithin fuel r

/-- The next line of commands of a script. -/
def nextCommand (r : Reading) : Except SyntaxError (Option Command × Reading) :=
  nextCommandWithin (r.rest.length + 1) r

end EditorAnalysis.Shell
