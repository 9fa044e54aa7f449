/-
EditorAnalysis.Shell.Token — the tokens of a script, and what may be wrong with
their order.

A script is read token by token: words, operators, ends of lines. A word is a
reserved one only where the grammar looks for one. `SyntaxError` names the causes
for which a script is not read further.
-/
import EditorAnalysis.Shell.Grammar

namespace EditorAnalysis.Shell

open Text (Octets)

/-! ## Tokens -/

/-- The words that the grammar reserves. -/
inductive Reserved where
  | notWord
  | caseWord
  | doWord
  | doneWord
  | elifWord
  | elseWord
  | esacWord
  | fiWord
  | forWord
  | ifWord
  | inWord
  | thenWord
  | untilWord
  | whileWord
  | openBrace
  | closeBrace
deriving DecidableEq, Repr

namespace Reserved

/-- All of them. -/
def all : List Reserved :=
  [notWord, caseWord, doWord, doneWord, elifWord, elseWord, esacWord, fiWord, forWord, ifWord,
    inWord, thenWord, untilWord, whileWord, openBrace, closeBrace]

/-- A reserved word as it is written. -/
def text : Reserved → String
  | notWord => "!"
  | caseWord => "case"
  | doWord => "do"
  | doneWord => "done"
  | elifWord => "elif"
  | elseWord => "else"
  | esacWord => "esac"
  | fiWord => "fi"
  | forWord => "for"
  | ifWord => "if"
  | inWord => "in"
  | thenWord => "then"
  | untilWord => "until"
  | whileWord => "while"
  | openBrace => "\x7b"
  | closeBrace => "\x7d"

/-- The reserved word that is written so. -/
def ofText? (text : Octets) : Option Reserved := all.find? fun r => r.text.toList == text

/-- The word ends a list of commands. -/
def endsList (r : Reserved) : Bool :=
  [doWord, doneWord, elifWord, elseWord, esacWord, fiWord, thenWord, closeBrace].contains r

end Reserved

/-- Operators and ends. -/
inductive Mark where
  /-- The end of the script. -/
  | endOfFile
  /-- The end of a line. -/
  | newline
  /-- One after the other. -/
  | semicolon
  /-- At the same time. -/
  | background
  /-- If the one before succeeds. -/
  | andThen
  /-- If the one before fails. -/
  | orElse
  /-- Reading what the one before writes. -/
  | pipe
  /-- Reading what the one before writes, its diagnostics too. -/
  | pipeAll
  /-- An opening parenthesis. -/
  | openParen
  /-- A closing parenthesis. -/
  | closeParen
  /-- The end of an arm. -/
  | endArm
  /-- The end of an arm behind which the next one is performed. -/
  | fallThrough
  /-- The end of an arm behind which others are tried. -/
  | endTest
deriving DecidableEq, Repr

namespace Mark

/-- A mark in a complaint. -/
def text : Mark → String
  | endOfFile => "end of file"
  | newline => "newline"
  | semicolon => "\";\""
  | background => "\"&\""
  | andThen => "\"&&\""
  | orElse => "\"||\""
  | pipe => "\"|\""
  | pipeAll => "\"|&\""
  | openParen => "\"(\""
  | closeParen => "\")\""
  | endArm => "\";;\""
  | fallThrough => "\";&\""
  | endTest => "\";;&\""

/-- A mark in a complaint of bash. -/
def symbol (m : Mark) : String := String.ofList (m.text.toList.filter (· != '"'))

/-- The mark ends a list of commands. -/
def endsList (m : Mark) : Bool := [endOfFile, closeParen, endArm, fallThrough, endTest].contains m

end Mark

/-- What a redirection does to its descriptor. -/
inductive Arrow where
  /-- Leads it to a file or from one. -/
  | file (opening : Opening)
  /-- Leads it where another one leads. -/
  | same
  /-- Lets it read a text in the script, perhaps without the tabs before its lines. -/
  | document (dropsTabs : Bool)
  /-- Lets it read the text of a word. -/
  | text
  /-- Leads it and the diagnostics to a file. -/
  | both (opening : Opening)
deriving DecidableEq, Repr

/-- A token. -/
inductive Token where
  /-- An operator or an end. -/
  | mark (m : Mark)
  /-- A reserved word. -/
  | reserved (r : Reserved)
  /-- The beginning of a redirection of a descriptor. -/
  | arrow (descriptor : Nat) (a : Arrow)
  /-- A word. -/
  | word (w : Word)

instance : Inhabited Token := ⟨.mark .endOfFile⟩

namespace Token

/-- The token is a mark. -/
def isMark (m : Mark) : Token → Bool
  | mark n => m == n
  | _ => false

/-- The token is a reserved word. -/
def isReserved (r : Reserved) : Token → Bool
  | reserved s => r == s
  | _ => false

/-- The token ends a list of commands. -/
def endsList : Token → Bool
  | mark m => m.endsList
  | reserved r => r.endsList
  | _ => false

/-- The token in a complaint. -/
def text : Token → String
  | mark m => m.text
  | reserved r => "\"" ++ r.text ++ "\""
  | arrow .. => "redirection"
  | word _ => "word"

/-- The token in a complaint of bash. -/
def symbol : Token → Octets
  | mark m => m.symbol.toList
  | reserved r => r.text.toList
  | arrow _ a => match a with
    | .file .write => ['>']
    | .file .read => ['<']
    | .file .append => ['>', '>']
    | .document _ => ['<', '<']
    | .text => ['<', '<', '<']
    | _ => ['>', '&']
  | word w => spelled w

/-- The token as a word: a reserved one stands for itself. -/
def asWord : Token → Word
  | word w => w
  | reserved r => [.bare r.text.toList]
  | _ => []

end Token

/-! ## Errors -/

/-- What is wrong with a script. -/
inductive SyntaxProblem where
  /-- A token stands where it cannot, perhaps in the place of another. -/
  | unexpected (found : Token) (wanted : Option Token)
  /-- Quotes are not closed. -/
  | openQuotes (mark : Char)
  /-- The braces of a parameter are not closed. -/
  | openBraces
  /-- The parentheses of an expression are not closed. -/
  | openExpression
  /-- The backquotes of a command are not closed. -/
  | openBackquotes
  /-- A loop is over something that is no name. -/
  | badLoopVariable
  /-- A function has a name that it cannot have. -/
  | badFunctionName
  /-- A descriptor is no number. -/
  | badDescriptor

namespace SyntaxProblem

/-- The wording. -/
def message : SyntaxProblem → String
  | unexpected found none => found.text ++ " unexpected"
  | unexpected found (some wanted) =>
    found.text ++ " unexpected (expecting " ++ wanted.text ++ ")"
  | openQuotes _ => "Unterminated quoted string"
  | openBraces => "Missing '\x7d'"
  | openExpression => "Missing '))'"
  | openBackquotes => "EOF in backquote substitution"
  | badLoopVariable => "Bad for loop variable"
  | badFunctionName => "Bad function name"
  | badDescriptor => "Bad fd number"

/-- The wording of bash, where the line on which it was found has a text. -/
def bashMessages (line : Octets) : SyntaxProblem → List Octets
  | unexpected (.mark .endOfFile) _ => ["syntax error: unexpected end of file".toList]
  | unexpected found _ =>
    ["syntax error near unexpected token \x60".toList ++ found.symbol ++ ['\''],
      '\x60' :: line ++ ['\'']]
  | openQuotes mark => [unmatched mark]
  | openBraces => [unmatched '\x7d']
  | openExpression => [unmatched ')']
  | openBackquotes => [unmatched '\x60']
  | badLoopVariable => ["not a valid identifier".toList]
  | badFunctionName => ["not a valid identifier".toList]
  | badDescriptor => ["bad file descriptor".toList]
where
  /-- Something is not closed. -/
  unmatched (mark : Char) : Octets :=
    "unexpected EOF while looking for matching \x60".toList ++ [mark, '\'']

end SyntaxProblem

/-- A problem and the line on which it was found. -/
structure SyntaxError where
  /-- What is wrong. -/
  problem : SyntaxProblem
  /-- The line. -/
  line : Nat

end EditorAnalysis.Shell
