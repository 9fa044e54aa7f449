/-
EditorAnalysis.Shell.Tool.Awk.Lexer — the words of a program that looks at records.

Whether a slash divides or begins a pattern is decided by the word in front of it. A
parenthesis or a brace that closes nothing is left out, and noticed.
-/
import EditorAnalysis.Shell.Grammar
import EditorAnalysis.Shell.Tool.Awk.Program

namespace EditorAnalysis.Shell.Awk

open Text (Octets)

/-- A word of a program. -/
inductive Token where
  /-- A number. -/
  | number (r : Real) (text : Octets)
  /-- A text. -/
  | text (cs : Octets)
  /-- A pattern, and how it was written. -/
  | regex (r : Regex) (source : Octets)
  /-- A name. -/
  | name (cs : Octets)
  /-- A name right in front of a parenthesis. -/
  | callee (cs : Octets)
  /-- The name of a function that every program has. -/
  | builtin (b : Builtin)
  /-- A word with a meaning of its own. -/
  | keyword (w : String)
  /-- A mark. -/
  | mark (m : String)
  /-- The end of a line. -/
  | newline
  /-- The end of everything. -/
  | finish
  /-- Something that is no word, and what is said of it. -/
  | fault (text : Octets)

/-- A word, its line, and what was noticed in front of it. -/
structure Lexeme where
  /-- The line. -/
  line : Nat
  /-- The word. -/
  token : Token
  /-- What was noticed. -/
  notices : List Octets := []

namespace Token

/-- The word, as it is named in a complaint. -/
def shown : Token → Octets
  | number _ source => source
  | .text cs => cs
  | regex _ source => '/' :: source ++ ['/']
  | name cs => cs
  | callee cs => cs
  | builtin b => b.name.toList
  | keyword w => w.toList
  | mark m => m.toList
  | newline => "end of line".toList
  | finish => "end of file".toList
  | fault complaint => complaint

/-- The word is a certain mark. -/
def isMark (t : Token) (m : String) : Bool :=
  match t with
  | mark n => m == n
  | _ => false

/-- The word is a certain word with a meaning. -/
def isKeyword (t : Token) (w : String) : Bool :=
  match t with
  | keyword v => v == w
  | _ => false

/-- A slash behind the word divides. -/
def endsOperand : Token → Bool
  | number _ _ => true
  | .text _ => true
  | name _ => true
  | builtin _ => true
  | mark m => [")", "]", "$", "++", "--"].contains m
  | _ => false

end Token

namespace Lexer

/-- The words with meanings of their own. -/
def keywords : List String :=
  ["BEGIN", "END", "function", "if", "else", "while", "for", "do", "in", "break", "continue",
    "next", "nextfile", "exit", "return", "delete", "print", "printf", "getline"]

/-- The marks, those first that begin with others. -/
def marks : List String :=
  ["&&", "||", "++", "--", "+=", "-=", "*=", "/=", "%=", "^=", "==", "<=", ">=", "!=", "!~",
    ">>", "\x7b", "\x7d", "(", ")", "[", "]", ";", ",", "+", "-", "*", "/", "%", "^", "!", "<",
    ">", "|", "?", ":", "~", "$", "="]

/-- What a text between quotes stands for, whose escapes are spelled out. -/
def unescaped : Nat → Octets → Octets
  | 0, cs => cs
  | _, [] => []
  | fuel + 1, '\\' :: rest =>
    match rest with
    | [] => ['\\']
    | '\n' :: rest => unescaped fuel rest
    | '"' :: rest => '"' :: unescaped fuel rest
    | c :: behind =>
      match (if c == 'e' then none else Format.letter? c) with
      | some d => d :: unescaped fuel behind
      | none =>
        let octal := (rest.takeWhile Numeral.isOctal).take 3
        let hex := (behind.takeWhile Numeral.isHex).take 2
        if !octal.isEmpty then
          Format.byte (Numeral.valueIn 8 octal) :: unescaped fuel (rest.drop octal.length)
        else if c == 'x' && !hex.isEmpty then
          Format.byte (Numeral.valueIn 16 hex) :: unescaped fuel (behind.drop hex.length)
        else '\\' :: c :: unescaped fuel behind
  | fuel + 1, c :: rest => c :: unescaped fuel rest

/-- What a text between quotes stands for. -/
def unescape (cs : Octets) : Octets := unescaped (cs.length + 1) cs

/-- The text up to a quote, and what follows the quote, if it stands on the line. -/
def quoted? : Octets → Option (Octets × Octets)
  | [] => none
  | '"' :: rest => some ([], rest)
  | '\n' :: _ => none
  | '\\' :: c :: rest => (quoted? rest).map fun (text, behind) => ('\\' :: c :: text, behind)
  | c :: rest => (quoted? rest).map fun (text, behind) => (c :: text, behind)

/-- Where a character of a pattern stands. -/
inductive Ground where
  /-- Outside of brackets. -/
  | open
  /-- At the beginning of brackets. -/
  | first
  /-- In brackets. -/
  | inside
deriving DecidableEq

/-- Where the character behind one stands. -/
def Ground.behind (c : Char) : Ground → Ground
  | .open => if c == '[' then .first else .open
  | .first => if c == '^' then .first else .inside
  | .inside => if c == ']' then .open else .inside

/-- The pattern up to a slash, and what follows the slash, if it stands on the line. -/
def slashed? (g : Ground) : Octets → Option (Octets × Octets)
  | [] => none
  | '\n' :: _ => none
  | '\\' :: c :: rest =>
    (slashed? g rest).map fun (text, behind) =>
      (if c == '/' then c :: text else '\\' :: c :: text, behind)
  | c :: rest =>
    if c == '/' && g == .open then some ([], rest)
    else (slashed? (g.behind c) rest).map fun (text, behind) => (c :: text, behind)

/-- How patterns are written. -/
def dialect : Regex.Dialect := { extended := true, escaping := .everywhere, wantsOperands := true }

/-- What is said of a problem with a pattern. -/
def problemText (p : Regex.Problem) (source : Octets) : Octets :=
  let reason := match p with
    | .nothingRepeated => "missing operand"
    | .openParen => "missing ')'"
    | .openBracket => "bad class -- [], [^] or ["
    | p => p.message
  ("regular expression compile failed (" ++ reason ++ ")\n").toList ++ source

/-- The number at the beginning of a text, as far as it is one, and what follows it. -/
def number (cs : Octets) : Octets × Octets :=
  let whole := cs.takeWhile Char.isDigit
  let rest := cs.drop whole.length
  let (fraction, rest) := match rest with
    | '.' :: rest =>
      let digits := rest.takeWhile Char.isDigit
      ('.' :: digits, rest.drop digits.length)
    | rest => ([], rest)
  let (exponent, rest) := match rest with
    | e :: rest =>
      let (sign, digits) := match rest with
        | '+' :: more => (['+'], more.takeWhile Char.isDigit)
        | '-' :: more => (['-'], more.takeWhile Char.isDigit)
        | more => ([], more.takeWhile Char.isDigit)
      if (e == 'e' || e == 'E') && !digits.isEmpty then
        (e :: sign ++ digits, rest.drop (sign.length + digits.length))
      else ([], e :: rest)
    | [] => ([], [])
  (whole ++ fraction ++ exponent, rest)

/-- A word that is a name, in front of some text. -/
def nameToken (name rest : Octets) : Token :=
  let text := String.ofList name
  if keywords.contains text then .keyword text
  else match Builtin.all.lookup text with
    | some b => .builtin b
    | none => if rest.head? == some '(' then .callee name else .name name

/-- A part of a line that is no word, as a complaint shows it. -/
def runaway (kind : String) (line : Nat) (text : Octets) : Token :=
  .fault (("line " ++ toString line ++ ": runaway " ++ kind ++ " ").toList
    ++ text.takeWhile (· != '\n') ++ " ...".toList)

/-- The first word of a text that begins with no blank, and what follows it. -/
def word (line : Nat) (afterOperand : Bool) (c : Char) (rest : Octets) : Token × Octets :=
  let cs := c :: rest
  if isNameStart c then
    let name := cs.takeWhile isNameChar
    let behind := cs.drop name.length
    (nameToken name behind, behind)
  else if c.isDigit || (c == '.' && rest.head?.any Char.isDigit) then
    let (text, behind) := number cs
    (.number (Value.numberIn text) text, behind)
  else if c == '"' then
    match quoted? rest with
    | some (text, behind) => (.text (unescape text), behind)
    | none => (runaway "string constant" line cs, [])
  else if c == '/' && !afterOperand then
    match slashed? .open rest with
    | none => (runaway "regular expression" line cs, [])
    | some (source, behind) =>
      match Regex.ofText dialect source with
      | .ok r => (.regex r source, behind)
      | .error p =>
        (.fault (("line " ++ toString line ++ ": ").toList ++ problemText p source), [])
  else match marks.find? fun m => m.toList.isPrefixOf cs with
    | some m => (.mark m, cs.drop m.length)
    | none =>
      (.fault ((toString line ++ ": unexpected character '").toList ++ [c, '\'']), [])

/-- What a reading has come to. -/
structure Scan where
  /-- The line. -/
  line : Nat := 1
  /-- The word before. -/
  last : Token := .newline
  /-- Parentheses that are open. -/
  parens : Nat := 0
  /-- Braces that are open. -/
  braces : Nat := 0
  /-- What was noticed since then. -/
  notices : List Octets := []

namespace Scan

/-- What was noticed, latest last, with something more. -/
def notice (s : Scan) (text : String) : Scan :=
  { s with notices := s.notices ++ [("line " ++ toString s.line ++ ": " ++ text).toList] }

/-- The state behind a word. -/
def after (s : Scan) (t : Token) : Scan :=
  let shift (n : Nat) (up down : String) : Nat :=
    if t.isMark up then n + 1 else if t.isMark down then n - 1 else n
  { s with last := t, notices := [], parens := shift s.parens "(" ")"
           braces := shift s.braces "\x7b" "\x7d" }

/-- The word closes nothing. -/
def isExtra (s : Scan) (t : Token) : Bool :=
  (t.isMark ")" && s.parens == 0) || (t.isMark "\x7d" && s.braces == 0)

end Scan

/-- The words of a text. -/
def scan : Nat → Scan → Octets → List Lexeme
  | 0, s, _ => [⟨s.line, .finish, s.notices⟩]
  | _, s, [] => [⟨s.line, .finish, s.notices⟩]
  | fuel + 1, s, c :: rest =>
    if c == ' ' || c == '\t' || c == '\r' || c.toNat == 11 || c.toNat == 12 then
      scan fuel s rest
    else if c == '#' then scan fuel s (rest.dropWhile (· != '\n'))
    else if c == '\\' && rest.head? == some '\n' then
      scan fuel { s with line := s.line + 1 } (rest.drop 1)
    else if c == '\n' then
      ⟨s.line, .newline, s.notices⟩ ::
        scan fuel { s.after .newline with line := s.line + 1 } rest
    else
      let (t, behind) := word s.line s.last.endsOperand c rest
      if s.isExtra t then
        scan fuel (s.notice ("extra '" ++ String.singleton c ++ "'")) behind
      else
        let lines := ((rest.take (rest.length - behind.length)).filter (· == '\n')).length
        ⟨s.line, t, s.notices⟩ :: scan fuel { s.after t with line := s.line + lines } behind

/-- The words of a program. -/
def lexemes (text : Octets) : List Lexeme := scan (text.length + 2) {} (text ++ ['\n'])

end Lexer

end EditorAnalysis.Shell.Awk
