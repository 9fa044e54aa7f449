/-
EditorAnalysis.Shell.Grammar — the commands of the shell languages.

The language of POSIX is the smaller one; that of bash has lists, tests and more.

A word is a list of pieces; expansion makes fields of it. What a piece yields is
split into fields and matched against file names unless it is quoted. Commands carry
the line on which they stand, for complaints.
-/
import EditorAnalysis.Text.Octets

namespace EditorAnalysis.Shell

open Text (Octets)

/-- A language of shells. -/
inductive Language where
  /-- The one of POSIX. -/
  | posix
  /-- The one of bash. -/
  | bash
deriving DecidableEq, Repr

/-- How a file is opened. -/
inductive Opening where
  /-- For writing, from the beginning; it must not be there if files are kept. -/
  | write
  /-- For writing, from the beginning, in any case. -/
  | overwrite
  /-- For writing at its end. -/
  | append
  /-- For reading. -/
  | read
  /-- For reading and writing. -/
  | readWrite
deriving DecidableEq, Repr

mutual

/-- A part of a word. -/
inductive Piece where
  /-- Text outside quotes. -/
  | bare (text : Octets)
  /-- Text in quotes. -/
  | quoted (text : Octets)
  /-- The value of a parameter. -/
  | parameter (inQuotes : Bool) (name : Octets) (use : Use)
  /-- What a command writes. -/
  | output (inQuotes : Bool) (command : Command)
  /-- The value of an arithmetic expression. -/
  | arithmetic (inQuotes : Bool) (expression : List Piece)
  /-- An element of a list, or all of them. -/
  | element (inQuotes : Bool) (name : Octets) (index : List Piece) (use : Use)
  /-- The indices of a list. -/
  | indices (inQuotes : Bool) (name : Octets)
  /-- The value of the parameter that the value of another one names. -/
  | indirect (inQuotes : Bool) (name : Octets) (use : Use)
  /-- The path of a file that holds what a command writes. -/
  | place (command : Command)

/-- How a parameter's value is used. The flag `orEmpty` says whether an empty value
counts as none. -/
inductive Use where
  /-- As it is. -/
  | value
  /-- Its length. -/
  | length
  /-- A word in its place, if there is none. -/
  | otherwise (orEmpty : Bool) (word : List Piece)
  /-- A word in its place, which it takes as its value, if there is none. -/
  | assign (orEmpty : Bool) (word : List Piece)
  /-- A failure, if there is none. -/
  | require (orEmpty : Bool) (word : List Piece)
  /-- A word in its place, if there is one. -/
  | alternative (orEmpty : Bool) (word : List Piece)
  /-- Without what a pattern matches at one end. -/
  | cut (atEnd longest : Bool) (pattern : List Piece)
  /-- With letters in another case, all of them or the first. -/
  | cased (upper all : Bool)
  /-- Only a part of it. -/
  | part (start : List Piece) (length : Option (List Piece))
  /-- A word in the place of what a pattern matches: once or always, anywhere or at one end. -/
  | replaced (all : Bool) (anchor : Option Bool) (pattern word : List Piece)
  /-- As the shell reads it back, or in another way that a letter says. -/
  | transformed (letter : Char)
  /-- In a way that the language does not have. -/
  | unknown

/-- What a variable is given. -/
inductive Assignment where
  /-- A value, perhaps for an element of a list, perhaps behind the one it has. -/
  | value (name : Octets) (index : Option (List Piece)) (appends : Bool) (word : List Piece)
  /-- A list, perhaps behind the one it has. -/
  | list (name : Octets) (appends : Bool) (elements : List (Option (List Piece) × List Piece))

/-- A condition about words. -/
inductive Test where
  /-- An operator about a word. -/
  | unary (operator : Octets) (word : List Piece)
  /-- An operator between words. -/
  | binary (operator : Octets) (first second : List Piece)
  /-- The condition does not hold. -/
  | negation (t : Test)
  /-- Both hold. -/
  | both (first second : Test)
  /-- One holds. -/
  | either (first second : Test)

/-- Where a descriptor of a command leads. -/
inductive Redirection where
  /-- To a file or from one. -/
  | file (descriptor : Nat) (opening : Opening) (word : List Piece)
  /-- Where another descriptor leads. -/
  | same (descriptor : Nat) (word : List Piece)
  /-- From a text in the script, by its number. -/
  | document (descriptor : Nat) (number : Nat)
  /-- From the text of a word. -/
  | text (descriptor : Nat) (word : List Piece)
  /-- The output and the diagnostics to a file. -/
  | both (opening : Opening) (word : List Piece)

/-- A command. -/
inductive Command where
  /-- Assignments, words and redirections. -/
  | simple (line : Nat) (assignments : List Assignment)
      (words : List (List Piece)) (redirections : List Redirection)
  /-- Nothing at all. -/
  | nothing
  /-- One after the other. -/
  | sequence (first second : Command)
  /-- The second, if the first succeeds. -/
  | andThen (first second : Command)
  /-- The second, if the first fails. -/
  | orElse (first second : Command)
  /-- Success and failure exchanged. -/
  | negated (command : Command)
  /-- Each reads what the one before writes. -/
  | pipeline (commands : List Command)
  /-- At the same time as what follows. -/
  | background (command : Command)
  /-- One of two, by the success of a condition. -/
  | choice (condition yes no : Command)
  /-- Again and again while a condition succeeds, or fails. -/
  | loop (whileSucceeds : Bool) (condition body : Command)
  /-- Once for each word, or for each argument. -/
  | forEach (line : Nat) (name : Octets) (words : Option (List (List Piece))) (body : Command)
  /-- The first arm with a pattern that matches a word. -/
  | select (line : Nat) (word : List Piece) (arms : List (List (List Piece) × Command))
  /-- A body with redirections, perhaps in a shell of its own. -/
  | block (line : Nat) (ownShell : Bool) (body : Command) (redirections : List Redirection)
  /-- The definition of a function. -/
  | define (name : Octets) (body : Command)
  /-- A condition about words. -/
  | test (line : Nat) (t : Test)
  /-- An arithmetic expression. -/
  | arithmetic (line : Nat) (expression : List Piece)
  /-- A loop with arithmetic expressions before it, for it, and behind each round. -/
  | count (line : Nat) (first condition next : List Piece) (body : Command)

end

/-- A word. -/
abbrev Word := List Piece

instance : Inhabited Command := ⟨.nothing⟩

/-! ## Characters -/

/-- The characters that end a word. -/
def isDelimiter (c : Char) : Bool := " \t\n;&|<>()".toList.contains c

/-- The first character of a name. -/
def isNameStart (c : Char) : Bool := c.isAlpha || c == '_'

/-- The later characters of a name. -/
def isNameChar (c : Char) : Bool := c.isAlphanum || c == '_'

/-- A name of a variable. -/
def isName (name : Octets) : Bool :=
  match name with
  | [] => false
  | c :: rest => isNameStart c && rest.all isNameChar

/-- The parameters whose names are one character. -/
def specialParameters : Octets := ['!', '#', '$', '*', '-', '?', '@']

/-- A parameter has the character as its whole name. -/
def isSpecial (c : Char) : Bool := c.isDigit || specialParameters.contains c

/-! ## Words -/

/-- Joins neighbouring pieces of text. -/
def fuse : Word → Word
  | .bare a :: rest =>
    match fuse rest with
    | .bare b :: more => .bare (a ++ b) :: more
    | more => .bare a :: more
  | .quoted a :: rest =>
    match fuse rest with
    | .quoted b :: more => .quoted (a ++ b) :: more
    | more => .quoted a :: more
  | piece :: rest => piece :: fuse rest
  | [] => []

/-- The text of a word in which nothing is quoted or expanded. -/
def bareText? : Word → Option Octets
  | [] => some []
  | .bare text :: rest => (bareText? rest).map (text ++ ·)
  | _ => none

/-- A word as it may have been written. -/
def spelled : Word → Octets
  | [] => []
  | .bare text :: rest => text ++ spelled rest
  | .quoted text :: rest => '"' :: text ++ '"' :: spelled rest
  | .parameter _ name _ :: rest => '$' :: name ++ spelled rest
  | _ :: rest => spelled rest

/-- Some piece of the word is quoted. -/
def isQuoted (word : Word) : Bool :=
  word.any fun
    | .quoted _ => true
    | _ => false

/-- A text in front of a word. -/
def textBefore (text : Octets) (w : Word) : Word := if text.isEmpty then w else .bare text :: w

/-- A word that begins with a name and an equals sign, split there. -/
def assignment? : Word → Option (Octets × Word)
  | .bare text :: rest =>
    let name := text.takeWhile isNameChar
    match text.drop name.length with
    | '=' :: value => if isName name then some (name, textBefore value rest) else none
    | _ => none
  | _ => none

/-- The pieces up to a closing bracket, and what follows it. -/
def bracketed? : Word → Option (Word × Word)
  | [] => none
  | .bare text :: rest =>
    let front := text.takeWhile (· != ']')
    match text.drop front.length with
    | _ :: behind => some (textBefore front [], textBefore behind rest)
    | [] => (bracketed? rest).map fun (inside, behind) => (.bare text :: inside, behind)
  | piece :: rest => (bracketed? rest).map fun (inside, behind) => (piece :: inside, behind)

/-- The value behind an equals sign, and whether it stands behind the one that is there. -/
def valueBehind? : Word → Option (Bool × Word)
  | .bare ('=' :: value) :: rest => some (false, textBefore value rest)
  | .bare ('+' :: '=' :: value) :: rest => some (true, textBefore value rest)
  | _ => none

/-- A word that gives a variable a value, in a language. -/
def assignmentIn? (l : Language) (w : Word) : Option Assignment :=
  match l with
  | .posix => (assignment? w).map fun (name, value) => .value name none false value
  | .bash =>
    match w with
    | .bare text :: rest =>
      let name := text.takeWhile isNameChar
      if !isName name then none
      else match text.drop name.length with
        | '[' :: behind =>
          (bracketed? (textBefore behind rest)).bind fun (index, more) =>
            (valueBehind? more).map fun (appends, value) => .value name (some index) appends value
        | behind =>
          (valueBehind? (textBefore behind rest)).map fun (appends, value) =>
            .value name none appends value
    | _ => none

end EditorAnalysis.Shell
