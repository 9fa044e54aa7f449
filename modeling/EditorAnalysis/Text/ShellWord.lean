/-
EditorAnalysis.Text.ShellWord — command lines as a POSIX shell reads them.

A command line is a list of words with blanks between them. `quote` writes one
word: bare where no character of it means anything to a shell, else in single
quotes, a single quote itself standing in double quotes between two quoted parts.
`join` writes a command line and `split?` reads one back: unquoted blanks
separate words, single quotes keep everything, double quotes keep everything but
the backslash before itself or a double quote, and a backslash outside quotes
keeps the next character.
-/

namespace EditorAnalysis.Text.ShellWord

/-! ## Writing -/

/-- The ASCII punctuation that means nothing to a shell. -/
def plainPunctuation : List Char := ['_', '@', '%', '+', '=', ':', ',', '.', '/', '-']

/-- A character that may stand bare. -/
def isPlain (c : Char) : Bool := c.isAlphanum || plainPunctuation.contains c

/-- A word may stand bare: it is not empty and all its characters are plain. -/
def isBare (cs : List Char) : Bool := !cs.isEmpty && cs.all isPlain

/-- A character of a word in single quotes. -/
def quoteChar (c : Char) : List Char :=
  if c == '\'' then ['\'', '"', '\'', '"', '\''] else [c]

/-- A word as a shell reads it back. -/
def quoteChars (cs : List Char) : List Char :=
  if isBare cs then cs else '\'' :: (cs.flatMap quoteChar ++ ['\''])

/-- A word as a shell reads it back. -/
def quote (word : String) : String := String.ofList (quoteChars word.toList)

/-- The command line of words. -/
def join (words : List String) : String := " ".intercalate (words.map quote)

/-! ## Reading -/

/-- The blanks between words. -/
def isSeparator (c : Char) : Bool := c == ' ' || c == '\t' || c == '\n' || c == '\r'

/-- Where the reader stands. -/
inductive Mode where
  /-- Between words. -/
  | between
  /-- In a word, outside quotes. -/
  | bare
  /-- In single quotes. -/
  | single
  /-- In double quotes. -/
  | double
deriving DecidableEq, Repr

/-- Reads the rest of a command line; `word` is what is read of the current
word, last character first. Nothing comes of an open quote or a backslash with
nothing behind it. -/
def splitFrom : Mode → List Char → List Char → Option (List (List Char))
  | .between, _, [] => some []
  | .bare, word, [] => some [word.reverse]
  | .single, _, [] => none
  | .double, _, [] => none
  | .single, word, c :: rest =>
    if c == '\'' then splitFrom .bare word rest else splitFrom .single (c :: word) rest
  | .double, word, '\\' :: c :: rest =>
    if c == '\\' || c == '"' then splitFrom .double (c :: word) rest
    else splitFrom .double (c :: '\\' :: word) rest
  | .double, word, c :: rest =>
    if c == '"' then splitFrom .bare word rest
    else if c == '\\' then none
    else splitFrom .double (c :: word) rest
  | mode, word, '\\' :: c :: rest =>
    splitFrom .bare (c :: if mode == .between then [] else word) rest
  | mode, word, c :: rest =>
    if isSeparator c then
      match mode with
      | .between => splitFrom .between [] rest
      | _ => (splitFrom .between [] rest).map (word.reverse :: ·)
    else
      let word := if mode == .between then [] else word
      if c == '\'' then splitFrom .single word rest
      else if c == '"' then splitFrom .double word rest
      else if c == '\\' then none
      else splitFrom .bare (c :: word) rest

/-- The words of a command line. -/
def split? (line : String) : Option (List String) :=
  (splitFrom .between [] line.toList).map fun words => words.map String.ofList

end EditorAnalysis.Text.ShellWord
