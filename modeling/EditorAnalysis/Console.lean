/-
EditorAnalysis.Console — short messages to the user.

A message has one of four kinds, which give it a symbol and a colour. It is
written line by line without wrapping; tabs are filled up to columns of eight, and
characters that move the cursor back are left out. Colours are used on terminals
only.
-/
import EditorAnalysis.Text.Search
import EditorAnalysis.Text.Width

namespace EditorAnalysis.Console

/-! ## Terminals -/

/-- What may be at the end of the program's output. -/
inductive Output where
  /-- A terminal. -/
  | terminal
  /-- A file or another program. -/
  | plain
  /-- Nothing any more. -/
  | closed
  /-- Nothing at all. -/
  | missing
deriving DecidableEq, Repr

/-- The output goes to a terminal. -/
def Output.isTerminal : Output → Bool
  | .terminal => true
  | _ => false

/-! ## Messages -/

/-- What a message is about. -/
inductive Kind where
  /-- Something to know. -/
  | info
  /-- Something went well. -/
  | ok
  /-- Something to look at. -/
  | warn
  /-- Something went wrong. -/
  | fail
deriving DecidableEq, Repr

namespace Kind

/-- The character that asks for the emoji form of the symbol before it. -/
def emojiForm : Char := Char.ofNat 0xFE0F

/-- The symbol of a kind, with a blank behind it. -/
def symbol : Kind → String
  | info => String.ofList [Char.ofNat 0x2139, emojiForm, ' ']
  | ok => String.ofList [Char.ofNat 0x2705, ' ']
  | warn => String.ofList [Char.ofNat 0x26A0, emojiForm, ' ']
  | fail => String.ofList [Char.ofNat 0x274C, ' ']

/-- The number of a kind's colour. -/
def colour : Kind → String
  | info => "36"
  | ok => "32"
  | warn => "33"
  | fail => "31"

end Kind

/-- A message and how it is to look. -/
structure Message where
  /-- What it is about. -/
  kind : Kind
  /-- What it says. -/
  text : String
  /-- Its symbol stands in front. -/
  withSymbol : Bool := true
  /-- It is coloured; nothing leaves that to the output. -/
  coloured : Option Bool := none
deriving DecidableEq, Repr

/-- A symbol, if symbols are wanted. -/
def symbolIf (wanted : Bool) (symbol : String) : String := if wanted then symbol else ""

/-! ## Lines -/

/-- The characters that move the cursor back or ring a bell. -/
def isDropped (c : Char) : Bool := [0x07, 0x08, 0x0B, 0x0C, 0x0D].contains c.toNat

/-- The distance between tab stops. -/
def tabWidth : Nat := 8

/-- The pieces of a line, one for each tab and one for what follows the last tab,
behind so many columns. A tab becomes a blank and as many more as reach the next
stop. -/
def expandTabs (column : Nat) : List (List Char) → List (List Char)
  | [] => []
  | [last] => [last]
  | piece :: more =>
    let piece := piece ++ [' ']
    let column := column + Text.width piece
    let missing := (tabWidth - column % tabWidth) % tabWidth
    (piece ++ List.replicate missing ' ') :: expandTabs (column + missing) more

/-- The pieces of a line that are coloured each on its own. -/
def pieces (line : List Char) : List (List Char) := expandTabs 0 (Text.splitOn '\t' line)

/-- Escape, which begins a code for the terminal. -/
def escape : Char := Char.ofNat 0x1B

/-- A piece in a colour; an empty piece needs none. -/
def inColour (colour : String) (piece : List Char) : List Char :=
  if piece.isEmpty then []
  else escape :: '[' :: colour.toList ++ 'm' :: piece ++ [escape, '[', '0', 'm']

/-- A line as it is written. -/
def writeLine (colour : Option String) (line : List Char) : List Char :=
  match colour with
  | none => (pieces line).flatten
  | some colour => ((pieces line).map (inColour colour)).flatten

/-- The colour in which a message is written to an output, if any. -/
def Message.colour? (m : Message) (output : Output) : Option String :=
  if output.isTerminal && m.coloured.getD true then some m.kind.colour else none

/-- What is written for a message. -/
def write (output : Output) (m : Message) : String :=
  let text := (symbolIf m.withSymbol m.kind.symbol ++ m.text).toList.filter (!isDropped ·)
  String.ofList (((Text.splitOn '\n' text).map fun line =>
    writeLine (m.colour? output) line ++ ['\n']).flatten)

/-! ## Plain output -/

/-- A character inside a code for the terminal. -/
def isCodeChar (c : Char) : Bool := c == ';' || c == '?' || c.isDigit

/-- The characters behind a code for the terminal, if the characters begin with
one: escape, a bracket, numbers and a letter. -/
def behindCode? : List Char → Option (List Char)
  | c :: '[' :: rest =>
    if c != escape then none
    else match rest.dropWhile isCodeChar with
      | d :: rest => if d.isAlpha then some rest else none
      | [] => none
  | _ => none

/-- The characters without codes for the terminal. The fuel bounds their
number. -/
def dropCodesFrom : Nat → List Char → List Char
  | 0, cs => cs
  | _, [] => []
  | fuel + 1, c :: rest =>
    match behindCode? (c :: rest) with
    | some rest => dropCodesFrom fuel rest
    | none => c :: dropCodesFrom fuel rest

/-- A text without codes for the terminal. -/
def dropCodes (text : String) : String :=
  String.ofList (dropCodesFrom text.toList.length text.toList)

end EditorAnalysis.Console
