/-
EditorAnalysis.Version.Extract — finding a version in what a tool prints.

A tool introduces itself by name and puts its version later on the same line:
`PHPStan - PHP Static Analysis Tool 1.12.27`. The version is the run of digits
and dots that follows the first white space before a digit, after the first
occurrence of the name that has one on its line. A text without such an
occurrence may still be a bare version, with the digits at its very start.
Digits of every script count.
-/
import EditorAnalysis.Text.Blank
import EditorAnalysis.Text.DecimalDigit
import EditorAnalysis.Text.Search

namespace EditorAnalysis.Version

/-- The name by which the tool introduces itself. -/
def toolName : String := "PHPStan"

/-- Characters a version is written with. -/
def isVersionChar (c : Char) : Bool := Text.isDecimalDigit c || c == '.'

/-- The version at the very start of the characters: they begin with a digit,
and the version is the longest run of digits and dots from there. -/
def leading? : List Char → Option (List Char)
  | [] => none
  | c :: rest =>
    if Text.isDecimalDigit c then some (c :: rest.takeWhile isVersionChar) else none

/-- The version after the first white space that a digit follows. The search
ends with the line; the white space itself may be what ends it. -/
def afterBlank? : List Char → Option (List Char)
  | [] => none
  | c :: rest =>
    match (if Text.isBlank c then leading? rest else none) with
    | some version => some version
    | none => if c == '\n' then none else afterBlank? rest

/-- The version introduced by the first occurrence of `name` that introduces
one. -/
def introducedBy? (name : List Char) : List Char → Option (List Char)
  | [] => none
  | c :: rest =>
    match (if name.isPrefixOf (c :: rest) then afterBlank? ((c :: rest).drop name.length)
           else none) with
    | some version => some version
    | none => introducedBy? name rest

/-- The version text in the characters, white space at their ends aside. -/
def extractChars? (cs : List Char) : Option (List Char) :=
  let body := Text.trimChars cs
  (introducedBy? toolName.toList body).or (leading? body)

/-- The version text in what a tool printed, if it holds one. -/
def extract? (output : String) : Option String :=
  (extractChars? output.toList).map String.ofList

/-- The tool names itself somewhere in the text. -/
def namesTool (text : String) : Bool :=
  Text.contains text toolName

end EditorAnalysis.Version
