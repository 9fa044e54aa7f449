/-
EditorAnalysis.Shell.Builtin.Basic — what the commands of the shell have in common.

A command gets its arguments and yields its status. An error goes on nowhere; the shell
survives it unless the command is a special one.
-/
import EditorAnalysis.Shell.Builtin.Usage

namespace EditorAnalysis.Shell

open Text (Octets)

/-- A command, given its arguments. -/
abbrev Builtin := List Octets → Step Nat

namespace Builtin

/-- Words with blanks between them. -/
def spaced (words : List Octets) : Octets := [' '].intercalate words

/-- The name and the value in an assignment; no value where there is only a name. -/
def assignment (word : Octets) : Octets × Option Octets :=
  let name := word.takeWhile (· != '=')
  (name, if name.length < word.length then some (word.drop (name.length + 1)) else none)

/-- A word that has to be a name of a variable is none. -/
def refuseName {α : Type} (name : Octets) : Step α := do
  if (← get).isBash then Step.error ('\x60' :: name ++ "': not a valid identifier".toList)
  else Step.error (name ++ ": bad variable name".toList)

/-- An option and what it is given. -/
abbrev Chosen := Char × Octets

/-- The options in a word, behind which others stand. A letter that wants an argument gets
the rest of the word, or the next word. -/
def optionsIn (letters : List (Char × Bool)) :
    Octets → List Octets → Step (List Chosen × List Octets)
  | [], words => return ([], words)
  | c :: rest, words =>
    match letters.lookup c with
    | none => refuseOption c
    | some false => do
      let (more, words) ← optionsIn letters rest words
      return ((c, []) :: more, words)
    | some true =>
      match rest, words with
      | [], [] => wantArgument c
      | [], word :: words => return ([(c, word)], words)
      | _, _ => return ([(c, rest)], words)

/-- The options of a command, and the words behind them. -/
def options (letters : List (Char × Bool)) : Nat → List Octets →
    Step (List Chosen × List Octets)
  | 0, words => return ([], words)
  | fuel + 1, words =>
    match words with
    | ['-', '-'] :: rest => return ([], rest)
    | ('-' :: c :: flags) :: rest => do
      let (first, rest) ← optionsIn letters (c :: flags) rest
      let (more, rest) ← options letters fuel rest
      return (first ++ more, rest)
    | _ => return ([], words)

/-- The options of a command that wants nothing with them, and the words behind them. -/
def flags (letters : List Char) (words : List Octets) : Step (List Char × List Octets) := do
  let (chosen, rest) ← options (letters.map (·, false)) (words.length + 1) words
  return (chosen.map (·.1), rest)

/-- A text as the shell reads it back. -/
def quoted : Nat → Octets → Octets
  | 0, _ => []
  | fuel + 1, cs =>
    let plain := cs.takeWhile (· != '\'')
    let rest := cs.drop plain.length
    let marks := rest.takeWhile (· == '\'')
    let rest := rest.drop marks.length
    '\'' :: plain ++ '\'' ::
      (if marks.isEmpty then []
        else '"' :: marks ++ '"' :: (if rest.isEmpty then [] else quoted fuel rest))

/-- A text as the shell reads it back. -/
def inQuotes (cs : Octets) : Octets := quoted (cs.length + 1) cs

end Builtin

end EditorAnalysis.Shell
