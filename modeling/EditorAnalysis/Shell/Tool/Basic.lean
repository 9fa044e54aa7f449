/-
EditorAnalysis.Shell.Tool.Basic — what the programs of the system have in common.

A program gets its arguments and yields its status. It complains under the name by which
it was started. Its options stand anywhere among its arguments, unless it says that they
end with the first word that is none.
-/
import EditorAnalysis.Shell.Quotation
import EditorAnalysis.Shell.State

namespace EditorAnalysis.Shell

open Text (Octets)
open Host (Errno)

/-- A program, given its arguments. -/
abbrev Tool := List Octets → Step Nat

namespace Tool

/-! ## Complaints -/

/-- Complains under the program's name. -/
def complain (text : Octets) : Step Unit := do
  Step.note ((← get).name ++ ": ".toList ++ text)

/-- Complains in wording. -/
def complainText (text : String) : Step Unit := complain (Octets.ofString text)

/-- Bytes are read as UTF-8 by the program. -/
def readsUtf8 (s : State) : Bool :=
  let settings := ["LC_ALL", "LC_CTYPE", "LANG"].filterMap fun name =>
    (s.get? name.toList).filter (!·.isEmpty)
  match settings.head? with
  | none => false
  | some text =>
    let lower := text.map Char.toLower
    Text.occursIn "utf-8".toList lower || Text.occursIn "utf8".toList lower

/-- A word between the marks of the language. -/
def named (w : Octets) : Step Octets := do return Quotation.named (readsUtf8 (← get)) w

/-- A word in quotes. -/
def always (w : Octets) : Step Octets := do return Quotation.always (readsUtf8 (← get)) w

/-- A word, in quotes if it has to be. -/
def shown (w : Octets) : Step Octets := do return Quotation.word (readsUtf8 (← get)) w

/-- A text's characters, if its bytes are read as UTF-8 and make sense so. -/
def letters (utf8 : Bool) (cs : Octets) : List Char :=
  if utf8 && cs.any (128 ≤ ·.toNat) then (Text.Utf8.decode? (Octets.toBytes cs)).getD cs else cs

/-- The bytes of characters that were taken from a text by `letters`. -/
def unletters (utf8 : Bool) (cs : List Char) : Octets :=
  if utf8 && cs.any (128 ≤ ·.toNat) then Octets.ofBytes (Text.Utf8.encode cs) else cs

/-- Complains about a file as it is named. -/
def complainOf (w : Octets) (reason : Errno) : Step Unit :=
  complain (w ++ ": ".toList ++ reason.text.toList)

/-- The status of a failure. -/
def failure : Nat := 1

/-- Says where help is to be found. -/
def hint : Step Unit := do
  Step.note ("Try '".toList ++ (← get).name ++ " --help' for more information.".toList)

/-- A misuse. -/
def misuse (status : Nat) (text : Octets) : Step Nat := do
  complain text
  hint
  return status

/-- The status of a program, what could not be written counted. -/
def settledAs (subject : String) (act : Step Nat) : Step Nat := do
  let status ← act
  let s ← get
  if s.unwritten then
    let reason := match Assoc.get? 1 s.channels with
      | some .full => Errno.noSpace
      | _ => .badDescriptor
    set { s with unwritten := false }
    complainText (subject ++ ": " ++ reason.text)
    return failure
  else return status

/-- The status of a program, what could not be written counted. -/
def settled (act : Step Nat) : Step Nat := settledAs "write error" act

/-! ## Options -/

/-- An option of a program. -/
structure Choice where
  /-- Its letter, if it has one. -/
  letter : Option Char
  /-- Its name, if it has one. -/
  name : String
  /-- It wants something with it; or it may have it, behind an equals sign. -/
  wants : Option Bool
deriving Repr

/-- An option that wants nothing. -/
def flag (letter : Char) (name : String) : Choice := ⟨some letter, name, none⟩

/-- An option that wants something. -/
def wanting (letter : Char) (name : String) : Choice := ⟨some letter, name, some true⟩

/-- An option that has a name only. -/
def longFlag (name : String) : Choice := ⟨none, name, none⟩

/-- An option that was chosen: its letter or its name, and what is with it. -/
structure Chosen where
  /-- The option. -/
  choice : Choice
  /-- What is with it. -/
  value : Option Octets

namespace Chosen

/-- The option has the letter. -/
def hasLetter (c : Chosen) (letter : Char) : Bool := c.choice.letter == some letter

/-- The option has the name. -/
def hasName (c : Chosen) (name : String) : Bool := c.choice.name == name

end Chosen

/-- How options are read. -/
structure Style where
  /-- The options. -/
  choices : List Choice
  /-- They end with the first word that is none. -/
  endsAtWord : Bool := false
  /-- The status of a misuse. -/
  status : Nat := 1
  /-- What is said of a misuse in the place of a hint. -/
  usage : List String := []

/-- A misuse of options. -/
def refuse {α : Type} (style : Style) (text : Octets) : Step (Except Nat α) := do
  complain text
  if style.usage.isEmpty then hint else style.usage.forM fun line => Step.note line.toList
  return .error style.status

/-- What reading options comes to: options and other words, or the status after a complaint. -/
abbrev Options := Except Nat (List Chosen × List Octets)

/-- The options whose names begin so; the one that has exactly this name, if there is one. -/
def named? (choices : List Choice) (name : String) : List Choice :=
  match choices.find? fun c => c.name == name && name != "" with
  | some c => [c]
  | none => choices.filter fun c => c.name.startsWith name && c.name != ""

/-- Reads a word that names an option by its name, behind which others stand. -/
def readLong (style : Style) (word : Octets) (rest : List Octets) :
    Step (Except Nat (Chosen × List Octets)) := do
  let name := word.takeWhile (· != '=')
  let value := if name.length < word.length then some (word.drop (name.length + 1)) else none
  let text := Octets.toString name
  match named? style.choices text with
  | [] =>
    refuse style ("unrecognized option '--".toList ++ word ++ ['\''])
  | [c] =>
    match c.wants, value, rest with
    | none, some _, _ =>
      refuse style
        ("option '--".toList ++ c.name.toList ++ "' doesn't allow an argument".toList)
    | some true, none, [] =>
      refuse style
        ("option '--".toList ++ c.name.toList ++ "' requires an argument".toList)
    | some true, none, next :: more => return .ok (⟨c, some next⟩, more)
    | _, _, _ => return .ok (⟨c, value⟩, rest)
  | several =>
    let all := " ".intercalate (several.map fun c => "'--" ++ c.name ++ "'")
    refuse style ("option '--".toList ++ word ++ ("' is ambiguous; possibilities: " ++ all).toList)

/-- Reads the letters of a word, behind which others stand. -/
def readLetters (style : Style) : Octets → List Octets →
    Step (Except Nat (List Chosen × List Octets))
  | [], rest => return .ok ([], rest)
  | c :: letters, rest => do
    match style.choices.find? fun choice => choice.letter == some c with
    | none =>
      refuse style ("invalid option -- '".toList ++ c :: ['\''])
    | some choice =>
      match choice.wants with
      | none =>
        match ← readLetters style letters rest with
        | .error status => return .error status
        | .ok (more, rest) => return .ok (⟨choice, none⟩ :: more, rest)
      | some required =>
        if !letters.isEmpty then return .ok ([⟨choice, some letters⟩], rest)
        else if !required then return .ok ([⟨choice, none⟩], rest)
        else match rest with
          | next :: more => return .ok ([⟨choice, some next⟩], more)
          | [] => refuse style ("option requires an argument -- '".toList ++ c :: ['\''])

/-- Reads the options among words. -/
def readOptions (style : Style) : Nat → List Octets → Step Options
  | 0, words => return .ok ([], words)
  | fuel + 1, words => do
    let further (first : List Chosen) (rest : List Octets) : Step Options := do
      match ← readOptions style fuel rest with
      | .error status => return .error status
      | .ok (more, others) => return .ok (first ++ more, others)
    match words with
    | [] => return .ok ([], [])
    | ['-', '-'] :: rest => return .ok ([], rest)
    | ('-' :: '-' :: word) :: rest =>
      match ← readLong style word rest with
      | .error status => return .error status
      | .ok (c, rest) => further [c] rest
    | ('-' :: c :: letters) :: rest =>
      match ← readLetters style (c :: letters) rest with
      | .error status => return .error status
      | .ok (chosen, rest) => further chosen rest
    | word :: rest =>
      if style.endsAtWord then return .ok ([], words)
      else match ← readOptions style fuel rest with
        | .error status => return .error status
        | .ok (more, others) => return .ok (more, word :: others)

/-- Does something with the options among words and the other words. -/
def withOptions (style : Style) (words : List Octets)
    (use : List Chosen → List Octets → Step Nat) : Step Nat := do
  match ← readOptions style (words.length + 1) words with
  | .error status => return status
  | .ok (chosen, rest) => use chosen rest

/-- An option with the letter was chosen. -/
def has (chosen : List Chosen) (letter : Char) : Bool := chosen.any fun c => c.hasLetter letter

/-- An option with the name was chosen. -/
def hasName (chosen : List Chosen) (name : String) : Bool := chosen.any fun c => c.hasName name

/-- What was last given with an option. -/
def valueOf? (chosen : List Chosen) (letter : Char) : Option Octets :=
  ((chosen.filter fun c => c.hasLetter letter).getLast?).bind (·.value)

/-! ## Files -/

/-- The content of a file, or of what can be read under the name of a hyphen. -/
def contentOf (w : Octets) : Step (Except Errno Octets) := do
  if w == ['-'] then Step.readAll 0
  else
    let s ← get
    let text := Octets.toString w
    match s.files.look text with
    | .ok (.device "zero") => throw .endless
    | .ok (.device "full") => throw .endless
    | .ok (.device "stdin") => Step.readAll 0
    | _ => return (s.files.read text).map Octets.ofBytes

/-- Lines of a text, each with its end. -/
def lines (text : Octets) : List Octets :=
  let step (state : List Octets × Octets) (c : Char) : List Octets × Octets :=
    if c == '\n' then ((c :: state.2).reverse :: state.1, []) else (state.1, c :: state.2)
  let (done, last) := text.foldl step ([], [])
  (if last.isEmpty then done else last.reverse :: done).reverse

/-- A line without its end. -/
def body (line : Octets) : Octets := if line.getLast? == some '\n' then line.dropLast else line

/-- Does something with each file's name and content; what cannot be read is complained of.
Without names the input is read. The status says whether everything could be read. -/
def eachContent (words : List Octets) (use : Octets → Octets → Step Unit) : Step Nat := do
  let names := if words.isEmpty then [['-']] else words
  let results ← names.mapM fun name => do
    match ← contentOf name with
    | .ok text =>
      use name text
      return true
    | .error reason =>
      complainOf name reason
      return false
  return if results.all id then 0 else failure

end Tool

end EditorAnalysis.Shell
