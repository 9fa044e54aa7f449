/-
EditorAnalysis.Shell.Builtin.Reading — the command that reads a line into variables.

The line is split at separators; the last variable takes all that is left. Blank
separators at the ends count for nothing, and so does a single other one behind a last
field. Escaped characters separate nothing.
-/
import EditorAnalysis.Shell.Builtin.Basic

namespace EditorAnalysis.Shell.Builtin

open Text (Octets)

/-- A character of a line, and whether it is escaped. -/
abbrev Escapable := Char × Bool

/-- The characters that separate fields. -/
structure Separators where
  /-- All of them. -/
  all : Octets

namespace Separators

/-- The character separates fields. -/
def separates (seps : Separators) (c : Escapable) : Bool := !c.2 && seps.all.contains c.1

/-- The character separates fields and is blank. -/
def isBlank (seps : Separators) (c : Escapable) : Bool :=
  seps.separates c && (c.1 == ' ' || c.1 == '\t' || c.1 == '\n')

/-- What follows a separator with the blanks around it. -/
def afterOne (seps : Separators) (line : List Escapable) : List Escapable :=
  let rest := line.dropWhile seps.isBlank
  match rest with
  | c :: more => if seps.separates c then more.dropWhile seps.isBlank else rest
  | [] => []

/-- What the last variable takes. -/
def last (seps : Separators) (line : List Escapable) : List Escapable :=
  let field := line.takeWhile fun c => !seps.separates c
  if (seps.afterOne (line.drop field.length)).isEmpty then field
  else (line.reverse.dropWhile seps.isBlank).reverse

/-- What variables take, one after the other. -/
def distribute (seps : Separators) : List Octets → List Escapable → List (Octets × Octets)
  | [], _ => []
  | [name], line => [(name, (seps.last line).map (·.1))]
  | name :: names, line =>
    let field := line.takeWhile fun c => !seps.separates c
    (name, field.map (·.1)) :: distribute seps names (seps.afterOne (line.drop field.length))

end Separators

/-- Where the reading of a line stands: behind a backslash or not, and how much was read. -/
structure LineState where
  /-- Behind a backslash. -/
  escaped : Bool := false

/-- Looks for the end of a line: how many characters of a text belong to it, if it ends
there. -/
def lineEnd (raw : Bool) : LineState → Nat → Octets → LineState ⊕ Nat
  | state, _, [] => .inl state
  | state, n, c :: rest =>
    if state.escaped then lineEnd raw {} (n + 1) rest
    else if c == '\n' then .inr (n + 1)
    else lineEnd raw ⟨c == '\\' && !raw⟩ (n + 1) rest

/-- The characters of a line, backslashes understood unless they are raw. -/
def unescaped (raw : Bool) : Octets → List Escapable
  | [] => []
  | ['\\'] => if raw then [('\\', false)] else []
  | '\\' :: c :: rest =>
    if raw then ('\\', false) :: unescaped raw (c :: rest)
    else if c == '\n' then unescaped raw rest
    else (c, true) :: unescaped raw rest
  | c :: rest => (c, false) :: unescaped raw rest

/-- Reads a line into variables. -/
def read : Builtin := fun words => do
  let (chosen, names) ← options [('p', true), ('r', false)] (words.length + 1) words
  let raw := chosen.any fun c => c.1 == 'r'
  if names.isEmpty then Step.fail "arg count"
  match ← Step.readWhile 0 {} (fun state text => lineEnd raw state 0 text) with
  | .error _ =>
    names.forM fun name => Step.assignNamed name []
    return 1
  | .ok text =>
    let ended := text.getLast? == some '\n'
    let text := (if ended then text.dropLast else text).filter (· != Char.ofNat 0)
    let seps : Separators := ⟨(← get).separators⟩
    let line := (unescaped raw text).dropWhile seps.isBlank
    (seps.distribute names line).forM fun (name, value) => Step.assignNamed name value
    return if ended then 0 else 1

end EditorAnalysis.Shell.Builtin
