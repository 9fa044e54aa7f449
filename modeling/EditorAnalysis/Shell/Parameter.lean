/-
EditorAnalysis.Shell.Parameter — what parameters stand for.

A parameter stands for a text, or for several texts: those are the arguments of a shell,
or the elements of a list. Some parameters tell of the shell itself. A tilde at the
beginning of a word stands for a directory.
-/
import EditorAnalysis.Shell.Builtin.Variables
import EditorAnalysis.Shell.Field

namespace EditorAnalysis.Shell

open Text (Octets)

namespace Parameter

/-! ## Parameters about the shell -/

/-- A number as a text. -/
def numeral (n : Nat) : Octets := (toString n).toList

/-- The options that are set, in the order of a language. -/
def optionLetters (s : State) : Octets :=
  match s.language with
  | .posix =>
    ((Builtin.shellOptions.map (·.2)).filter fun c => s.has c && Builtin.hasLetter c).reverse
  | .bash => "abefhkmnptuvxBCEHTcs".toList.filter s.has

/-- The lists of bash that tell of the shell itself. -/
def ownList? (s : State) (name : Octets) : Option (List Octets) :=
  match String.ofList name with
  | "BASH_SOURCE" => some s.sources
  | "FUNCNAME" => if s.callers.isEmpty then none else some (s.callers ++ ["main".toList])
  | "PIPESTATUS" =>
    some ((if s.pipeStatuses.isEmpty then [s.status] else s.pipeStatuses).map numeral)
  | "DIRSTACK" => some (s.path :: s.places)
  | "BASH_LINENO" => some [['0']]
  | "GROUPS" => some [['0']]
  | _ => none

/-- A day as seconds. -/
def secondsPerDay : Nat := 86400

/-- The parameters of bash that tell of the shell itself. -/
def ownValue? (s : State) (name : Octets) : Option Octets :=
  let seconds := s.clock / 1000000000
  match String.ofList name with
  | "LINENO" => some (numeral s.line)
  | "SECONDS" => some (numeral seconds)
  | "EPOCHSECONDS" => some (numeral (19700 * secondsPerDay + seconds))
  | "RANDOM" => some (numeral ((s.line * 7919 + s.clock) % 32768))
  | "BASHPID" => some (numeral s.number)
  | "BASH_SUBSHELL" => some (numeral s.shellDepth)
  | _ => (ownList? s name).bind (·.head?)

/-- The value of a variable, or of a parameter that looks like one. -/
def variableValue? (s : State) (name : Octets) : Option Octets :=
  match if s.isBash then ownValue? s name else none with
  | some text => some text
  | none => s.get? name

/-! ## Parameters -/

/-- The value of a parameter. -/
def value? (s : State) (name : Octets) : Option Octets :=
  match name with
  | ['?'] => some (numeral s.status)
  | ['#'] => some (numeral s.arguments.length)
  | ['$'] => some (numeral s.shell)
  | ['!'] => s.lastJob.map numeral
  | ['-'] => some (optionLetters s)
  | ['0'] => some s.name
  | ['@'] => if s.arguments.isEmpty then none else some (Builtin.spaced s.arguments)
  | ['*'] => if s.arguments.isEmpty then none else some (Builtin.spaced s.arguments)
  | _ =>
    match Numeral.natural? name with
    | some n => s.arguments[n - 1]?
    | none => variableValue? s name

/-- The elements of a list; a value counts as the only one. -/
def elements (s : State) (name : Octets) : Elements :=
  match if s.isBash then ownList? s name else none with
  | some values => .ofValues values
  | none => ((Assoc.get? name s.bindings).bind (·.elements)).getD
    (.ofValues (value? s name).toList)

/-- What joins the arguments where no fields are made. -/
def joint (s : State) : Octets := s.separators.take 1

/-- What a parameter stands for. -/
inductive Subject where
  /-- One text, or none. -/
  | one (value : Option Octets)
  /-- Several texts, each a field of its own in quotes or not. -/
  | all (separately : Bool) (values : List Octets)

namespace Subject

/-- What a name stands for. -/
def ofName (s : State) (name : Octets) : Subject :=
  match name with
  | ['@'] => .all true s.arguments
  | ['*'] => .all false s.arguments
  | _ => .one (value? s name)

/-- The texts. -/
def values : Subject → List Octets
  | one value => value.toList
  | all _ values => values

/-- Changes every text; one that is not there counts as empty. -/
def map (f : Octets → Octets) : Subject → Subject
  | one value => one (some (f (value.getD [])))
  | all separately values => all separately (values.map f)

/-- What the texts yield. -/
def glyphs (s : State) (inQuotes : Bool) : Subject → List Glyph
  | one value => Field.yielded inQuotes (value.getD [])
  | all true values => Field.separate inQuotes values
  | all false values =>
    if inQuotes then Field.yielded true ((joint s).intercalate values)
    else Field.separate false values

end Subject

/-- What a parameter yields as it is. -/
def yielded (s : State) (inQuotes : Bool) (name : Octets) : List Glyph :=
  (Subject.ofName s name).glyphs s inQuotes

/-- The parameter stands for all arguments. -/
def isArguments (name : Octets) : Bool := name == ['@'] || name == ['*']

/-- A value that is there, and not empty if that counts as none. -/
def present? (orEmpty : Bool) (value : Option Octets) : Option Octets :=
  value.filter fun v => !(orEmpty && v.isEmpty)

/-- A subject that is there, and not empty if that counts as none. -/
def isPresent (orEmpty : Bool) : Subject → Bool
  | .one value => (present? orEmpty value).isSome
  | .all _ values => !values.isEmpty && !(orEmpty && values.all List.isEmpty)

/-- A parameter has to be there if the shell says so. -/
def demand (name : Octets) : Step Unit := do
  let s ← get
  if s.has 'u' && !isArguments name && (value? s name).isNone then
    Step.error (name ++ ": parameter not set".toList)

/-- A text that is not there is an error if the shell says so; the name is that in the
complaint. The status is another one for a command line. -/
def demandIn (name : Octets) : Subject → Step Unit
  | .one none => do
    let s ← get
    if s.has 'u' then
      Step.abandon (name ++ ": unbound variable".toList) (if s.has 'c' then 127 else 1)
  | _ => return

/-- A text without the line breaks at its end. -/
def withoutLastBreaks (cs : Octets) : Octets := (cs.reverse.dropWhile (· == '\n')).reverse

/-! ## Home directories -/

/-- The home directory of a user; no name stands for the user of the shell. -/
def home? (s : State) (user : Octets) : Option Octets :=
  if user.isEmpty then
    let own := (s.get? "HOME".toList).filter (!·.isEmpty)
    if s.isBash && (s.get? "HOME".toList).isNone then some "/root".toList else own
  else if user == "root".toList then some "/root".toList
  else none

/-- A text in front of other pieces, a home directory in the place of a tilde at the beginning
of it. The flag says that a colon ends a name, as in an assignment. -/
def withHome (s : State) (colons : Bool) (text : Octets) (isLast : Bool) : Word :=
  match text with
  | '~' :: rest =>
    let user := rest.takeWhile fun c => c != '/' && !(colons && c == ':')
    let behind := rest.drop user.length
    if behind.isEmpty && !isLast then [.bare text]
    else match home? s user with
      | some directory => [.quoted directory, .bare behind]
      | none => [.bare text]
  | _ => [.bare text]

/-- The parts of a text, each of which ends in a colon, but for the last. -/
def colonParts (text : Octets) : List Octets :=
  let parts := Text.splitOn ':' text
  (parts.dropLast.map (· ++ [':'])) ++ parts.getLast?.toList

/-- A word with home directories in the place of tildes. -/
def expandTildes (s : State) (colons : Bool) (w : Word) : Word :=
  match w with
  | .bare text :: rest =>
    if colons then
      let parts := colonParts text
      let first := (parts.dropLast.map fun part => withHome s true part true).flatten
      first ++ withHome s true (parts.getLast?.getD []) rest.isEmpty ++ rest
    else withHome s false text rest.isEmpty ++ rest
  | w => w

/-- The same behind the first equals sign of a word. -/
def expandValueTildes (s : State) (w : Word) : Word :=
  match w with
  | .bare text :: rest =>
    let name := text.takeWhile (· != '=')
    let behind := text.drop name.length
    match behind with
    | '=' :: value => .bare (name ++ ['=']) :: expandTildes s true (.bare value :: rest)
    | _ => w
  | w => w

end Parameter

end EditorAnalysis.Shell
