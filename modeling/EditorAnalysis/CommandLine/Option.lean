/-
EditorAnalysis.CommandLine.Option — options and operands among arguments.

An option is a long name behind two hyphens or a letter behind one. Letters may
follow each other behind one hyphen. The value of an option is the next argument,
or stands behind an equals sign or right behind the letter. Two hyphens alone end
the options.
-/

namespace EditorAnalysis.CommandLine

/-- An option under a key. -/
structure OptionSpec (κ : Type) where
  /-- What it means. -/
  key : κ
  /-- Its long name, without the hyphens. -/
  long : String
  /-- Its letter, if it has one. -/
  letter : Option Char := none
  /-- What its value is called, if it takes one. -/
  value : Option String := none
  /-- What it is for. -/
  about : String

/-- A value belongs to the option. -/
def OptionSpec.takesValue {κ : Type} (spec : OptionSpec κ) : Bool := spec.value.isSome

/-- What arguments hold. -/
structure Arguments (κ : Type) where
  /-- The options in the order in which they are given, with their values; the
  value of an option that takes none is empty. -/
  options : List (κ × String) := []
  /-- The other arguments. -/
  operands : List String := []

namespace Arguments

variable {κ : Type}

/-- The arguments with more options in front. -/
def give (options : List (κ × String)) (a : Arguments κ) : Arguments κ :=
  { a with options := options ++ a.options }

/-- The arguments with one more operand in front. -/
def add (operand : String) (a : Arguments κ) : Arguments κ :=
  { a with operands := operand :: a.operands }

/-! ## One argument -/

/-- The options in one argument. -/
structure Given (κ : Type) where
  /-- Those that need nothing more. -/
  complete : List (κ × String) := []
  /-- The last one, which wants the next argument as its value. -/
  pending : Option κ := none

/-- The options among letters. Nothing comes of an unknown letter. -/
def letters? (specs : List (OptionSpec κ)) : List Char → Option (Given κ)
  | [] => some {}
  | c :: rest =>
    match specs.find? fun spec => spec.letter == some c with
    | none => none
    | some spec =>
      if spec.takesValue then
        if rest.isEmpty then some { pending := some spec.key }
        else some { complete := [(spec.key, String.ofList rest)] }
      else (letters? specs rest).map fun g => { g with complete := (spec.key, "") :: g.complete }

/-- The option of a long name, with the value behind the equals sign if there is
one. Nothing comes of a value that the option does not take. -/
def long? (spec : OptionSpec κ) (value : Option String) : Option (Given κ) :=
  match value with
  | some text => if spec.takesValue then some { complete := [(spec.key, text)] } else none
  | none =>
    if spec.takesValue then some { pending := some spec.key }
    else some { complete := [(spec.key, "")] }

/-- Two hyphens. -/
def longMark : List Char := ['-', '-']

/-- What stands before the first equals sign. -/
def nameIn (argument : List Char) : List Char := argument.takeWhile (· != '=')

/-- What stands behind the first equals sign, if there is one. -/
def valueIn? (argument : List Char) : Option String :=
  match argument.dropWhile (· != '=') with
  | [] => none
  | _ :: value => some (String.ofList value)

/-- The options in an argument. Nothing comes of one that gives no known
option. -/
def given? (specs : List (OptionSpec κ)) (argument : List Char) : Option (Given κ) :=
  match specs.find? fun spec => longMark ++ spec.long.toList == nameIn argument with
  | some spec => long? spec (valueIn? argument)
  | none =>
    if argument.take longMark.length == longMark then none
    else letters? specs (argument.drop 1)

/-- An argument is no operand: it begins with a hyphen, and does not end there. -/
def isOption (argument : List Char) : Bool := argument.head? == some '-' && 1 < argument.length

/-! ## All arguments -/

/-- Reads arguments. Options may stand behind operands, if they are interspersed;
otherwise the first operand ends the options. Nothing comes of an unknown option or
of one without its value. -/
def read? (specs : List (OptionSpec κ)) (interspersed : Bool) :
    List String → Option (Arguments κ)
  | [] => some {}
  | argument :: rest =>
    if argument = String.ofList longMark then some { operands := rest }
    else if isOption argument.toList then
      match given? specs argument.toList with
      | none => none
      | some given =>
        match given.pending, rest with
        | none, rest => (read? specs interspersed rest).map (give given.complete)
        | some _, [] => none
        | some key, value :: rest =>
          (read? specs interspersed rest).map (give (given.complete ++ [(key, value)]))
    else if interspersed then (read? specs interspersed rest).map (add argument)
    else some { operands := argument :: rest }

/-! ## Looking up -/

variable [DecidableEq κ]

/-- An option is given. -/
def has (a : Arguments κ) (key : κ) : Bool := a.options.any fun o => o.1 == key

/-- The value of an option that is given; of several, the last. -/
def value? (a : Arguments κ) (key : κ) : Option String :=
  (a.options.filter fun o => o.1 == key).getLast?.map (·.2)

/-- The options that are given, each once, in the order in which they come
first. -/
def keys (a : Arguments κ) : List κ := (a.options.map (·.1)).eraseDups

end Arguments

end EditorAnalysis.CommandLine
