/-
EditorAnalysis.Proofs.CommandLine.Words — command lines that ask for a live command, or about
a version.

Words are read from the front, and each word or option does one thing to what the words behind
it give (`read?_operand`, `read?_pending`, `read?_complete`). So the words that a caller writes
for the options come back as the choices that they were written for (`read_liveWords`). A word
must not begin with a hyphen where an operand is expected; the value of an option may.
-/
import EditorAnalysis.CommandLine.Request

namespace EditorAnalysis.CommandLine

namespace Arguments

variable {κ : Type} {specs : List (OptionSpec κ)} {interspersed : Bool} {argument : String}

/-! ## One word -/

theorem ne_mark_of_head? (h : argument.toList.head? ≠ some '-') :
    argument ≠ String.ofList longMark := by
  rintro rfl
  exact h (by rfl)

theorem isOption_of_head? (h : argument.toList.head? ≠ some '-') :
    isOption argument.toList = false := by
  simp [isOption, h]

/-- A word that does not begin with a hyphen is an operand. -/
theorem read?_operand (h : argument.toList.head? ≠ some '-') (rest : List String) :
    read? specs true (argument :: rest) = (read? specs true rest).map (add argument) := by
  rw [read?, if_neg (ne_mark_of_head? h), isOption_of_head? h]
  rfl

/-- The first operand ends the options, where they are not interspersed. -/
theorem read?_first_operand (h : argument.toList.head? ≠ some '-') (rest : List String) :
    read? specs false (argument :: rest) = some { operands := argument :: rest } := by
  rw [read?, if_neg (ne_mark_of_head? h), isOption_of_head? h]
  rfl

/-- A word gives options. -/
structure Gives (specs : List (OptionSpec κ)) (argument : String) (given : Given κ) : Prop where
  /-- It does not end the options. -/
  ne_mark : argument ≠ String.ofList longMark
  /-- It is no operand. -/
  isOption : isOption argument.toList = true
  /-- What it gives. -/
  given : given? specs argument.toList = some given

/-- The word behind an option that takes a value is the value, whatever it begins with. -/
theorem read?_pending {key : κ} (h : Gives specs argument { pending := some key })
    (value : String) (rest : List String) :
    read? specs interspersed (argument :: value :: rest)
      = (read? specs interspersed rest).map (give [(key, value)]) := by
  rw [read?, if_neg h.ne_mark, if_pos h.isOption, h.given]
  rfl

theorem read?_complete {options : List (κ × String)}
    (h : Gives specs argument { complete := options }) (rest : List String) :
    read? specs interspersed (argument :: rest)
      = (read? specs interspersed rest).map (give options) := by
  rw [read?, if_neg h.ne_mark, if_pos h.isOption, h.given]

end Arguments

open Arguments

/-! ## The words of two commands -/

/-- An option with its value, where it has one. -/
def optionWords (option : String) : Option String → List String
  | none => []
  | some value => [option, value]

/-- The words that ask for the command that analyses a buffer from its copy, in place of its
file, for a tool of a version. -/
def liveWords (copy file version : String) (root cache : Option String) (asJson : Bool) :
    List String :=
  ["live", copy, "--original", file, "--phpstan-version", version]
    ++ (optionWords "--root" root ++ (optionWords "--cache-dir" cache
      ++ if asJson then ["--json"] else []))

/-- The words that ask whether a version can analyse a buffer in place of its file. -/
def supportsWords (version : String) : List String := ["supports", version]

/-- A command's name, and then its words. -/
theorem read_verb (verb : Verb) {words : List String} {request : Request}
    (hrequest : verb.read words = .ok request) :
    read (verb.name :: words) = .ok (false, request) := by
  have hname : verb.name.toList.head? ≠ some '-' := by cases verb <;> decide
  have hverb : Verb.ofName? verb.name = some verb := by cases verb <;> rfl
  rw [read, read?_first_operand hname]
  simp only [List.isEmpty_cons, hverb, hrequest]
  rfl

theorem read_supportsWords {version : String} (hversion : version.toList.head? ≠ some '-') :
    read (supportsWords version) = .ok (false, .supports version) := by
  refine read_verb .supports ?_
  rw [Verb.read, read?_operand hversion]
  rfl

theorem gives_file : Gives Verb.live.options "--original" { pending := some .file } :=
  ⟨by decide, by rfl, by rfl⟩

theorem gives_version : Gives Verb.live.options "--phpstan-version" { pending := some .version } :=
  ⟨by decide, by rfl, by rfl⟩

theorem gives_root : Gives Verb.live.options "--root" { pending := some .root } :=
  ⟨by decide, by rfl, by rfl⟩

theorem gives_cache : Gives Verb.live.options "--cache-dir" { pending := some .cache } :=
  ⟨by decide, by rfl, by rfl⟩

theorem gives_json : Gives Verb.live.options "--json" { complete := [(.json, "")] } :=
  ⟨by decide, by rfl, by rfl⟩

theorem read?_optionWords {specs : List (OptionSpec Key)} {option : String} {key : Key}
    (h : Gives specs option { pending := some key }) (value : Option String) (rest : List String) :
    read? specs true (optionWords option value ++ rest)
      = (read? specs true rest).map (give (value.toList.map fun text => (key, text))) := by
  cases value with
  | none =>
    rw [optionWords, List.nil_append]
    cases read? specs true rest <;> rfl
  | some text => exact read?_pending h text rest

section Live

variable {copy file version : String} {root cache : Option String} {asJson : Bool}

/-- What the words of a live command hold. -/
def liveArguments (copy file version : String) (root cache : Option String) (asJson : Bool) :
    Arguments Key where
  options := [(.file, file), (.version, version)]
    ++ ((root.toList.map fun path => (.root, path)) ++ ((cache.toList.map fun path => (.cache, path))
      ++ if asJson then [(.json, "")] else []))
  operands := [copy]

theorem read?_liveWords (hcopy : copy.toList.head? ≠ some '-') :
    read? Verb.live.options true (liveWords copy file version root cache asJson).tail
      = some (liveArguments copy file version root cache asJson) := by
  have hjson : read? Verb.live.options true (if asJson then ["--json"] else [])
      = some { options := if asJson then [(.json, "")] else [] } := by
    cases asJson with
    | false => rfl
    | true => exact read?_complete gives_json []
  have hwords : (liveWords copy file version root cache asJson).tail
      = copy :: "--original" :: file :: "--phpstan-version" :: version ::
        (optionWords "--root" root ++ (optionWords "--cache-dir" cache
          ++ if asJson then ["--json"] else [])) := rfl
  rw [hwords, read?_operand hcopy, read?_pending gives_file, read?_pending gives_version,
      read?_optionWords gives_root, read?_optionWords gives_cache, hjson]
  simp [liveArguments, give, add]

theorem valuesUsable_liveArguments (hroot : ∀ path ∈ root, Execution.hasNull path = false)
    (hcache : ∀ path ∈ cache, Execution.hasNull path = false) :
    valuesUsable (liveArguments copy file version root cache asJson) = true := by
  have hvalue : ∀ key, ∀ text ∈ (liveArguments copy file version root cache asJson).value? key,
      isValue key text = true := by
    intro key text htext
    cases key with
    | root =>
      have hgiven : text ∈ root := by
        cases root <;> cases cache <;> cases asJson <;> exact htext
      simp [isValue, hroot text hgiven]
    | cache =>
      have hgiven : text ∈ cache := by
        cases root <;> cases cache <;> cases asJson <;> exact htext
      simp [isValue, hcache text hgiven]
    | level => cases root <;> cases cache <;> cases asJson <;> cases htext
    | _ => rfl
  rw [valuesUsable, List.all_eq_true]
  intro key _
  cases hkey : (liveArguments copy file version root cache asJson).value? key with
  | none => rfl
  | some text => exact hvalue key text hkey

/-- The choices come back. -/
theorem request?_liveArguments :
    Verb.live.request? (liveArguments copy file version root cache asJson)
      = some (.live { root := root.getD defaultRoot, asJson } copy (some file) (some version)
          cache) := by
  cases root <;> cases cache <;> cases asJson <;> rfl

theorem read_liveWords (hcopy : copy.toList.head? ≠ some '-')
    (hroot : ∀ path ∈ root, Execution.hasNull path = false)
    (hcache : ∀ path ∈ cache, Execution.hasNull path = false) :
    read (liveWords copy file version root cache asJson)
      = .ok (false, .live { root := root.getD defaultRoot, asJson } copy (some file) (some version)
          cache) := by
  have hhelp : (liveArguments copy file version root cache asJson).has .help = false := by
    cases root <;> cases cache <;> cases asJson <;> rfl
  have hverb : Verb.live.read (liveWords copy file version root cache asJson).tail
      = .ok (.live { root := root.getD defaultRoot, asJson } copy (some file) (some version)
          cache) := by
    rw [Verb.read, read?_liveWords hcopy]
    simp only [hhelp, valuesUsable_liveArguments hroot hcache, request?_liveArguments]
    rfl
  exact read_verb .live hverb

end Live

end EditorAnalysis.CommandLine
