/-
EditorAnalysis.Journal — what the library tells about its own work.

Operations that take decisions on the caller's behalf return the entries they
would log, oldest first, beside their result.
-/

namespace EditorAnalysis.Journal

/-- How much an entry matters, least first. -/
inductive Level where
  | debug
  | info
  | warning
deriving DecidableEq, Repr

/-- The rank of a level: an entry is shown when it reaches the threshold. -/
def Level.rank : Level → Nat
  | .debug => 10
  | .info => 20
  | .warning => 30

/-- The level's name. -/
def Level.name : Level → String
  | .debug => "DEBUG"
  | .info => "INFO"
  | .warning => "WARNING"

/-- One entry. -/
structure Entry where
  /-- How much it matters. -/
  level : Level
  /-- What it says. -/
  message : String
deriving DecidableEq, Repr

/-- The entries that reach a threshold. -/
def atLeast (threshold : Level) (entries : List Entry) : List Entry :=
  entries.filter fun e => threshold.rank ≤ e.level.rank

/-! ## Where entries go -/

/-- How the journal is set up. -/
structure Setup where
  /-- Entries below this level are not shown. -/
  threshold : Level
  /-- How many readers get the entries. -/
  readers : Nat
  /-- The entries also go to the surrounding program's own journal. -/
  isShared : Bool
deriving DecidableEq, Repr

/-- The journal for a run: one reader, which sees everything if the user wants to
and only warnings otherwise. Whatever was set up before is replaced. -/
def setup (verbose : Bool) : Setup := ⟨if verbose then .debug else .warning, 1, false⟩

/-- An optional text inside a message: an absent one reads `None`. -/
def shown (text : Option String) : String := text.getD "None"

end EditorAnalysis.Journal
