/-
EditorAnalysis.Registry — which project file a temporary copy stands for.

An editor analyses an unsaved buffer from a temporary copy whose path ends like
the path of the file it stands for. Files are recorded under their relative key
and their bare name; a copy belongs to the first key, in the order in which keys
were first recorded, that its path ends in or holds right after a separator. A
key recorded again keeps its place and takes the newer file.
-/
import EditorAnalysis.Assoc
import EditorAnalysis.Journal
import EditorAnalysis.Path.Key
import EditorAnalysis.Text.Given
import EditorAnalysis.Text.Search

namespace EditorAnalysis

/-- The recorded keys, each with its file, in the order of their first record. -/
structure Registry where
  /-- Keys and files. -/
  entries : List (String × String)
deriving DecidableEq, Repr

namespace Registry

/-- Nothing recorded. -/
def empty : Registry := ⟨[]⟩

/-- How many keys are recorded. -/
def size (r : Registry) : Nat := r.entries.length

/-- The recorded keys with their files, oldest key first. -/
def toList (r : Registry) : List (String × String) := r.entries

/-- What is known of a file when its analysis begins. -/
structure Registration where
  /-- The file's own path. -/
  path : String
  /-- Its relative key, if the caller knows it. -/
  key : Option String := none
  /-- Its bare name, if the caller knows it. -/
  fileName : Option String := none
  /-- The project's root, from which a missing key is derived. -/
  root : Option String := none
deriving DecidableEq, Repr

namespace Registration

/-- The key recorded: the given one, unless it is missing or empty, else the one
below the root. -/
def relativeKey? (g : Registration) : Option String :=
  (Text.given? g.key).or (Path.relativeKey? g.path g.root)

/-- The name recorded: the given one, unless it is missing or empty, else the
last component of the path. -/
def bareName (g : Registration) : String :=
  (Text.given? g.fileName).getD (Path.fileName g.path)

/-- The keys that a registration writes, in order. -/
def keys (g : Registration) : List String :=
  if g.path = "" then []
  else (Text.given? g.relativeKey?).toList ++ (Text.given? (some g.bareName)).toList

end Registration

/-- Records a file under its keys. A registration without a path is ignored. -/
def register (g : Registration) (r : Registry) : Registry :=
  ⟨g.keys.foldl (fun entries key => Assoc.put key g.path entries) r.entries⟩

/-- What registering a file tells the journal. -/
def registered (g : Registration) : List Journal.Entry :=
  if g.path = "" then []
  else [⟨.debug, "Registered original path " ++ g.path ++ " (key="
    ++ Journal.shown g.relativeKey? ++ ", filename=" ++ g.bareName ++ ")"⟩]

/-- A path belongs to a key when it ends in the key or holds the key right after
a separator. -/
def belongs (path key : List Char) : Bool :=
  key.isSuffixOf path || Text.occursIn ('/' :: key) path || Text.occursIn ('\\' :: key) path

/-- The recorded file a temporary copy stands for. -/
def resolve (r : Registry) (copy : Option String) : Option String :=
  copy.bind fun path =>
    (r.entries.find? fun entry => belongs path.toList entry.1.toList).map (·.2)

/-- Forgets everything. -/
def clear (_ : Registry) : Registry := empty

end Registry

end EditorAnalysis
