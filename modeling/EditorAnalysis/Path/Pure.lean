/-
EditorAnalysis.Path.Pure — paths as texts, without a file system behind them.

A path is an anchor and components. Repeated separators, `.` components and a
separator at the end carry no meaning and are not kept; `..` is kept, since what
it means depends on the file system. A path that begins with exactly two
separators keeps both.
-/
import EditorAnalysis.Text.Search

namespace EditorAnalysis.Path

/-- Where a path starts. -/
inductive Anchor where
  /-- At the current directory. -/
  | relative
  /-- At the root. -/
  | root
  /-- At the root, written with two separators. -/
  | doubleRoot
deriving DecidableEq, Repr

namespace Anchor

/-- How an anchor is written. -/
def text : Anchor → String
  | relative => ""
  | root => "/"
  | doubleRoot => "//"

/-- The anchor of a text: two separators stay two, any other number is one. -/
def ofChars (cs : List Char) : Anchor :=
  match (cs.takeWhile (· == '/')).length with
  | 0 => relative
  | 2 => doubleRoot
  | _ => root

end Anchor

/-- A path. -/
structure Pure where
  /-- Where it starts. -/
  anchor : Anchor
  /-- The names on the way. -/
  components : List String
deriving DecidableEq, Repr

namespace Pure

/-- A component that carries meaning. -/
def isName (name : List Char) : Bool := !name.isEmpty && name != ['.']

/-- The names in a text, separators between them. -/
def names (cs : List Char) : List String :=
  ((Text.splitOn '/' cs).filter isName).map String.ofList

/-- The path that a text writes. -/
def ofString (text : String) : Pure := ⟨Anchor.ofChars text.toList, names text.toList⟩

/-- The path starts at the root. -/
def isAbsolute (p : Pure) : Bool := p.anchor != .relative

/-- The text of a path; the empty path is the current directory. -/
def toString (p : Pure) : String :=
  if p.anchor == .relative && p.components.isEmpty then "."
  else p.anchor.text ++ "/".intercalate p.components

/-- The second path seen from the first: an absolute path stands for itself. -/
def join (p q : Pure) : Pure :=
  if q.isAbsolute then q else ⟨p.anchor, p.components ++ q.components⟩

/-- A name below a path. -/
def child (p : Pure) (name : String) : Pure := ⟨p.anchor, p.components ++ [name]⟩

/-- The path without its last name. -/
def parent (p : Pure) : Pure := ⟨p.anchor, p.components.dropLast⟩

end Pure

/-- The text of a path in its normal form. -/
def normalize (text : String) : String := (Pure.ofString text).toString

end EditorAnalysis.Path
