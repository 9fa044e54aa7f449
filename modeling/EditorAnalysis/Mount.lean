/-
EditorAnalysis.Mount — paths as an analyser in another file system sees them.

A project may be mounted elsewhere for the process that analyses it, in a
container for instance. A mount pairs a local prefix with a remote one; a path
at or below the local prefix is rewritten onto the remote one, with `/` between
the rewritten components. The first mount that covers a path decides, so mounts
built from pairs are ordered by the length of their local prefix, longest first.
-/
import EditorAnalysis.Path.Key

namespace EditorAnalysis

/-- A directory here and the directory it is there. -/
structure Mount where
  /-- The prefix of local paths. -/
  localRoot : String
  /-- The prefix that replaces it. -/
  remoteRoot : String
deriving DecidableEq, Repr

namespace Mount

/-- A prefix without the separators at its end. -/
def stripSeparators (path : String) : String :=
  String.ofList (path.toList.reverse.dropWhile Path.isSeparator).reverse

/-- What is left of a path after a local prefix and the separator behind it. -/
def tail? (root path : List Char) : Option (List Char) :=
  if (root ++ ['/']).isPrefixOf path || (root ++ ['\\']).isPrefixOf path then
    some (path.drop (root.length + 1))
  else none

/-- The remote path, if the mount covers the local one. -/
def map? (m : Mount) (path : String) : Option String :=
  if path = m.localRoot then some m.remoteRoot
  else (tail? m.localRoot.toList path.toList).map fun rest =>
    m.remoteRoot ++ "/" ++ String.ofList (Text.replaceChar '\\' '/' rest)

/-- Mounts in the order in which they are tried: the separators at the end of
both prefixes are dropped, the longest local prefix comes first, and mounts of
equal length keep their order. Pairs without a local prefix are left out. -/
def ordered (pairs : List Mount) : List Mount :=
  ((pairs.filter (·.localRoot ≠ "")).map fun m =>
      (⟨stripSeparators m.localRoot, stripSeparators m.remoteRoot⟩ : Mount)).mergeSort
    fun m n => n.localRoot.length ≤ m.localRoot.length

/-- The path on the remote side of the first mount that covers it; a path that no
mount covers is the same on both sides. -/
def mapPath (mounts : List Mount) (path : String) : String :=
  (mounts.findSome? (·.map? path)).getD path

end Mount

/-- How local paths become the paths an analyser sees. -/
inductive PathMapper where
  /-- The analyser runs here. -/
  | same
  /-- The analyser sees the project through mounts, tried in order. -/
  | mounts (ms : List Mount)
deriving Repr

namespace PathMapper

/-- The mapper that tries the longest local prefix first. -/
def ofPairs (pairs : List Mount) : PathMapper := .mounts (Mount.ordered pairs)

/-- The path the analyser sees. -/
def map : PathMapper → String → String
  | same, path => path
  | mounts ms, path => Mount.mapPath ms path

end PathMapper

end EditorAnalysis
