/-
EditorAnalysis.Path.Key — the keys under which a project file is remembered.

Paths come in two styles, with `/` and with `\`, and either separator ends a
component. A file's relative key is its path below the project root; its file
name is the last component.
-/
import EditorAnalysis.Text.Search

namespace EditorAnalysis.Path

/-- The characters that end a path component. -/
def isSeparator (c : Char) : Bool := c == '/' || c == '\\'

/-- The last character is a separator. -/
def endsInSeparator (cs : List Char) : Bool := (cs.getLast?.map isSeparator).getD false

/-- The first character is a separator. -/
def startsWithSeparator (cs : List Char) : Bool := (cs.head?.map isSeparator).getD false

/-- What is left of `path` below `root`: the path continues the root, the root's
last component is complete, and one separator between the two is dropped. -/
def below? (root path : List Char) : Option (List Char) :=
  if root.isEmpty || !root.isPrefixOf path then none
  else
    let rest := path.drop root.length
    if !rest.isEmpty && !endsInSeparator root && !startsWithSeparator rest then none
    else
      let key := if startsWithSeparator rest then rest.drop 1 else rest
      if key.isEmpty then none else some key

/-- The path of a project file below the project's root, if the root is known and
holds the file. -/
def relativeKey? (path : String) (root : Option String) : Option String :=
  root.bind fun r => (below? r.toList path.toList).map String.ofList

/-- The last component in either style. -/
def fileNameChars (cs : List Char) : List Char :=
  Text.afterLast '\\' (Text.afterLast '/' cs)

/-- The last component of a path in either style. -/
def fileName (path : String) : String := String.ofList (fileNameChars path.toList)

end EditorAnalysis.Path
