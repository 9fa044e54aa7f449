/-
EditorAnalysis.Host.Tree — directories, files, links and programs by their place.

A place is the list of names from the root. `Files` is a tree seen from a current
directory; a path is walked from there name by name, links are followed, and every
name but the last must lead into a directory. Requests are those of a superuser:
whatever is there may be read and written, and a file may be run if its mode has an
execute bit.
-/
import EditorAnalysis.Assoc
import EditorAnalysis.Host.Errno
import EditorAnalysis.Path.Pure
import EditorAnalysis.Text.Utf8

namespace EditorAnalysis.Host

open Text.Utf8 (Bytes)

/-- The names from the root. -/
abbrev Place := List String

/-- What may be at a place. -/
inductive Node where
  /-- A directory. -/
  | directory
  /-- A file with its content and its mode. -/
  | file (content : Bytes) (mode : Nat)
  /-- A program of the system, by its name. -/
  | program (name : String)
  /-- A device of the system, by its name. -/
  | device (name : String)
  /-- A link, with the path that it stands for. -/
  | link (target : String)
deriving DecidableEq, Repr

/-- Places and what is there. The root is always a directory. -/
structure Tree where
  /-- Everything but the root. -/
  nodes : List (Place × Node)
deriving DecidableEq, Repr

namespace Tree

/-- What is at a place. -/
def get? (t : Tree) (p : Place) : Option Node :=
  if p.isEmpty then some .directory else Assoc.get? p t.nodes

/-- Puts something at a place. -/
def put (t : Tree) (p : Place) (n : Node) : Tree := ⟨Assoc.put p n t.nodes⟩

/-- Takes away what is at a place. -/
def erase (t : Tree) (p : Place) : Tree := ⟨Assoc.erase p t.nodes⟩

/-- Takes away what is at a place and below it. -/
def prune (t : Tree) (p : Place) : Tree := ⟨t.nodes.filter fun entry => !p.isPrefixOf entry.1⟩

/-- Puts what is at a place, and what is below it, at another place. -/
def move (t : Tree) (source target : Place) : Tree :=
  let moved := t.nodes.filterMap fun (p, n) =>
    if source.isPrefixOf p then some (target ++ p.drop source.length, n) else none
  ⟨((t.prune source).prune target).nodes ++ moved⟩

/-- The names in a directory, in order. -/
def entries (t : Tree) (p : Place) : List String :=
  let names := t.nodes.filterMap fun (q, _) =>
    if q.length == p.length + 1 && p.isPrefixOf q then q.getLast? else none
  names.mergeSort fun a b => a ≤ b

/-- Puts something at a place, and directories on the way where nothing is. -/
def plant (t : Tree) (p : Place) (n : Node) : Tree :=
  let ancestors := (List.range p.length).map fun k => p.take k
  let grown := ancestors.foldl
    (fun t q => if (t.get? q).isNone then t.put q .directory else t) t
  if p.isEmpty then grown else grown.put p n

/-- The greatest length of a name, in bytes. -/
def maxNameBytes : Nat := 255

/-- The greatest length of a path, in bytes. -/
def maxPathBytes : Nat := 4095

/-- The mode of a file that is written for the first time. -/
def defaultMode : Nat := 0o644

/-- Goes from a place to a name in it. -/
def enter (t : Tree) (p : Place) (name : String) : Except Errno Place :=
  match t.get? p with
  | none => .error .noEntry
  | some .directory =>
    if maxNameBytes < name.utf8ByteSize then .error .nameTooLong
    else if name = "." then .ok p
    else if name = ".." then .ok p.dropLast
    else .ok (p ++ [name])
  | some _ => .error .notDirectory

/-- The names in a path. -/
def namesIn (path : String) : List String :=
  ((Text.splitOn '/' path.toList).filter (!·.isEmpty)).map String.ofList

/-- A path begins at the root. -/
def isAbsolute (path : String) : Bool := path.toList.head? == some '/'

/-- How many links may lead to each other. -/
def maxLinks : Nat := 40

/-- Goes from a place to a name in it, and on to where a link there leads. The number
bounds how many links follow each other. -/
def follow (t : Tree) (links : Nat) (p : Place) (name : String) : Except Errno Place :=
  match t.enter p name with
  | .error reason => .error reason
  | .ok q =>
    match t.get? q, links with
    | some (.link _), 0 => .error .linkLoop
    | some (.link target), links + 1 =>
      (namesIn target).foldlM (follow t links) (if isAbsolute target then [] else p)
    | _, _ => .ok q

/-- A mode that lets a file be run. -/
def isExecutableMode (mode : Nat) : Bool := mode &&& 0o111 != 0

end Tree

/-- A tree and the place from which relative paths start. -/
structure Files where
  /-- The tree. -/
  tree : Tree
  /-- The current directory. -/
  directory : Place
deriving DecidableEq, Repr

namespace Files

/-- Where the names of a path start. -/
def start (fs : Files) (path : String) : Place :=
  if Tree.isAbsolute path then [] else fs.directory

/-- A path that ends in a slash names a directory, if anything. -/
def hasEnd (path : String) : Bool := path.toList.getLast? == some '/'

/-- The place that a path names. Nothing need be there, but everything on the way
must be a directory. -/
def locate (fs : Files) (path : String) : Except Errno Place :=
  if path = "" then .error .noEntry
  else if Tree.maxPathBytes < path.utf8ByteSize then .error .nameTooLong
  else do
    let place ← (Tree.namesIn path).foldlM (fs.tree.follow Tree.maxLinks) (fs.start path)
    if hasEnd path then
      match fs.tree.get? place with
      | none => .ok place
      | some .directory => .ok place
      | some _ => .error .notDirectory
    else .ok place

/-- The place that a path names, where a link at the end is not followed. -/
def locateLink (fs : Files) (path : String) : Except Errno Place :=
  match (Tree.namesIn path).getLast? with
  | none => fs.locate path
  | some name =>
    if hasEnd path then fs.locate path
    else if Tree.maxPathBytes < path.utf8ByteSize then .error .nameTooLong
    else do
      let above := (Tree.namesIn path).dropLast
      fs.tree.enter (← above.foldlM (fs.tree.follow Tree.maxLinks) (fs.start path)) name

/-- One more name on the way from the root; `..` leads back. -/
def step (place : Place) (name : String) : Place :=
  if name = ".." then place.dropLast else place ++ [name]

/-- The path from the root that a path stands for, whether or not anything is
there. -/
def resolve (fs : Files) (path : Path.Pure) : Path.Pure :=
  ⟨.root, path.components.foldl step (if path.isAbsolute then [] else fs.directory)⟩

/-- What a path names. -/
def look (fs : Files) (path : String) : Except Errno Node := do
  match fs.tree.get? (← fs.locate path) with
  | none => .error .noEntry
  | some node => .ok node

/-- What a path names, where a link at the end is not followed. -/
def lookLink (fs : Files) (path : String) : Except Errno Node := do
  match fs.tree.get? (← fs.locateLink path) with
  | none => .error .noEntry
  | some node => .ok node

/-- A file is at the path. Where there is nothing, or no way to it, there is no
file; other refusals are passed on. -/
def isFile (fs : Files) (path : String) : Except Errno Bool :=
  match fs.look path with
  | .ok .directory => .ok false
  | .ok (.device _) => .ok false
  | .ok _ => .ok true
  | .error .noEntry => .ok false
  | .error .notDirectory => .ok false
  | .error .linkLoop => .ok false
  | .error e => .error e

/-- The path names something that may be run. -/
def isExecutable (fs : Files) (path : String) : Bool :=
  match fs.look path with
  | .ok (.file _ mode) => Tree.isExecutableMode mode
  | .ok (.program _) => true
  | _ => false

/-- The path names a directory. -/
def isDirectory (fs : Files) (path : String) : Bool :=
  match fs.look path with
  | .ok .directory => true
  | _ => false

/-- The content of a file. -/
def read (fs : Files) (path : String) : Except Errno Bytes := do
  match ← fs.look path with
  | .directory => .error .isDirectory
  | .file content _ => .ok content
  | _ => .ok []

/-- Gives a file a new content; a file that is not there is made. -/
def write (fs : Files) (path : String) (content : Bytes) : Except Errno Files := do
  let place ← fs.locate path
  match fs.tree.get? place with
  | some .directory => .error .isDirectory
  | some (.file _ mode) => .ok { fs with tree := fs.tree.put place (.file content mode) }
  | _ => .ok { fs with tree := fs.tree.put place (.file content Tree.defaultMode) }

/-- Makes a directory where nothing is. -/
def makeDirectory (fs : Files) (path : String) : Except Errno Files := do
  let place ← fs.locate path
  match fs.tree.get? place with
  | none => .ok { fs with tree := fs.tree.put place .directory }
  | some _ => .error .entryExists

/-- What a refusal to make a directory comes to: nothing, if the directory is
there. -/
def unlessDirectory (fs : Files) (path : String) (reason : Errno) :
    Except (Errno × String) Files :=
  if fs.isDirectory path then .ok fs else .error (reason, path)

/-- Makes the directory at the end of the names below the anchor, unless it is
there already, and those on the way to it. The names come last one first. -/
def makeDirectoriesUp (fs : Files) (anchor : Path.Anchor) :
    List String → Except (Errno × String) Files
  | [] =>
    let path := (⟨anchor, []⟩ : Path.Pure).toString
    match fs.makeDirectory path with
    | .ok fs => .ok fs
    | .error reason => fs.unlessDirectory path reason
  | name :: above =>
    let path := (⟨anchor, (name :: above).reverse⟩ : Path.Pure).toString
    match fs.makeDirectory path with
    | .ok fs => .ok fs
    | .error .noEntry =>
      match makeDirectoriesUp fs anchor above with
      | .error refusal => .error refusal
      | .ok fs =>
        match fs.makeDirectory path with
        | .ok fs => .ok fs
        | .error reason => fs.unlessDirectory path reason
    | .error reason => fs.unlessDirectory path reason

/-- Makes the directory of a path and those on the way to it; directories that
are there stay. A refusal names the path that it concerns. -/
def makeDirectories (fs : Files) (path : Path.Pure) : Except (Errno × String) Files :=
  makeDirectoriesUp fs path.anchor path.components.reverse

end Files

end EditorAnalysis.Host
