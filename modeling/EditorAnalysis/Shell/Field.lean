/-
EditorAnalysis.Shell.Field — from expanded words to fields.

An expanded word is a list of glyphs: characters with their origin, and marks.
Characters that a parameter or a command yielded outside quotes separate fields
if they are separators; a mark makes a field even if it stays empty. A field with
an unquoted pattern becomes the names of the files that it matches, if there are
any.
-/
import EditorAnalysis.Host.Tree
import EditorAnalysis.Shell.Pattern

namespace EditorAnalysis.Shell

open Text (Octets)

/-- Where a character of an expanded word comes from. -/
inductive Origin where
  /-- From the script. -/
  | script
  /-- From a parameter or a command. -/
  | expansion
  /-- From quotes. -/
  | quotes
deriving DecidableEq

/-- A part of an expanded word. -/
inductive Glyph where
  /-- A character. -/
  | char (c : Char) (origin : Origin)
  /-- A field is here, even if it is empty. -/
  | mark
  /-- A field ends here. -/
  | cut

namespace Field

/-- Characters of one origin. -/
def glyphs (origin : Origin) (cs : Octets) : List Glyph := cs.map fun c => .char c origin

/-- What an expansion yields. -/
def yielded (inQuotes : Bool) (cs : Octets) : List Glyph :=
  if inQuotes then .mark :: glyphs .quotes cs else glyphs .expansion cs

/-- All arguments, each a field of its own. -/
def separate (inQuotes : Bool) (arguments : List Octets) : List Glyph :=
  (arguments.map fun a => yielded inQuotes a).intersperse [.cut] |>.flatten

/-- Text of the script as something that an expansion yielded. -/
def asExpansion (gs : List Glyph) : List Glyph :=
  gs.map fun
    | .char c .script => .char c .expansion
    | g => g

/-- The characters of glyphs, for a place where no fields are made. -/
def plain (separator : Octets) (gs : List Glyph) : Octets :=
  gs.flatMap fun
    | .char c _ => [c]
    | .cut => separator
    | .mark => []

/-- The characters of glyphs, for a pattern. -/
def marked (separator : Octets) (gs : List Glyph) : List Marked :=
  gs.flatMap fun
    | .char c origin => [(c, origin == .quotes)]
    | .cut => separator.map fun c => (c, true)
    | .mark => []

/-- The fields of glyphs, behind a field under way whose characters come last first. The flag
says whether a blank separator has just ended a field: another separator may then stand
beside it. -/
def split (ifs : Octets) : Option (List Marked) → Bool → List Glyph → List (List Marked)
  | current, _, [] => (current.map List.reverse).toList
  | current, _, .mark :: rest => split ifs (some (current.getD [])) false rest
  | current, _, .cut :: rest => (current.map List.reverse).toList ++ split ifs none false rest
  | current, afterBlank, .char c origin :: rest =>
    if origin == .expansion && ifs.contains c then
      let isBlank := c == ' ' || c == '\t' || c == '\n'
      match current with
      | some field => field.reverse :: split ifs none isBlank rest
      | none =>
        if isBlank then split ifs none afterBlank rest
        else if afterBlank then split ifs none false rest
        else [] :: split ifs none false rest
    else split ifs (some ((c, origin == .quotes) :: current.getD [])) false rest

/-! ## File names -/

/-- The components of a pattern for paths. -/
def components (field : List Marked) : List (List Marked) :=
  field.foldr (fun m parts =>
    if m.1 == '/' then [] :: parts
    else match parts with
      | [] => [[m]]
      | part :: more => (m :: part) :: more) [[]]

/-- The paths below a directory that a pattern matches. A name that begins with a
point is matched only by a pattern that begins with one. -/
def expand (fs : Host.Files) : List (List Marked) → List String → List (List String)
  | [], path => [path]
  | part :: more, path =>
    let matchers := Pattern.ofMarked part
    if !Pattern.isGeneral matchers then
      expand fs more (path ++ [Text.Octets.toString (part.map (·.1))])
    else
      let here := "/".intercalate path
      let here := if path.isEmpty then "." else if here == "" then "/" else here
      match fs.locate here with
      | .error _ => []
      | .ok place =>
        let hidden := (part.head?.map (·.1)) == some '.'
        let own := if hidden then [".", ".."] else []
        ((own ++ fs.tree.entries place).filter fun name =>
          (hidden || !name.startsWith ".")
            && Pattern.fits matchers (Text.Octets.ofString name)).flatMap fun name =>
              expand fs more (path ++ [name])

/-- The texts that a field stands for; a pattern that matches nothing stands for itself, or for
nothing. -/
def texts (fs : Host.Files) (drops : Bool) (field : List Marked) : List Octets :=
  let text := field.map (·.1)
  if !Pattern.isGeneral (Pattern.ofMarked field) then [text]
  else
    let found := (expand fs (components field) []).map fun path => "/".intercalate path
    let found := found.filter fun path => (fs.lookLink path).toOption.isSome
    if found.isEmpty then (if drops then [] else [text]) else found.map Text.Octets.ofString

/-- The texts of all fields of glyphs. -/
def all (fs : Host.Files) (ifs : Octets) (expands drops : Bool) (gs : List Glyph) : List Octets :=
  (split ifs none false gs).flatMap fun field =>
    if expands then texts fs drops field else [field.map (·.1)]

end Field

end EditorAnalysis.Shell
