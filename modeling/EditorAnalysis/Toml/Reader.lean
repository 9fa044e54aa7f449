/-
EditorAnalysis.Toml.Reader — reading TOML documents.

A document is a sequence of statements, one a line: a header opens a table or a
new last element of an array of tables, and a key with a value puts the value
into the open table. No statement may change what an earlier one settled:

* a value is given once;
* arrays and inline tables are complete where they are written; nothing may be
  put below them later (`sealed`);
* a table is opened by one header at most, and by none if it came about by a
  dotted key of an earlier section (`opened`, `pending`).

A new element of an array of tables begins with nothing settled below it.
-/
import EditorAnalysis.Assoc
import EditorAnalysis.Toml.Scan

namespace EditorAnalysis.Toml

open Text (ReadFault)

/-- The parts of a key from the root. -/
abbrev Key := List String

/-- Names and values. -/
abbrev Entries := List (String × Datum)

/-! ## Tables within tables -/

/-- Changes the table at the end of a key; tables that are missing on the way are
made. Where the way leads through an array of tables, its last element is meant,
if `throughArrays` allows it. -/
def changeAt (throughArrays : Bool) (change : Entries → Except ReadFault Entries) :
    Key → Entries → Except ReadFault Entries
  | [], entries => change entries
  | name :: more, entries =>
    match Assoc.get? name entries with
    | none =>
      match changeAt throughArrays change more [] with
      | .error fault => .error fault
      | .ok inner => .ok (Assoc.put name (.table inner) entries)
    | some (.table inner) =>
      match changeAt throughArrays change more inner with
      | .error fault => .error fault
      | .ok inner => .ok (Assoc.put name (.table inner) entries)
    | some (.list items) =>
      match throughArrays, items.getLast? with
      | true, some (.table inner) =>
        match changeAt throughArrays change more inner with
        | .error fault => .error fault
        | .ok inner => .ok (Assoc.put name (.list (items.dropLast ++ [.table inner])) entries)
      | _, _ => .error .malformed
    | some _ => .error .malformed

/-- Gives a name a value that it does not have yet. -/
def give (name : String) (value : Datum) (entries : Entries) : Except ReadFault Entries :=
  match Assoc.get? name entries with
  | none => .ok (Assoc.put name value entries)
  | some _ => .error .malformed

/-- Appends an empty table to the array of a name. -/
def appendTable (name : String) (entries : Entries) : Except ReadFault Entries :=
  match Assoc.get? name entries with
  | none => .ok (Assoc.put name (.list [.table []]) entries)
  | some (.list items) => .ok (Assoc.put name (.list (items ++ [.table []])) entries)
  | some _ => .error .malformed

/-- The value has parts. -/
def hasParts : Datum → Bool
  | .list _ => true
  | .table _ => true
  | _ => false

/-- A sealed key lies on the way to a key or is the key itself. -/
def isSealed (settled : List Key) (key : Key) : Bool :=
  settled.any fun s => !s.isEmpty && s.isPrefixOf key

/-! ## Values -/

/-- How much room there is for values within each other. -/
def allRoom : Nat := 984

/-- The room that an array takes. -/
def arrayRoom : Nat := 2

/-- The room that an inline table takes. -/
def tableRoom : Nat := 3

/-- The room that is left inside a value, which is refused where there is too little. -/
def enter (room taken : Nat) : Except ReadFault Nat :=
  if room < taken then .error (.nestedTooDeep none) else .ok (room - taken)

mutual

/-- Reads a value. The fuel bounds how many values are read. -/
def value (room : Nat) : Nat → List Char → Step Datum
  | 0, _ => .error .malformed
  | fuel + 1, cs =>
    match cs with
    | '[' :: rest =>
      match enter room arrayRoom, Scan.skipSpace (rest.length + 1) rest with
      | .error fault, _ => .error fault
      | _, .error fault => .error fault
      | _, .ok (']' :: rest) => .ok (.list [], rest)
      | .ok room, .ok rest => (items room fuel rest).map fun (vs, rest) => (.list vs, rest)
    | '\x7b' :: rest =>
      match enter room tableRoom, Scan.skipBlanks rest with
      | .error fault, _ => .error fault
      | _, '\x7d' :: rest => .ok (.table [], rest)
      | .ok room, rest =>
        (inlineEntries room fuel [] [] rest).map fun (es, rest) => (.table es, rest)
    | _ => Scan.scalar cs

/-- Reads the items of an array up to its closing bracket, at least one; a comma
may stand behind the last. -/
def items (room : Nat) : Nat → List Char → Step (List Datum)
  | 0, _ => .error .malformed
  | fuel + 1, cs =>
    match value room fuel cs with
    | .error fault => .error fault
    | .ok (v, rest) =>
      match Scan.skipSpace (rest.length + 1) rest with
      | .error fault => .error fault
      | .ok (']' :: rest) => .ok ([v], rest)
      | .ok (',' :: rest) =>
        match Scan.skipSpace (rest.length + 1) rest with
        | .error fault => .error fault
        | .ok (']' :: rest) => .ok ([v], rest)
        | .ok rest => (items room fuel rest).map fun (vs, rest) => (v :: vs, rest)
      | .ok _ => .error .malformed

/-- Reads a key, an equals sign and a value. -/
def pair (room : Nat) : Nat → List Char → Step (Key × Datum)
  | 0, _ => .error .malformed
  | fuel + 1, cs =>
    match Scan.key (cs.length + 1) cs with
    | .error fault => .error fault
    | .ok (key, '=' :: rest) =>
      (value room fuel (Scan.skipBlanks rest)).map fun (v, rest) => ((key, v), rest)
    | .ok _ => .error .malformed

/-- Reads the entries of an inline table up to its closing brace, at least one. -/
def inlineEntries (room : Nat) : Nat → Entries → List Key → List Char → Step Entries
  | 0, _, _, _ => .error .malformed
  | fuel + 1, entries, settled, cs =>
    match pair room fuel cs with
    | .error fault => .error fault
    | .ok ((key, v), rest) =>
      if isSealed settled key then .error .malformed
      else match changeAt false (give (key.getLast?.getD "") v) key.dropLast entries with
        | .error fault => .error fault
        | .ok entries =>
          match Scan.skipBlanks rest with
          | '\x7d' :: rest => .ok (entries, rest)
          | ',' :: rest =>
            inlineEntries room fuel entries (if hasParts v then key :: settled else settled)
              (Scan.skipBlanks rest)
          | _ => .error .malformed

end

/-! ## Statements -/

/-- A document while it is read. -/
structure Draft where
  /-- What is given so far. -/
  root : Entries := []
  /-- The key of the open table. -/
  header : Key := []
  /-- The keys that no header may open. -/
  opened : List Key := []
  /-- The keys that no header may open once this section is over. -/
  pending : List Key := []
  /-- The keys below which everything is given. -/
  settled : List Key := []

namespace Draft

/-- The section is over. -/
def endSection (d : Draft) : Draft := { d with opened := d.pending ++ d.opened, pending := [] }

/-- Opens a table. -/
def openTable (d : Draft) (key : Key) : Except ReadFault Draft :=
  if d.opened.contains key || isSealed d.settled key then .error .malformed
  else (changeAt true .ok key d.root).map fun root =>
    { d with root, header := key, opened := key :: d.opened }

/-- Opens a new last element of an array of tables. -/
def openElement (d : Draft) (key : Key) : Except ReadFault Draft :=
  if isSealed d.settled key then .error .malformed
  else
    let isAbove (k : Key) : Bool := !key.isPrefixOf k
    (changeAt true (appendTable (key.getLast?.getD "")) key.dropLast d.root).map fun root =>
      { d with
        root
        header := key
        opened := key :: d.opened.filter isAbove
        settled := d.settled.filter isAbove }

/-- The tables on the way that a dotted key makes below the open table. -/
def dottedTables (header key : Key) : List Key :=
  (List.range (key.length - 1)).map fun k => header ++ key.take (k + 1)

/-- Puts a value into the open table. -/
def giveValue (d : Draft) (key : Key) (v : Datum) : Except ReadFault Draft :=
  let tables := dottedTables d.header key
  if tables.any d.opened.contains then .error .malformed
  else if isSealed d.settled (d.header ++ key.dropLast) then .error .malformed
  else
    (changeAt true (give (key.getLast?.getD "") v) (d.header ++ key.dropLast) d.root).map
      fun root =>
        { d with
          root
          pending := tables ++ d.pending
          settled := if hasParts v then (d.header ++ key) :: d.settled else d.settled }

end Draft

/-- Reads a header behind its opening brackets up to its closing ones. -/
def header (closing : List Char) (opens : Key → Except ReadFault Draft) (cs : List Char) :
    Step Draft :=
  match Scan.key (cs.length + 1) (Scan.skipBlanks cs) with
  | .error fault => .error fault
  | .ok (key, rest) =>
    match opens key with
    | .error fault => .error fault
    | .ok d =>
      if closing.isPrefixOf rest then .ok (d, rest.drop closing.length) else .error .malformed

/-- Reads one statement, or none where a comment or a line break is. -/
def statement (d : Draft) (cs : List Char) : Step Draft :=
  match cs with
  | '[' :: '[' :: rest => header [']', ']'] d.endSection.openElement rest
  | '[' :: rest => header [']'] d.endSection.openTable rest
  | c :: _ =>
    if Scan.isKeyStart c then
      match pair allRoom (2 * cs.length + 1) cs with
      | .error fault => .error fault
      | .ok ((key, v), rest) => (d.giveValue key v).map fun d => (d, rest)
    else if c == '#' || c == '\n' then .ok (d, cs)
    else .error .malformed
  | [] => .ok (d, [])

/-- Reads statements to the end. The fuel bounds the number of lines. -/
def statements : Nat → Draft → List Char → Except ReadFault Draft
  | 0, _, _ => .error .malformed
  | fuel + 1, d, cs =>
    match statement d (Scan.skipBlanks cs) with
    | .error fault => .error fault
    | .ok (d, rest) =>
      match Scan.skipComment (Scan.skipBlanks rest) with
      | .error fault => .error fault
      | .ok [] => .ok d
      | .ok ('\n' :: rest) => statements fuel d rest
      | .ok _ => .error .malformed

/-- Reads a document. -/
def read (cs : List Char) : Except ReadFault Entries :=
  let cs := Text.joinNewlines cs
  (statements (cs.length + 1) {} cs).map (·.root)

end EditorAnalysis.Toml
