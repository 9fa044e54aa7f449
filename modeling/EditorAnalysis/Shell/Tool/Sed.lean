/-
EditorAnalysis.Shell.Tool.Sed — the program that edits lines by a script.

`Editor` is an edit under way: the line, what is held, the lines to come and what has been
written. A turn of the script ends by itself, or by a command that says how it goes on.
What is written behind a line without an end begins on a line of its own.
-/
import EditorAnalysis.Shell.Tool.Sed.Script
import EditorAnalysis.Shell.Tool.Text

namespace EditorAnalysis.Shell

open Text (Octets)
open Host (Errno)

namespace Sed

/-- A line of a file. -/
structure Entry where
  /-- What it says. -/
  text : Octets
  /-- It has an end. -/
  ended : Bool
  /-- The file's name. -/
  file : Octets

/-- Where something is written. -/
inductive Target where
  /-- To the output. -/
  | output
  /-- To the diagnostics. -/
  | diagnostics
  /-- To a file. -/
  | file (path : Octets)
deriving DecidableEq

/-- What does not change during an edit. -/
structure Setup where
  /-- The script. -/
  script : Array Command
  /-- Lines are not written by themselves. -/
  silent : Bool
  /-- Bytes are read as UTF-8. -/
  utf8 : Bool
  /-- How wide lines are that are spelled out. -/
  width : Nat
  /-- What is in files. -/
  content : Octets → Option Octets

/-- An edit under way. -/
structure Editor where
  /-- The line. -/
  text : Octets := []
  /-- The line has an end. -/
  ended : Bool := true
  /-- The name of the line's file. -/
  file : Octets := []
  /-- What is held. -/
  held : Octets := []
  /-- What is held has an end. -/
  heldEnded : Bool := true
  /-- The line's number. -/
  number : Nat := 0
  /-- The lines to come. -/
  input : List Entry
  /-- The ranges that have begun, by the places of their commands, and the lines where they end, if
  these are known. -/
  ranges : List (Nat × Option Nat) := []
  /-- What is to be written behind the line. -/
  queue : List Octets := []
  /-- Something was replaced in the line. -/
  replaced : Bool := false
  /-- The pattern that was used last. -/
  lastPattern : Option Pattern := none
  /-- What was written, latest first. -/
  written : List (Target × Octets) := []
  /-- Where the end of a line is missing. -/
  unended : List Target := []

/-- How a turn ends. -/
inductive Turn where
  /-- By itself. -/
  | done
  /-- The line is not written. -/
  | dropped
  /-- The next turn takes no line. -/
  | again
  /-- Nothing follows; the line is written, or not. -/
  | quit (status : Nat) (silent : Bool)
  /-- Something is wrong. -/
  | stuck (p : Problem)

namespace Editor

/-! ## Writing -/

/-- Writes a text. -/
def put (e : Editor) (target : Target) (text : Octets) : Editor :=
  let gap := if e.unended.contains target && !text.isEmpty then ['\n'] else []
  { e with
    written := (target, gap ++ text) :: e.written
    unended := if text.isEmpty then e.unended else e.unended.filter (· != target) }

/-- Writes a line, with an end if it has one. -/
def putLine (e : Editor) (target : Target) (text : Octets) : Editor :=
  if e.ended then e.put target (text ++ ['\n'])
  else
    let e := e.put target text
    { e with unended := if e.unended.contains target then e.unended else target :: e.unended }

/-- Writes the line. -/
def print (e : Editor) : Editor := e.putLine .output e.text

/-- Writes what is to be written behind the line. -/
def flush (e : Editor) : Editor :=
  let e := e.queue.foldl (fun e text => e.put .output text) e
  { e with queue := [] }

/-- Where a file's name leads. -/
def targetOf (path : Octets) : Target :=
  match String.ofList path with
  | "/dev/stdout" => .output
  | "/dev/stderr" => .diagnostics
  | _ => .file path

/-! ## Lines -/

/-- There is no line behind this one. -/
def isLast (e : Editor) : Bool := e.input.isEmpty

/-- Takes the next line, behind the current one or in its place. -/
def take? (e : Editor) (appends : Bool) : Option Editor :=
  match e.input with
  | [] => none
  | line :: rest =>
    some { e.flush with
      text := if appends then e.text ++ '\n' :: line.text else line.text
      ended := line.ended, file := line.file, number := e.number + 1, input := rest
      replaced := false }

/-! ## Choosing -/

/-- The pattern to be used, which is then the last one. -/
def patternFor (e : Editor) (p : Pattern) : Option (Pattern × Regex × Editor) :=
  match p.regex with
  | some r => some (p, r, { e with lastPattern := some p })
  | none => e.lastPattern.bind fun p => p.regex.map fun r => (p, r, e)

/-- A text as a pattern looks at it. -/
def subject (setup : Setup) (p : Pattern) (text : Octets) : Regex.Subject :=
  ⟨(Tool.letters setup.utf8 text).toArray, p.ignoresCase, p.manyLines⟩

/-- The line has an address. -/
def hasAddress (e : Editor) (setup : Setup) : Address → Except Problem (Bool × Editor)
  | .line n => .ok (e.number == n, e)
  | .last => .ok (e.isLast, e)
  | .row first step => .ok (first ≤ e.number && (e.number - first) % step == 0, e)
  | .pattern p =>
    match e.patternFor p with
    | none => .error .noPattern
    | some (p, r, e) => .ok ((Regex.search (subject setup p e.text) r 0).isSome, e)

/-- The line where a range ends that begins at this one, if that is known. -/
def boundLine? (e : Editor) : Bound → Option Nat
  | .at (.line n) => some n
  | .at _ => none
  | .after n => some (e.number + n)
  | .multiple n => some (if n = 0 then e.number else (e.number / n + 1) * n)

/-- A command at a place is for the line. -/
def isChosen (e : Editor) (setup : Setup) (place : Nat) :
    Selector → Except Problem (Bool × Editor)
  | .all => .ok (true, e)
  | .one a => e.hasAddress setup a
  | .range a b => do
    let leave (e : Editor) : Editor :=
      { e with ranges := e.ranges.filter fun r => r.1 != place }
    match e.ranges.lookup place with
    | some (some last) =>
      return (e.number ≤ last, if last ≤ e.number then leave e else e)
    | some none =>
      match b with
      | .at address =>
        let (ends, e) ← e.hasAddress setup address
        return (true, if ends then leave e else e)
      | _ => return (true, e)
    | none =>
      let (begins, e) ← e.hasAddress setup a
      if !begins then return (false, e)
      else
        let last? := e.boundLine? b
        if last?.any (· ≤ e.number) then return (true, e)
        else return (true, { e with ranges := (place, last?) :: e.ranges })

/-! ## Replacing -/

/-- How letters are written at a place: from there on, and the next one. -/
structure Style where
  /-- From there on. -/
  casing : Casing := .plain
  /-- The next one. -/
  next : Option Casing := none

/-- A letter in a case. -/
def cased (c : Char) : Casing → Char
  | .plain => c
  | .upper => c.toUpper
  | .lower => c.toLower

/-- A text in a style, and the style behind it. -/
def styled (s : Style) (cs : List Char) : List Char × Style :=
  match cs with
  | [] => ([], s)
  | c :: rest =>
    (cased c (s.next.getD s.casing) :: rest.map fun c => cased c s.casing, { s with next := none })

/-- What is put in the place of a match. -/
def filled (subject : Regex.Subject) (f : Regex.Found) (parts : List Part) : List Char :=
  let step (state : List (List Char) × Style) (part : Part) : List (List Char) × Style :=
    let (done, style) := state
    let add (cs : List Char) : List (List Char) × Style :=
      let (cs, style) := styled style cs
      (cs :: done, style)
    match part with
    | .text cs => add cs
    | .group 0 => add (f.text subject)
    | .group n => add (f.groupText subject n)
    | .casing c => (done, { style with casing := c, next := none })
    | .nextCasing c => (done, { style with next := some c })
  (parts.foldl step ([], {})).1.reverse.flatten

/-- Replaces matches from a place on: the text made of the rest, and whether something was replaced.
An empty match right behind another match does not count. -/
def replacing (subject : Regex.Subject) (r : Regex) (s : Substitution) :
    Nat → Nat → Nat → Option Nat → List Char × Bool
  | 0, _, start, _ => ((subject.chars.extract start subject.chars.size).toList, false)
  | fuel + 1, count, start, lastEnd =>
    let rest (n : Nat) : List Char := (subject.chars.extract n subject.chars.size).toList
    match if start ≤ subject.chars.size then Regex.search subject r start else none with
    | none => (rest start, false)
    | some f =>
      let front := (subject.chars.extract start f.start).toList
      let one := (subject.chars.extract f.stop (f.stop + 1)).toList
      if f.start == f.stop && lastEnd == some f.start then
        let (more, any) := replacing subject r s fuel count (f.stop + 1) none
        (front ++ one ++ more, any)
      else
        let counts := s.number ≤ count
        let middle := if counts then filled subject f s.parts else f.text subject
        if counts && !s.global then (front ++ middle ++ rest f.stop, true)
        else if f.start == f.stop then
          let (more, any) := replacing subject r s fuel (count + 1) (f.stop + 1) none
          (front ++ middle ++ one ++ more, any || counts)
        else
          let (more, any) := replacing subject r s fuel (count + 1) f.stop (some f.stop)
          (front ++ middle ++ more, any || counts)

/-- Replaces matches in the line. -/
def substitute (e : Editor) (setup : Setup) (s : Substitution) : Except Problem Editor :=
  match e.patternFor s.pattern with
  | none => .error .noPattern
  | some (p, r, e) =>
    let subject := subject setup p e.text
    let (cs, any) := replacing subject r s (2 * subject.chars.size + 4) 1 0 none
    if !any then .ok e
    else
      let e := { e with text := Tool.unletters setup.utf8 cs, replaced := true }
      let e := if s.prints then e.print else e
      .ok (match s.file with
        | some path => e.putLine (targetOf path) e.text
        | none => e)

/-! ## Commands -/

/-- A byte of a line that is spelled out. -/
def spelledOut (c : Char) : Octets :=
  if c == '\\' then ['\\', '\\']
  else match [('\x07', 'a'), ('\x08', 'b'), ('\x0c', 'f'), ('\n', 'n'), ('\r', 'r'), ('\t', 't'),
      ('\x0b', 'v')].lookup c with
    | some l => ['\\', l]
    | none =>
      if 32 ≤ c.toNat && c.toNat < 127 then [c]
      else
        let digits := Numeral.digitsIn 8 c.toNat
        '\\' :: (List.replicate (3 - digits.length) '0' ++ digits)

/-- A line spelled out, in parts of a width. -/
def listed (width : Nat) (text : Octets) : Octets :=
  let step (state : Octets × Nat) (c : Char) : Octets × Nat :=
    let (done, column) := state
    let piece := spelledOut c
    if 1 < width && width - 1 < column + piece.length then
      (piece.reverse ++ '\n' :: '\\' :: done, piece.length)
    else (piece.reverse ++ done, column + piece.length)
  (text.foldl step ([], 0)).1.reverse ++ ['$', '\n']

/-- Performs the script from a place on. -/
def perform (setup : Setup) : Nat → Nat → Editor → Turn × Editor
  | 0, _, e => (.done, e)
  | fuel + 1, place, e =>
    match setup.script[place]? with
    | none => (.done, e)
    | some command =>
      match e.isChosen setup place command.selector with
      | .error problem => (.stuck problem, e)
      | .ok (chosen, e) =>
        let on (e : Editor) : Turn × Editor := perform setup fuel (place + 1) e
        if chosen == command.negated then
          match command.action with
          | .block behind => perform setup fuel behind e
          | _ => on e
        else match command.action with
          | .block _ => on e
          | .nothing => on e
          | .append text => on { e with queue := e.queue ++ [text] }
          | .insert text => on (e.put .output text)
          | .change text =>
            let isOpen := (e.ranges.lookup place).isSome && !command.negated
            (.dropped, if isOpen then e else e.put .output text)
          | .jump condition target =>
            let jumps := match condition with
              | .always => true
              | .replaced => e.replaced
              | .unchanged => !e.replaced
            let e := if condition == .always then e else { e with replaced := false }
            if jumps then perform setup fuel target e else on e
          | .quit status silent => (.quit status silent, e)
          | .delete => (.dropped, e)
          | .deleteFirst =>
            if e.text.contains '\n' then
              (.again, { e with text := (e.text.dropWhile (· != '\n')).drop 1 })
            else (.dropped, e)
          | .print => on e.print
          | .printFirst => on (e.put .output (e.text.takeWhile (· != '\n') ++ ['\n']))
          | .next =>
            match (if setup.silent || e.isLast then e else e.print).take? false with
            | some e => on e
            | none => (.quit 0 false, e)
          | .nextToo =>
            match e.take? true with
            | some e => on e
            | none => (.quit 0 false, e)
          | .hold appends =>
            let held := if appends then e.held ++ '\n' :: e.text else e.text
            on { e with held, heldEnded := e.ended }
          | .get appends =>
            let text := if appends then e.text ++ '\n' :: e.held else e.held
            on { e with text, ended := e.heldEnded }
          | .exchange =>
            on { e with
              text := e.held, ended := e.heldEnded, held := e.text, heldEnded := e.ended }
          | .number => on (e.put .output ((toString e.number).toList ++ ['\n']))
          | .fileName => on (e.put .output (e.file ++ ['\n']))
          | .list width => on (e.put .output (listed (width.getD setup.width) e.text))
          | .read path =>
            match setup.content path with
            | some text => on { e with queue := e.queue ++ [text] }
            | none => on e
          | .write path => on (e.putLine (targetOf path) e.text)
          | .substitute s =>
            match e.substitute setup s with
            | .ok e => on e
            | .error problem => (.stuck problem, e)
          | .translate pairs =>
            let cs := (Tool.letters setup.utf8 e.text).map fun c => (pairs.lookup c).getD c
            on { e with text := Tool.unletters setup.utf8 cs }
          | .empty => on { e with text := [] }

/-- How many commands a turn may perform. -/
def turnBound : Nat := 200000

/-- Performs the script for all lines to come; the flag says that the first turn takes no line. The
status is that of a command that ended it. -/
def turns (setup : Setup) : Nat → Bool → Editor → Except Problem (Option Nat × Editor)
  | 0, _, e => .ok (none, e)
  | fuel + 1, again, e =>
    match if again then some e else e.take? false with
    | none => .ok (none, e)
    | some e =>
      let (turn, e) := perform setup turnBound 0 e
      let shown := if setup.silent then e else e.print
      match turn with
      | .done => turns setup fuel false shown.flush
      | .dropped => turns setup fuel false e.flush
      | .again => turns setup fuel true e.flush
      | .quit status true => .ok (some status, e)
      | .quit status false => .ok (some status, shown.flush)
      | .stuck problem => .error problem

end Editor

/-- The ranges that have begun before the first line. -/
def openRanges (script : List Command) : List (Nat × Option Nat) :=
  (script.zipIdx.filter fun (c, _) =>
    match c.selector with
    | .range (.line 0) _ => true
    | _ => false).map fun (_, place) => (place, none)

/-- The lines of a file. -/
def entries (file text : Octets) : List Entry :=
  (Tool.lines text).map fun line => ⟨Tool.body line, line.getLast? == some '\n', file⟩

/-! ## The program -/

/-- What is said of a misuse. -/
def usage (name : Octets) : List String :=
  ["Usage: " ++ Octets.toString name
      ++ " [OPTION]... \x7bscript-only-if-no-other-script\x7d [input-file]...",
    "",
    "  -n, --quiet, --silent",
    "                 suppress automatic printing of pattern space",
    "      --debug",
    "                 annotate program execution",
    "  -e script, --expression=script",
    "                 add the script to the commands to be executed",
    "  -f script-file, --file=script-file",
    "                 add the contents of script-file to the commands to be executed",
    "  --follow-symlinks",
    "                 follow symlinks when processing in place",
    "  -i[SUFFIX], --in-place[=SUFFIX]",
    "                 edit files in place (makes backup if SUFFIX supplied)",
    "  -l N, --line-length=N",
    "                 specify the desired line-wrap length for the \x60l' command",
    "  --posix",
    "                 disable all GNU extensions.",
    "  -E, -r, --regexp-extended",
    "                 use extended regular expressions in the script",
    "                 (for portability use POSIX -E).",
    "  -s, --separate",
    "                 consider files as separate rather than as a single,",
    "                 continuous long stream.",
    "      --sandbox",
    "                 operate in sandbox mode (disable e/r/w commands).",
    "  -u, --unbuffered",
    "                 load minimal amounts of data from the input files and flush",
    "                 the output buffers more often",
    "  -z, --null-data",
    "                 separate lines by NUL characters",
    "      --help     display this help and exit",
    "      --version  output version information and exit",
    "",
    "If no -e, --expression, -f, or --file option is given, then the first",
    "non-option argument is taken as the sed script to interpret.  All",
    "remaining arguments are names of input files; if no input files are",
    "specified, then the standard input is read.",
    "",
    "GNU sed home page: <https://www.gnu.org/software/sed/>.",
    "General help using GNU software: <https://www.gnu.org/gethelp/>."]

/-- The options of the program. -/
def choices : List Tool.Choice :=
  [Tool.flag 'n' "quiet", Tool.longFlag "silent", Tool.wanting 'e' "expression",
    Tool.wanting 'f' "file", Tool.flag 'E' "regexp-extended", Tool.flag 'r' "",
    ⟨some 'i', "in-place", some false⟩, Tool.wanting 'l' "line-length", Tool.flag 's' "separate",
    Tool.flag 'u' "unbuffered", Tool.longFlag "posix", Tool.longFlag "follow-symlinks",
    Tool.longFlag "sandbox", Tool.flag 'b' "binary"]

/-- The status of a file that cannot be read. -/
def unread : Nat := 2

/-- The status of trouble. -/
def trouble : Nat := 4

/-- A piece of a script: where it comes from, and its text. -/
structure Piece where
  /-- The name of its file, if it has one. -/
  file : Option Octets
  /-- Its text. -/
  text : Octets

/-- What stands in front of a complaint about a place in pieces of a script. -/
def placeText (pieces : List Piece) (place : Nat) : Octets :=
  let rec find : Nat → Nat → List Piece → Octets
    | _, _, [] => []
    | count, place, p :: rest =>
      let count := if p.file.isNone then count + 1 else count
      if place ≤ p.text.length || rest.isEmpty then
        match p.file with
        | none => "-e expression #".toList ++ (toString count).toList ++ ", char ".toList
            ++ (toString place).toList ++ ": ".toList
        | some name => "file ".toList ++ name ++ " line ".toList
            ++ (toString ((p.text.take place).count '\n' + 1)).toList ++ ": ".toList
      else find count (place - (p.text.length + 1)) rest
  find 0 place pieces

/-- Complains about a script; the status. -/
def refuse (pieces : List Piece) (length : Nat) : Refusal → Step Nat
  | .missingLabel name => do
    Tool.complain ("can't find label for jump to \x60".toList ++ name ++ ['\''])
    return trouble
  | .problem (.pattern .looseClass) _ => do
    Tool.complainText Regex.Problem.looseClass.message
    return trouble
  | .problem p left => do
    let front := match left with
      | some left => placeText pieces (length - left)
      | none => "-e expression #1, char 0: ".toList
    Tool.complain (front ++ p.message.toList)
    return Tool.failure

/-- Writes what an edit wrote to files: all of it, in the place of what was there. -/
def saveFiles (script : List Command) (written : List (Target × Octets)) : Step Unit := do
  let named := script.filterMap fun c =>
    match c.action with
    | .write path => some path
    | .substitute s => s.file
    | _ => none
  let paths := named.eraseDups.filter fun path => Editor.targetOf path == .file path
  paths.forM fun path => do
    let text := (written.filter fun w => w.1 == .file path).flatMap (·.2)
    let s ← get
    match s.files.locate (Octets.toString path) with
    | .ok place =>
      let node : Host.Node := .file (Octets.toBytes text) (0o666 - (s.mask &&& 0o666))
      set { s with machine := { s.machine with tree := s.machine.tree.put place node } }
    | .error _ => pure ()

/-- Writes what an edit wrote to streams. -/
def writeStreams (written : List (Target × Octets)) : Step Unit :=
  written.forM fun (target, text) =>
    match target with
    | .output => Step.write text
    | .diagnostics => discard (Step.put 2 text)
    | .file _ => pure ()

/-- Puts a text into a file that is there; what was in it is kept under another name, if one is
made of a suffix. -/
def replaceFile (path : Octets) (suffix text : Octets) : Step Unit := do
  let s ← get
  let name := Octets.toString path
  match s.files.locate name, s.files.look name with
  | .ok place, .ok (.file old mode) =>
    let kept := (place.getLast?.getD "") ++ Octets.toString suffix
    let tree := if suffix.isEmpty then s.machine.tree
      else s.machine.tree.put (place.dropLast ++ [kept]) (.file old mode)
    let tree := tree.put place (.file (Octets.toBytes text) mode)
    set { s with machine := { s.machine with tree } }
  | _, _ => pure ()

/-- Edits each file by itself. -/
def editEach (setup : Setup) (suffix : Option Octets) (files : List (Octets × Octets))
    (start : Editor) : Step (Except Problem (Option Nat × Editor)) := do
  match files with
  | [] => return .ok (none, start)
  | (name, text) :: rest =>
    let begun :=
      { start with input := entries name text, number := 0, written := [], unended := [] }
    match Editor.turns setup (2 * text.length + 8) false begun with
    | .error problem => return .error problem
    | .ok (status, e) =>
      let mine := e.written.reverse
      match suffix with
      | some suffix =>
        replaceFile name suffix ((mine.filter fun w => w.1 == .output).flatMap (·.2))
        writeStreams (mine.filter fun w => w.1 != .output)
      | none => writeStreams mine
      let e := { e with written := e.written ++ start.written }
      if status.isSome then return .ok (status, e)
      else editEach setup suffix rest e
termination_by files.length

/-- The contents of files, up to one that cannot be edited; the status so far, and whether that is
the end. -/
def contents (inPlace : Bool) : List Octets → Step (List (Octets × Octets) × Nat × Bool)
  | [] => return ([], 0, false)
  | name :: rest => do
    let further (status : Nat) (first : List (Octets × Octets)) := do
      let (more, status', ends) ← contents inPlace rest
      return (first ++ more, if ends then status' else max status status', ends)
    match ← Tool.contentOf name with
    | .ok text => further 0 [(name, text)]
    | .error .isDirectory =>
      if inPlace then
        Tool.complain ("couldn't edit ".toList ++ name ++ ": not a regular file".toList)
        further trouble []
      else
        Tool.complain ("read error on ".toList ++ name ++ ": Is a directory".toList)
        return ([], trouble, true)
    | .error reason =>
      Tool.complain ("can't read ".toList ++ name ++ ": ".toList ++ reason.text.toList)
      further unread []

/-- Edits files by a script. -/
def edit (chosen : List Tool.Chosen) (pieces : List Piece) (names : List Octets) : Step Nat := do
  let s ← get
  let utf8 := Tool.readsUtf8 s
  let extended := Tool.has chosen 'E' || Tool.has chosen 'r'
  let text := ['\n'].intercalate (pieces.map (·.text))
  match ofText ⟨extended, utf8⟩ text with
  | .error refusal => refuse pieces text.length refusal
  | .ok script =>
    let inPlace := Tool.has chosen 'i'
    let silent := Tool.has chosen 'n' || Tool.hasName chosen "silent" || isSilent text
    let width := ((Tool.valueOf? chosen 'l').bind Numeral.natural?).getD 70
    let content (path : Octets) : Option Octets :=
      ((s.files.read (Octets.toString path)).map Octets.ofBytes).toOption
    let setup : Setup := { script := script.toArray, silent, utf8, width, content }
    let (files, status, _) ← contents inPlace (if names.isEmpty then [['-']] else names)
    let start : Editor := { input := [], ranges := openRanges script }
    let apart := inPlace || Tool.has chosen 's'
    let result ← do
      if apart then
        let ending := if inPlace then some ((Tool.valueOf? chosen 'i').getD []) else none
        editEach setup ending files start
      else
        let input := files.flatMap fun (name, text) => entries name text
        let size := files.foldl (fun n file => n + file.2.length) 0
        match Editor.turns setup (2 * size + 8) false { start with input } with
        | .error problem => pure (Except.error problem)
        | .ok (status, e) =>
          writeStreams e.written.reverse
          pure (.ok (status, e))
    match result with
    | .error problem => refuse pieces text.length (.problem problem none)
    | .ok (ended, e) =>
      saveFiles script e.written.reverse
      return (ended.filter (· != 0)).getD status

end Sed

namespace Tool

/-- Edits lines by a script. -/
def sed : Tool := fun words => do
  let usage := Sed.usage (← get).name
  withOptions { choices := Sed.choices, usage } words fun chosen words => do
    let pieces ← chosen.filterMapM fun c => do
      match c.choice.letter, c.value with
      | some 'e', some text => return some (.ok (⟨none, text⟩ : Sed.Piece))
      | some 'f', some name =>
        match ← contentOf name with
        | .ok text =>
          let text := if text.getLast? == some '\n' then text.dropLast else text
          return some (.ok ⟨some name, text⟩)
        | .error reason => return some (.error (name, reason))
      | _, _ => return none
    match pieces.findSome? fun p =>
        match p with
        | .error e => some e
        | .ok _ => none with
    | some (name, reason) =>
      complain ("couldn't open file ".toList ++ name ++ ": ".toList ++ reason.text.toList)
      return Sed.trouble
    | none =>
      match pieces.filterMap Except.toOption, words with
      | [], [] =>
        usage.forM fun line => Step.note line.toList
        return failure
      | [], script :: names => Sed.edit chosen [⟨none, script⟩] names
      | pieces, names => Sed.edit chosen pieces names

end Tool

end EditorAnalysis.Shell
