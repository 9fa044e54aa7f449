/-
EditorAnalysis.Shell.Tool.Files — programs that make, move, remove and list files.
-/
import EditorAnalysis.Shell.Builtin.Surroundings
import EditorAnalysis.Shell.Tool.Basic

namespace EditorAnalysis.Shell.Tool

open Text (Octets)
open Host (Errno Files Node Place Tree)

/-! ## Requests -/

/-- The files that the program sees. -/
def files : Step Files := do return (← get).files

/-- Puts a tree in the place of the one that is there. -/
def setTree (tree : Tree) : Step Unit :=
  modify fun s => { s with machine := { s.machine with tree } }

/-- What a path names. -/
def look (w : Octets) : Step (Except Errno Node) := do
  return (← files).look (Octets.toString w)

/-- What a path names, where a link at the end is not followed. -/
def lookLink (w : Octets) : Step (Except Errno Node) := do
  return (← files).lookLink (Octets.toString w)

/-- Where a path leads. -/
def locate (w : Octets) : Step (Except Errno Place) := do
  return (← files).locate (Octets.toString w)

/-- Where a path leads, where a link at the end is not followed. -/
def locateLink (w : Octets) : Step (Except Errno Place) := do
  return (← files).locateLink (Octets.toString w)

/-- The path names a directory. -/
def isDirectory (w : Octets) : Step Bool := do
  return (← files).isDirectory (Octets.toString w)

/-- Complains that something cannot be done to a file. -/
def cannot (verb : String) (w : Octets) (reason : String) : Step Unit := do
  complain (("cannot " ++ verb ++ " ").toList ++ (← always w) ++ ": ".toList ++ reason.toList)

/-- The status of several requests, each of which may fail. -/
def statusOf (results : List Bool) : Nat := if results.all id then 0 else failure

/-- The last name in a path. -/
def lastName (w : Octets) : Octets :=
  Text.afterLast '/' (w.reverse.dropWhile (· == '/')).reverse

/-- A name in a directory. -/
def inside (directory name : Octets) : Octets :=
  if directory.getLast? == some '/' then directory ++ name else directory ++ '/' :: name

/-- The mode of a new file. -/
def newMode (s : State) : Nat := 0o666 &&& (0o7777 - s.mask)

/-- A place for something new: the directory above must be there. -/
def newPlace (w : Octets) : Step (Except Errno Place) := do
  let fs ← files
  match fs.locate (Octets.toString w) with
  | .error reason => return .error reason
  | .ok place =>
    match fs.tree.get? place.dropLast with
    | some .directory => return .ok place
    | some _ => return .error .notDirectory
    | none => return .error .noEntry

/-! ## Making -/

/-- The paths on the way to a path, from the first on. -/
def waysTo (w : Octets) : List Octets :=
  let parts := Text.splitOn '/' w
  let indexed := (List.range parts.length).zip parts
  indexed.filterMap fun (k, part) =>
    if part.isEmpty then none else some (['/'].intercalate (parts.take (k + 1)))

/-- Makes a directory. -/
def makeDirectory (w : Octets) : Step (Except Errno Unit) := do
  let fs ← files
  match fs.makeDirectory (Octets.toString w) with
  | .ok fs =>
    setTree fs.tree
    return .ok ()
  | .error reason => return .error reason

/-- Makes the directories on the way to a path that are not there. -/
def makeWay (verbose : Bool) : List Octets → Step Bool
  | [] => return true
  | w :: more => do
    if ← isDirectory w then makeWay verbose more
    else match ← makeDirectory w with
      | .ok () =>
        if verbose then
          Step.write ((← get).name ++ ": created directory ".toList ++ (← always w) ++ ['\n'])
        makeWay verbose more
      | .error reason =>
        let reason := if reason == .entryExists && !more.isEmpty then .notDirectory else reason
        complain ("cannot create directory ".toList ++ (← named w) ++ ": ".toList
          ++ reason.text.toList)
        return false

/-- Makes directories. -/
def mkdir : Tool := fun words => do
  let choices := [flag 'p' "parents", wanting 'm' "mode", flag 'v' "verbose", ⟨some 'Z', "", none⟩]
  withOptions { choices } words fun chosen names => do
    if names.isEmpty then misuse failure "missing operand".toList
    else
      let verbose := has chosen 'v'
      return statusOf (← names.mapM fun w => do
        if has chosen 'p' && !w.isEmpty then makeWay verbose (waysTo w)
        else match ← makeDirectory w with
          | .ok () =>
            if verbose then
              Step.write ((← get).name ++ ": created directory ".toList ++ (← always w) ++ ['\n'])
            return true
          | .error reason =>
            complain ("cannot create directory ".toList ++ (← named w) ++ ": ".toList
              ++ reason.text.toList)
            return false)

/-- Makes files that are not there. -/
def touch : Tool := fun words => do
  let choices := [⟨some 'a', "", none⟩, flag 'c' "no-create", wanting 'd' "date",
    ⟨some 'f', "", none⟩, ⟨some 'm', "", none⟩, wanting 'r' "reference",
    ⟨some 't', "", some true⟩, flag 'h' "no-dereference"]
  withOptions { choices } words fun chosen names => do
    if names.isEmpty then misuse failure "missing file operand".toList
    else return statusOf (← names.mapM fun w => do
      match ← look w with
      | .ok _ => return true
      | .error _ =>
        if has chosen 'c' then return true
        match ← newPlace w with
        | .ok place =>
          let s ← get
          if w.getLast? == some '/' then
            cannot "touch" w Errno.noEntry.text
            return false
          setTree (s.machine.tree.put place (.file [] (newMode s)))
          return true
        | .error reason =>
          cannot "touch" w reason.text
          return false)

/-- Makes links, or copies in the place of those that share a file. -/
def linkOne (symbolic force verbose : Bool) (target name : Octets) : Step Bool := do
  let kind := if symbolic then "symbolic" else "hard"
  let node ← if symbolic then pure (.ok (Node.link (Octets.toString target))) else look target
  match node with
  | .error reason =>
    complain ("failed to access ".toList ++ (← always target) ++ ": ".toList
      ++ reason.text.toList)
    return false
  | .ok .directory =>
    complain (target ++ ": hard link not allowed for directory".toList)
    return false
  | .ok node =>
    let refused (reason : Errno) : Step Bool := do
      complain (("failed to create " ++ kind ++ " link ").toList ++ (← always name) ++ ": ".toList
        ++ reason.text.toList)
      return false
    match ← lookLink name, force with
    | .ok _, false => refused .entryExists
    | _, _ =>
      match ← locateLink name with
      | .error reason => refused reason
      | .ok place =>
        let s ← get
        match s.machine.tree.get? place.dropLast with
        | some .directory =>
          setTree (s.machine.tree.put place node)
          if verbose then
            let arrow := if symbolic then " -> " else " => "
            Step.write ((← always name) ++ arrow.toList ++ (← always target) ++ ['\n'])
          return true
        | _ => refused .noEntry

/-- Makes links. -/
def ln : Tool := fun words => do
  let choices := [flag 's' "symbolic", flag 'f' "force", flag 'n' "no-dereference",
    flag 'v' "verbose", flag 'T' "no-target-directory", wanting 't' "target-directory",
    flag 'r' "relative", flag 'i' "interactive", flag 'L' "logical", flag 'P' "physical"]
  withOptions { choices } words fun chosen names => do
    let one := linkOne (has chosen 's') (has chosen 'f') (has chosen 'v')
    match valueOf? chosen 't', names with
    | _, [] => misuse failure "missing file operand".toList
    | some directory, names =>
      return statusOf (← names.mapM fun w => one w (inside directory (lastName w)))
    | none, [target] => return statusOf [← one target (lastName target)]
    | none, [target, name] =>
      let into ← if has chosen 'T' || has chosen 'n' then pure false else isDirectory name
      return statusOf [← one target (if into then inside name (lastName target) else name)]
    | none, names =>
      let directory := names.getLast?.getD []
      if ← isDirectory directory then
        return statusOf (← names.dropLast.mapM fun w => one w (inside directory (lastName w)))
      else
        let reason := match ← look directory with
          | .error reason => reason
          | .ok _ => .notDirectory
        complain ("target ".toList ++ (← always directory) ++ ": ".toList ++ reason.text.toList)
        return failure

/-! ## Removing -/

/-- The path ends in the name of the current directory, or of the one above. -/
def isDots (w : Octets) : Bool := lastName w == ['.'] || lastName w == ['.', '.']

/-- Takes away what a path names. -/
def removeOne (recursive emptyToo force verbose : Bool) (w : Octets) : Step Bool := do
  match ← lookLink w, ← locateLink w with
  | .ok node, .ok place =>
    let s ← get
    let tree := s.machine.tree
    let refused (reason : String) : Step Bool := do
      cannot "remove" w reason
      return false
    let remove : Step Bool := do
      setTree (tree.prune place)
      if verbose then
        Step.write ("removed ".toList ++ (if node == .directory then "directory ".toList else [])
          ++ (← always w) ++ ['\n'])
      return true
    if node != .directory then remove
    else if recursive then
      if place.isEmpty then
        complainText "it is dangerous to operate recursively on '/'"
        complainText "use --no-preserve-root to override this failsafe"
        return false
      else if isDots w then
        complain ("refusing to remove '.' or '..' directory: skipping ".toList ++ (← always w))
        return false
      else remove
    else if emptyToo then
      if (tree.entries place).isEmpty then remove else refused Errno.notEmpty.text
    else refused Errno.isDirectory.text
  | .error reason, _ =>
    if force && (reason == .noEntry || reason == .notDirectory) then return true
    cannot "remove" w reason.text
    return false
  | _, .error reason =>
    cannot "remove" w reason.text
    return false

/-- Removes files, and directories with everything below them if an option says so. -/
def rm : Tool := fun words => do
  let choices := [flag 'r' "recursive", ⟨some 'R', "", none⟩, flag 'f' "force",
    flag 'v' "verbose", flag 'd' "dir", ⟨some 'i', "", none⟩, ⟨some 'I', "", none⟩]
  withOptions { choices } words fun chosen names => do
    let force := has chosen 'f'
    if names.isEmpty then
      if force then return 0 else misuse failure "missing operand".toList
    else
      let recursive := has chosen 'r' || has chosen 'R'
      return statusOf (← names.mapM fun w =>
        removeOne recursive (has chosen 'd') force (has chosen 'v') w)

/-- Takes away an empty directory. -/
def removeDirectory (ignoresFull verbose : Bool) (w : Octets) : Step Bool := do
  let refused (reason : Errno) : Step Bool := do
    complain ("failed to remove ".toList ++ (← always w) ++ ": ".toList ++ reason.text.toList)
    return false
  if verbose then
    Step.write ((← get).name ++ ": removing directory, ".toList ++ (← always w) ++ ['\n'])
  match ← lookLink w, ← locateLink w with
  | .error reason, _ => refused reason
  | _, .error reason => refused reason
  | .ok .directory, .ok place =>
    let tree := (← get).machine.tree
    if lastName w == ['.'] then refused .invalid
    else if (tree.entries place).isEmpty then
      setTree (tree.erase place)
      return true
    else if ignoresFull then return false
    else refused .notEmpty
  | .ok _, .ok _ => refused .notDirectory

/-- Removes a directory and then those on the way to it. -/
def removeWay (ignoresFull verbose : Bool) : List Octets → Step Bool
  | [] => return true
  | w :: more => do
    if ← removeDirectory ignoresFull verbose w then removeWay ignoresFull verbose more
    else return ignoresFull

/-- Removes empty directories. -/
def rmdir : Tool := fun words => do
  let choices := [flag 'p' "parents", flag 'v' "verbose", longFlag "ignore-fail-on-non-empty"]
  withOptions { choices } words fun chosen names => do
    if names.isEmpty then misuse failure "missing operand".toList
    else
      let ignores := hasName chosen "ignore-fail-on-non-empty"
      return statusOf (← names.mapM fun w =>
        removeWay ignores (has chosen 'v')
          (if has chosen 'p' then (waysTo w).reverse else [w]))

/-! ## Copying and moving -/

/-- The tree with a copy of what is at a place. -/
def copyTree (tree : Tree) (source target : Place) (mask : Nat) : Tree :=
  let below := tree.nodes.filter fun (p, _) => source.isPrefixOf p
  below.foldl (fun t (p, node) =>
    let place := target ++ p.drop source.length
    let node := match node, t.get? place with
      | .file content _, some (.file _ mode) => Node.file content mode
      | .file content mode, _ => Node.file content (mode &&& (0o7777 - mask))
      | node, _ => node
    t.put place node) tree

/-- Copies a file or a directory. -/
def copyOne (recursive verbose keeps : Bool) (source target : Octets) : Step Bool := do
  let s ← get
  let fs := s.files
  let refused (text : Octets) : Step Bool := do
    complain text
    return false
  let done (tree : Tree) : Step Bool := do
    setTree tree
    if verbose then
      Step.write ((← always source) ++ " -> ".toList ++ (← always target) ++ ['\n'])
    return true
  match fs.look (Octets.toString source), fs.locate (Octets.toString source) with
  | .error reason, _ =>
    cannot "stat" source reason.text
    return false
  | _, .error reason =>
    cannot "stat" source reason.text
    return false
  | .ok node, .ok from_ =>
    match fs.look (Octets.toString target) with
    | .ok old =>
      let to_ := (fs.locate (Octets.toString target)).toOption.getD []
      if keeps then return true
      if node == .directory && !recursive then
        refused ("-r not specified; omitting directory ".toList ++ (← always source))
      else if from_ == to_ && node != .directory then
        refused ((← always source) ++ " and ".toList ++ (← always target)
          ++ " are the same file".toList)
      else if node == .directory && old != .directory then
        refused ("cannot overwrite non-directory ".toList ++ (← always target)
          ++ " with directory ".toList ++ (← always source))
      else if node != .directory && old == .directory then
        refused ("cannot overwrite directory ".toList ++ (← always target)
          ++ " with non-directory".toList)
      else done (copyTree fs.tree from_ to_ 0)
    | .error _ =>
      if node == .directory && !recursive then
        refused ("-r not specified; omitting directory ".toList ++ (← always source))
      else match ← newPlace target with
        | .error reason =>
          let kind := if node == .directory then "create directory" else "create regular file"
          cannot kind target reason.text
          return false
        | .ok to_ =>
          if node == .directory && from_.isPrefixOf to_ then
            refused ("cannot copy a directory, ".toList ++ (← always source)
              ++ ", into itself, ".toList ++ (← always target))
          else if node != .directory && target.getLast? == some '/' then
            cannot "create regular file" target Errno.notDirectory.text
            return false
          else
            let tree := if node == .directory then copyTree fs.tree from_ to_ s.mask
              else match node with
                | .file content mode =>
                  fs.tree.put to_ (.file content (mode &&& (0o7777 - s.mask)))
                | .device _ => fs.tree.put to_ (.file [] (newMode s))
                | other => fs.tree.put to_ other
            done tree

/-- Moves a file or a directory. -/
def moveOne (verbose keeps : Bool) (source target : Octets) : Step Bool := do
  let s ← get
  let fs := s.files
  let refused (text : Octets) : Step Bool := do
    complain text
    return false
  let both (middle : String) : Step Octets := do
    return (← always source) ++ middle.toList ++ (← always target)
  match fs.lookLink (Octets.toString source), fs.locateLink (Octets.toString source) with
  | .ok node, .ok from_ =>
    match ← (do
        match fs.lookLink (Octets.toString target) with
        | .ok _ => locateLink target
        | .error _ => newPlace (target.reverse.dropWhile (· == '/')).reverse) with
    | .error reason =>
      refused ("cannot move ".toList ++ (← both " to ") ++ ": ".toList ++ reason.text.toList)
    | .ok to_ =>
      let old := fs.tree.get? to_
      if keeps && old.isSome then return true
      else if from_ == to_ then
        refused ((← both " and ") ++ " are the same file".toList)
      else if node == .directory && from_.isPrefixOf to_ then
        refused ("cannot move ".toList ++ (← both " to a subdirectory of itself, "))
      else if node == .directory && old.isSome && old != some .directory then
        refused ("cannot overwrite non-directory ".toList ++ (← always target)
          ++ " with directory ".toList ++ (← always source))
      else if node != .directory && old == some .directory then
        refused ("cannot overwrite directory ".toList ++ (← always target)
          ++ " with non-directory".toList)
      else if old == some .directory && !(fs.tree.entries to_).isEmpty then
        refused ("cannot overwrite ".toList ++ (← always target) ++ ": ".toList
          ++ Errno.notEmpty.text.toList)
      else if node != .directory && old.isNone && target.getLast? == some '/' then
        refused ("cannot move ".toList ++ (← both " to ") ++ ": ".toList
          ++ Errno.notDirectory.text.toList)
      else
        setTree (fs.tree.move from_ to_)
        if verbose then Step.write ("renamed ".toList ++ (← both " -> ") ++ ['\n'])
        return true
  | .error reason, _ =>
    cannot "stat" source reason.text
    return false
  | _, .error reason =>
    cannot "stat" source reason.text
    return false

/-- Does something with files and the one they are to become, or the directory they are to be
in. -/
def eachInto (chosen : List Chosen) (names : List Octets)
    (one : Octets → Octets → Step Bool) : Step Nat := do
  let into (directory : Octets) (names : List Octets) : Step Nat := do
    return statusOf (← names.mapM fun w =>
      one w (inside directory (if isDots w then lastName w else lastName w)))
  match valueOf? chosen 't', names with
  | _, [] => misuse failure "missing file operand".toList
  | some directory, names => into directory names
  | none, [only] =>
    misuse failure ("missing destination file operand after ".toList ++ (← always only))
  | none, [source, target] =>
    if !has chosen 'T' && (← isDirectory target) then into target [source]
    else return statusOf [← one source target]
  | none, names =>
    let directory := names.getLast?.getD []
    if ← isDirectory directory then into directory names.dropLast
    else
      let reason := match ← look directory with
        | .error reason => reason
        | .ok _ => .notDirectory
      complain ("target ".toList ++ (← always directory) ++ ": ".toList ++ reason.text.toList)
      return failure

/-- Copies files. -/
def cp : Tool := fun words => do
  let choices := [flag 'r' "recursive", ⟨some 'R', "", none⟩, flag 'a' "archive",
    flag 'f' "force", flag 'n' "no-clobber", flag 'v' "verbose", ⟨some 'p', "preserve", none⟩,
    wanting 't' "target-directory", flag 'T' "no-target-directory", flag 'i' "interactive",
    flag 'u' "update", flag 'L' "dereference", flag 'P' "no-dereference", ⟨some 'd', "", none⟩,
    flag 'H' "", flag 'l' "link", flag 's' "symbolic-link", flag 'x' "one-file-system"]
  withOptions { choices } words fun chosen names =>
    eachInto chosen names
      (copyOne (has chosen 'r' || has chosen 'R' || has chosen 'a') (has chosen 'v')
        (has chosen 'n'))

/-- Moves files. -/
def mv : Tool := fun words => do
  let choices := [flag 'f' "force", flag 'i' "interactive", flag 'n' "no-clobber",
    flag 'v' "verbose", wanting 't' "target-directory", flag 'T' "no-target-directory",
    flag 'u' "update", flag 'b' ""]
  withOptions { choices } words fun chosen names =>
    eachInto chosen names (moveOne (has chosen 'v') (has chosen 'n'))

/-! ## Permissions -/

/-- The mode that a word makes of another, if it is one. -/
def changedMode? (mask old : Nat) (w : Octets) : Option Nat :=
  if !w.isEmpty && w.all Numeral.isOctal then
    let n := Numeral.valueIn 8 w
    if n ≤ 0o7777 then some n else none
  else Builtin.changeMode? (0o777 - mask) old w

/-- Changes the modes of files. -/
def chmod : Tool := fun words => do
  let choices := [flag 'R' "recursive", flag 'v' "verbose", flag 'c' "changes",
    flag 'f' "silent", longFlag "quiet", ⟨none, "reference", some true⟩]
  let isMode (w : Octets) : Bool :=
    match w with
    | '-' :: c :: _ => "rwxXst".toList.contains c
    | _ => false
  let modes := words.filter isMode
  withOptions { choices } (words.filter (!isMode ·)) fun chosen others => do
    let all := modes ++ others
    match all with
    | [] => misuse failure "missing operand".toList
    | [mode] => misuse failure ("missing operand after ".toList ++ (← named mode))
    | mode :: names =>
      let mask := (← get).mask
      if (changedMode? mask 0 mode).isNone then
        misuse failure ("invalid mode: ".toList ++ (← named mode))
      else return statusOf (← names.mapM fun w => do
        match ← look w, ← locate w with
        | .ok node, .ok place =>
          let tree := (← get).machine.tree
          let changed (p : Place) (n : Node) : Tree → Tree := fun t =>
            match n with
            | .file content old =>
              t.put p (.file content ((changedMode? mask old mode).getD old))
            | _ => t
          let below := tree.nodes.filter fun (p, _) => has chosen 'R' && place.isPrefixOf p
          setTree (below.foldl (fun t (p, n) => changed p n t) (changed place node tree))
          return true
        | .error reason, _ =>
          unless has chosen 'f' do cannot "access" w reason.text
          return false
        | _, .error reason =>
          cannot "access" w reason.text
          return false)

/-! ## Listing -/

/-- How names are listed. -/
structure Listing where
  /-- Hidden names too. -/
  hidden : Bool
  /-- The directory itself and the one above, too. -/
  dots : Bool
  /-- The last name first. -/
  reversed : Bool
  /-- Directories have a slash behind them. -/
  slashes : Bool
  /-- What is no ordinary file has a mark behind it. -/
  marks : Bool
  /-- Names stand in one line with commas. -/
  commas : Bool
  /-- Directories below are listed, too. -/
  recursive : Bool

namespace Listing

/-- The mark behind a name. -/
def mark (l : Listing) (node : Option Node) : Octets :=
  match node with
  | some .directory => if l.slashes || l.marks then ['/'] else []
  | some (.link _) => if l.marks then ['@'] else []
  | some (.file _ mode) => if l.marks && Tree.isExecutableMode mode then ['*'] else []
  | some (.program _) => if l.marks then ['*'] else []
  | _ => []

/-- Names as they are listed. -/
def text (l : Listing) (names : List Octets) : Octets :=
  let names := if l.reversed then names.reverse else names
  if l.commas then
    if names.isEmpty then [] else [',', ' '].intercalate names ++ ['\n']
  else names.flatMap fun n => n ++ ['\n']

/-- The names in a directory that are listed. -/
def names (l : Listing) (tree : Tree) (place : Place) : List String :=
  let all := tree.entries place
  let all := if l.hidden || l.dots then all else all.filter fun n => !n.startsWith "."
  (if l.dots then [".", ".."] else []) ++ all

/-- What is listed of a directory. -/
def content (l : Listing) (tree : Tree) (place : Place) : Octets :=
  l.text ((l.names tree place).map fun n =>
    Octets.ofString n ++ l.mark (if n == "." || n == ".." then some .directory
      else tree.get? (place ++ [n])))

/-- What is listed of a directory and those below it, under headings. -/
def everything (l : Listing) (tree : Tree) : Nat → Octets → Place → List Octets
  | 0, _, _ => []
  | fuel + 1, w, place =>
    let below := ((l.names tree place).filter fun n => n != "." && n != "..").filter fun n =>
      tree.get? (place ++ [n]) == some .directory
    let below := if l.reversed then below.reverse else below
    (w ++ [':', '\n'] ++ l.content tree place) :: below.flatMap fun n =>
      everything l tree fuel (inside w (Octets.ofString n)) (place ++ [n])

end Listing

/-- How deeply directories are listed. -/
def listingDepth : Nat := 64

/-- Lists files and what is in directories. -/
def ls : Tool := fun words => do
  let choices := [flag 'a' "all", flag 'A' "almost-all", flag 'd' "directory",
    ⟨some 'F', "classify", none⟩, ⟨some 'p', "", none⟩, flag 'r' "reverse", flag 'R' "recursive",
    ⟨some '1', "", none⟩, ⟨some 'm', "", none⟩, ⟨some 'C', "", none⟩, ⟨some 'x', "", none⟩,
    ⟨some 'l', "", none⟩, ⟨some 'h', "human-readable", none⟩, ⟨some 't', "", none⟩,
    ⟨some 'S', "", none⟩, ⟨some 'f', "", none⟩, ⟨some 'U', "", none⟩, ⟨some 'L', "", none⟩,
    ⟨some 'H', "", none⟩, ⟨some 'q', "", none⟩, ⟨some 'N', "literal", none⟩,
    ⟨some 'i', "inode", none⟩, ⟨some 's', "size", none⟩, ⟨some 'c', "", none⟩,
    ⟨some 'u', "", none⟩, ⟨some 'k', "", none⟩, ⟨some 'n', "", none⟩, ⟨some 'o', "", none⟩,
    ⟨some 'g', "", none⟩, ⟨some 'G', "no-group", none⟩, ⟨some 'v', "", none⟩,
    ⟨some 'X', "", none⟩, ⟨some 'b', "escape", none⟩, ⟨some 'Q', "quote-name", none⟩,
    ⟨some 'w', "width", some true⟩, ⟨none, "color", some false⟩,
    longFlag "group-directories-first"]
  withOptions { choices, status := 2 } words fun chosen names => do
    let l : Listing :=
      { hidden := has chosen 'A'
        dots := has chosen 'a' || has chosen 'f'
        reversed := has chosen 'r'
        slashes := has chosen 'p'
        marks := has chosen 'F'
        commas := has chosen 'm'
        recursive := has chosen 'R' }
    let names := if names.isEmpty then [['.']] else names
    let tree := (← get).machine.tree
    let found ← names.mapM fun w => do
      let node ← if has chosen 'd' then lookLink w else do
        match ← look w with
        | .ok node => pure (.ok node)
        | .error _ => lookLink w
      match node with
      | .ok node => return some (w, node)
      | .error reason =>
        cannot "access" w reason.text
        return none
    let known := (found.filterMap id).mergeSort fun a b => Octets.precedes a.1 b.1
    let isListed (node : Node) : Bool := node == .directory && !has chosen 'd'
    let plain := known.filter fun x => !isListed x.2
    let directories := known.filter fun x => isListed x.2
    let directories := if l.reversed then directories.reverse else directories
    Step.write (l.text (plain.map fun (w, node) => w ++ l.mark (some node)))
    let blocks ← directories.mapM fun (w, _) => do
      let place := ((← locate w).toOption).getD []
      if l.recursive then return l.everything tree listingDepth w place
      else
        let content := l.content tree place
        return [if 1 < names.length then w ++ [':', '\n'] ++ content else content]
    let blocks := blocks.flatten
    unless blocks.isEmpty do
      Step.write ((if plain.isEmpty then [] else ['\n']) ++ ['\n'].intercalate blocks)
    return if found.all Option.isSome then 0 else 2

/-! ## Paths -/

/-- A path without the slashes at its end. -/
def trimmed (w : Octets) : Octets := (w.reverse.dropWhile (· == '/')).reverse

/-- The last name in a path, without a suffix. -/
def baseOf (w suffix : Octets) : Octets :=
  let name := Text.afterLast '/' (trimmed w)
  let name := if name.isEmpty && !w.isEmpty then ['/'] else name
  if suffix.isSuffixOf name && suffix != name then name.take (name.length - suffix.length)
  else name

/-- Writes the last names in paths. -/
def basename : Tool := fun words => do
  let choices := [flag 'a' "multiple", wanting 's' "suffix", flag 'z' "zero"]
  withOptions { choices, endsAtWord := true } words fun chosen names => do
    let line (name : Octets) : Octets := name ++ (if has chosen 'z' then [Char.ofNat 0] else ['\n'])
    match names with
    | [] => misuse failure "missing operand".toList
    | w :: more =>
      if has chosen 'a' || has chosen 's' then
        Step.write (names.flatMap fun w => line (baseOf w ((valueOf? chosen 's').getD [])))
        return 0
      else match more with
        | _ :: extra :: _ => misuse failure ("extra operand ".toList ++ (← named extra))
        | _ =>
          Step.write (line (baseOf w (more.head?.getD [])))
          return 0

/-- A path without its last name. -/
def above (w : Octets) : Octets :=
  let content := trimmed w
  let rest := trimmed ((content.reverse.dropWhile (· != '/')).reverse)
  if content.isEmpty then if w.isEmpty then ['.'] else ['/']
  else if rest.isEmpty then if content.head? == some '/' then ['/'] else ['.']
  else rest

/-- Writes paths without their last names. -/
def dirname : Tool := fun words => do
  withOptions { choices := [flag 'z' "zero"], endsAtWord := true } words fun _ names => do
    if names.isEmpty then misuse failure "missing operand".toList
    else
      Step.write (names.flatMap fun w => above w ++ ['\n'])
      return 0

/-- Writes where links lead. -/
def readlink : Tool := fun words => do
  let choices := [flag 'f' "canonicalize", flag 'e' "canonicalize-existing",
    flag 'm' "canonicalize-missing", flag 'n' "no-newline", flag 'q' "quiet", flag 's' "silent",
    flag 'v' "verbose", flag 'z' "zero"]
  withOptions { choices } words fun chosen names => do
    if names.isEmpty then misuse failure "missing operand".toList
    else
      let ended := if has chosen 'n' then [] else ['\n']
      return statusOf (← names.mapM fun w => do
        if has chosen 'f' || has chosen 'e' || has chosen 'm' then
          match ← (if has chosen 'f' then newPlace w else locate w) with
          | .ok place =>
            if has chosen 'e' && (← look w).toOption.isNone then return false
            Step.write (Builtin.placeText place ++ ended)
            return true
          | .error _ => return false
        else match ← lookLink w with
          | .ok (.link target) =>
            Step.write (Octets.ofString target ++ ended)
            return true
          | _ => return false)

/-- Writes paths from the root on. -/
def realpath : Tool := fun words => do
  let choices := [flag 'e' "canonicalize-existing", flag 'm' "canonicalize-missing",
    flag 's' "strip", flag 'q' "quiet", flag 'z' "zero"]
  withOptions { choices } words fun chosen names => do
    if names.isEmpty then misuse failure "missing operand".toList
    else return statusOf (← names.mapM fun w => do
      match ← (if has chosen 'm' then locate w else newPlace w) with
      | .ok place =>
        if has chosen 'e' && (← look w).toOption.isNone then
          complainOf w .noEntry
          return false
        Step.write (Builtin.placeText place ++ ['\n'])
        return true
      | .error reason =>
        complainOf w reason
        return false)

end EditorAnalysis.Shell.Tool
