/-
EditorAnalysis.Proofs.Host.Parent — the directory above a file.

The walk to a name below a path is the walk to the path and one step more, and that step
is only taken from a directory (`isDirectory_of_locate_child`). So whoever finds a file need
not ask for its directory.
-/
import EditorAnalysis.Proofs.Host.Tree
import EditorAnalysis.Proofs.Path.Pure
import EditorAnalysis.Proofs.Text.Search

namespace EditorAnalysis.Host

namespace Tree

theorem namesIn_append_separator (front behind : String) :
    namesIn (front ++ "/" ++ behind) = namesIn front ++ namesIn behind := by
  have hchars : (front ++ "/" ++ behind).toList = front.toList ++ '/' :: behind.toList := by
    simp [String.toList_append]
  rw [namesIn, hchars, Text.splitOn_append_separator, List.filter_append, List.map_append]
  rfl

theorem namesIn_of_not_mem {name : String} (hname : name ≠ "") (hslash : '/' ∉ name.toList) :
    namesIn name = [name] := by
  have hnonempty : name.toList.isEmpty = false := by simpa using hname
  rw [namesIn, Text.splitOn_of_not_mem hslash]
  simp [hnonempty, String.ofList_toList]

theorem isAbsolute_append {front : String} (hfront : front ≠ "") (behind : String) :
    isAbsolute (front ++ behind) = isAbsolute front := by
  have hne : front.toList ≠ [] := by simpa using hfront
  rw [isAbsolute, isAbsolute, String.toList_append, List.head?_append_of_ne_nil _ hne]

theorem isAbsolute_of_not_mem {path : String} (h : '/' ∉ path.toList) :
    isAbsolute path = false := by
  rw [isAbsolute]
  cases hchars : path.toList with
  | nil => rfl
  | cons c rest =>
    rw [hchars, List.mem_cons, not_or] at h
    simpa using fun heq => h.1 heq.symm

end Tree

namespace Files

variable {fs : Files} {place : Place} {directory : Path.Pure} {name : String}

/-- The text of a name below a path has the names of the path and the name, starts in the same
place, and is not shorter. -/
theorem walk_child (fs : Files) (hname : name ≠ "") (hslash : '/' ∉ name.toList)
    (hdirectory : directory.toString ≠ "") (hbelow : directory ≠ ⟨.relative, []⟩) :
    Tree.namesIn (directory.child name).toString
        = Tree.namesIn directory.toString ++ [name] ∧
      fs.start (directory.child name).toString = fs.start directory.toString ∧
      directory.toString.utf8ByteSize ≤ (directory.child name).toString.utf8ByteSize := by
  have hnames := Tree.namesIn_of_not_mem hname hslash
  rcases Path.Pure.toString_child directory name with
    ⟨hcurrent, -⟩ | ⟨hroot, htext⟩ | ⟨-, htext⟩
  · exact absurd hcurrent hbelow
  · have hjoined : Tree.namesIn (directory.toString ++ name)
        = Tree.namesIn directory.toString ++ [name] := by
      rcases hroot with htext | htext
      · rw [htext, ← hnames]
        exact Tree.namesIn_append_separator "" name
      · rw [htext, ← hnames]
        exact Tree.namesIn_append_separator "/" name
    rw [htext, start, start, Tree.isAbsolute_append hdirectory, String.utf8ByteSize_append]
    exact ⟨hjoined, rfl, Nat.le_add_right _ _⟩
  · rw [htext, Tree.namesIn_append_separator, hnames, start, start, String.append_assoc,
        Tree.isAbsolute_append hdirectory, String.utf8ByteSize_append]
    exact ⟨rfl, rfl, Nat.le_add_right _ _⟩

/-- The current directory, where any walk starts from it. -/
theorem isDirectory_current (h : fs.tree.get? fs.directory = some .directory) :
    fs.isDirectory "." = true := by
  have hstep : fs.tree.follow Tree.maxLinks fs.directory "." = .ok fs.directory := by
    refine Tree.follow_eq_ok_iff.mpr ⟨fs.directory, ?_, .inl ⟨by simp [h], rfl⟩⟩
    rw [Tree.enter, h]
    rfl
  refine isDirectory_iff.mpr ⟨fs.directory, locate_eq_ok_iff.mpr ⟨by decide, by decide, ?_, ?_⟩, h⟩
  · exact Outcome.bind_eq_ok_iff.mpr ⟨fs.directory, hstep, rfl⟩
  · intro hslash
    exact absurd hslash (by decide)

/-- A name is reached through the directory above it. -/
theorem isDirectory_of_locate_child (hname : name ≠ "") (hslash : '/' ∉ name.toList)
    (hdirectory : directory.toString ≠ "")
    (h : fs.locate (directory.child name).toString = .ok place) :
    fs.isDirectory directory.toString = true := by
  obtain ⟨-, hlong, hwalk, -⟩ := locate_eq_ok_iff.mp h
  by_cases hcurrent : directory = ⟨.relative, []⟩
  · -- the text `.` of this directory does not stand in the text of the name below it
    subst hcurrent
    have hstart : fs.start name = fs.directory := by
      rw [start, Tree.isAbsolute_of_not_mem hslash]
      rfl
    rw [Path.Pure.toString_child_current, Tree.namesIn_of_not_mem hname hslash, hstart] at hwalk
    obtain ⟨next, hstep, -⟩ := Outcome.bind_eq_ok_iff.mp hwalk
    obtain ⟨_, henter, -⟩ := Tree.follow_eq_ok_iff.mp hstep
    exact isDirectory_current (Tree.directory_of_enter henter)
  · obtain ⟨hnames, hstart, hsize⟩ := walk_child fs hname hslash hdirectory hcurrent
    rw [hnames, hstart, List.foldlM_append] at hwalk
    obtain ⟨p, habove, hlast⟩ := Outcome.bind_eq_ok_iff.mp hwalk
    obtain ⟨next, hstep, -⟩ := Outcome.bind_eq_ok_iff.mp hlast
    obtain ⟨_, henter, -⟩ := Tree.follow_eq_ok_iff.mp hstep
    have hp := Tree.directory_of_enter henter
    refine isDirectory_iff.mpr ⟨p, locate_eq_ok_iff.mpr
      ⟨hdirectory, hsize.trans hlong, habove, fun _ node hnode => ?_⟩, hp⟩
    exact Option.some.inj (hnode.symm.trans hp)

end Files

end EditorAnalysis.Host
