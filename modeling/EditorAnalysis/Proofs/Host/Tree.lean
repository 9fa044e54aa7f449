/-
EditorAnalysis.Proofs.Host.Tree — walks and what is put into the tree.

A walk along a path goes on from a place only if a directory or a link stands there. At a
place where neither stands (`IsEnd`) every walk that succeeds has come to its end, so
putting a file or a directory there changes no such walk (`follow_put`, `locate_put`).
What was written to a file is therefore read back under the same path, and a directory
that is there stays there.
-/
import EditorAnalysis.Host.Tree
import EditorAnalysis.Proofs.Assoc
import EditorAnalysis.Proofs.Outcome

namespace EditorAnalysis.Host

/-- The node is a link. -/
def Node.isLink : Node → Bool
  | .link _ => true
  | _ => false

namespace Tree

variable {t : Tree} {place : Place} {node : Node}

theorem get?_put_self (h : place ≠ []) : (t.put place node).get? place = some node := by
  rw [get?, if_neg (by simpa using h)]
  exact Assoc.get?_put_self place node t.nodes

theorem get?_put_of_ne {p : Place} (h : p ≠ place) : (t.put place node).get? p = t.get? p := by
  rw [get?, get?]
  split
  · rfl
  · exact Assoc.get?_put_of_ne h node t.nodes

theorem put_put (t : Tree) (place : Place) (earlier later : Node) :
    (t.put place earlier).put place later = t.put place later := by
  rw [put, put, put, Assoc.put_put]

/-- The mode of a file that is written at the place: that of the file there, if there is one. -/
def modeAt (t : Tree) (place : Place) : Nat :=
  match t.get? place with
  | some (.file _ mode) => mode
  | _ => defaultMode

theorem modeAt_of_file {content : Text.Utf8.Bytes} {mode : Nat}
    (h : t.get? place = some (.file content mode)) : t.modeAt place = mode := by
  rw [modeAt, h]

theorem modeAt_of_not_file
    (h : ∀ content mode, t.get? place ≠ some (.file content mode)) :
    t.modeAt place = defaultMode := by
  unfold modeAt
  split
  · rename_i hfile
    exact absurd hfile (h _ _)
  · rfl

/-- No walk goes on from the place: neither a directory nor a link stands there. -/
def IsEnd (t : Tree) (place : Place) : Prop :=
  ∀ node, t.get? place = some node → node ≠ .directory ∧ node.isLink = false

theorem IsEnd.ne_nil (h : t.IsEnd place) : place ≠ [] := by
  rintro rfl
  exact (h .directory rfl).1 rfl

theorem isEnd_of_none (h : t.get? place = none) : t.IsEnd place := by
  intro node hnode
  rw [h] at hnode
  cases hnode

theorem isEnd_of_file {content : Text.Utf8.Bytes} {mode : Nat}
    (h : t.get? place = some (.file content mode)) : t.IsEnd place := by
  intro node hnode
  obtain rfl := Option.some.inj (h.symm.trans hnode)
  exact ⟨by simp, rfl⟩

theorem IsEnd.ne_of_link (h : t.IsEnd place) {p : Place} {target : String}
    (hlink : t.get? p = some (.link target)) : p ≠ place := by
  rintro rfl
  exact absurd (h _ hlink).2 (by simp [Node.isLink])

/-! ## Walks -/

theorem directory_of_enter {p q : Place} {name : String} (h : t.enter p name = .ok q) :
    t.get? p = some .directory := by
  unfold enter at h
  split at h
  · cases h
  · assumption
  · cases h

theorem enter_put (hend : t.IsEnd place) {p q : Place} {name : String}
    (h : t.enter p name = .ok q) : (t.put place node).enter p name = .ok q := by
  have hne : p ≠ place := by
    rintro rfl
    exact (hend .directory (directory_of_enter h)).1 rfl
  unfold enter at h ⊢
  rwa [get?_put_of_ne hne]

theorem isLink_eq_false_iff {node : Node} : node.isLink = false ↔ ∀ target, node ≠ .link target := by
  cases node <;> simp [Node.isLink]

/-- A step of a walk enters a place, and goes on where a link there leads. -/
theorem follow_eq_ok_iff {links : Nat} {p q : Place} {name : String} :
    t.follow links p name = .ok q ↔ ∃ r, t.enter p name = .ok r ∧
      (((∀ target, t.get? r ≠ some (.link target)) ∧ r = q) ∨
        ∃ target fewer, links = fewer + 1 ∧ t.get? r = some (.link target) ∧
          (namesIn target).foldlM (t.follow fewer) (if isAbsolute target then [] else p)
            = .ok q) := by
  rw [follow.eq_def]
  cases t.enter p name with
  | error reason => simp
  | ok r =>
    dsimp only
    split
    · rename_i target hlink
      simp [hlink]
    · rename_i target fewer hlink
      simp [hlink]
    · rename_i depth _ _ hloop hlink
      have hnone : ∀ target, t.get? r ≠ some (.link target) := by
        intro target htarget
        cases depth with
        | zero => exact hloop target htarget rfl
        | succ fewer => exact hlink target fewer htarget rfl
      simp [hnone]

theorem ne_link_put (hnode : node.isLink = false) {q : Place}
    (hlink : ∀ target, t.get? q ≠ some (.link target)) (hplace : place ≠ []) (target : String) :
    (t.put place node).get? q ≠ some (.link target) := by
  by_cases hq : q = place
  · rw [hq, get?_put_self hplace]
    exact fun heq => isLink_eq_false_iff.mp hnode target (Option.some.inj heq)
  · rw [get?_put_of_ne hq]
    exact hlink target

/-- A walk that succeeds still does, and comes to the same place, when something that is no
link is put where no walk goes on. -/
theorem follow_put (hend : t.IsEnd place) (hnode : node.isLink = false) {links : Nat}
    {p q : Place} {name : String} (h : t.follow links p name = .ok q) :
    (t.put place node).follow links p name = .ok q := by
  induction links generalizing p q name with
  | zero =>
    obtain ⟨r, henter, ⟨hlink, rfl⟩ | ⟨_, _, hlinks, _⟩⟩ := follow_eq_ok_iff.mp h
    · exact follow_eq_ok_iff.mpr
        ⟨r, enter_put hend henter, .inl ⟨ne_link_put hnode hlink hend.ne_nil, rfl⟩⟩
    · cases hlinks
  | succ links ih =>
    obtain ⟨r, henter, ⟨hlink, rfl⟩ | ⟨target, fewer, hlinks, htarget, hwalk⟩⟩ :=
      follow_eq_ok_iff.mp h
    · exact follow_eq_ok_iff.mpr
        ⟨r, enter_put hend henter, .inl ⟨ne_link_put hnode hlink hend.ne_nil, rfl⟩⟩
    · -- the link stays, and the walk along its target is shorter by one link
      obtain rfl : links = fewer := Nat.succ.inj hlinks
      refine follow_eq_ok_iff.mpr
        ⟨r, enter_put hend henter, .inr ⟨target, links, rfl, ?_, ?_⟩⟩
      · rwa [get?_put_of_ne (hend.ne_of_link htarget)]
      · exact Outcome.foldlM_eq_ok_of_imp (fun _ _ _ => ih) hwalk

end Tree

namespace Files

variable {fs : Files} {place : Place} {node : Node}

/-- The files with something put at a place. -/
def put (fs : Files) (place : Place) (node : Node) : Files :=
  { fs with tree := fs.tree.put place node }

@[simp] theorem directory_put : (fs.put place node).directory = fs.directory := rfl

/-! ## Paths -/

/-- Where a path leads is a place to which its names walk; a slash at the end asks for a
directory there, if anything. -/
theorem locate_eq_ok_iff {path : String} {p : Place} :
    fs.locate path = .ok p ↔ path ≠ "" ∧ path.utf8ByteSize ≤ Tree.maxPathBytes ∧
      (Tree.namesIn path).foldlM (fs.tree.follow Tree.maxLinks) (fs.start path) = .ok p ∧
      (hasEnd path = true → ∀ node, fs.tree.get? p = some node → node = .directory) := by
  unfold locate
  by_cases hempty : path = ""
  · simp [hempty]
  by_cases hlong : Tree.maxPathBytes < path.utf8ByteSize
  · simp [hempty, hlong, Nat.not_le.mpr hlong]
  rw [if_neg hempty, if_neg hlong]
  simp only [ne_eq, hempty, not_false_eq_true, Nat.not_lt.mp hlong, true_and]
  refine Iff.trans Outcome.bind_eq_ok_iff ?_
  constructor
  · rintro ⟨q, hwalk, hq⟩
    split at hq
    · rename_i hslash
      split at hq
      · rename_i hnone
        obtain rfl := Except.ok.inj hq
        exact ⟨hwalk, fun _ node hnode => by rw [hnone] at hnode; cases hnode⟩
      · rename_i hdirectory
        obtain rfl := Except.ok.inj hq
        exact ⟨hwalk, fun _ node hnode => Option.some.inj (hnode.symm.trans hdirectory)⟩
      · cases hq
    · rename_i hslash
      obtain rfl := Except.ok.inj hq
      exact ⟨hwalk, fun h => absurd h hslash⟩
  · rintro ⟨hwalk, hlast⟩
    refine ⟨p, hwalk, ?_⟩
    split
    · rename_i hslash
      split
      · rfl
      · rfl
      · rename_i node hnode hfound
        exact absurd (hlast hslash node hfound) hnode
    · rfl

theorem locate_put (hend : fs.tree.IsEnd place) (hnode : node.isLink = false) {path : String}
    {p : Place} (h : fs.locate path = .ok p)
    (hlast : hasEnd path = false ∨ p ≠ place ∨ node = .directory) :
    (fs.put place node).locate path = .ok p := by
  obtain ⟨hempty, hlong, hwalk, hdirectory⟩ := locate_eq_ok_iff.mp h
  refine locate_eq_ok_iff.mpr ⟨hempty, hlong, ?_, fun hslash found hfound => ?_⟩
  · exact Outcome.foldlM_eq_ok_of_imp (fun _ _ _ => Tree.follow_put hend hnode) hwalk
  · by_cases hp : p = place
    · -- the path leads to what was put
      have hput : (fs.tree.put place node).get? p = some node := by
        rw [hp]
        exact Tree.get?_put_self hend.ne_nil
      obtain rfl : node = found := Option.some.inj (hput.symm.trans hfound)
      rcases hlast with hno | hne | hnode
      · rw [hslash] at hno
        cases hno
      · exact absurd hp hne
      · exact hnode
    · have hput : (fs.tree.put place node).get? p = fs.tree.get? p := Tree.get?_put_of_ne hp
      exact hdirectory hslash found (hput ▸ hfound)

/-- The same tree seen from another directory. -/
def seenFrom (fs : Files) (place : Place) : Files := { fs with directory := place }

/-- A path from the root leads to the same place from every directory. -/
theorem locate_seenFrom {path : String} (h : Tree.isAbsolute path = true) (place : Place) :
    (fs.seenFrom place).locate path = fs.locate path := by
  rw [locate, locate, start, start, if_pos h, if_pos h]
  rfl

theorem look_eq_ok_iff {path : String} :
    fs.look path = .ok node ↔ ∃ p, fs.locate path = .ok p ∧ fs.tree.get? p = some node := by
  refine Iff.trans Outcome.bind_eq_ok_iff (exists_congr fun p => and_congr_right fun _ => ?_)
  split
  · rename_i hnone
    simp [hnone]
  · rename_i hsome
    simp [hsome]

theorem look_eq_noEntry {path : String} {p : Place} (hlocate : fs.locate path = .ok p)
    (hnone : fs.tree.get? p = none) : fs.look path = .error .noEntry := by
  rw [look, hlocate]
  simp only [bind, Except.bind, hnone]

theorem isDirectory_iff {path : String} :
    fs.isDirectory path = true ↔
      ∃ p, fs.locate path = .ok p ∧ fs.tree.get? p = some .directory := by
  rw [← look_eq_ok_iff, isDirectory]
  split
  · rename_i h
    simp [h]
  · rename_i h
    simpa using h

/-- A directory stays where it is. -/
theorem isDirectory_put (hend : fs.tree.IsEnd place) (hnode : node.isLink = false)
    {path : String} (h : fs.isDirectory path = true) :
    (fs.put place node).isDirectory path = true := by
  obtain ⟨p, hlocate, hp⟩ := isDirectory_iff.mp h
  have hne : p ≠ place := by
    rintro rfl
    exact (hend _ hp).1 rfl
  exact isDirectory_iff.mpr ⟨p, locate_put hend hnode hlocate (.inr (.inl hne)),
    (Tree.get?_put_of_ne hne).trans hp⟩

/-! ## Making directories -/

theorem directory_of_makeDirectory {path : String} {made : Files}
    (h : fs.makeDirectory path = .ok made) : made.directory = fs.directory := by
  obtain ⟨p, -, hmade⟩ := Outcome.bind_eq_ok_iff.mp h
  split at hmade
  · obtain rfl := Except.ok.inj hmade
    rfl
  · cases hmade

theorem eq_of_unlessDirectory {path : String} {reason : Errno} {made : Files}
    (h : fs.unlessDirectory path reason = .ok made) : made = fs := by
  unfold unlessDirectory at h
  split at h
  · exact (Except.ok.inj h).symm
  · cases h

/-- Making directories does not change the current one. -/
theorem directory_of_makeDirectoriesUp {anchor : Path.Anchor} {names : List String} {made : Files}
    (h : fs.makeDirectoriesUp anchor names = .ok made) : made.directory = fs.directory := by
  induction names generalizing fs made with
  | nil =>
    rw [makeDirectoriesUp.eq_def] at h
    dsimp only at h
    split at h
    · rename_i hmake
      obtain rfl := Except.ok.inj h
      exact directory_of_makeDirectory hmake
    · rw [eq_of_unlessDirectory h]
  | cons name above ih =>
    rw [makeDirectoriesUp.eq_def] at h
    dsimp only at h
    split at h
    · rename_i hmake
      obtain rfl := Except.ok.inj h
      exact directory_of_makeDirectory hmake
    · split at h
      · cases h
      · rename_i hup
        rw [← ih hup]
        split at h
        · rename_i hmake
          obtain rfl := Except.ok.inj h
          exact directory_of_makeDirectory hmake
        · rw [eq_of_unlessDirectory h]
    · rw [eq_of_unlessDirectory h]

theorem isDirectory_of_makeDirectory {path : String} {made : Files}
    (h : fs.makeDirectory path = .ok made) : made.isDirectory path = true := by
  obtain ⟨p, hlocate, hmade⟩ := Outcome.bind_eq_ok_iff.mp h
  split at hmade
  · rename_i hnone
    obtain rfl := Except.ok.inj hmade
    have hend := Tree.isEnd_of_none hnone
    exact isDirectory_iff.mpr ⟨p, locate_put hend rfl hlocate (.inr (.inr rfl)),
      Tree.get?_put_self hend.ne_nil⟩
  · cases hmade

theorem isDirectory_of_unlessDirectory {path : String} {reason : Errno} {made : Files}
    (h : fs.unlessDirectory path reason = .ok made) : made.isDirectory path = true := by
  unfold unlessDirectory at h
  split at h
  · obtain rfl := Except.ok.inj h
    assumption
  · cases h

theorem isDirectory_of_makeDirectoriesUp {anchor : Path.Anchor} {names : List String}
    {made : Files} (h : fs.makeDirectoriesUp anchor names = .ok made) :
    made.isDirectory (⟨anchor, names.reverse⟩ : Path.Pure).toString = true := by
  cases names with
  | nil =>
    rw [makeDirectoriesUp.eq_def] at h
    dsimp only at h
    split at h
    · rename_i hmake
      obtain rfl := Except.ok.inj h
      exact isDirectory_of_makeDirectory hmake
    · exact isDirectory_of_unlessDirectory h
  | cons name above =>
    rw [makeDirectoriesUp.eq_def] at h
    dsimp only at h
    split at h
    · rename_i hmake
      obtain rfl := Except.ok.inj h
      exact isDirectory_of_makeDirectory hmake
    · split at h
      · cases h
      · split at h
        · rename_i hmake
          obtain rfl := Except.ok.inj h
          exact isDirectory_of_makeDirectory hmake
        · exact isDirectory_of_unlessDirectory h
    · exact isDirectory_of_unlessDirectory h

theorem isDirectory_of_makeDirectories {path : Path.Pure} {made : Files}
    (h : fs.makeDirectories path = .ok made) : made.isDirectory path.toString = true := by
  have hup := isDirectory_of_makeDirectoriesUp h
  rwa [List.reverse_reverse] at hup

/-- Where the directory is there, nothing is made. -/
theorem makeDirectories_of_isDirectory {path : Path.Pure}
    (h : fs.isDirectory path.toString = true) : fs.makeDirectories path = .ok fs := by
  obtain ⟨p, hlocate, hp⟩ := isDirectory_iff.mp h
  have hthere : fs.makeDirectory path.toString = .error .entryExists := by
    rw [makeDirectory, hlocate]
    simp only [bind, Except.bind, hp]
  have hstays : ∀ reason, fs.unlessDirectory path.toString reason = .ok fs := by
    intro reason
    rw [unlessDirectory, if_pos h]
  unfold makeDirectories
  cases hnames : path.components.reverse with
  | nil =>
    have hself : (⟨path.anchor, []⟩ : Path.Pure) = path := by
      rw [← List.reverse_eq_nil_iff.mp hnames]
    rw [makeDirectoriesUp.eq_def]
    simp only [hself, hthere, hstays]
  | cons name above =>
    have hself : (⟨path.anchor, (name :: above).reverse⟩ : Path.Pure) = path := by
      rw [← hnames, List.reverse_reverse]
    rw [makeDirectoriesUp.eq_def]
    simp only [hself, hthere, hstays]

theorem directory_of_makeDirectories {path : Path.Pure} {made : Files}
    (h : fs.makeDirectories path = .ok made) : made.directory = fs.directory :=
  directory_of_makeDirectoriesUp h

/-! ## Files -/

/-- Of two things put at the same place the later one stays. -/
theorem put_put (fs : Files) (place : Place) (earlier later : Node) :
    (fs.put place earlier).put place later = fs.put place later := by
  simp only [put, Tree.put_put]

/-- Where no directory stands, writing leaves a file with the content. -/
theorem write_eq_put {path : String} (hlocate : fs.locate path = .ok place)
    (hend : fs.tree.IsEnd place) (content : Text.Utf8.Bytes) :
    fs.write path content = .ok (fs.put place (.file content (fs.tree.modeAt place))) := by
  rw [write, hlocate]
  simp only [bind, Except.bind]
  split
  · rename_i hdirectory
    exact absurd rfl (hend _ hdirectory).1
  · rename_i hfile
    rw [Tree.modeAt_of_file hfile]
    rfl
  · rename_i hnot
    rw [Tree.modeAt_of_not_file hnot]
    rfl

end Files

end EditorAnalysis.Host
