/-
EditorAnalysis.Proofs.Host.Refusal — walks that fail, and what is put into the tree.

A walk that fails still does when a file is put where no walk goes on. It fails for the same
reason, but for one change: where nothing was there is now something that is no directory
(`Errno.Turns`). Whoever asks whether a file is at a path makes no difference between the two
(`isFile_put`). So a new file concerns only the paths that lead to it.
-/
import EditorAnalysis.Proofs.Host.Tree

namespace EditorAnalysis.Host

/-- What a refusal may turn into when a file is put where nothing was. -/
def Errno.Turns (before after : Errno) : Prop :=
  after = before ∨ (before = .noEntry ∧ after = .notDirectory)

theorem Errno.Turns.refl (e : Errno) : e.Turns e := .inl rfl

variable {place : Place} {content : Text.Utf8.Bytes} {mode : Nat}

namespace Tree

variable {t : Tree}

theorem enter_put_error (hend : t.IsEnd place) {p : Place} {name : String} {e : Errno}
    (h : t.enter p name = .error e) :
    ∃ e', (t.put place (.file content mode)).enter p name = .error e' ∧ e.Turns e' := by
  by_cases hp : p = place
  · -- what was at the place was nothing, or refused as the file does now
    have hput : (t.put place (.file content mode)).enter p name = .error .notDirectory := by
      rw [enter, hp, get?_put_self hend.ne_nil]
    refine ⟨.notDirectory, hput, ?_⟩
    unfold enter at h
    split at h
    · exact .inr ⟨(Except.error.inj h).symm, rfl⟩
    · rename_i hdirectory
      exact absurd rfl (hend _ (hp ▸ hdirectory)).1
    · exact .inl (Except.error.inj h)
  · refine ⟨e, ?_, .refl e⟩
    unfold enter at h ⊢
    rwa [get?_put_of_ne hp]

/-- A step of a walk fails where the place cannot be entered, or where a link there cannot be
followed. -/
theorem follow_eq_error_iff {links : Nat} {p : Place} {name : String} {e : Errno} :
    t.follow links p name = .error e ↔ t.enter p name = .error e ∨
      ∃ r target, t.enter p name = .ok r ∧ t.get? r = some (.link target) ∧
        ((links = 0 ∧ e = .linkLoop) ∨ ∃ fewer, links = fewer + 1 ∧
          (namesIn target).foldlM (t.follow fewer) (if isAbsolute target then [] else p)
            = .error e) := by
  rw [follow.eq_def]
  cases t.enter p name with
  | error reason => simp
  | ok r =>
    dsimp only
    split
    · rename_i target hlink
      simpa [hlink] using eq_comm
    · rename_i target fewer hlink
      simp [hlink]
    · rename_i depth _ _ hloop hlink
      have hnone : ∀ target, t.get? r ≠ some (.link target) := by
        intro target htarget
        cases depth with
        | zero => exact hloop target htarget rfl
        | succ fewer => exact hlink target fewer htarget rfl
      simp [hnone]

/-- A walk that fails still does when a file is put where no walk goes on. -/
theorem follow_put_error (hend : t.IsEnd place) {links : Nat} {p : Place} {name : String}
    {e : Errno} (h : t.follow links p name = .error e) :
    ∃ e', (t.put place (.file content mode)).follow links p name = .error e' ∧ e.Turns e' := by
  induction links generalizing p name e with
  | zero =>
    rcases follow_eq_error_iff.mp h with henter | ⟨r, target, henter, hlink, hloop⟩
    · obtain ⟨e', henter', hturns⟩ := enter_put_error hend henter
      exact ⟨e', follow_eq_error_iff.mpr (.inl henter'), hturns⟩
    · have hne := hend.ne_of_link hlink
      obtain ⟨-, rfl⟩ | ⟨_, hlinks, -⟩ := hloop
      · exact ⟨.linkLoop, follow_eq_error_iff.mpr (.inr ⟨r, target, enter_put hend henter,
          (get?_put_of_ne hne).trans hlink, .inl ⟨rfl, rfl⟩⟩), .refl _⟩
      · cases hlinks
  | succ links ih =>
    rcases follow_eq_error_iff.mp h with henter | ⟨r, target, henter, hlink, hwalk⟩
    · obtain ⟨e', henter', hturns⟩ := enter_put_error hend henter
      exact ⟨e', follow_eq_error_iff.mpr (.inl henter'), hturns⟩
    · have hne := hend.ne_of_link hlink
      obtain ⟨hlinks, -⟩ | ⟨fewer, hlinks, hfold⟩ := hwalk
      · cases hlinks
      · obtain rfl : links = fewer := Nat.succ.inj hlinks
        obtain ⟨e', hfold', hturns⟩ := Outcome.foldlM_eq_error_of_imp
          (fun _ _ _ => follow_put hend rfl) (fun _ _ _ => ih) hfold
        exact ⟨e', follow_eq_error_iff.mpr (.inr ⟨r, target, enter_put hend henter,
          (get?_put_of_ne hne).trans hlink, .inr ⟨links, rfl, hfold'⟩⟩), hturns⟩

end Tree

namespace Files

variable {fs : Files} {path : String}

/-- A path that leads nowhere still does when a file is put where no walk goes on. -/
theorem locate_put_error (hend : fs.tree.IsEnd place) {e : Errno}
    (h : fs.locate path = .error e) :
    ∃ e', (fs.put place (.file content mode)).locate path = .error e' ∧ e.Turns e' := by
  unfold locate at h ⊢
  by_cases hempty : path = ""
  · rw [if_pos hempty] at h ⊢
    exact ⟨e, h, .refl e⟩
  by_cases hlong : Tree.maxPathBytes < path.utf8ByteSize
  · rw [if_neg hempty, if_pos hlong] at h ⊢
    exact ⟨e, h, .refl e⟩
  rw [if_neg hempty, if_neg hlong] at h ⊢
  cases hwalk : (Tree.namesIn path).foldlM (fs.tree.follow Tree.maxLinks) (fs.start path) with
  | error reason =>
    rw [hwalk] at h
    obtain rfl : reason = e := Except.error.inj h
    obtain ⟨e', hwalk', hturns⟩ := Outcome.foldlM_eq_error_of_imp
      (fun _ _ _ => Tree.follow_put hend rfl) (fun _ _ _ => Tree.follow_put_error hend) hwalk
    exact ⟨e', congrArg (· >>= _) hwalk', hturns⟩
  | ok q =>
    -- the walk succeeds, so a slash at the end asks for a directory in vain
    have hwalk' : (Tree.namesIn path).foldlM
        ((fs.tree.put place (.file content mode)).follow Tree.maxLinks) (fs.start path) = .ok q :=
      Outcome.foldlM_eq_ok_of_imp (fun _ _ _ => Tree.follow_put hend rfl) hwalk
    rw [hwalk] at h
    refine ⟨e, (congrArg (· >>= _) hwalk').trans ?_, .refl e⟩
    simp only [bind, Except.bind] at h ⊢
    split at h
    · rename_i hslash
      split at h
      · cases h
      · cases h
      · rename_i node hnode hfound
        rw [if_pos hslash, ← h]
        by_cases hq : q = place
        · simp only [put, hq, Tree.get?_put_self hend.ne_nil]
        · simp only [put, Tree.get?_put_of_ne hq, hfound]
    · cases h

/-- What a path names stays the same when a file is put elsewhere, up to the reason why it
names nothing. -/
theorem look_put (hend : fs.tree.IsEnd place) (hne : fs.locate path ≠ .ok place) :
    (fs.put place (.file content mode)).look path = fs.look path ∨
      (fs.look path = .error .noEntry ∧
        (fs.put place (.file content mode)).look path = .error .notDirectory) := by
  cases hlocate : fs.locate path with
  | error e =>
    obtain ⟨e', hlocate', hturns⟩ : ∃ e',
        (fs.put place (.file content mode)).locate path = .error e' ∧ e.Turns e' :=
      locate_put_error hend hlocate
    rw [look, look, hlocate, hlocate']
    obtain rfl | ⟨rfl, rfl⟩ := hturns
    · exact .inl rfl
    · exact .inr ⟨rfl, rfl⟩
  | ok q =>
    have hq : q ≠ place := fun heq => hne (heq ▸ hlocate)
    left
    rw [look, look, locate_put hend rfl hlocate (.inr (.inl hq)), hlocate]
    simp only [bind, Except.bind, put, Tree.get?_put_of_ne hq]

theorem isFile_put (hend : fs.tree.IsEnd place) (hne : fs.locate path ≠ .ok place) :
    (fs.put place (.file content mode)).isFile path = fs.isFile path := by
  rcases look_put hend hne with hsame | ⟨hbefore, hafter⟩
  · rw [isFile, isFile, hsame]
  · rw [isFile, isFile, hbefore, hafter]

theorem read_put (hend : fs.tree.IsEnd place) (hne : fs.locate path ≠ .ok place)
    (hfile : fs.isFile path = .ok true) :
    (fs.put place (.file content mode)).read path = fs.read path := by
  rcases look_put hend hne with hsame | ⟨hbefore, -⟩
  · rw [read, read, hsame]
  · rw [isFile, hbefore] at hfile
    cases hfile

end Files

end EditorAnalysis.Host
