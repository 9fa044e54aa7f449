/-
EditorAnalysis.Proofs.Registry.Contents — a registry as the record of its writes.

A registration writes its file under each of its keys. The registry that a history leaves
is built from the writes since everything was last forgotten (`entries_after`), and from
nothing else: each key that was written stands in it once, in the order of the first
writes, with the file of its last write (`contents_after`).
-/
import EditorAnalysis.Proofs.Registry.History

namespace EditorAnalysis.Registry

/-! ## The writes of a history -/

/-- The registrations since everything was last forgotten, after one more call. -/
def Call.extend (recent : List Registration) : Call → List Registration
  | .register g => recent ++ [g]
  | .clear => []

/-- The registrations of a history since everything was last forgotten, first to last. -/
def recent (history : List Call) : List Registration := history.foldl Call.extend []

/-- What a registration writes: its file, under each of its keys. -/
def Registration.writes (g : Registration) : List (String × String) :=
  g.keys.map fun key => (key, g.path)

/-- What a history has written since everything was last forgotten, first to last. -/
def writes (history : List Call) : List (String × String) :=
  (recent history).flatMap Registration.writes

@[simp] theorem recent_nil : recent [] = [] := rfl

@[simp] theorem recent_append_singleton (history : List Call) (call : Call) :
    recent (history ++ [call]) = call.extend (recent history) := by
  simp [recent]

/-- A registration is recent when nothing behind it forgets everything. -/
theorem mem_recent_iff {g : Registration} {history : List Call} :
    g ∈ recent history ↔
      ∃ older newer, history = older ++ .register g :: newer ∧ .clear ∉ newer := by
  induction history using List.reverseRecOn with
  | nil => simp
  | append_singleton history call ih =>
    rw [recent_append_singleton]
    cases call with
    | clear =>
      refine ⟨fun h => absurd h (by simp [Call.extend]), ?_⟩
      rintro ⟨older, newer, hhistory, hclear⟩
      -- the last call is neither the registration nor one behind it
      rcases Assoc.append_singleton_eq_append_cons_iff.mp hhistory with
        ⟨-, hlast, -⟩ | ⟨front, rfl, -⟩
      · cases hlast
      · exact absurd (by simp) hclear
    | register g' =>
      rw [Call.extend, List.mem_append, List.mem_singleton, ih]
      constructor
      · rintro (⟨older, newer, rfl, hclear⟩ | rfl)
        · exact ⟨older, newer ++ [.register g'], by simp, by simpa using hclear⟩
        · exact ⟨history, [], rfl, by simp⟩
      · rintro ⟨older, newer, hhistory, hclear⟩
        rcases Assoc.append_singleton_eq_append_cons_iff.mp hhistory with
          ⟨-, hlast, -⟩ | ⟨front, rfl, hfront⟩
        · cases hlast
          exact .inr rfl
        · exact .inl ⟨older, front, hfront, fun hmem => hclear (List.mem_append_left _ hmem)⟩

theorem writes_append_register (history : List Call) (g : Registration) :
    writes (history ++ [.register g]) = writes history ++ g.writes := by
  simp [writes, Call.extend]

theorem writes_append_clear (history : List Call) : writes (history ++ [.clear]) = [] := by
  simp [writes, Call.extend]

theorem map_fst_writes (g : Registration) : g.writes.map (·.1) = g.keys := by
  simp [Registration.writes, Function.comp_def]

theorem entries_register (g : Registration) (r : Registry) :
    (r.register g).entries = Assoc.overlay r.entries g.writes := by
  simp [register, Assoc.overlay, Registration.writes, List.foldl_map]

/-- The registry that a history leaves is built from the recent writes. -/
theorem entries_after (history : List Call) :
    (after history).entries = Assoc.ofList (writes history) := by
  induction history using List.reverseRecOn with
  | nil => rfl
  | append_singleton history call ih =>
    rw [after_append_singleton]
    cases call with
    | register g =>
      rw [Call.run, entries_register, ih, writes_append_register, Assoc.ofList, Assoc.ofList,
          Assoc.overlay, Assoc.overlay, Assoc.overlay, List.foldl_append]
    | clear => rw [writes_append_clear]; rfl

/-! ## The keys of a registry -/

theorem keys_after (history : List Call) :
    (after history).toList.map (·.1) = ((writes history).map (·.1)).eraseDups := by
  rw [toList, entries_after, Assoc.map_fst_ofList]

/-- A registration keeps all keys in their places and adds its own behind them, where they
have not been written before. -/
theorem keys_after_register (history : List Call) (g : Registration) :
    (after (history ++ [.register g])).toList.map (·.1)
      = (after history).toList.map (·.1)
        ++ (g.keys.removeAll ((writes history).map (·.1))).eraseDups := by
  rw [keys_after, keys_after, writes_append_register, List.map_append, map_fst_writes,
      List.eraseDups_append]

/-- Only forgetting everything makes a registry smaller. -/
theorem eq_clear_of_size_lt {history : List Call} {call : Call}
    (h : (after (history ++ [call])).size < (after history).size) : call = .clear := by
  cases call with
  | clear => rfl
  | register g =>
    have hlength := congrArg List.length (keys_after_register history g)
    rw [List.length_append, List.length_map, List.length_map] at hlength
    simp only [size, toList] at h hlength
    omega

/-- A recent registration that is made again adds no key. -/
theorem keys_after_register_of_mem_recent {history : List Call} {g : Registration}
    (h : g ∈ recent history) :
    (after (history ++ [.register g])).toList.map (·.1)
      = (after history).toList.map (·.1) := by
  have hwritten : ∀ key ∈ g.keys, key ∈ (writes history).map (·.1) := by
    intro key hkey
    refine List.mem_map.mpr ⟨(key, g.path), ?_, rfl⟩
    exact List.mem_flatMap.mpr ⟨g, h, List.mem_map.mpr ⟨key, hkey, rfl⟩⟩
  have hnew : g.keys.removeAll ((writes history).map (·.1)) = [] := by
    refine List.filter_eq_nil_iff.mpr fun key hkey => ?_
    simpa using hwritten key hkey
  rw [keys_after_register, hnew, List.eraseDups_nil, List.append_nil]

theorem not_belongs_nil {key : String} (h : key ≠ "") : belongs [] key.toList = false := by
  have hne : key.toList ≠ [] := fun heq => h (String.toList_eq_nil_iff.mp heq)
  obtain ⟨c, rest, hkey⟩ := List.exists_cons_of_ne_nil hne
  rw [hkey]
  simp [belongs, Text.occursIn]

/-- **What a registry holds.** After every history of calls:

* iterating tells the keys that were written since everything was last forgotten, in the
  order of their first writes, each once;
* a key is told with the file of its last write;
* no key and no file is empty, and no key matches every path;
* the registry becomes smaller only by forgetting everything;
* a registration that is made again, with nothing forgotten in between, changes neither the
  keys nor their order. -/
theorem contents_after (history : List Call) :
    let r := after history
    (r.toList.map (·.1) = ((writes history).map (·.1)).eraseDups ∧
      (r.toList.map (·.1)).Nodup) ∧
    (∀ key file, (key, file) ∈ r.toList ↔
      ∃ older newer, writes history = older ++ (key, file) :: newer ∧ ∀ e ∈ newer, e.1 ≠ key) ∧
    (∀ e ∈ r.toList, e.1 ≠ "" ∧ e.2 ≠ "" ∧ belongs [] e.1.toList = false) ∧
    (∀ call, (after (history ++ [call])).size < r.size → call = .clear) ∧
    (∀ older g newer, history = older ++ .register g :: newer → .clear ∉ newer →
      (after (history ++ [.register g])).toList.map (·.1) = r.toList.map (·.1)) := by
  intro r
  have hentries : r.toList = Assoc.ofList (writes history) := entries_after history
  refine ⟨⟨keys_after history, ?_⟩, fun key file => ?_, fun e he => ?_,
    fun call => eq_clear_of_size_lt, fun older g newer hhistory hclear => ?_⟩
  · rw [hentries]
    exact Assoc.nodup_ofList _
  · rw [hentries]
    exact Assoc.mem_ofList_iff
  · obtain ⟨hkey, hfile⟩ := ne_empty_of_mem_after he
    exact ⟨hkey, hfile, not_belongs_nil hkey⟩
  · exact keys_after_register_of_mem_recent (mem_recent_iff.mpr ⟨older, newer, hhistory, hclear⟩)

/-- Two files whose paths end alike share both keys, which keep their places when the older
file is registered again and are gone once everything is forgotten. -/
theorem contents_after_shared_keys :
    let old : Registration := { path := "/lib/src/Foo.php", root := some "/lib" }
    let new : Registration := { path := "/proj/src/Foo.php", root := some "/proj" }
    let history : List Call := [.register old, .register new]
    let r := after history
    (∃ older newer, writes history = older ++ ("src/Foo.php", new.path) :: newer ∧
      ∀ e ∈ newer, e.1 ≠ "src/Foo.php") ∧
    ("Foo.php" ≠ "" ∧ new.path ≠ "" ∧ belongs [] "Foo.php".toList = false) ∧
    ((after (history ++ [.clear])).size < r.size ∧ Call.clear = .clear) ∧
    (after (history ++ [.register old])).toList.map (·.1) = r.toList.map (·.1) := by
  intro old new history r
  have hkey : ("src/Foo.php", new.path) ∈ r.toList := by decide +kernel
  have hname : ("Foo.php", new.path) ∈ r.toList := by decide +kernel
  have hsize : (after (history ++ [.clear])).size < r.size := by decide +kernel
  obtain ⟨-, hlast, hne, hclear, hagain⟩ := contents_after history
  exact ⟨(hlast _ _).mp hkey, hne _ hname, ⟨hsize, hclear _ hsize⟩,
    hagain [] old [.register new] rfl (by simp)⟩

end EditorAnalysis.Registry
