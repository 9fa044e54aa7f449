/-
EditorAnalysis.Proofs.Registry.Bearing — which calls have a bearing on a copy.

A registration bears on a copy when it writes a key to which the copy belongs. The answer
for a copy depends on these registrations only (`resolve_after_bearing`): keys to which
the copy does not belong may be left out before the registry is built or after
(`Assoc.filter_ofList`), so the calls that write no other keys may be left out as well.
-/
import EditorAnalysis.Proofs.Registry.Contents
import EditorAnalysis.Proofs.Registry.Resolution

namespace EditorAnalysis.Registry

/-- The registration writes a key to which the copy belongs. -/
def Registration.bearsOn (copy : String) (g : Registration) : Bool :=
  g.keys.any fun key => belongs copy.toList key.toList

/-- The call writes a key to which the copy belongs, or forgets everything. -/
def Call.bearsOn (copy : String) : Call → Bool
  | .register g => g.bearsOn copy
  | .clear => true

/-- The copy belongs to the key of a write. -/
def concerns (copy : String) (write : String × String) : Bool :=
  belongs copy.toList write.1.toList

variable {copy : String}

/-! ## The writes that concern a copy -/

theorem mem_filter_writes {g : Registration} {e : String × String} :
    e ∈ g.writes.filter (concerns copy) ↔
      e.1 ∈ g.keys ∧ belongs copy.toList e.1.toList = true ∧ e.2 = g.path := by
  obtain ⟨key, file⟩ := e
  simp only [List.mem_filter, Registration.writes, List.mem_map, Prod.mk.injEq, concerns]
  constructor
  · rintro ⟨⟨k, hk, rfl, rfl⟩, hbelongs⟩
    exact ⟨hk, hbelongs, rfl⟩
  · rintro ⟨hk, hbelongs, rfl⟩
    exact ⟨⟨key, hk, rfl, rfl⟩, hbelongs⟩

theorem Registration.filter_writes_eq_nil_iff {g : Registration} :
    g.writes.filter (concerns copy) = [] ↔ g.bearsOn copy = false := by
  rw [List.filter_eq_nil_iff, Registration.bearsOn, List.any_eq_false]
  simp [Registration.writes, concerns]

/-- Leaving out calls without a bearing leaves out registrations only. -/
theorem recent_filter (copy : String) (history : List Call) :
    recent (history.filter (Call.bearsOn copy))
      = (recent history).filter (Registration.bearsOn copy) := by
  induction history using List.reverseRecOn with
  | nil => rfl
  | append_singleton history call ih =>
    rw [List.filter_append, recent_append_singleton]
    cases call with
    | register g =>
      cases hg : g.bearsOn copy <;> simp [Call.bearsOn, Call.extend, hg, ih]
    | clear =>
      have hkept : [Call.clear].filter (Call.bearsOn copy) = [.clear] := rfl
      rw [hkept, recent_append_singleton]
      rfl

/-- The writes that concern the copy are those of the registrations with a bearing on it. -/
theorem filter_writes_filter (copy : String) (history : List Call) :
    (writes (history.filter (Call.bearsOn copy))).filter (concerns copy)
      = (writes history).filter (concerns copy) := by
  rw [writes, writes, recent_filter]
  induction recent history with
  | nil => rfl
  | cons g rest ih =>
    rw [List.flatMap_cons, List.filter_append, ← ih]
    cases hg : g.bearsOn copy with
    | true => simp [hg]
    | false =>
      have hnone := Registration.filter_writes_eq_nil_iff.mpr hg
      simp [hg, hnone]

/-! ## The answer for a copy -/

/-- The answer is the file of the first entry built from the writes that concern the copy. -/
theorem resolve_after (history : List Call) (copy : String) :
    (after history).resolve (some copy)
      = ((Assoc.ofList ((writes history).filter (concerns copy))).head?).map (·.2) := by
  have hfilter := Assoc.filter_ofList (fun key => belongs copy.toList key.toList) (writes history)
  rw [resolve_some, firstFor?, ← List.head?_filter, entries_after, hfilter]
  rfl

theorem resolve_after_eq_none_iff (history : List Call) (copy : String) :
    (after history).resolve (some copy) = none ↔
      (writes history).filter (concerns copy) = [] := by
  rw [resolve_after, Option.map_eq_none_iff, List.head?_eq_none_iff, Assoc.ofList_eq_nil_iff]

theorem filter_writes_eq_nil_iff (history : List Call) (copy : String) :
    (writes history).filter (concerns copy) = [] ↔
      ∀ g ∈ recent history, g.bearsOn copy = false := by
  rw [writes, List.filter_flatMap, List.flatMap_eq_nil_iff]
  exact forall₂_congr fun g _ => Registration.filter_writes_eq_nil_iff

/-- **What an answer depends on.** After every history of calls, and for every copy:

* the answer stays the same when all registrations that write no key to which the copy
  belongs are left out;
* there is no answer exactly when no registration since everything was last forgotten
  writes a key to which the copy belongs;
* when the registrations that remain are all for one file, and there are any, the answer is
  that file. -/
theorem resolve_after_bearing (history : List Call) (copy : String) :
    let kept := history.filter (Call.bearsOn copy)
    (after history).resolve (some copy) = (after kept).resolve (some copy) ∧
    ((after history).resolve (some copy) = none ↔
      ∀ g ∈ recent history, ∀ key ∈ g.keys, belongs copy.toList key.toList = false) ∧
    (∀ path, recent kept ≠ [] → (∀ g ∈ recent kept, g.path = path) →
      (after history).resolve (some copy) = some path) := by
  intro kept
  have hnone : (after history).resolve (some copy) = none ↔
      ∀ g ∈ recent history, g.bearsOn copy = false := by
    rw [resolve_after_eq_none_iff, filter_writes_eq_nil_iff]
  refine ⟨?_, ?_, fun path hkept hpath => ?_⟩
  · rw [resolve_after, resolve_after, filter_writes_filter]
  · rw [hnone]
    simp [Registration.bearsOn]
  · have hne : (after history).resolve (some copy) ≠ none := by
      intro heq
      refine hkept (List.filter_eq_nil_iff.mpr ?_ ▸ recent_filter copy history)
      exact fun g hg => by simp [hnone.mp heq g hg]
    obtain ⟨file, hfile⟩ := Option.ne_none_iff_exists'.mp hne
    rw [hfile]
    rw [resolve_after, Option.map_eq_some_iff] at hfile
    obtain ⟨e, hhead, rfl⟩ := hfile
    -- every entry comes from a write, and every write that remains is for the one file
    obtain ⟨older, newer, hwrites, -⟩ := Assoc.mem_ofList_iff.mp (List.mem_of_head? hhead)
    have he : e ∈ (writes history).filter (concerns copy) := hwrites ▸ by simp
    rw [← filter_writes_filter, writes, List.filter_flatMap, List.mem_flatMap] at he
    obtain ⟨g, hg, he⟩ := he
    rw [(mem_filter_writes.mp he).2.2, hpath g hg]

/-- Calls for another file and a history that was forgotten have no bearing on a copy, and
a copy on which nothing bears has no file. -/
theorem resolve_after_bearing_among_others :
    let foo : Registration := { path := "/proj/src/Foo.php", root := some "/proj" }
    let bar : Registration := { path := "/proj/src/Bar.php", root := some "/proj" }
    let history : List Call :=
      [.register bar, .clear, .register bar, .register foo, .register bar]
    let kept := history.filter (Call.bearsOn "/tmp/src/Foo.php")
    kept = [.clear, .register foo] ∧
    (after history).resolve (some "/tmp/src/Foo.php")
      = (after kept).resolve (some "/tmp/src/Foo.php") ∧
    (recent kept ≠ [] ∧ (∀ g ∈ recent kept, g.path = "/proj/src/Foo.php") ∧
      (after history).resolve (some "/tmp/src/Foo.php") = some "/proj/src/Foo.php") ∧
    (after history).resolve (some "/tmp/src/Baz.php") = none := by
  intro foo bar history kept
  have hkept : kept = [.clear, .register foo] := by decide +kernel
  have hsome : recent kept ≠ [] := by decide +kernel
  have hall : ∀ g ∈ recent kept, g.path = "/proj/src/Foo.php" := by decide +kernel
  have hother : ∀ g ∈ recent history, ∀ key ∈ g.keys,
      belongs "/tmp/src/Baz.php".toList key.toList = false := by decide +kernel
  obtain ⟨hsame, -, hone⟩ := resolve_after_bearing history "/tmp/src/Foo.php"
  obtain ⟨-, hnone, -⟩ := resolve_after_bearing history "/tmp/src/Baz.php"
  exact ⟨hkept, hsame, ⟨hsome, hall, hone _ hsome hall⟩, hnone.mpr hother⟩

end EditorAnalysis.Registry
