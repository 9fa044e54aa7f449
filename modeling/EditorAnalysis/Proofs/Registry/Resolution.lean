/-
EditorAnalysis.Proofs.Registry.Resolution — which file a temporary copy is resolved to.

A copy belongs to a key that stands in its path with a boundary of a component on at
least one side (`StandsIn`): the key ends the path, or it begins right behind a
separator. Nothing asks for both, so a key may match a piece of a component. The first
key that matches wins (`firstFor?_eq_some_iff`).

The copy of a file that has just been registered belongs to both keys of the file, since
its relative key and its bare name end the copy's path (`standsIn_copy`). Older keys keep
their places, however, and the first one of them to which the copy belongs may be another
file's. That is the one way in which the file is not read back (`Shadows`).
-/
import EditorAnalysis.Proofs.Path.Key
import EditorAnalysis.Proofs.Registry.History
import EditorAnalysis.Proofs.Text.Search

namespace EditorAnalysis.Registry

/-! ## Where a key stands in a path -/

/-- The key stands in the path and ends it, or begins right behind a separator. -/
def StandsIn (key path : String) : Prop :=
  ∃ before behind : List Char, path.toList = before ++ key.toList ++ behind ∧
    (behind = [] ∨ Path.endsInSeparator before = true)

/-- The key stands in the path as whole components: each of its sides is an end of the
path or a separator. -/
def StandsWholeIn (key path : String) : Prop :=
  ∃ before behind : List Char, path.toList = before ++ key.toList ++ behind ∧
    (before = [] ∨ Path.endsInSeparator before = true) ∧
    (behind = [] ∨ Path.startsWithSeparator behind = true)

/-- It is enough to try every place at which the key could begin. -/
theorem standsWholeIn_iff {key path : String} :
    StandsWholeIn key path ↔ ∃ n < path.toList.length + 1,
      path.toList = path.toList.take n ++ key.toList ++ path.toList.drop (n + key.toList.length) ∧
      (path.toList.take n = [] ∨ Path.endsInSeparator (path.toList.take n) = true) ∧
      (path.toList.drop (n + key.toList.length) = [] ∨
        Path.startsWithSeparator (path.toList.drop (n + key.toList.length)) = true) := by
  constructor
  · rintro ⟨before, behind, hpath, hbefore, hbehind⟩
    have hlength := congrArg List.length hpath
    simp only [List.length_append] at hlength
    have htake : path.toList.take before.length = before := by
      rw [hpath, List.append_assoc, List.take_left]
    have hdrop : path.toList.drop (before.length + key.toList.length) = behind := by
      rw [hpath, ← List.length_append, List.drop_left]
    refine ⟨before.length, by omega, ?_⟩
    rw [htake, hdrop]
    exact ⟨hpath, hbefore, hbehind⟩
  · rintro ⟨n, -, hpath, hbefore, hbehind⟩
    exact ⟨_, _, hpath, hbefore, hbehind⟩

instance (key path : String) : Decidable (StandsWholeIn key path) :=
  decidable_of_iff _ standsWholeIn_iff.symm

theorem standsIn_of_suffix {key path : String} (h : key.toList <:+ path.toList) :
    StandsIn key path := by
  obtain ⟨before, hpath⟩ := h
  exact ⟨before, [], by simpa using hpath.symm, .inl rfl⟩

theorem standsIn_of_infix {s : Char} (hs : Path.isSeparator s = true) {key path : String}
    (h : s :: key.toList <:+: path.toList) : StandsIn key path := by
  obtain ⟨before, behind, hpath⟩ := h
  refine ⟨before ++ [s], behind, by simpa using hpath.symm, .inr ?_⟩
  rw [Path.endsInSeparator_append_singleton, hs]

theorem belongs_iff {key path : String} :
    belongs path.toList key.toList = true ↔ StandsIn key path := by
  rw [belongs, Bool.or_eq_true, Bool.or_eq_true, List.isSuffixOf_iff_suffix, Text.occursIn_iff,
      Text.occursIn_iff]
  constructor
  · rintro ((h | h) | h)
    · exact standsIn_of_suffix h
    · exact standsIn_of_infix (by decide) h
    · exact standsIn_of_infix (by decide) h
  · rintro ⟨before, behind, hpath, rfl | hbefore⟩
    · exact .inl (.inl ⟨before, by simpa using hpath.symm⟩)
    · obtain ⟨rest, s, rfl, hs⟩ := Path.exists_eq_append_of_endsInSeparator hbefore
      have hinfix : s :: key.toList <:+: path.toList := ⟨rest, behind, by simp [hpath]⟩
      rcases (by simpa [Path.isSeparator] using hs : s = '/' ∨ s = '\\') with rfl | rfl
      · exact .inl (.inr hinfix)
      · exact .inr hinfix

/-! ## The first key -/

/-- The first recorded key to which the copy belongs, with its file. -/
def firstFor? (r : Registry) (copy : String) : Option (String × String) :=
  r.entries.find? fun e => belongs copy.toList e.1.toList

theorem resolve_some (r : Registry) (copy : String) :
    r.resolve (some copy) = (r.firstFor? copy).map (·.2) := rfl

theorem firstFor?_eq_some_iff {r : Registry} {copy : String} {e : String × String} :
    r.firstFor? copy = some e ↔ StandsIn e.1 copy ∧
      ∃ older newer, r.toList = older ++ e :: newer ∧ ∀ d ∈ older, ¬ StandsIn d.1 copy := by
  rw [firstFor?, List.find?_eq_some_iff_append, belongs_iff]
  simp only [Bool.not_eq_true', ← Bool.not_eq_true, belongs_iff, toList]

/-- **Whose copy it is.** A copy is resolved to a file exactly when the first key that
stands in its path, with a boundary of a component on at least one side, was recorded
for that file. -/
theorem resolve_after_eq_some_iff (history : List Call) (copy file : String) :
    (after history).resolve (some copy) = some file ↔
      ∃ older key newer, (after history).toList = older ++ (key, file) :: newer ∧ key ≠ "" ∧
        (∃ before behind : List Char, copy.toList = before ++ key.toList ++ behind ∧
          (behind = [] ∨ Path.endsInSeparator before = true)) ∧
        ∀ e ∈ older, ¬ StandsIn e.1 copy := by
  rw [resolve_some, Option.map_eq_some_iff]
  constructor
  · rintro ⟨⟨key, file⟩, hfirst, rfl⟩
    obtain ⟨hstands, older, newer, hentries, holder⟩ := firstFor?_eq_some_iff.mp hfirst
    have hmem : (key, file) ∈ (after history).entries := List.mem_of_find?_eq_some hfirst
    exact ⟨older, key, newer, hentries, (ne_empty_of_mem_after hmem).1, hstands, holder⟩
  · rintro ⟨older, key, newer, hentries, -, hstands, holder⟩
    exact ⟨(key, file), firstFor?_eq_some_iff.mpr ⟨hstands, older, newer, hentries, holder⟩, rfl⟩

/-- A key may stand in a component that begins before it, and in one that goes on behind
it: `Foo.php` in `MyFoo.php`, and `Makefile` in `Makefile.d`. -/
theorem resolve_within_component :
    let r := after [.register { path := "/proj/Foo.php", root := some "/proj" },
      .register { path := "/proj/Makefile", root := some "/proj" }]
    (r.resolve (some "/tmp/MyFoo.php") = some "/proj/Foo.php" ∧
      ∀ e ∈ r.toList, e.2 = "/proj/Foo.php" → ¬ StandsWholeIn e.1 "/tmp/MyFoo.php") ∧
    (r.resolve (some "/tmp/Makefile.d/x.php") = some "/proj/Makefile" ∧
      ∀ e ∈ r.toList, e.2 = "/proj/Makefile" → ¬ StandsWholeIn e.1 "/tmp/Makefile.d/x.php") := by
  decide +kernel

/-! ## Reading back what was registered -/

/-- A file whose relative key is known is recorded under that key, and under its bare name
if it has one. -/
theorem mem_keys_iff_of_relativeKey? {path key : String} {root : Option String}
    (h : Path.relativeKey? path root = some key) {k : String} :
    k ∈ ({ path, root } : Registration).keys ↔ k = key ∨ (k = Path.fileName path ∧ k ≠ "") := by
  obtain ⟨hne, front, hfront, -⟩ := Path.relativeKey?_eq_some h
  have hpath : path ≠ "" := by
    rintro rfl
    have hnil : key.toList = [] := by
      simpa using (List.append_eq_nil_iff.mp hfront.symm).2
    exact hne (String.toList_eq_nil_iff.mp hnil)
  have hkey : ({ path, root } : Registration).relativeKey? = some key := by
    simpa [Registration.relativeKey?, Text.given?] using h
  have hname : ({ path, root } : Registration).bareName = Path.fileName path := rfl
  rw [Registration.keys, if_neg hpath, hkey, hname, List.mem_append, Option.mem_toList,
      Option.mem_toList, Text.given?_eq_some_iff, Text.given?_eq_some_iff, Option.some.injEq,
      Option.some.injEq, eq_comm (a := key), eq_comm (a := Path.fileName path)]
  constructor
  · exact fun hk => hk.imp_left And.left
  · exact fun hk => hk.imp_left fun hk => ⟨hk, hk ▸ hne⟩

/-- Both keys end every copy that mirrors the relative key. -/
theorem standsIn_copy {path key : String} {root : Option String}
    (h : Path.relativeKey? path root = some key) (copyRoot : String) :
    ∀ k ∈ ({ path, root } : Registration).keys, StandsIn k (copyRoot ++ "/" ++ key) := by
  intro k hk
  have hcopy : key.toList <:+ (copyRoot ++ "/" ++ key).toList := by
    rw [String.toList_append]
    exact List.suffix_append _ _
  rcases (mem_keys_iff_of_relativeKey? h).mp hk with rfl | ⟨rfl, -⟩
  · exact standsIn_of_suffix hcopy
  · rw [Path.fileName_eq_of_relativeKey? h]
    exact standsIn_of_suffix ((Path.fileName_suffix key).trans hcopy)

/-- A copy to which all keys of a registration belong is resolved to the registered file,
unless an older key that the registration does not write comes first. -/
theorem resolve_register {g : Registration} {copy : String} (hne : g.keys ≠ [])
    (hkeys : ∀ k ∈ g.keys, StandsIn k copy) (r : Registry) :
    (r.register g).resolve (some copy) = some (match r.firstFor? copy with
      | none => g.path
      | some e => if e.1 ∈ g.keys then g.path else e.2) := by
  have hfirst := Assoc.find?_foldl_put (fun k => belongs copy.toList k.toList) g.path
    (fun k hk => belongs_iff.mpr (hkeys k hk)) r.entries
  obtain ⟨key, rest, hcons⟩ := List.exists_cons_of_ne_nil hne
  rw [resolve_some, firstFor?, register, hfirst, firstFor?]
  cases r.entries.find? (fun e => belongs copy.toList e.1.toList) with
  | none => simp [hcons]
  | some e => rfl

/-- Another file's key is the first to which the copy belongs, and it is neither the
relative key nor the bare name of the file that is registered. -/
def Shadows (r : Registry) (path key copy other : String) : Prop :=
  ∃ older otherKey newer, r.toList = older ++ (otherKey, other) :: newer ∧
    StandsIn otherKey copy ∧ (∀ e ∈ older, ¬ StandsIn e.1 copy) ∧
    otherKey ≠ key ∧ otherKey ≠ Path.fileName path ∧ other ≠ path

theorem shadows_iff {r : Registry} {path key copy other : String} :
    Shadows r path key copy other ↔ ∃ otherKey, r.firstFor? copy = some (otherKey, other) ∧
      otherKey ≠ key ∧ otherKey ≠ Path.fileName path ∧ other ≠ path := by
  simp only [firstFor?_eq_some_iff]
  constructor
  · rintro ⟨older, otherKey, newer, hentries, hstands, holder, hother⟩
    exact ⟨otherKey, ⟨hstands, older, newer, hentries, holder⟩, hother⟩
  · rintro ⟨otherKey, ⟨hstands, older, newer, hentries, holder⟩, hother⟩
    exact ⟨older, otherKey, newer, hentries, hstands, holder, hother⟩

/-- **Reading a registered file back.** After a file was registered below its root, the copy
that mirrors its relative key is resolved to it, unless the first of the keys recorded
before to which the copy belongs is another file's and is not written again; the copy is
then resolved to that file. -/
theorem resolve_register_copy (history : List Call) (path key copyRoot : String)
    (root : Option String) (h : Path.relativeKey? path root = some key) :
    let before := after history
    let now := before.register { path, root }
    let copy := copyRoot ++ "/" ++ key
    (now.resolve (some copy) = some path ∧ ∀ other, ¬ Shadows before path key copy other) ∨
      ∃ other, Shadows before path key copy other ∧ now.resolve (some copy) = some other := by
  intro before now copy
  have hkeys := @mem_keys_iff_of_relativeKey? path key root h
  have hresolve : now.resolve (some copy) = some (match before.firstFor? copy with
      | none => path
      | some e => if e.1 ∈ ({ path, root } : Registration).keys then path else e.2) :=
    resolve_register (List.ne_nil_of_mem (hkeys.mpr (.inl rfl))) (standsIn_copy h copyRoot) before
  cases hfirst : before.firstFor? copy with
  | none =>
    rw [hfirst] at hresolve
    refine .inl ⟨hresolve, fun other hshadows => ?_⟩
    obtain ⟨otherKey, hother, -⟩ := shadows_iff.mp hshadows
    simp [hfirst] at hother
  | some e =>
    obtain ⟨oldKey, old⟩ := e
    rw [hfirst] at hresolve
    -- only the entry that is hit first can shadow
    have hshadows : ∀ other, Shadows before path key copy other ↔
        other = old ∧ oldKey ≠ key ∧ oldKey ≠ Path.fileName path ∧ old ≠ path := by
      intro other
      rw [shadows_iff, hfirst]
      constructor
      · rintro ⟨otherKey, hother, hne⟩
        cases hother
        exact ⟨rfl, hne⟩
      · rintro ⟨rfl, hne⟩
        exact ⟨oldKey, rfl, hne⟩
    have hmem : oldKey ∈ ({ path, root } : Registration).keys ↔
        oldKey = key ∨ oldKey = Path.fileName path := by
      rw [hkeys]
      -- no recorded key is empty, so the bare name is written whenever it is recorded
      have hne := (ne_empty_of_mem_after (List.mem_of_find?_eq_some hfirst)).1
      simp [hne]
    by_cases hwritten : oldKey = key ∨ oldKey = Path.fileName path
    · refine .inl ⟨by simpa [hmem, hwritten] using hresolve, fun other hother => ?_⟩
      obtain ⟨-, hkey, hname, -⟩ := (hshadows other).mp hother
      exact hwritten.elim hkey hname
    · have hold : now.resolve (some copy) = some old := by simpa [hmem, hwritten] using hresolve
      obtain ⟨hkey, hname⟩ := not_or.mp hwritten
      by_cases hpath : old = path
      · exact .inl ⟨hpath ▸ hold, fun other hother => ((hshadows other).mp hother).2.2.2 hpath⟩
      · exact .inr ⟨old, (hshadows old).mpr ⟨rfl, hkey, hname, hpath⟩, hold⟩

theorem resolve_register_copy_under_older_key :
    let before := after [.register { path := "/lib/src/Foo.php", root := some "/lib" }]
    let now := before.register { path := "/proj/app/src/Foo.php", root := some "/proj" }
    let copy := "/tmp" ++ "/" ++ "app/src/Foo.php"
    Path.relativeKey? "/proj/app/src/Foo.php" (some "/proj") = some "app/src/Foo.php" ∧
      ((now.resolve (some copy) = some "/proj/app/src/Foo.php" ∧
          ∀ other, ¬ Shadows before "/proj/app/src/Foo.php" "app/src/Foo.php" copy other) ∨
        ∃ other, Shadows before "/proj/app/src/Foo.php" "app/src/Foo.php" copy other ∧
          now.resolve (some copy) = some other) :=
  have hkey : Path.relativeKey? "/proj/app/src/Foo.php" (some "/proj") = some "app/src/Foo.php" := by
    decide +kernel
  ⟨hkey, resolve_register_copy _ _ _ "/tmp" _ hkey⟩

/-- A file is not always read back: two files whose paths end alike share a key, and the
older one keeps it. -/
theorem resolve_register_ne_registered :
    ¬ ∀ (history : List Call) (path key copyRoot : String) (root : Option String),
      Path.relativeKey? path root = some key →
      ((after history).register { path, root }).resolve (some (copyRoot ++ "/" ++ key))
        = some path := by
  intro h
  have hread := h [.register { path := "/lib/src/Foo.php", root := some "/lib" }]
    "/proj/app/src/Foo.php" "app/src/Foo.php" "/tmp" (some "/proj") (by decide +kernel)
  exact absurd hread (by decide +kernel)

end EditorAnalysis.Registry
