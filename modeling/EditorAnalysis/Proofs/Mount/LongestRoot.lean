/-
EditorAnalysis.Proofs.Mount.LongestRoot — which of the given mounts decides about a path.

The mounts are sorted once, longest local root first, and then tried in that order. What comes
of it is said without the sorting: of the mounts that concern the path the one with the longest
root decides, and of several with that root the one that was given first (`Decides`).

Two facts carry this. Sorting is stable, so the mounts with one root keep the order in which
they were given (`filter_ordered`). And two roots of one length that both concern a path are
equal, being as long a piece of its beginning (`AtOrBelow.eq_of_length_eq`); so the mounts of the
longest length all have one root, and it is between these that the given order decides.
-/
import EditorAnalysis.Mount
import Mathlib.Data.List.Nodup

namespace EditorAnalysis.Mount

/-! ## Roots -/

/-- The path is the root itself, or goes on behind it with a separator of either style. -/
def AtOrBelow (root path : String) : Prop :=
  path = root ∨ ∃ s rest, Path.isSeparator s = true ∧ path.toList = root.toList ++ s :: rest

theorem AtOrBelow.isPrefix {root path : String} (h : AtOrBelow root path) :
    root.toList <+: path.toList := by
  rcases h with rfl | ⟨s, rest, -, hpath⟩
  · exact List.prefix_rfl
  · exact ⟨s :: rest, hpath.symm⟩

/-- Two roots of one length above one path are equal. -/
theorem AtOrBelow.eq_of_length_eq {root root' path : String} (h : AtOrBelow root path)
    (h' : AtOrBelow root' path) (hlength : root.length = root'.length) : root = root' := by
  rw [← String.length_toList, ← String.length_toList] at hlength
  have hroots := List.prefix_of_prefix_length_le h.isPrefix h'.isPrefix (Nat.le_of_eq hlength)
  exact String.toList_inj.mp (hroots.eq_of_length hlength)

theorem append_singleton_prefix_iff {root path : List Char} {s : Char} :
    root ++ [s] <+: path ↔ ∃ rest, path = root ++ s :: rest := by
  constructor
  · rintro ⟨rest, rfl⟩
    exact ⟨rest, by simp⟩
  · rintro ⟨rest, rfl⟩
    exact ⟨rest, by simp⟩

theorem tail?_eq_some_iff {root path rest : List Char} : tail? root path = some rest ↔
    ∃ s, Path.isSeparator s = true ∧ path = root ++ s :: rest := by
  have hclosed : ((root ++ ['/']).isPrefixOf path || (root ++ ['\\']).isPrefixOf path) = true ↔
      ∃ s, Path.isSeparator s = true ∧ ∃ rest, path = root ++ s :: rest := by
    simp [append_singleton_prefix_iff, Path.isSeparator, or_and_right, exists_or]
  rw [tail?]
  by_cases h : ((root ++ ['/']).isPrefixOf path || (root ++ ['\\']).isPrefixOf path) = true
  · obtain ⟨s, hs, behind, rfl⟩ := hclosed.mp h
    rw [if_pos h]
    constructor
    · intro hrest
      obtain rfl : behind = rest := by simpa using hrest
      exact ⟨s, hs, rfl⟩
    · rintro ⟨s', -, hpath⟩
      obtain ⟨-, rfl⟩ : s = s' ∧ behind = rest := by simpa using hpath
      simp
  · rw [if_neg h]
    constructor
    · intro hnone
      cases hnone
    · rintro ⟨s, hs, hpath⟩
      exact absurd (hclosed.mpr ⟨s, hs, rest, hpath⟩) h

instance (root path : String) : Decidable (AtOrBelow root path) :=
  decidable_of_iff (path = root ∨ (tail? root.toList path.toList).isSome = true) (by
    simp only [AtOrBelow, Option.isSome_iff_exists, tail?_eq_some_iff]
    exact or_congr_right exists_comm)

theorem map?_self (m : Mount) : m.map? m.localRoot = some m.remoteRoot := by
  simp [map?]

theorem map?_below {m : Mount} {path : String} {s : Char} {rest : List Char}
    (hs : Path.isSeparator s = true) (hpath : path.toList = m.localRoot.toList ++ s :: rest) :
    m.map? path
      = some (m.remoteRoot ++ "/" ++ String.ofList (Text.replaceChar '\\' '/' rest)) := by
  have hne : path ≠ m.localRoot := by
    rintro rfl
    simp at hpath
  rw [map?, if_neg hne, tail?_eq_some_iff.mpr ⟨s, hs, hpath⟩]
  rfl

theorem map?_eq_none_iff {m : Mount} {path : String} :
    m.map? path = none ↔ ¬ AtOrBelow m.localRoot path := by
  constructor
  · rintro hnone (rfl | ⟨s, rest, hs, hpath⟩)
    · simp [map?_self] at hnone
    · simp [map?_below hs hpath] at hnone
  · intro hnot
    have hne : path ≠ m.localRoot := fun h => hnot (.inl h)
    rw [map?, if_neg hne, Option.map_eq_none_iff, Option.eq_none_iff_forall_ne_some]
    intro rest hrest
    obtain ⟨s, hs, hpath⟩ := tail?_eq_some_iff.mp hrest
    exact hnot (.inr ⟨s, rest, hs, hpath⟩)

/-! ## The order in which mounts are tried -/

-- the roots are compared as they are, and nothing is gained by computing them
attribute [local irreducible] stripSeparators

/-- The mount without the separators at the ends of its roots. -/
def stripped (m : Mount) : Mount := ⟨stripSeparators m.localRoot, stripSeparators m.remoteRoot⟩

@[simp] theorem remoteRoot_stripped (m : Mount) :
    m.stripped.remoteRoot = stripSeparators m.remoteRoot := rfl

theorem map?_stripped_root {m : Mount} {path : String} (h : path = stripSeparators m.localRoot) :
    m.stripped.map? path = some (stripSeparators m.remoteRoot) := by
  subst h
  exact map?_self m.stripped

/-- The mounts that take part, in the order in which they are given. -/
def kept (pairs : List Mount) : List Mount := (pairs.filter (·.localRoot ≠ "")).map stripped

/-- The first mount may be tried before the second one. -/
def mayPrecede (m n : Mount) : Bool := n.localRoot.length ≤ m.localRoot.length

theorem mayPrecede_trans (m n k : Mount) (hmn : mayPrecede m n = true)
    (hnk : mayPrecede n k = true) : mayPrecede m k = true := by
  simp only [mayPrecede, decide_eq_true_eq] at *
  omega

theorem mayPrecede_total (m n : Mount) : (mayPrecede m n || mayPrecede n m) = true := by
  simp only [mayPrecede, Bool.or_eq_true, decide_eq_true_eq]
  omega

theorem ordered_eq (pairs : List Mount) : ordered pairs = (kept pairs).mergeSort mayPrecede := rfl

theorem mem_ordered_iff {pairs : List Mount} {a : Mount} :
    a ∈ ordered pairs ↔ ∃ m ∈ pairs, m.localRoot ≠ "" ∧ stripped m = a := by
  simp [ordered_eq, kept, and_assoc]

/-- Longer roots come first. -/
theorem pairwise_ordered (pairs : List Mount) :
    (ordered pairs).Pairwise fun m n => n.localRoot.length ≤ m.localRoot.length := by
  have hsorted := List.pairwise_mergeSort mayPrecede_trans mayPrecede_total (kept pairs)
  simpa [ordered_eq, mayPrecede] using hsorted

/-- The mounts with one root stay in the order in which they are given. -/
theorem filter_ordered (pairs : List Mount) (root : String) :
    (ordered pairs).filter (·.localRoot = root) = (kept pairs).filter (·.localRoot = root) := by
  have hlevel : ((kept pairs).filter (·.localRoot = root)).Pairwise (mayPrecede · ·) := by
    refine List.pairwise_of_forall_mem_list fun m hm n hn => ?_
    have hm' : m.localRoot = root := by simpa using (List.mem_filter.mp hm).2
    have hn' : n.localRoot = root := by simpa using (List.mem_filter.mp hn).2
    simp [mayPrecede, hm', hn']
  have hstable := List.sublist_mergeSort mayPrecede_trans mayPrecede_total hlevel
    List.filter_sublist
  have hsublist := hstable.filter (·.localRoot = root)
  simp only [List.filter_filter, Bool.and_self] at hsublist
  have hlength := ((List.mergeSort_perm (kept pairs) mayPrecede).filter
    (·.localRoot = root)).length_eq
  exact (hsublist.eq_of_length hlength.symm).symm

/-- The mount that is tried first of those with one root is the first one given. -/
theorem find?_ordered (pairs : List Mount) (root : String) :
    (ordered pairs).find? (·.localRoot = root)
      = (pairs.find? fun m => m.localRoot ≠ "" ∧ stripSeparators m.localRoot = root).map stripped := by
  rw [← List.head?_filter, filter_ordered, List.head?_filter, kept, List.find?_map,
      List.find?_filter]
  congr 2
  funext m
  refine decide_eq_decide.mpr ⟨fun h => ?_, fun h => ?_⟩
  · exact ⟨of_decide_eq_true h.1, of_decide_eq_true h.2⟩
  · exact ⟨decide_eq_true h.1, decide_eq_true h.2⟩

/-! ## Deciding -/

/-- The mount takes part and the path is at or below its local root, separators at the end of
the root aside. -/
def Concerns (m : Mount) (path : String) : Prop :=
  m.localRoot ≠ "" ∧ AtOrBelow (stripSeparators m.localRoot) path

instance (m : Mount) (path : String) : Decidable (m.Concerns path) :=
  inferInstanceAs (Decidable (_ ∧ _))

/-- Of the mounts that concern the path none has a longer local root than `m`, and none of those
given before `m` has the same one. -/
structure Decides (pairs : List Mount) (m : Mount) (path : String) : Prop where
  concerns : m.Concerns path
  longest : ∀ n ∈ pairs, n.Concerns path →
    (stripSeparators n.localRoot).length ≤ (stripSeparators m.localRoot).length
  first : ∃ before behind, pairs = before ++ m :: behind ∧
    ∀ n ∈ before, n.Concerns path → stripSeparators n.localRoot ≠ stripSeparators m.localRoot

theorem Decides.mem {pairs : List Mount} {m : Mount} {path : String} (h : Decides pairs m path) :
    m ∈ pairs := by
  obtain ⟨before, behind, rfl, -⟩ := h.first
  simp

/-- The mounts of the greatest length that concern the path have one root. -/
theorem Decides.root_eq {pairs pairs' : List Mount} {m m' : Mount} {path : String}
    (h : Decides pairs m path) (h' : Decides pairs' m' path) (hpairs : ∀ n, n ∈ pairs ↔ n ∈ pairs') :
    stripSeparators m.localRoot = stripSeparators m'.localRoot :=
  h.concerns.2.eq_of_length_eq h'.concerns.2 (Nat.le_antisymm
    (h'.longest m ((hpairs m).mp h.mem) h.concerns)
    (h.longest m' ((hpairs m').mpr h'.mem) h'.concerns))

/-- One mount at most decides. -/
theorem Decides.unique {pairs : List Mount} {m m' : Mount} {path : String}
    (h : Decides pairs m path) (h' : Decides pairs m' path) : m = m' := by
  have hroot := h.root_eq h' fun _ => Iff.rfl
  have hfind : ∀ {n : Mount}, Decides pairs n path →
      stripSeparators n.localRoot = stripSeparators m.localRoot →
      pairs.find? (fun k => k.Concerns path ∧
        stripSeparators k.localRoot = stripSeparators m.localRoot) = some n := by
    intro n hn hnroot
    obtain ⟨before, behind, hpairs, hfirst⟩ := hn.first
    refine List.find?_eq_some_iff_append.mpr ⟨by simp [hn.concerns, hnroot], before, behind,
      hpairs, fun k hk => ?_⟩
    rw [Bool.not_eq_true', decide_eq_false_iff_not]
    exact fun h => hfirst k hk h.1 (h.2.trans hnroot.symm)
  exact Option.some.inj ((hfind h rfl).symm.trans (hfind h' hroot.symm))

/-- The first of the sorted mounts whose root is above the path is one that decides. -/
theorem exists_decides_of_ordered {pairs front back : List Mount} {a : Mount} {path : String}
    (hordered : ordered pairs = front ++ a :: back) (ha : AtOrBelow a.localRoot path)
    (hfront : ∀ n ∈ front, ¬ AtOrBelow n.localRoot path) :
    ∃ m, m.stripped = a ∧ Decides pairs m path := by
  have hroot : (ordered pairs).find? (·.localRoot = a.localRoot) = some a := by
    refine List.find?_eq_some_iff_append.mpr ⟨by simp, front, back, hordered, fun n hn => ?_⟩
    rw [Bool.not_eq_true', decide_eq_false_iff_not]
    exact fun hsame => hfront n hn (hsame ▸ ha)
  rw [find?_ordered] at hroot
  obtain ⟨m, hm, rfl⟩ := Option.map_eq_some_iff.mp hroot
  obtain ⟨hkept, before, behind, hpairs, hbefore⟩ := List.find?_eq_some_iff_append.mp hm
  refine ⟨m, rfl, ⟨(of_decide_eq_true hkept).1, ha⟩, fun n hn hconcerns => ?_, before, behind,
    hpairs, fun n hn hconcerns hsame => ?_⟩
  · -- nothing in front is above the path, and what is behind is not longer
    have hmem : n.stripped ∈ front ++ m.stripped :: back :=
      hordered ▸ mem_ordered_iff.mpr ⟨n, hn, hconcerns.1, rfl⟩
    have hsorted := pairwise_ordered pairs
    rw [hordered, List.pairwise_append, List.pairwise_cons] at hsorted
    rcases List.mem_append.mp hmem with hmem | hmem
    · exact absurd hconcerns.2 (hfront _ hmem)
    · rcases List.mem_cons.mp hmem with heq | hmem
      · have hsame : stripSeparators n.localRoot = stripSeparators m.localRoot :=
          congrArg localRoot heq
        exact hsame ▸ Nat.le_refl _
      · exact hsorted.2.1.1 _ hmem
  · have hnot := hbefore n hn
    rw [Bool.not_eq_true', decide_eq_false_iff_not] at hnot
    exact hnot ⟨hconcerns.1, hsame⟩

/-- A mount decides and the path is what that mount makes of it, or no mount concerns the path
and it stays as it is. -/
theorem mapPath_ordered_cases (pairs : List Mount) (path : String) :
    (∃ m, Decides pairs m path ∧ m.stripped.map? path = some (mapPath (ordered pairs) path)) ∨
      ((∀ m ∈ pairs, ¬ m.Concerns path) ∧ mapPath (ordered pairs) path = path) := by
  rw [mapPath]
  cases hfound : (ordered pairs).findSome? (·.map? path) with
  | none =>
    refine .inr ⟨fun m hm hconcerns => ?_, rfl⟩
    have hnone := List.findSome?_eq_none_iff.mp hfound m.stripped
      (mem_ordered_iff.mpr ⟨m, hm, hconcerns.1, rfl⟩)
    exact map?_eq_none_iff.mp hnone hconcerns.2
  | some target =>
    obtain ⟨front, a, back, hordered, hsome, hfront⟩ := List.findSome?_eq_some_iff.mp hfound
    have ha : AtOrBelow a.localRoot path := by
      by_contra hnot
      rw [map?_eq_none_iff.mpr hnot] at hsome
      cases hsome
    obtain ⟨m, rfl, hm⟩ := exists_decides_of_ordered hordered ha
      fun n hn => map?_eq_none_iff.mp (hfront n hn)
    exact .inl ⟨m, hm, hsome⟩

theorem map_ofPairs (pairs : List Mount) (path : String) :
    (PathMapper.ofPairs pairs).map path = mapPath (ordered pairs) path := rfl

theorem Decides.map?_eq {pairs : List Mount} {m : Mount} {path : String}
    (h : Decides pairs m path) :
    m.stripped.map? path = some ((PathMapper.ofPairs pairs).map path) := by
  rcases mapPath_ordered_cases pairs path with ⟨n, hn, hmap⟩ | ⟨hnone, -⟩
  · obtain rfl := h.unique hn
    exact hmap
  · exact absurd h.concerns (hnone m h.mem)

/-- Mounts with different roots may be given in any order. -/
theorem mapPath_ordered_of_perm {pairs other : List Mount} (hperm : pairs.Perm other)
    (hroots : ((pairs.filter (·.localRoot ≠ "")).map (stripSeparators ·.localRoot)).Nodup)
    (path : String) : mapPath (ordered pairs) path = mapPath (ordered other) path := by
  have hmem : ∀ n, n ∈ pairs ↔ n ∈ other := fun _ => hperm.mem_iff
  rcases mapPath_ordered_cases pairs path with ⟨m, hm, hmap⟩ | ⟨hnone, hmap⟩
  · rcases mapPath_ordered_cases other path with ⟨n, hn, hmap'⟩ | ⟨hnone', -⟩
    · have hmkept : m ∈ pairs.filter (·.localRoot ≠ "") :=
        List.mem_filter.mpr ⟨hm.mem, decide_eq_true hm.concerns.1⟩
      have hnkept : n ∈ pairs.filter (·.localRoot ≠ "") :=
        List.mem_filter.mpr ⟨(hmem n).mpr hn.mem, decide_eq_true hn.concerns.1⟩
      obtain rfl : m = n :=
        List.inj_on_of_nodup_map hroots hmkept hnkept (hm.root_eq hn hmem)
      exact Option.some.inj (hmap.symm.trans hmap')
    · exact absurd hm.concerns (hnone' m ((hmem m).mp hm.mem))
  · rcases mapPath_ordered_cases other path with ⟨n, hn, -⟩ | ⟨-, hmap'⟩
    · exact absurd hn.concerns (hnone n ((hmem n).mpr hn.mem))
    · rw [hmap, hmap']

/-- **The longest root decides.** If a mount concerns the path, the one with the longest local
root does, the first given of those with that root: the root itself becomes the remote root, and
a path below it keeps its rest behind the remote root, with `/` for every separator. If none
does, the path stays as it is. When the local roots are all different, the order in which the
mounts are given makes no difference. -/
theorem map_ofPairs_longest_root :
    (∀ (pairs : List Mount) (path : String),
      ((∃ m ∈ pairs, m.Concerns path) → ∃ m, Decides pairs m path ∧
        (path = stripSeparators m.localRoot →
          (PathMapper.ofPairs pairs).map path = stripSeparators m.remoteRoot) ∧
        ∀ s rest, Path.isSeparator s = true →
          path.toList = (stripSeparators m.localRoot).toList ++ s :: rest →
          (PathMapper.ofPairs pairs).map path = stripSeparators m.remoteRoot ++ "/"
            ++ String.ofList (rest.map fun c => if c = '\\' then '/' else c)) ∧
      ((∀ m ∈ pairs, ¬ m.Concerns path) → (PathMapper.ofPairs pairs).map path = path)) ∧
    ∀ pairs other : List Mount, pairs.Perm other →
      ((pairs.filter (·.localRoot ≠ "")).map (stripSeparators ·.localRoot)).Nodup →
      (PathMapper.ofPairs pairs).map = (PathMapper.ofPairs other).map := by
  refine ⟨fun pairs path => ⟨?_, ?_⟩, fun pairs other hperm hroots => ?_⟩
  · rintro ⟨n, hn, hconcerns⟩
    rcases mapPath_ordered_cases pairs path with ⟨m, hm, -⟩ | ⟨hnone, -⟩
    · refine ⟨m, hm, fun hroot => ?_, fun s rest hs hpath => ?_⟩
      · exact Option.some.inj (hm.map?_eq.symm.trans (map?_stripped_root hroot))
      · have hbelow : m.stripped.map? path = some _ := map?_below hs hpath
        simpa [Text.replaceChar] using Option.some.inj (hm.map?_eq.symm.trans hbelow)
    · exact absurd hconcerns (hnone n hn)
  · intro hnone
    rcases mapPath_ordered_cases pairs path with ⟨m, hm, -⟩ | ⟨-, hmap⟩
    · exact absurd hm.concerns (hnone m hm.mem)
    · exact hmap
  · funext path
    exact mapPath_ordered_of_perm hperm hroots path

/-- A mount inside another one, given twice, and the root of the file system: `/` loses its
separator and concerns every absolute path. -/
theorem map_ofPairs_longest_root_of_nested :
    let pairs : List Mount := [⟨"/proj", "/app"⟩, ⟨"/proj/vendor/", "/opt"⟩,
      ⟨"", "/none"⟩, ⟨"/proj/vendor", "/late"⟩]
    let path := "/proj/vendor/a\\b.php"
    let apart : List Mount := [⟨"/", "/host"⟩, ⟨"/proj", "/app"⟩]
    (∃ m ∈ pairs, m.Concerns path) ∧
    (∃ m, Decides pairs m path ∧
      (path = stripSeparators m.localRoot →
        (PathMapper.ofPairs pairs).map path = stripSeparators m.remoteRoot) ∧
      ∀ s rest, Path.isSeparator s = true →
        path.toList = (stripSeparators m.localRoot).toList ++ s :: rest →
        (PathMapper.ofPairs pairs).map path = stripSeparators m.remoteRoot ++ "/"
          ++ String.ofList (rest.map fun c => if c = '\\' then '/' else c)) ∧
    (∀ m ∈ pairs, ¬ m.Concerns "/project") ∧
    (PathMapper.ofPairs pairs).map "/project" = "/project" ∧
    apart.Perm apart.reverse ∧
    ((apart.filter (·.localRoot ≠ "")).map (stripSeparators ·.localRoot)).Nodup ∧
    (PathMapper.ofPairs apart).map = (PathMapper.ofPairs apart.reverse).map := by
  intro pairs path apart
  have hconcerns : ∃ m ∈ pairs, m.Concerns path := by decide +kernel
  have hnone : ∀ m ∈ pairs, ¬ m.Concerns "/project" := by decide +kernel
  have hperm : apart.Perm apart.reverse := (List.reverse_perm apart).symm
  have hroots : ((apart.filter (·.localRoot ≠ "")).map (stripSeparators ·.localRoot)).Nodup := by
    decide +kernel
  exact ⟨hconcerns, (map_ofPairs_longest_root.1 pairs path).1 hconcerns, hnone,
    (map_ofPairs_longest_root.1 pairs "/project").2 hnone, hperm, hroots,
    map_ofPairs_longest_root.2 apart apart.reverse hperm hroots⟩

end EditorAnalysis.Mount
