/-
EditorAnalysis.Proofs.Assoc — what putting a value does to the entries.

The entries are searched from the front by a test on keys. `find?_put` says how the
first hit changes when a key that passes the test is put, and `find?_foldl_put` how
it changes when several keys get the same value: an older hit keeps its place, and
only its value may be replaced.

`ofList` builds entries from pairs in which keys may come again. Its keys are those of
the pairs in the order of their first pair, each once (`map_fst_ofList`), and each has
the value of its last pair (`mem_ofList_iff`). Keys that a test leaves out do not
matter to the others (`filter_ofList`).

Where every key stands once, a search finds the one entry of its key (`get?_eq_some_iff`),
so that the order of the entries does not matter (`get?_eq_of_perm`).
-/
import EditorAnalysis.Assoc
import Mathlib.Data.List.Basic
import Mathlib.Data.List.Induction
import Mathlib.Data.List.Nodup

namespace EditorAnalysis.Assoc

variable {κ α : Type} [DecidableEq κ]

theorem mem_put {key : κ} {value : α} {e : κ × α} : ∀ {entries : List (κ × α)},
    e ∈ put key value entries → e ∈ entries ∨ e = (key, value)
  | [], h => .inr (by simpa [put] using h)
  | (k, v) :: rest, h => by
      rw [put] at h
      split at h
      · rename_i hk
        rcases List.mem_cons.mp h with rfl | h
        · exact .inr (by rw [hk])
        · exact .inl (List.mem_cons_of_mem _ h)
      · rcases List.mem_cons.mp h with rfl | h
        · exact .inl List.mem_cons_self
        · exact (mem_put h).imp_left (List.mem_cons_of_mem _)

theorem mem_foldl_put {value : α} {e : κ × α} {keys : List κ} {entries : List (κ × α)}
    (h : e ∈ keys.foldl (fun acc key => put key value acc) entries) :
    e ∈ entries ∨ (e.1 ∈ keys ∧ e.2 = value) := by
  induction keys generalizing entries with
  | nil => exact .inl h
  | cons key keys ih =>
    rcases ih h with h | ⟨hk, hv⟩
    · rcases mem_put h with h | rfl
      · exact .inl h
      · exact .inr ⟨List.mem_cons_self, rfl⟩
    · exact .inr ⟨List.mem_cons_of_mem key hk, hv⟩

/-- The first hit after a key that passes the test was put: the entry of that key, unless
another key was hit before. -/
theorem find?_put (test : κ → Bool) {key : κ} (hkey : test key = true) (value : α) :
    ∀ entries : List (κ × α), (put key value entries).find? (fun e => test e.1)
      = match entries.find? fun e => test e.1 with
        | none => some (key, value)
        | some e => some (if e.1 = key then (key, value) else e)
  | [] => by simp [put, hkey]
  | (k, v) :: rest => by
      rw [put]
      by_cases hk : k = key
      · subst hk
        simp [hkey]
      · by_cases hv : test k = true
        · simp [hk, hv]
        · simp [hk, hv, find?_put test hkey value rest]

/-- The value of the first hit after several keys that pass the test got the same value. -/
theorem find?_foldl_put (test : κ → Bool) (value : α) {keys : List κ}
    (hkeys : ∀ key ∈ keys, test key = true) (entries : List (κ × α)) :
    ((keys.foldl (fun acc key => put key value acc) entries).find? fun e => test e.1).map (·.2)
      = match entries.find? fun e => test e.1 with
        | none => keys.head?.map fun _ => value
        | some e => some (if e.1 ∈ keys then value else e.2) := by
  induction keys generalizing entries with
  | nil =>
    rw [List.foldl_nil]
    cases entries.find? (fun e => test e.1) <;> simp
  | cons key keys ih =>
    rw [List.foldl_cons, ih fun k hk => hkeys k (List.mem_cons_of_mem key hk),
        find?_put test (hkeys key List.mem_cons_self)]
    cases hfirst : entries.find? (fun e => test e.1) with
    | none => simp
    | some e =>
      by_cases he : e.1 = key
      · simp [he]
      · simp [he]

/-! ## Values -/

theorem get?_put_self (key : κ) (value : α) : ∀ entries : List (κ × α),
    get? key (put key value entries) = some value
  | [] => by simp [put, get?]
  | (k, v) :: rest => by
      rw [put]
      by_cases hk : k = key
      · simp [hk, get?]
      · rw [if_neg hk, get?, if_neg hk, get?_put_self key value rest]

theorem get?_put_of_ne {key other : κ} (h : other ≠ key) (value : α) :
    ∀ entries : List (κ × α), get? other (put key value entries) = get? other entries
  | [] => by simp [put, get?, h.symm]
  | (k, v) :: rest => by
      rw [put]
      by_cases hk : k = key
      · rw [if_pos hk, get?, get?, if_neg (hk ▸ h.symm), if_neg (hk ▸ h.symm)]
      · rw [if_neg hk, get?, get?, get?_put_of_ne h value rest]

/-- Of two values put under the same key the later one stays, in the key's place. -/
theorem put_put (key : κ) (earlier later : α) : ∀ entries : List (κ × α),
    put key later (put key earlier entries) = put key later entries
  | [] => by simp [put]
  | (k, v) :: rest => by
      by_cases hk : k = key
      · simp [put, hk]
      · simp [put, hk, put_put key earlier later rest]

theorem erase_put (key : κ) (value : α) : ∀ entries : List (κ × α),
    erase key (put key value entries) = erase key entries
  | [] => by simp [put, erase]
  | (k, v) :: rest => by
      by_cases hk : k = key
      · simp [put, erase, hk]
      · simpa [put, erase, hk] using erase_put key value rest

theorem erase_erase (key : κ) (entries : List (κ × α)) :
    erase key (erase key entries) = erase key entries := by
  simp [erase]

theorem get?_erase_self (key : κ) (entries : List (κ × α)) :
    get? key (erase key entries) = none := by
  induction entries with
  | nil => rfl
  | cons e rest ih =>
    by_cases hk : e.1 = key
    · simpa [erase, hk] using ih
    · simpa [erase, get?, hk] using ih

/-- Values that are changed where they stand, each as its key wants. -/
theorem get?_map {β : Type} (f : κ → α → β) (key : κ) (entries : List (κ × α)) :
    get? key (entries.map fun e => (e.1, f e.1 e.2)) = (get? key entries).map (f key) := by
  induction entries with
  | nil => rfl
  | cons e rest ih =>
    rw [List.map_cons, get?, get?, ih]
    by_cases hk : e.1 = key
    · rw [if_pos hk, if_pos hk, hk, Option.map_some]
    · rw [if_neg hk, if_neg hk]

theorem get?_map_snd {β : Type} (f : α → β) (key : κ) (entries : List (κ × α)) :
    get? key (entries.map fun (k, v) => (k, f v)) = (get? key entries).map f :=
  get?_map (fun _ => f) key entries

/-! ## Keys -/

theorem map_fst_put (key : κ) (value : α) : ∀ entries : List (κ × α),
    (put key value entries).map (·.1)
      = if key ∈ entries.map (·.1) then entries.map (·.1) else entries.map (·.1) ++ [key]
  | [] => rfl
  | (k, v) :: rest => by
      rw [put]
      by_cases hk : k = key
      · simp [hk]
      · rw [if_neg hk, List.map_cons, map_fst_put key value rest, List.map_cons]
        by_cases hmem : key ∈ rest.map (·.1)
        · rw [if_pos hmem, if_pos (List.mem_cons_of_mem k hmem)]
        · rw [if_neg hmem, if_neg (by simpa [Ne.symm hk] using hmem), List.cons_append]

theorem nodup_put {key : κ} {value : α} {entries : List (κ × α)}
    (h : (entries.map (·.1)).Nodup) : ((put key value entries).map (·.1)).Nodup := by
  rw [map_fst_put]
  split
  · exact h
  · rename_i hmem
    refine List.nodup_append.mpr ⟨h, by simp, fun k hk k' hk' => ?_⟩
    rw [List.mem_singleton.mp hk']
    exact fun heq => hmem (heq ▸ hk)

/-- Where every key stands once, putting a value touches the key's entry only. -/
theorem mem_put_iff {key : κ} {value : α} {e : κ × α} : ∀ {entries : List (κ × α)},
    (entries.map (·.1)).Nodup →
      (e ∈ put key value entries ↔ e = (key, value) ∨ (e ∈ entries ∧ e.1 ≠ key))
  | [], _ => by simp [put]
  | (k, v) :: rest, h => by
      obtain ⟨hk, hrest⟩ := List.nodup_cons.mp (List.map_cons ▸ h)
      rw [put]
      by_cases heq : k = key
      · subst heq
        -- the key stands at the head, so it does not stand in the rest
        have hne : e ∈ rest → e.1 ≠ k := fun he heq => hk (List.mem_map.mpr ⟨e, he, heq⟩)
        rw [if_pos rfl, List.mem_cons, List.mem_cons]
        constructor
        · exact fun he => he.imp_right fun he => ⟨.inr he, hne he⟩
        · rintro (he | ⟨rfl | he, hother⟩)
          · exact .inl he
          · exact absurd rfl hother
          · exact .inr he
      · rw [if_neg heq, List.mem_cons, mem_put_iff hrest, List.mem_cons]
        constructor
        · rintro (rfl | he | ⟨he, hother⟩)
          · exact .inr ⟨.inl rfl, heq⟩
          · exact .inl he
          · exact .inr ⟨.inr he, hother⟩
        · rintro (he | ⟨rfl | he, hother⟩)
          · exact .inr (.inl he)
          · exact .inl rfl
          · exact .inr (.inr ⟨he, hother⟩)

theorem put_of_not_mem {key : κ} (value : α) : ∀ {entries : List (κ × α)},
    key ∉ entries.map (·.1) → put key value entries = entries ++ [(key, value)]
  | [], _ => rfl
  | (k, v) :: rest, h => by
      rw [List.map_cons, List.mem_cons, not_or] at h
      rw [put, if_neg (Ne.symm h.1), put_of_not_mem value h.2, List.cons_append]

theorem get?_eq_none_iff {key : κ} : ∀ {entries : List (κ × α)},
    get? key entries = none ↔ key ∉ entries.map (·.1)
  | [] => by simp [get?]
  | (k, v) :: rest => by
      rw [get?, List.map_cons, List.mem_cons, not_or]
      by_cases heq : k = key
      · simp [heq]
      · rw [if_neg heq, get?_eq_none_iff]
        simp [Ne.symm heq]

theorem mem_of_get? {key : κ} {value : α} : ∀ {entries : List (κ × α)},
    get? key entries = some value → (key, value) ∈ entries
  | [], h => by cases h
  | (k, v) :: rest, h => by
      rw [get?] at h
      split at h
      · rename_i hk
        obtain rfl := Option.some.inj h
        rw [hk]
        exact List.mem_cons_self
      · exact List.mem_cons_of_mem _ (mem_of_get? h)

/-- Where every key stands once, its value is the one in its entry. -/
theorem get?_eq_some_iff {key : κ} {value : α} : ∀ {entries : List (κ × α)},
    (entries.map (·.1)).Nodup → (get? key entries = some value ↔ (key, value) ∈ entries)
  | [], _ => by simp [get?]
  | (k, v) :: rest, h => by
      obtain ⟨hk, hrest⟩ := List.nodup_cons.mp (List.map_cons ▸ h)
      rw [get?, List.mem_cons]
      by_cases heq : k = key
      · subst heq
        have hnot : (k, value) ∉ rest := fun hmem => hk (List.mem_map.mpr ⟨_, hmem, rfl⟩)
        simp [hnot, eq_comm]
      · rw [if_neg heq, get?_eq_some_iff hrest]
        simp [Ne.symm heq]

/-- Where every key stands once, the order of the entries does not matter. -/
theorem get?_eq_of_perm {key : κ} {entries others : List (κ × α)} (hperm : others.Perm entries)
    (h : (entries.map (·.1)).Nodup) : get? key others = get? key entries := by
  have hothers : (others.map (·.1)).Nodup := (hperm.map _).nodup_iff.mpr h
  refine Option.ext fun value => ?_
  rw [get?_eq_some_iff hothers, get?_eq_some_iff h, hperm.mem_iff]

/-- Entries in which every key stands once are the same, but for their order, if every search
comes to the same. -/
theorem perm_of_get?_eq {entries others : List (κ × α)} (h : (entries.map (·.1)).Nodup)
    (hothers : (others.map (·.1)).Nodup) (hget : ∀ key, get? key others = get? key entries) :
    others.Perm entries :=
  (List.perm_ext_iff_of_nodup (List.Nodup.of_map _ hothers) (List.Nodup.of_map _ h)).mpr fun e => by
    rw [← get?_eq_some_iff hothers, hget, get?_eq_some_iff h]

/-- Where every key stands once, the values that are left are those that pass the test. -/
theorem get?_filter_snd (test : α → Bool) {key : κ} {entries : List (κ × α)}
    (h : (entries.map (·.1)).Nodup) :
    get? key (entries.filter fun e => test e.2) = (get? key entries).filter test := by
  have hsublist : ((entries.filter fun e => test e.2).map (·.1)).Sublist (entries.map (·.1)) :=
    List.filter_sublist.map _
  refine Option.ext fun value => ?_
  rw [get?_eq_some_iff (hsublist.nodup h), List.mem_filter, Option.filter_eq_some_iff,
      get?_eq_some_iff h]

/-! ## Entries from pairs -/

@[simp] theorem ofList_nil : ofList ([] : List (κ × α)) = [] := rfl

theorem overlay_append_singleton (entries upper : List (κ × α)) (e : κ × α) :
    overlay entries (upper ++ [e]) = put e.1 e.2 (overlay entries upper) := by
  simp [overlay]

@[simp] theorem ofList_append_singleton (pairs : List (κ × α)) (e : κ × α) :
    ofList (pairs ++ [e]) = put e.1 e.2 (ofList pairs) :=
  overlay_append_singleton [] pairs e

theorem eraseDups_append_singleton (keys : List κ) (key : κ) :
    (keys ++ [key]).eraseDups
      = if key ∈ keys then keys.eraseDups else keys.eraseDups ++ [key] := by
  rw [List.eraseDups_append]
  by_cases h : key ∈ keys <;> simp [h, List.removeAll, List.eraseDups_cons]

/-- Every key once, in the order of their first pairs. -/
theorem map_fst_ofList (pairs : List (κ × α)) :
    (ofList pairs).map (·.1) = (pairs.map (·.1)).eraseDups := by
  induction pairs using List.reverseRecOn with
  | nil => simp
  | append_singleton pairs e ih =>
    rw [ofList_append_singleton, map_fst_put, ih, List.map_append, List.map_singleton,
        eraseDups_append_singleton]
    simp only [List.mem_eraseDups]

theorem ofList_eq_nil_iff {pairs : List (κ × α)} : ofList pairs = [] ↔ pairs = [] := by
  constructor
  · intro h
    cases pairs with
    | nil => rfl
    | cons e rest =>
      have hkeys := map_fst_ofList (e :: rest)
      simp [h, List.eraseDups_cons] at hkeys
  · rintro rfl
    rfl

theorem nodup_overlay {entries : List (κ × α)} (h : (entries.map (·.1)).Nodup)
    (upper : List (κ × α)) : ((overlay entries upper).map (·.1)).Nodup := by
  induction upper using List.reverseRecOn with
  | nil => exact h
  | append_singleton upper e ih => rw [overlay_append_singleton]; exact nodup_put ih

theorem nodup_ofList (pairs : List (κ × α)) : ((ofList pairs).map (·.1)).Nodup := by
  have hempty : (([] : List (κ × α)).map (·.1)).Nodup := List.nodup_nil
  exact nodup_overlay hempty pairs

/-- Pairs with different keys are entries as they stand. -/
theorem ofList_of_nodup {pairs : List (κ × α)} (h : (pairs.map (·.1)).Nodup) :
    ofList pairs = pairs := by
  induction pairs using List.reverseRecOn with
  | nil => rfl
  | append_singleton pairs e ih =>
    rw [List.map_append, List.map_singleton] at h
    obtain ⟨hpairs, -, hlast⟩ := List.nodup_append.mp h
    have hnew : e.1 ∉ pairs.map (·.1) := fun hmem => hlast _ hmem _ (by simp) rfl
    rw [ofList_append_singleton, ih hpairs, put_of_not_mem e.2 hnew]

/-- An upper entry hides what is below, and a later one what was before it. -/
theorem get?_overlay (key : κ) (entries upper : List (κ × α)) :
    get? key (overlay entries upper) = (get? key upper.reverse).or (get? key entries) := by
  induction upper using List.reverseRecOn with
  | nil => rfl
  | append_singleton upper e ih =>
    rw [overlay_append_singleton, List.reverse_append, List.reverse_singleton,
        List.singleton_append, get?]
    by_cases hk : e.1 = key
    · rw [if_pos hk, ← hk, get?_put_self, Option.some_or]
    · rw [if_neg hk, get?_put_of_ne (Ne.symm hk), ih]

theorem get?_ofList (key : κ) (pairs : List (κ × α)) :
    get? key (ofList pairs) = get? key pairs.reverse := by
  rw [ofList, get?_overlay, get?, Option.or_none]

theorem get?_reverse {key : κ} {entries : List (κ × α)} (h : (entries.map (·.1)).Nodup) :
    get? key entries.reverse = get? key entries :=
  get?_eq_of_perm (List.reverse_perm entries) h

/-- An item of a list with one more at its end: the one at the end, or an earlier item. -/
theorem append_singleton_eq_append_cons_iff {xs older newer : List α} {last x : α} :
    xs ++ [last] = older ++ x :: newer ↔
      (xs = older ∧ last = x ∧ newer = []) ∨
        ∃ front, newer = front ++ [last] ∧ xs = older ++ x :: front := by
  constructor
  · intro h
    rcases newer.eq_nil_or_concat' with rfl | ⟨front, e, rfl⟩
    · obtain ⟨hfront, hlast⟩ := List.append_inj' h rfl
      exact .inl ⟨hfront, (List.cons.inj hlast).1, rfl⟩
    · rw [← List.cons_append, ← List.append_assoc] at h
      obtain ⟨hfront, hlast⟩ := List.append_inj' h rfl
      exact .inr ⟨front, by rw [hlast], hfront⟩
  · rintro (⟨rfl, rfl, rfl⟩ | ⟨front, rfl, rfl⟩)
    · rfl
    · simp

/-- Every key has the value of its last pair. -/
theorem mem_ofList_iff {pairs : List (κ × α)} {key : κ} {value : α} :
    (key, value) ∈ ofList pairs ↔
      ∃ older newer, pairs = older ++ (key, value) :: newer ∧ ∀ e ∈ newer, e.1 ≠ key := by
  induction pairs using List.reverseRecOn with
  | nil => simp
  | append_singleton pairs last ih =>
    rw [ofList_append_singleton, mem_put_iff (nodup_ofList pairs), ih]
    constructor
    · rintro (heq | ⟨⟨older, newer, rfl, hnewer⟩, hne⟩)
      · exact ⟨pairs, [], by rw [heq], by simp⟩
      · refine ⟨older, newer ++ [last], by simp, fun e he => ?_⟩
        rcases List.mem_append.mp he with he | he
        · exact hnewer e he
        · exact List.mem_singleton.mp he ▸ Ne.symm hne
    · rintro ⟨older, newer, hpairs, hnewer⟩
      rcases append_singleton_eq_append_cons_iff.mp hpairs with
        ⟨-, rfl, -⟩ | ⟨front, rfl, hfront⟩
      · exact .inl rfl
      · exact .inr ⟨⟨older, front, hfront, fun e he => hnewer e (List.mem_append_left _ he)⟩,
          Ne.symm (hnewer last (by simp))⟩

/-! ## The entries that pass a test -/

theorem filter_put (test : κ → Bool) (key : κ) (value : α) : ∀ entries : List (κ × α),
    (put key value entries).filter (fun e => test e.1)
      = if test key then put key value (entries.filter fun e => test e.1)
        else entries.filter fun e => test e.1
  | [] => by cases h : test key <;> simp [put, h]
  | (k, v) :: rest => by
      rw [put]
      by_cases hk : k = key
      · subst hk
        cases h : test k <;> simp [put, h]
      · rw [if_neg hk, List.filter_cons, filter_put test key value rest, List.filter_cons]
        cases h : test key <;> cases h' : test k <;> simp [put, hk]

theorem filter_overlay (test : κ → Bool) (entries upper : List (κ × α)) :
    (overlay entries upper).filter (fun e => test e.1)
      = overlay (entries.filter fun e => test e.1) (upper.filter fun e => test e.1) := by
  induction upper using List.reverseRecOn with
  | nil => rfl
  | append_singleton upper e ih =>
    rw [overlay_append_singleton, filter_put, ih, List.filter_append]
    cases h : test e.1 <;> simp [h, overlay_append_singleton]

/-- Leaving keys out before the entries are built, or after, is the same. -/
theorem filter_ofList (test : κ → Bool) (pairs : List (κ × α)) :
    (ofList pairs).filter (fun e => test e.1) = ofList (pairs.filter fun e => test e.1) :=
  filter_overlay test [] pairs

/-- A test may look at values too, if the pairs of one key pass it together. -/
theorem filter_ofList_of_uniform {test : κ × α → Bool} {pairs : List (κ × α)}
    (h : ∀ e ∈ pairs, ∀ e' ∈ pairs, e.1 = e'.1 → test e = test e') :
    (ofList pairs).filter test = ofList (pairs.filter test) := by
  let passes : κ → Bool := fun key => pairs.any fun e => e.1 == key && test e
  have hpasses : ∀ e ∈ pairs, test e = passes e.1 := by
    intro e he
    rw [Bool.eq_iff_iff, List.any_eq_true]
    constructor
    · exact fun htest => ⟨e, he, by simp [htest]⟩
    · rintro ⟨e', he', htest⟩
      rw [Bool.and_eq_true, beq_iff_eq] at htest
      rw [h e he e' he' htest.1.symm]
      exact htest.2
  have hentries : ∀ e ∈ ofList pairs, test e = passes e.1 := by
    intro e he
    obtain ⟨older, newer, hpairs, -⟩ := mem_ofList_iff.mp he
    exact hpasses e (hpairs ▸ List.mem_append_right _ List.mem_cons_self)
  rw [List.filter_congr hentries, filter_ofList passes, List.filter_congr hpasses]

end EditorAnalysis.Assoc
