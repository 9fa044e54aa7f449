/-
EditorAnalysis.Proofs.Path.Key — how a file's path, its relative key and its file
name fit together.

`relativeKey?_eq_some` says where a relative key stands in the path: at its end,
right behind a separator. One separator behind the root is dropped and no other
(`below?_append_separator`), so where two follow in a row the key begins with the second
one. The file name only looks at what follows the last separator, so the path and its key
have the same one (`fileName_eq_of_relativeKey?`); it is the longest end without a
separator (`isLastComponent_fileNameChars`).
-/
import EditorAnalysis.Path.Key
import EditorAnalysis.Text.Given
import Mathlib.Data.List.Basic
import Mathlib.Data.List.TakeWhile

namespace EditorAnalysis.Path

/-! ## Separators at the ends -/

theorem endsInSeparator_append_singleton (front : List Char) (c : Char) :
    endsInSeparator (front ++ [c]) = isSeparator c := by
  simp [endsInSeparator]

theorem exists_eq_append_of_endsInSeparator {front : List Char}
    (h : endsInSeparator front = true) : ∃ rest s, front = rest ++ [s] ∧ isSeparator s = true := by
  rcases front.eq_nil_or_concat' with rfl | ⟨rest, s, rfl⟩
  · simp [endsInSeparator] at h
  · exact ⟨rest, s, rfl, by rwa [endsInSeparator_append_singleton] at h⟩

theorem exists_eq_cons_of_startsWithSeparator {cs : List Char}
    (h : startsWithSeparator cs = true) : ∃ s rest, cs = s :: rest ∧ isSeparator s = true := by
  cases cs with
  | nil => simp [startsWithSeparator] at h
  | cons s rest => exact ⟨s, rest, rfl, by simpa [startsWithSeparator] using h⟩

/-! ## Relative keys -/

/-- What is left below the root is a non-empty end of the path. In front of it stands the
root, closed by a separator of its own or by the next one of the path. -/
theorem below?_eq_some {root path key : List Char} (h : below? root path = some key) :
    key ≠ [] ∧ ∃ front, path = front ++ key ∧ endsInSeparator front = true ∧
      (front = root ∨ ∃ s, isSeparator s = true ∧ front = root ++ [s]) := by
  unfold below? at h
  split at h
  · simp at h
  · rename_i hroot
    have hprefix : root <+: path := by
      rw [← List.isPrefixOf_iff_prefix]
      simpa using (by simpa using hroot : root ≠ [] ∧ root.isPrefixOf path = true).2
    obtain ⟨rest, rfl⟩ := hprefix
    simp only [List.drop_left] at h
    split at h
    · simp at h
    · rename_i hclosed
      by_cases hstart : startsWithSeparator rest = true
      · -- the path supplies the separator
        obtain ⟨s, tail, rfl, hs⟩ := exists_eq_cons_of_startsWithSeparator hstart
        obtain ⟨hne, rfl⟩ : tail ≠ [] ∧ tail = key := by simpa [hstart] using h
        refine ⟨hne, root ++ [s], by simp, ?_, .inr ⟨s, hs, rfl⟩⟩
        rw [endsInSeparator_append_singleton, hs]
      · obtain ⟨hne, rfl⟩ : rest ≠ [] ∧ rest = key := by simpa [hstart] using h
        refine ⟨hne, root, rfl, ?_, .inl rfl⟩
        simpa [hne, hstart] using hclosed

/-- A relative key is a non-empty end of the path, right behind a separator. -/
theorem relativeKey?_eq_some {path key : String} {root : Option String}
    (h : relativeKey? path root = some key) :
    key ≠ "" ∧ ∃ front, path.toList = front ++ key.toList ∧ endsInSeparator front = true := by
  obtain ⟨r, -, hr⟩ := Option.bind_eq_some_iff.mp h
  obtain ⟨cs, hcs, rfl⟩ := Option.map_eq_some_iff.mp hr
  obtain ⟨hne, front, hpath, hfront, -⟩ := below?_eq_some hcs
  exact ⟨by simpa using hne, front, by simpa using hpath, hfront⟩

/-! ## The separators behind the root -/

theorem below?_append {root : List Char} (hne : root ≠ []) (rest : List Char) :
    below? root (root ++ rest) =
      if !rest.isEmpty && !endsInSeparator root && !startsWithSeparator rest then none
      else
        let key := if startsWithSeparator rest then rest.drop 1 else rest
        if key.isEmpty then none else some key := by
  have hprefix : root.isPrefixOf (root ++ rest) = true :=
    List.isPrefixOf_iff_prefix.mpr (List.prefix_append root rest)
  rw [below?, if_neg (by simp [hne, hprefix]), List.drop_left]

/-- The first separator behind the root is dropped, and the key is all that follows it. -/
theorem below?_append_separator {root : List Char} (hne : root ≠ []) {s : Char}
    (hs : isSeparator s = true) (rest : List Char) :
    below? root (root ++ s :: rest) = if rest.isEmpty then none else some rest := by
  have hstart : startsWithSeparator (s :: rest) = true := by simpa [startsWithSeparator] using hs
  rw [below?_append hne]
  simp [hstart]

/-- Behind a root that ends in a separator, the key is all the rest if no other separator
follows. -/
theorem below?_append_of_endsInSeparator {root rest : List Char}
    (hroot : endsInSeparator root = true) (hstart : startsWithSeparator rest = false) :
    below? root (root ++ rest) = if rest.isEmpty then none else some rest := by
  have hne : root ≠ [] := by
    rintro rfl
    simp [endsInSeparator] at hroot
  rw [below?_append hne]
  simp [hroot, hstart]

/-- A root and the same root with a separator give the same key exactly when only one
separator follows the root. -/
theorem below?_eq_below?_closed_iff {root : List Char} (hne : root ≠ []) (rest : List Char) :
    below? root (root ++ '/' :: rest) = below? (root ++ ['/']) (root ++ '/' :: rest) ↔
      startsWithSeparator rest = false := by
  have hopen := below?_append_separator hne (s := '/') (by decide) rest
  have hclosed := endsInSeparator_append_singleton root '/'
  rw [hopen, List.append_cons root '/' rest]
  constructor
  · intro heq
    rw [← Bool.not_eq_true]
    intro hstart
    obtain ⟨s, tail, rfl, hs⟩ := exists_eq_cons_of_startsWithSeparator hstart
    -- the closed root drops this separator too, so its key is shorter
    rw [below?_append_separator (by simp) hs tail] at heq
    cases tail <;> simp at heq
  · intro hstart
    rw [below?_append_of_endsInSeparator hclosed hstart]

/-- Behind a root that ends in no separator, the key begins with one exactly when two follow the
root. -/
theorem startsWithSeparator_iff_of_below? {root path key : List Char}
    (hroot : endsInSeparator root = false) (h : below? root path = some key) :
    startsWithSeparator key = true ↔
      ∃ s t rest, isSeparator s = true ∧ isSeparator t = true ∧ path = root ++ s :: t :: rest := by
  obtain ⟨-, front, rfl, hfront, hcases⟩ := below?_eq_some h
  obtain ⟨s, hs, rfl⟩ : ∃ s, isSeparator s = true ∧ front = root ++ [s] := by
    rcases hcases with rfl | hseparator
    · rw [hroot] at hfront
      cases hfront
    · exact hseparator
  constructor
  · intro hstart
    obtain ⟨t, rest, rfl, ht⟩ := exists_eq_cons_of_startsWithSeparator hstart
    exact ⟨s, t, rest, hs, ht, by simp⟩
  · rintro ⟨s', t, rest, -, ht, heq⟩
    obtain ⟨rfl, rfl⟩ : s = s' ∧ key = t :: rest := by simpa using heq
    simpa [startsWithSeparator] using ht

/-- **One separator is dropped behind the root, and no other.** The key of a file below a root
that ends in no separator begins with one exactly when two separators in a row follow the
root. What follows the first one is the key, and the root with a `/` behind it has the same
key exactly when no second one follows. -/
theorem key_keeps_second_separator {path root : String} (hne : root ≠ "")
    (hroot : endsInSeparator root.toList = false) :
    (∀ key, relativeKey? path (some root) = some key →
      (startsWithSeparator key.toList = true ↔
        ∃ s t rest, isSeparator s = true ∧ isSeparator t = true ∧
          path.toList = root.toList ++ s :: t :: rest)) ∧
    ∀ rest, path = root ++ "/" ++ rest →
      relativeKey? path (some root) = Text.given? (some rest) ∧
      (relativeKey? path (some root) = relativeKey? path (some (root ++ "/")) ↔
        startsWithSeparator rest.toList = false) := by
  have hchars : root.toList ≠ [] := by simpa using hne
  refine ⟨fun key hkey => ?_, fun rest hpath => ?_⟩
  · obtain ⟨cs, hcs, rfl⟩ := Option.map_eq_some_iff.mp hkey
    rw [String.toList_ofList]
    exact startsWithSeparator_iff_of_below? hroot hcs
  · have hopen : relativeKey? path (some root)
        = (below? root.toList (root.toList ++ '/' :: rest.toList)).map String.ofList := by
      simp [relativeKey?, hpath]
    have hclosed : relativeKey? path (some (root ++ "/"))
        = (below? (root.toList ++ ['/']) (root.toList ++ '/' :: rest.toList)).map
            String.ofList := by
      simp [relativeKey?, hpath]
    rw [hopen, hclosed]
    constructor
    · rw [below?_append_separator hchars (by decide)]
      by_cases hrest : rest = "" <;> simp [hrest, Text.given?, Option.filter]
    · rw [(Option.map_injective fun _ _ => String.ofList_injective).eq_iff]
      exact below?_eq_below?_closed_iff hchars rest.toList

/-- Two separators of different styles behind the root. -/
theorem key_keeps_second_separator_of_both_styles :
    "/proj" ≠ "" ∧ endsInSeparator "/proj".toList = false ∧
      relativeKey? "/proj/\\src/Foo.php" (some "/proj") = some "\\src/Foo.php" ∧
      startsWithSeparator "\\src/Foo.php".toList = true ∧
      relativeKey? "/proj/\\src/Foo.php" (some "/proj")
        ≠ relativeKey? "/proj/\\src/Foo.php" (some ("/proj" ++ "/")) := by
  have hne : "/proj" ≠ "" := by decide
  have hroot : endsInSeparator "/proj".toList = false := by decide
  have hpath : "/proj/\\src/Foo.php" = "/proj" ++ "/" ++ "\\src/Foo.php" := by decide
  obtain ⟨hstarts, hspellings⟩ :=
    @key_keeps_second_separator "/proj/\\src/Foo.php" "/proj" hne hroot
  obtain ⟨hkey, hsame⟩ := hspellings _ hpath
  have hgiven : relativeKey? "/proj/\\src/Foo.php" (some "/proj") = some "\\src/Foo.php" := by
    rw [hkey]
    decide
  refine ⟨hne, hroot, hgiven, (hstarts _ hgiven).mpr ?_, fun heq => ?_⟩
  · exact ⟨'/', '\\', "src/Foo.php".toList, by decide, by decide, by decide⟩
  · exact absurd (hsame.mp heq) (by decide)

/-- A key may begin with a separator, and the two spellings of a root may give two keys. -/
theorem key_begins_with_separator :
    "/proj" ≠ "" ∧ endsInSeparator "/proj".toList = false ∧
      "/proj//a.php" = "/proj" ++ "/" ++ "/a.php" ∧
      relativeKey? "/proj//a.php" (some "/proj") = some "/a.php" ∧
      startsWithSeparator "/a.php".toList = true ∧
      relativeKey? "/proj//a.php" (some ("/proj" ++ "/")) = some "a.php" := by
  decide

/-! ## File names -/

/-- The file name is the longest end of the path without a separator of either style. -/
theorem fileNameChars_eq (cs : List Char) :
    fileNameChars cs = (cs.reverse.takeWhile fun c => !isSeparator c).reverse := by
  have hboth : (fun c : Char => !isSeparator c)
      = fun c : Char => decide ((c != '\\') = true ∧ (c != '/') = true) := by
    funext c
    by_cases hslash : c = '/' <;> by_cases hback : c = '\\' <;> simp [isSeparator, hslash, hback]
  rw [fileNameChars, Text.afterLast, Text.afterLast, List.reverse_reverse,
      List.takeWhile_takeWhile, hboth]

theorem fileNameChars_suffix (cs : List Char) : fileNameChars cs <:+ cs := by
  rw [fileNameChars_eq, ← List.reverse_prefix, List.reverse_reverse]
  exact List.takeWhile_prefix _

/-- The longest end of a path that holds no separator. -/
def IsLastComponent (name path : List Char) : Prop :=
  name <:+ path ∧ (∀ c ∈ name, isSeparator c = false) ∧
    ∀ other, other <:+ path → (∀ c ∈ other, isSeparator c = false) → other <:+ name

theorem isSeparator_of_mem_fileNameChars {c : Char} {cs : List Char}
    (h : c ∈ fileNameChars cs) : isSeparator c = false := by
  rw [fileNameChars_eq, List.mem_reverse] at h
  simpa using List.mem_takeWhile_imp h

theorem suffix_fileNameChars {name cs : List Char} (hend : name <:+ cs)
    (hname : ∀ c ∈ name, isSeparator c = false) : name <:+ fileNameChars cs := by
  obtain ⟨front, rfl⟩ := hend
  have hreverse : ∀ c ∈ name.reverse, (!isSeparator c) = true := by
    intro c hc
    rw [hname c (List.mem_reverse.mp hc)]
    rfl
  rw [fileNameChars_eq, List.reverse_append, List.takeWhile_append_of_pos hreverse,
      List.reverse_append, List.reverse_reverse]
  exact List.suffix_append _ _

theorem isLastComponent_fileNameChars (cs : List Char) :
    IsLastComponent (fileNameChars cs) cs :=
  ⟨fileNameChars_suffix cs, fun _ => isSeparator_of_mem_fileNameChars,
    fun _ => suffix_fileNameChars⟩

/-- Nothing up to a separator matters to the file name. -/
theorem fileNameChars_append {front : List Char} (h : endsInSeparator front = true)
    (key : List Char) : fileNameChars (front ++ key) = fileNameChars key := by
  obtain ⟨rest, s, rfl, hs⟩ := exists_eq_append_of_endsInSeparator h
  rw [fileNameChars_eq, fileNameChars_eq, List.reverse_append, List.takeWhile_append]
  split
  · rename_i hlength
    have hall := (List.takeWhile_prefix _).eq_of_length hlength
    simp [hs, hall]
  · rfl

theorem fileName_eq_of_relativeKey? {path key : String} {root : Option String}
    (h : relativeKey? path root = some key) : fileName path = fileName key := by
  obtain ⟨-, front, hpath, hfront⟩ := relativeKey?_eq_some h
  rw [fileName, fileName, hpath, fileNameChars_append hfront]

theorem fileName_suffix (path : String) : (fileName path).toList <:+ path.toList := by
  simpa [fileName] using fileNameChars_suffix path.toList

end EditorAnalysis.Path
