/-
EditorAnalysis.Proofs.Registry.TwoKeys — the two keys under which a file is recorded.

A file below a root is recorded under its relative key and under its bare name. Both are
ends of its path behind a separator, and the name is the last component of the path and of
the key alike, so a copy that mirrors either of them belongs to a key of the file. Where
nothing else is recorded, every key leads to that file, and any copy that belongs to one of
them is resolved to it (`resolve_register_empty`).
-/
import EditorAnalysis.Proofs.Registry.Contents
import EditorAnalysis.Proofs.Registry.Resolution

namespace EditorAnalysis.Registry

/-- A file that is registered alone is recorded under each of its keys. -/
theorem mem_entries_register_empty {g : Registration} {key : String} (h : key ∈ g.keys) :
    (key, g.path) ∈ (empty.register g).entries := by
  have hkeys : (empty.register g).entries.map (·.1) = g.keys.eraseDups := by
    rw [entries_register, ← map_fst_writes g]
    exact Assoc.map_fst_ofList g.writes
  have hmem : key ∈ (empty.register g).entries.map (·.1) := by
    rw [hkeys]
    exact List.mem_eraseDups.mpr h
  obtain ⟨⟨_, file⟩, he, rfl⟩ := List.mem_map.mp hmem
  rcases mem_register he with hold | ⟨-, hfile⟩
  · cases hold
  · obtain rfl : file = g.path := hfile
    exact he

/-- Where nothing else is recorded, a copy that belongs to a key of a file is resolved to the
file. -/
theorem resolve_register_empty {g : Registration} {key copy : String} (hkey : key ∈ g.keys)
    (hstands : StandsIn key copy) : (empty.register g).resolve (some copy) = some g.path := by
  rw [resolve_some]
  cases hfirst : (empty.register g).firstFor? copy with
  | none =>
    have hnone := List.find?_eq_none.mp hfirst _ (mem_entries_register_empty hkey)
    exact absurd (belongs_iff.mpr hstands) hnone
  | some e =>
    -- whichever key comes first, it was written with this file
    rcases mem_register (List.mem_of_find?_eq_some hfirst) with hold | ⟨-, hfile⟩
    · cases hold
    · exact congrArg some hfile

theorem standsIn_append (front key : String) : StandsIn key (front ++ key) := by
  refine standsIn_of_suffix ?_
  rw [String.toList_append]
  exact List.suffix_append _ _

/-- **The two keys of a file agree.** A relative key is the rest of the path behind the root
and one separator, which ends the root or follows it. The bare name is the last component
of both the path and the key. Where the file is registered alone, every copy whose path ends
in the relative key or in the bare name is resolved to it, and so is one that has a separator
in front of either. -/
theorem two_keys_agree {path root key : String}
    (h : Path.relativeKey? path (some root) = some key) :
    (path = root ++ key ∧ Path.endsInSeparator root.toList = true ∨
      ∃ s, path = root ++ String.ofList [s] ++ key ∧ Path.isSeparator s = true) ∧
    (Path.fileName path = Path.fileName key ∧
      Path.IsLastComponent (Path.fileName path).toList path.toList ∧
      Path.IsLastComponent (Path.fileName path).toList key.toList) ∧
    let alone := empty.register { path, root := some root }
    ∀ front : String, alone.resolve (some (front ++ key)) = some path ∧
      (Path.fileName path ≠ "" →
        alone.resolve (some (front ++ Path.fileName path)) = some path) := by
  have hname := Path.fileName_eq_of_relativeKey? h
  have hlast (text : String) : Path.IsLastComponent (Path.fileName text).toList text.toList := by
    simpa [Path.fileName] using Path.isLastComponent_fileNameChars text.toList
  have hkeys := @mem_keys_iff_of_relativeKey? path key (some root) h
  refine ⟨?_, ⟨hname, hlast path, hname ▸ hlast key⟩, fun front => ⟨?_, fun hne => ?_⟩⟩
  · obtain ⟨cs, hcs, rfl⟩ := Option.map_eq_some_iff.mp h
    obtain ⟨-, front, hpath, hfront, rfl | ⟨s, hs, rfl⟩⟩ := Path.below?_eq_some hcs
    · exact .inl ⟨String.toList_inj.mp (by simpa using hpath), hfront⟩
    · exact .inr ⟨s, String.toList_inj.mp (by simpa using hpath), hs⟩
  · exact resolve_register_empty (hkeys.mpr (.inl rfl)) (standsIn_append front key)
  · exact resolve_register_empty (hkeys.mpr (.inr ⟨rfl, hne⟩)) (standsIn_append front _)

/-- The root and what follows it each have a separator, and the key holds one of the other
style. -/
theorem two_keys_agree_behind_closed_root :
    Path.relativeKey? "/proj//src\\Foo.php" (some "/proj/") = some "src\\Foo.php" ∧
      Path.IsLastComponent "Foo.php".toList "/proj//src\\Foo.php".toList ∧
      let alone := empty.register { path := "/proj//src\\Foo.php", root := some "/proj/" }
      alone.resolve (some ("C:\\tmp\\" ++ "src\\Foo.php")) = some "/proj//src\\Foo.php" ∧
        alone.resolve (some ("/tmp/" ++ "Foo.php")) = some "/proj//src\\Foo.php" := by
  have hkey : Path.relativeKey? "/proj//src\\Foo.php" (some "/proj/") = some "src\\Foo.php" := by
    decide
  have hname : Path.fileName "/proj//src\\Foo.php" = "Foo.php" := by decide
  obtain ⟨-, ⟨-, hlast, -⟩, hresolve⟩ := two_keys_agree hkey
  rw [hname] at hlast hresolve
  exact ⟨hkey, hlast, (hresolve "C:\\tmp\\").1, (hresolve "/tmp/").2 (by decide)⟩

end EditorAnalysis.Registry
