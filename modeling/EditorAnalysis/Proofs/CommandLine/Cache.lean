/-
EditorAnalysis.Proofs.CommandLine.Cache — what a version in the cache does to later runs.

Keeping a version makes the directory of the cache and writes its file (`exists_keep`). The
next run loads the same settings with that version (`load_of_kept`), unless the project's
configuration reads otherwise than before. The two must be `Apart`: a root below a directory
that is yet to be made may be refused once it is there, and a cache whose file is a
configuration file under another name spoils it.
-/
import EditorAnalysis.CommandLine.Footprint
import EditorAnalysis.Proofs.Command.KnownVersion
import EditorAnalysis.Proofs.Project.Configuration
import EditorAnalysis.Proofs.Project.VersionCache

namespace EditorAnalysis.CommandLine

open Host Project

/-! ## Caches -/

/-- Versions can be kept in the directory: it is there or can be made, and its file is missing
or holds a text, which may be any document or none. -/
def UsableCache (s : Surroundings) (directory : String) : Prop :=
  ∃ made place document,
    VersionCache.prepare s.toFiles (Path.Pure.ofString directory) = .ok made ∧
    VersionCache.HoldsAt made (Path.Pure.ofString directory) place document

/-- A text does not depend on the cache: it is the same when the directory is made, and its
path does not lead to the cache's file. -/
def ApartFrom (s : Surroundings) (directory path : String) : Prop :=
  ∀ made, VersionCache.prepare s.toFiles (Path.Pure.ofString directory) = .ok made →
    readText? made path = readText? s.toFiles path ∧
    made.locate path ≠ made.locate (VersionCache.path (Path.Pure.ofString directory))

/-- The configuration of the project at a root does not depend on the cache. -/
def Apart (s : Surroundings) (root directory : String) : Prop :=
  ∀ path ∈ Request.configurationFiles (s.resolve (Path.Pure.ofString root)),
    ApartFrom s directory path

/-- A version that is kept is loaded, and no text changes that is apart from the cache. -/
theorem exists_keep {s : Surroundings} {directory v : String} (hcache : UsableCache s directory)
    (hv : v ≠ "") :
    ∃ saved : Files, keep s directory v = .ok { s with toFiles := saved } ∧
      saved.directory = s.directory ∧
      VersionCache.load saved (Path.Pure.ofString directory) = .ok (some v) ∧
      ∀ path, ApartFrom s directory path → readText? saved path = readText? s.toFiles path := by
  obtain ⟨made, place, document, hmade, hholds⟩ := hcache
  have hready := VersionCache.prepare_of_prepare hmade
  have hput := VersionCache.save_eq_kept hready hholds (some v)
  obtain ⟨saved, hsave, hsaved, hfound⟩ := VersionCache.save_of_holdsAt hready hholds (some v)
  have hfiles := Except.ok.inj (hsave.symm.trans hput)
  refine ⟨saved, ?_, ?_, ?_, fun path hapart => ?_⟩
  · rw [keep, VersionCache.save_eq_of_prepare hmade, hsave]
    rfl
  · rw [hfiles, VersionCache.kept, Files.directory_put]
    exact Files.directory_of_makeDirectories (VersionCache.prepare_eq_ok_iff.mp hmade).2
  · rw [VersionCache.load_of_holdsAt (VersionCache.prepare_eq_ok_iff.mp hsaved).1 hfound,
        VersionCache.versionIn_update, Text.given?_eq_some_iff.mpr ⟨rfl, hv⟩]
  · obtain ⟨hsame, hne⟩ := hapart made hmade
    rw [hholds.1] at hne
    rw [hfiles, VersionCache.kept, readText?_put hholds.isEnd hne, hsame]

/-! ## Loading settings -/

theorem fromCache_of_known {s : Surroundings} {cache : Option String} {settings : Settings}
    {v : String} (h : settings.detectedVersion = some v) :
    fromCache s cache settings = .ok settings := by
  unfold fromCache
  simp only [h]

theorem fromCache_of_unknown {s : Surroundings} {directory : String} {settings : Settings}
    (h : settings.detectedVersion = none) :
    fromCache s (some directory) settings
      = (VersionCache.load s.toFiles (Path.Pure.ofString directory)).map
        settings.rememberVersion := by
  unfold fromCache
  simp only [h]

/-- Settings whose version stays unknown are those of the project as they are. -/
theorem eq_of_fromCache_of_unknown {s : Surroundings} {directory : String}
    {base settings : Settings} (h : fromCache s (some directory) base = .ok settings)
    (hunknown : settings.detectedVersion = none) : settings = base := by
  cases hbase : base.detectedVersion with
  | some v =>
    rw [fromCache_of_known hbase] at h
    exact (Except.ok.inj h).symm
  | none =>
    rw [fromCache_of_unknown hbase] at h
    obtain ⟨cached, -, rfl⟩ := Outcome.map_eq_ok_iff.mp h
    have hfilter : cached.filter (fun v => !Text.isBlankText v) = none := hunknown
    rw [Settings.rememberVersion, hfilter, ← hbase]

/-- Where the version was unknown and has been kept since, the same settings are loaded, with
the version. -/
theorem load_of_kept {s : Surroundings} {saved : Files} {root directory v : String}
    {overrides : Configuration.Source} {settings : Settings}
    (hload : load s root (some directory) overrides = .ok settings)
    (hunknown : settings.detectedVersion = none) (hv : Text.isBlankText v = false)
    (hdirectory : saved.directory = s.directory)
    (hkept : VersionCache.load saved (Path.Pure.ofString directory) = .ok (some v))
    (hsame : ∀ path ∈ Request.configurationFiles (s.resolve (Path.Pure.ofString root)),
      readText? saved path = readText? s.toFiles path) :
    load { s with toFiles := saved } root (some directory) overrides
      = .ok { settings with detectedVersion := some v } := by
  obtain ⟨base, hbase, hcache⟩ := Outcome.bind_eq_ok_iff.mp hload
  obtain rfl := eq_of_fromCache_of_unknown hcache hunknown
  have hroot : saved.resolve (Path.Pure.ofString root)
      = s.resolve (Path.Pure.ofString root) := by
    rw [Files.resolve, Files.resolve, hdirectory]
  have hconfiguration : Configuration.load saved (saved.resolve (Path.Pure.ofString root)) overrides
      = .ok settings := by
    rw [hroot, Configuration.load_congr (hsame _ List.mem_cons_self)
      (hsame _ (List.mem_cons_of_mem _ List.mem_cons_self)), hbase]
  refine Outcome.bind_eq_ok_iff.mpr ⟨settings, hconfiguration, ?_⟩
  rw [fromCache_of_unknown hunknown, hkept, Except.map,
      Settings.rememberVersion_of_not_blank settings hv]

end EditorAnalysis.CommandLine
