/-
EditorAnalysis.Proofs.Project.Configuration — which faults a project's configuration may give.

Whoever loads the settings of a project tells the user of a configuration that cannot be used,
and is stopped by any other fault. Loading goes through its sources one after the other, and
each step adds no fault of another kind but one: a file whose bytes are not `Legible`
(`onlyConfigurational_readToml_iff`). So the two files decide (`well_behaved_load_iff`),
whatever the overrides are. The second file is not even read where the first one is refused.
-/
import EditorAnalysis.CommandLine.Run
import EditorAnalysis.Proofs.Project.TextFile
import EditorAnalysis.Proofs.Settings.Valid

namespace EditorAnalysis.Project.Configuration

open Host
open Text.Utf8 (Bytes)
open CommandLine.Report (isConfigurational)

variable {fs : Files} {path : String}

/-! ## Faults of a computation -/

/-- The computation has a result, or its fault is one of the configuration. -/
def OnlyConfigurational {α : Type} (x : Except Fault α) : Prop :=
  ∀ fault, x = .error fault → isConfigurational fault = true

theorem onlyConfigurational_ok {α : Type} (a : α) :
    OnlyConfigurational (.ok a : Except Fault α) := by
  intro fault h
  cases h

theorem onlyConfigurational_error_iff {α : Type} {fault : Fault} :
    OnlyConfigurational (.error fault : Except Fault α) ↔ isConfigurational fault = true := by
  simp [OnlyConfigurational]

/-- A computation in two steps has the faults of the first, and those of the second where it
is reached. -/
theorem onlyConfigurational_bind_iff {α β : Type} {x : Except Fault α} {f : α → Except Fault β} :
    OnlyConfigurational (x.bind f) ↔
      OnlyConfigurational x ∧ ∀ a, x = .ok a → OnlyConfigurational (f a) := by
  cases x with
  | error fault => simp [Except.bind, onlyConfigurational_error_iff]
  | ok a => simp [Except.bind, onlyConfigurational_ok]

/-! ## The sources -/

/-- Reading a file has faults of the configuration only, exactly if its bytes are legible. -/
theorem onlyConfigurational_readToml_iff {content : Option Bytes} (h : Held fs path content) :
    OnlyConfigurational (readToml fs path) ↔ ∀ bytes ∈ content, Legible Toml.read bytes := by
  cases content with
  | none => simp [readToml, readText?_of_held_none h, onlyConfigurational_ok]
  | some bytes =>
    have htext := readText?_of_held h
    rw [readToml, htext]
    cases hdecode : Text.Utf8.decode? bytes with
    | none =>
      simp [onlyConfigurational_error_iff, isConfigurational, not_legible_of_decode? hdecode]
    | some cs =>
      simp only [Option.mem_some_iff, forall_eq', legible_iff_of_decode? hdecode]
      cases Toml.read cs with
      | ok entries => simp [onlyConfigurational_ok]
      | error fault =>
        cases fault <;> simp [onlyConfigurational_error_iff, isConfigurational]

theorem onlyConfigurational_sectionOf (path : String) (entries : Source) :
    OnlyConfigurational (sectionOf path entries) := by
  unfold sectionOf
  split
  · split
    · exact onlyConfigurational_ok _
    · exact onlyConfigurational_ok _
    · exact onlyConfigurational_error_iff.mpr rfl
  · exact onlyConfigurational_ok _

/-- The section for these settings in the project file at a root. -/
def projectSection (fs : Files) (root : Path.Pure) : Except Fault Source :=
  (readToml fs (root.child projectFile).toString).bind
    (sectionOf (root.child projectFile).toString)

theorem gather_eq_bind (fs : Files) (root : Path.Pure) (overrides : Source) :
    gather fs root overrides = (projectSection fs root).bind fun tableEntries =>
      (readToml fs (root.child ownFile).toString).bind fun own =>
        .ok (anchorPaths root (merge tableEntries own overrides)) := by
  rw [projectSection, gather]
  cases readToml fs (root.child projectFile).toString <;> rfl

theorem onlyConfigurational_gather_iff {root : Path.Pure} (overrides : Source) :
    OnlyConfigurational (gather fs root overrides) ↔
      OnlyConfigurational (readToml fs (root.child projectFile).toString) ∧
      ∀ tableEntries, projectSection fs root = .ok tableEntries →
        OnlyConfigurational (readToml fs (root.child ownFile).toString) := by
  rw [gather_eq_bind, onlyConfigurational_bind_iff, projectSection, onlyConfigurational_bind_iff]
  simp [onlyConfigurational_sectionOf, onlyConfigurational_bind_iff, onlyConfigurational_ok]

/-- The merged sources are refused with a fault of the configuration, or give settings. -/
theorem onlyConfigurational_load_iff {root : Path.Pure} {overrides : Source} :
    OnlyConfigurational (load fs root overrides) ↔
      OnlyConfigurational (gather fs root overrides) := by
  unfold load
  split
  · rename_i hgather
    simp [hgather, onlyConfigurational_error_iff]
  · rename_i source hgather
    rw [hgather]
    refine iff_of_true ?_ (onlyConfigurational_ok source)
    split
    · exact onlyConfigurational_ok _
    · exact onlyConfigurational_error_iff.mpr rfl

/-! ## Settings -/

theorem readToml_congr {later : Files} (h : readText? later path = readText? fs path) :
    readToml later path = readToml fs path := by
  rw [readToml, readToml, h]

/-- Loading looks at the two files and at nothing else. -/
theorem load_congr {later : Files} {root : Path.Pure}
    (hproject : readText? later (root.child projectFile).toString
      = readText? fs (root.child projectFile).toString)
    (hown : readText? later (root.child ownFile).toString
      = readText? fs (root.child ownFile).toString) (overrides : Source) :
    load later root overrides = load fs root overrides := by
  rw [load, load, gather_eq_bind, gather_eq_bind, projectSection, projectSection,
      readToml_congr hproject, readToml_congr hown]

theorem valid_of_load {root : Path.Pure} {overrides : Source} {settings : Settings}
    (h : load fs root overrides = .ok settings) : settings.Valid := by
  unfold load at h
  split at h
  · cases h
  · split at h
    · rename_i hdata
      obtain rfl := Except.ok.inj h
      exact Settings.valid_of_ofData hdata
    · cases h

/-- What loading should come to: valid settings, or a fault of the configuration. -/
def WellBehaved : Except Fault Settings → Prop
  | .ok settings => settings.Valid
  | .error fault => isConfigurational fault = true

/-- **When a configuration is taken or refused.** Let each of a project's two files be missing
or hold any bytes, and let the caller override any settings with any values. Loading gives
valid settings or refuses the configuration, exactly if the project file is legible, and the
own file is legible too unless the project file is refused before it is read. -/
theorem well_behaved_load_iff {root : Path.Pure} {project own : Option Bytes}
    (hproject : Held fs (root.child projectFile).toString project)
    (hown : Held fs (root.child ownFile).toString own) (overrides : Source) :
    WellBehaved (load fs root overrides) ↔
      (∀ bytes ∈ project, Legible Toml.read bytes) ∧
      ∀ tableEntries, projectSection fs root = .ok tableEntries →
        ∀ bytes ∈ own, Legible Toml.read bytes := by
  rw [← onlyConfigurational_readToml_iff hproject, ← onlyConfigurational_readToml_iff hown,
      ← onlyConfigurational_gather_iff overrides, ← onlyConfigurational_load_iff]
  cases hload : load fs root overrides with
  | ok settings => exact iff_of_true (valid_of_load hload) (onlyConfigurational_ok settings)
  | error fault => exact onlyConfigurational_error_iff.symm

/-- A project with its two files, and nothing else. -/
def holding (project own : Bytes) : Files :=
  { tree := ⟨[(["p"], .directory), (["p", projectFile], .file project Tree.defaultMode),
      (["p", ownFile], .file own Tree.defaultMode)]⟩
    directory := [] }

/-- The own file asks for a rule level that there is not, and the project file has no value
behind a name. -/
theorem well_behaved_load_iff_of_level_without_value :
    let project := Text.Utf8.encode "[tool.phpstan-bridge]\nlevel =\n".toList
    let own := Text.Utf8.encode "level = 12\n".toList
    let fs := holding project own
    let root := Path.Pure.ofString "/p"
    Held fs (root.child projectFile).toString (some project) ∧
      Held fs (root.child ownFile).toString (some own) ∧
      Legible Toml.read project ∧ Legible Toml.read own ∧ WellBehaved (load fs root []) := by
  intro project own fs root
  have hprojectFile : fs.look (root.child projectFile).toString
      = .ok (.file project Tree.defaultMode) := by decide +kernel
  have hproject : Held fs (root.child projectFile).toString (some project) :=
    held_of_look (by decide +kernel) hprojectFile
  have hownFile : fs.look (root.child ownFile).toString
      = .ok (.file own Tree.defaultMode) := by decide +kernel
  have hown : Held fs (root.child ownFile).toString (some own) :=
    held_of_look (by decide +kernel) hownFile
  have hprojectLegible : Legible Toml.read project := by decide +kernel
  have hownLegible : Legible Toml.read own := by decide +kernel
  refine ⟨hproject, hown, hprojectLegible, hownLegible,
    (well_behaved_load_iff hproject hown []).mpr ⟨?_, ?_⟩⟩
  · intro bytes hbytes
    exact Option.some.inj hbytes ▸ hprojectLegible
  · intro _ _ bytes hbytes
    exact Option.some.inj hbytes ▸ hownLegible

/-- One byte that begins no character stops loading with a fault of another kind. -/
theorem misbehaved_load_of_lone_byte :
    let fs := holding [0xFF] []
    let root := Path.Pure.ofString "/p"
    Held fs (root.child projectFile).toString (some [0xFF]) ∧
      Held fs (root.child ownFile).toString (some []) ∧
      load fs root [] = .error .notUtf8 ∧ ¬ WellBehaved (load fs root []) := by
  intro fs root
  have hprojectFile : fs.look (root.child projectFile).toString
      = .ok (.file [0xFF] Tree.defaultMode) := by decide +kernel
  have hproject : Held fs (root.child projectFile).toString (some [0xFF]) :=
    held_of_look (by decide +kernel) hprojectFile
  have hownFile : fs.look (root.child ownFile).toString
      = .ok (.file [] Tree.defaultMode) := by decide +kernel
  have hown : Held fs (root.child ownFile).toString (some []) :=
    held_of_look (by decide +kernel) hownFile
  have hload : load fs root [] = .error .notUtf8 := by decide +kernel
  refine ⟨hproject, hown, hload, ?_⟩
  rw [hload]
  exact Bool.false_ne_true

end EditorAnalysis.Project.Configuration
