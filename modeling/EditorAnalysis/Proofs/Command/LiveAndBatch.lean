/-
EditorAnalysis.Proofs.Command.LiveAndBatch — what live and batch commands have in common.

Both begin with the shared options, and these do not say which version the tool has. So it makes
no difference whether they were written before or after the tool was asked for it, although the
settings keep the answer (`batch_of_detectedVersion`). A live command is a batch command of
nothing, or of the buffer's copy, unless it analyses the copy in place of its file; then the four
words at its end that say so are its own.
-/
import EditorAnalysis.Proofs.Command.KnownVersion

namespace EditorAnalysis.Command

variable {σ : Type} (map : String → String)

/-! ## The end of a live command -/

theorem liveTail_in_place {copy file : String} (hcopy : copy ≠ "") (hfile : file ≠ "") :
    liveTail map true (some copy) (some file)
      = [copyOption, map copy, insteadOption, map file, map file] := by
  have hcopyGiven : Text.given? (some copy) = some copy := Text.given?_eq_some_iff.mpr ⟨rfl, hcopy⟩
  have hfileGiven : Text.given? (some file) = some file := Text.given?_eq_some_iff.mpr ⟨rfl, hfile⟩
  simp only [liveTail, hcopyGiven, hfileGiven]

/-- A copy stands alone if the tool cannot do otherwise, or if its file is not known. -/
theorem liveTail_alone {copy : String} (hcopy : copy ≠ "") {inPlace : Bool} {file : Option String}
    (h : inPlace = false ∨ ∀ f ∈ file, f = "") :
    liveTail map inPlace (some copy) file = [map copy] := by
  have hcopyGiven : Text.given? (some copy) = some copy := Text.given?_eq_some_iff.mpr ⟨rfl, hcopy⟩
  rcases h with rfl | hfile
  · simp only [liveTail, hcopyGiven]
  · simp only [liveTail, hcopyGiven, Text.given?_eq_none_iff.mpr hfile]

theorem liveTail_without_copy {copy : Option String} (h : ∀ c ∈ copy, c = "") (inPlace : Bool)
    (file : Option String) : liveTail map inPlace copy file = [] := by
  simp only [liveTail, Text.given?_eq_none_iff.mpr h]

/-! ## The options that both share -/

/-- No word of a batch command tells of the tool's version. -/
theorem batch_of_detectedVersion (s : Settings) (version : Option String)
    (paths : List (Option String)) :
    batch { s with detectedVersion := version } map paths = batch s map paths := rfl

/-- Looking for the tool's version changes no other setting. -/
theorem exists_settings_resolveVersion (detector : Detector σ) (p : Progress σ) :
    ∃ version, (resolveVersion detector p).2.settings
      = { p.settings with detectedVersion := version } := by
  by_cases hwanted : VersionWanted p.settings
  · exact ⟨_, (resolveVersion_of_wanted detector hwanted).1⟩
  · exact ⟨p.settings.detectedVersion, by rw [resolveVersion_of_not_wanted detector hwanted]⟩

theorem batch_after_live (detector : Detector σ) (copy file : Option String) (p : Progress σ)
    (paths : List (Option String)) :
    batch (live detector map copy file p).2.settings map paths = batch p.settings map paths := by
  obtain ⟨version, hsettings⟩ := exists_settings_resolveVersion detector p
  rw [live_settings, hsettings, batch_of_detectedVersion]

/-- A live command is the batch command of nothing with the live end behind it. -/
theorem live_eq_batch_append (detector : Detector σ) (copy file : Option String)
    (p : Progress σ) :
    (live detector map copy file p).1 = batch p.settings map []
      ++ liveTail map (EditorMode.supported (resolveVersion detector p).1) copy file := by
  simp [live, batch]

theorem batch_some (s : Settings) (path : String) :
    batch s map [some path] = batch s map [] ++ [map path] := by
  simp [batch]

/-! ## Requests -/

theorem targets_eq (s : Settings) (file root : Option String) (sources : List String) :
    targets s file root sources =
      if s.analyzeFullProject = true then [file, root]
      else if ∃ f ∈ s.configFile, f ≠ "" then []
      else sources.map some := by
  have hconfig : (Text.given? s.configFile).isSome = true ↔ ∃ f ∈ s.configFile, f ≠ "" := by
    simp only [Option.isSome_iff_exists, Text.given?_eq_some_iff]
    exact Iff.rfl
  simp only [targets, hconfig]

/-- **Live and batch commands agree.** Let a live command be asked for, whatever the settings, the
buffer's copy and its file are, and whatever a detector answers. If the copy and the file are given
and the tool's version supports it, the command is the batch command of nothing with the words
behind it that put the copy in place of the file. Otherwise it is the batch command of the copy,
if that is given, and else the batch command of nothing. These batch commands are the same before
and after. A request for a buffer gives the live command for it and for the file that the registry
knows. Every other request gives the batch command of the targets that the settings choose,
whatever the registry holds, and leaves everything as it was. -/
theorem live_agrees_with_batch (detector : Detector σ) (p : Progress σ) :
    (∀ copy file : Option String,
      let inPlace := EditorMode.supported (resolveVersion detector p).1
      let command := (live detector map copy file p).1
      let later := (live detector map copy file p).2.settings
      (∀ c ∈ copy, c ≠ "" →
        (∀ f ∈ file, f ≠ "" → inPlace = true → command = batch p.settings map []
          ++ ["--tmp-file", map c, "--instead-of", map f, map f]) ∧
        (inPlace = false ∨ (∀ f ∈ file, f = "") → command = batch p.settings map [some c])) ∧
      ((∀ c ∈ copy, c = "") → command = batch p.settings map []) ∧
      ∀ paths, batch later map paths = batch p.settings map paths) ∧
    ∀ (registry : Registry) (r : Request),
      (r.onTheFly = true → ofRequest detector map registry r p
        = live detector map r.file (registry.resolve r.file) p) ∧
      (r.onTheFly = false → ofRequest detector map registry r p
        = (batch p.settings map
            (if p.settings.analyzeFullProject = true then [r.file, r.root]
              else if ∃ f ∈ p.settings.configFile, f ≠ "" then []
              else r.sources.map some), p)) := by
  constructor
  · intro copy file inPlace command later
    have hcommand : command = batch p.settings map [] ++ liveTail map inPlace copy file :=
      live_eq_batch_append map detector copy file p
    refine ⟨fun c hc hcne => ?_, fun hnone => ?_, batch_after_live map detector copy file p⟩
    · obtain rfl := Option.mem_def.mp hc
      refine ⟨fun f hf hfne hsupported => ?_, fun halone => ?_⟩
      · obtain rfl := Option.mem_def.mp hf
        rw [hcommand, hsupported, liveTail_in_place map hcne hfne]
        rfl
      · rw [hcommand, liveTail_alone map hcne halone, batch_some]
    · rw [hcommand, liveTail_without_copy map hnone, List.append_nil]
  · intro registry r
    refine ⟨fun hlive => ?_, fun hwhole => ?_⟩
    · rw [ofRequest, if_pos hlive]
    · rw [ofRequest, if_neg (by simp [hwhole]), targets_eq]

/-- The tool is asked and can analyse a buffer in place of its file. The file is known, or is not,
or there is no buffer; a request for all sources does not ask the tool. -/
theorem live_agrees_with_batch_of_found_version :
    let p : Progress Script :=
      { settings := { toolPath := "phpstan" }, world := ⟨[some "2.1.17"], []⟩ }
    let map := fun path => "/app" ++ path
    let words := fun copy file => (live Script.detector map copy file p).1
    let registry := Registry.empty.register { path := "/proj/a.php", root := some "/proj" }
    let buffer : Request := { file := some "/tmp/a.php", onTheFly := true }
    let whole : Request := { file := none, onTheFly := false, sources := ["/proj/src"] }
    EditorMode.supported (resolveVersion Script.detector p).1 = true ∧
    words (some "/tmp/a.php") (some "/proj/a.php") = batch p.settings map []
      ++ ["--tmp-file", "/app/tmp/a.php", "--instead-of", "/app/proj/a.php", "/app/proj/a.php"] ∧
    words (some "/tmp/a.php") (some "") = batch p.settings map [some "/tmp/a.php"] ∧
    words (some "") (some "/proj/a.php") = batch p.settings map [] ∧
    ofRequest Script.detector map registry buffer p
      = live Script.detector map (some "/tmp/a.php") (registry.resolve (some "/tmp/a.php")) p ∧
    ofRequest Script.detector map registry whole p
      = (batch p.settings map [some "/proj/src"], p) := by
  intro p map words registry buffer whole
  obtain ⟨hlive, hrequests⟩ := live_agrees_with_batch map Script.detector p
  have hsupported : EditorMode.supported (resolveVersion Script.detector p).1 = true := by
    decide +kernel
  have hcopy : "/tmp/a.php" ≠ "" := by decide
  have hfile : "/proj/a.php" ≠ "" := by decide
  obtain ⟨hboth, -, -⟩ := hlive (some "/tmp/a.php") (some "/proj/a.php")
  obtain ⟨halone, -, -⟩ := hlive (some "/tmp/a.php") (some "")
  obtain ⟨-, hnothing, -⟩ := hlive (some "") (some "/proj/a.php")
  exact ⟨hsupported, (hboth _ rfl hcopy).1 _ rfl hfile hsupported,
    (halone _ rfl hcopy).2 (.inr fun f hf => (Option.some.inj hf).symm),
    hnothing fun c hc => (Option.some.inj hc).symm,
    (hrequests registry buffer).1 rfl, (hrequests registry whole).2 rfl⟩

end EditorAnalysis.Command
