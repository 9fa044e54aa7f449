/-
EditorAnalysis.Proofs.Project.VersionCache — what saving versions leaves for the next run.

The file of a directory holds a document, or none (`HoldsAt`). One save replaces it by the
object of the texts that it held, with the tool's entry put in or taken out, and the next
save finds the directory there and the file as it was left (`save_of_holdsAt`). So a
sequence of saves works on the entries alone (`saveAll_of_holdsAt`), and loading reads back
the version that was saved last (`load_saveAll`).

The file is looked at once the directory is there. A save makes the directory before anything
else, and a directory that was made stays there (`prepare_of_prepare`), so only the first
save of a sequence can find it missing.

What was written is read back for three reasons, each with a module of its own: the written
object is read as it was (`Json.read_indented_ofTexts`), its characters survive as bytes
(`Text.Utf8.decode?_encode`), and the path still leads to the file (`Host.Files.locate_put`).
-/
import EditorAnalysis.Project.VersionCache
import EditorAnalysis.Proofs.Host.Tree
import EditorAnalysis.Proofs.Json.Object
import EditorAnalysis.Proofs.Path.Pure
import EditorAnalysis.Proofs.Project.TextFile
import EditorAnalysis.Proofs.Text.Utf8

namespace EditorAnalysis.Project.VersionCache

open Host

variable {fs made : Files} {directory : Path.Pure} {place : Place}
  {document : Option Json.Value}

/-! ## The file of a directory -/

/-- What the file of a directory holds, at the place to which its path leads: nothing where
there is no file, and else the document in its text, if the text is one. -/
def HoldsAt (fs : Files) (directory : Path.Pure) (place : Place)
    (document : Option Json.Value) : Prop :=
  fs.locate (path directory) = .ok place ∧
    ((fs.tree.get? place = none ∧ document = none) ∨
      ∃ content mode cs, fs.tree.get? place = some (.file content mode) ∧
        Text.Utf8.decode? content = some cs ∧ document? cs = .ok document)

theorem HoldsAt.isEnd (h : HoldsAt fs directory place document) : fs.tree.IsEnd place := by
  rcases h.2 with ⟨hnone, -⟩ | ⟨_, _, _, hfile, -⟩
  · exact Tree.isEnd_of_none hnone
  · exact Tree.isEnd_of_file hfile

theorem hasEnd_path (directory : Path.Pure) : Files.hasEnd (path directory) = false := by
  obtain ⟨front, htext, -⟩ := Path.Pure.toList_toString_child directory fileName
  have hlast : (path directory).toList.getLast? = some 'n' := by
    rw [path, htext, List.getLast?_append]
    rfl
  rw [Files.hasEnd, hlast]
  rfl

/-- A directory that was prepared is there, and has a path without the null character. -/
theorem prepare_eq_ok_iff : prepare fs directory = .ok made ↔
    Char.ofNat 0 ∉ directory.toString.toList ∧ fs.makeDirectories directory = .ok made := by
  unfold prepare
  split
  · rename_i hnull
    simp [List.contains_iff_mem.mp hnull]
  · rename_i hnull
    have hnot : Char.ofNat 0 ∉ directory.toString.toList := by simpa using hnull
    split <;> simp_all

theorem null_not_mem_path (h : Char.ofNat 0 ∉ directory.toString.toList) :
    Char.ofNat 0 ∉ (path directory).toList := by
  obtain ⟨front, htext, hfront⟩ := Path.Pure.toList_toString_child directory fileName
  rw [path, htext, List.mem_append, not_or]
  refine ⟨fun hmem => ?_, by decide⟩
  rcases hfront _ hmem with hslash | hmem
  · exact absurd hslash (by decide)
  · exact h hmem

/-- Preparing a directory that was prepared changes nothing. -/
theorem prepare_of_prepare (h : prepare fs directory = .ok made) :
    prepare made directory = .ok made := by
  obtain ⟨hnull, hmade⟩ := prepare_eq_ok_iff.mp h
  exact prepare_eq_ok_iff.mpr ⟨hnull,
    Files.makeDirectories_of_isDirectory (Files.isDirectory_of_makeDirectories hmade)⟩

theorem readDocument_of_holdsAt (hnull : Char.ofNat 0 ∉ directory.toString.toList)
    (h : HoldsAt fs directory place document) : readDocument fs directory = .ok document := by
  have hpath := null_not_mem_path hnull
  obtain ⟨hlocate, ⟨hnone, rfl⟩ | ⟨content, mode, cs, hfile, hdecode, hdocument⟩⟩ := h
  · rw [readDocument, readText?_of_held_none (held_none_of_look hpath
      (Files.look_eq_noEntry hlocate hnone))]
    rfl
  · have hlook : fs.look (path directory) = .ok (.file content mode) :=
      Files.look_eq_ok_iff.mpr ⟨place, hlocate, hfile⟩
    rw [readDocument, readText?_of_held (held_of_look hpath hlook)]
    simp only [hdecode, bind, Except.bind]
    exact hdocument

theorem load_of_holdsAt (hnull : Char.ofNat 0 ∉ directory.toString.toList)
    (h : HoldsAt fs directory place document) : load fs directory = .ok (versionIn document) := by
  rw [load, readDocument_of_holdsAt hnull h]
  rfl

/-! ## The entries of the file -/

theorem read_eq_ok_of_document? {cs : List Char} {v : Json.Value}
    (h : document? cs = .ok (some v)) : Json.read limits cs = .ok v := by
  unfold document? at h
  split at h
  · rename_i hread
    rwa [Option.some.inj (Except.ok.inj h)] at hread
  · cases h
  · cases h
  · cases h

theorem map_fst_textEntries_sublist (entries : List (Json.Units × Json.Value)) :
    ((textEntries (some (.object entries))).map (·.1)).Sublist (entries.map (·.1)) := by
  induction entries with
  | nil => exact List.Sublist.slnil
  | cons e rest ih =>
    obtain ⟨name, v⟩ := e
    cases v with
    | string units => exact ih.cons_cons name
    | _ => exact ih.cons name

/-- The names of the texts in a file are different. -/
theorem nodup_textEntries (h : HoldsAt fs directory place document) :
    ((textEntries document).map (·.1)).Nodup := by
  rcases h.2 with ⟨-, rfl⟩ | ⟨_, _, cs, -, -, hdocument⟩
  · exact List.nodup_nil
  · cases document with
    | none => exact List.nodup_nil
    | some v =>
      cases v with
      | object entries =>
        have hread := Json.nodup_of_read (read_eq_ok_of_document? hdocument)
        exact hread.sublist (map_fst_textEntries_sublist entries)
      | _ => exact List.nodup_nil

theorem textEntries_ofTexts (contents : Contents) :
    textEntries (some (.ofTexts contents)) = contents := by
  simp [textEntries, Json.Value.ofTexts, List.filterMap_map]

theorem nodup_update {contents : Contents} (h : (contents.map (·.1)).Nodup)
    (version : Option String) : ((update version contents).map (·.1)).Nodup := by
  cases version with
  | none => exact h.sublist (List.filter_sublist.map _)
  | some v => exact Assoc.nodup_put h

/-- Only the tool's entry is touched. -/
theorem filter_update (version : Option String) (contents : Contents) :
    (update version contents).filter (fun e => e.1 ≠ toolKey)
      = contents.filter fun e => e.1 ≠ toolKey := by
  cases version with
  | none => simp [update, Assoc.erase]
  | some v => simpa [update] using Assoc.filter_put (fun key => key ≠ toolKey) toolKey _ contents

theorem get?_update (version : Option String) (contents : Contents) :
    Assoc.get? toolKey (update version contents) = version.map Json.Units.ofString := by
  cases version with
  | none => exact Assoc.get?_erase_self toolKey contents
  | some v => exact Assoc.get?_put_self toolKey _ contents

/-- What was written for entries with different names is a document with these entries. -/
theorem document?_write {contents : Contents} (h : (contents.map (·.1)).Nodup) :
    document? (write contents).toList = .ok (some (.ofTexts contents)) := by
  have hread : Json.read limits (write contents).toList = .ok (.ofTexts contents) :=
    Json.read_indented_ofTexts h (by decide)
  rw [document?, hread]

/-! ## Saving -/

/-- Keeps versions one after the other. -/
def saveAll (fs : Files) (directory : Path.Pure) (versions : List (Option String)) :
    Except Fault Files :=
  versions.foldlM (fun fs version => save fs directory version) fs

/-- Saving works on the files with the directory prepared. -/
theorem save_eq_of_prepare (h : prepare fs directory = .ok made) (version : Option String) :
    save fs directory version = save made directory version := by
  rw [save, save, h, prepare_of_prepare h]

/-- The files with a new file of versions at its place. -/
def kept (fs : Files) (place : Place) (contents : Contents) : Files :=
  fs.put place (.file (Text.Utf8.encode (write contents).toList) (fs.tree.modeAt place))

/-- One save puts the object of the texts that the file held, with the tool's entry put in or
taken out, at the file's place. -/
theorem save_eq_kept (hready : prepare fs directory = .ok fs)
    (h : HoldsAt fs directory place document) (version : Option String) :
    save fs directory version = .ok (kept fs place (update version (textEntries document))) := by
  have hwrite := Files.write_eq_put h.1 h.isEnd
    (Text.Utf8.encode (write (update version (textEntries document))).toList)
  rw [save, hready]
  simp only [bind, Except.bind, readDocument_of_holdsAt (prepare_eq_ok_iff.mp hready).1 h]
  rw [hwrite]
  rfl

/-- The directory stays ready when its file is written. -/
theorem prepare_kept (hready : prepare fs directory = .ok fs)
    (h : HoldsAt fs directory place document) (contents : Contents) :
    prepare (kept fs place contents) directory = .ok (kept fs place contents) := by
  obtain ⟨hnull, hmade⟩ := prepare_eq_ok_iff.mp hready
  exact prepare_eq_ok_iff.mpr ⟨hnull, Files.makeDirectories_of_isDirectory
    (Files.isDirectory_put h.isEnd rfl (Files.isDirectory_of_makeDirectories hmade))⟩

/-- A file that was written for entries with different names holds the object of them. -/
theorem holdsAt_kept (h : HoldsAt fs directory place document) {contents : Contents}
    (hnodup : (contents.map (·.1)).Nodup) :
    HoldsAt (kept fs place contents) directory place (some (.ofTexts contents)) :=
  ⟨Files.locate_put h.isEnd rfl h.1 (.inl (hasEnd_path directory)),
    .inr ⟨_, _, (write contents).toList, Tree.get?_put_self h.isEnd.ne_nil,
      Text.Utf8.decode?_encode _,
      document?_write hnodup⟩⟩

/-- One save: the file then holds the object of the texts that it held before, with the
tool's entry put in or taken out, and the directory is ready for the next save. -/
theorem save_of_holdsAt (hready : prepare fs directory = .ok fs)
    (h : HoldsAt fs directory place document) (version : Option String) :
    ∃ saved, save fs directory version = .ok saved ∧ prepare saved directory = .ok saved ∧
      HoldsAt saved directory place (some (.ofTexts (update version (textEntries document)))) :=
  ⟨_, save_eq_kept hready h version, prepare_kept hready h _,
    holdsAt_kept h (nodup_update (nodup_textEntries h) version)⟩

/-- A sequence of saves changes the entries one version after the other. -/
theorem saveAll_of_holdsAt (hready : prepare fs directory = .ok fs)
    (h : HoldsAt fs directory place document) (versions : List (Option String)) :
    ∃ saved document', saveAll fs directory versions = .ok saved ∧
      prepare saved directory = .ok saved ∧ HoldsAt saved directory place document' ∧
      textEntries document'
        = versions.foldl (fun contents version => update version contents)
            (textEntries document) := by
  induction versions generalizing fs document with
  | nil => exact ⟨fs, document, rfl, hready, h, rfl⟩
  | cons version rest ih =>
    obtain ⟨next, hsave, hnext, hholds⟩ := save_of_holdsAt hready h version
    obtain ⟨saved, document', hrest, hsaved, hdocument, hentries⟩ := ih hnext hholds
    refine ⟨saved, document', ?_, hsaved, hdocument, ?_⟩
    · exact Outcome.bind_eq_ok_iff.mpr ⟨next, hsave, hrest⟩
    · rw [hentries, textEntries_ofTexts, List.foldl_cons]

/-! ## Loading -/

/-- The value is a string. -/
def isText : Json.Value → Bool
  | .string _ => true
  | _ => false

/-- The entries of a document that hold a text and are not the tool's. -/
def otherTexts : Option Json.Value → List (Json.Units × Json.Value)
  | some (.object entries) => entries.filter fun e => e.1 ≠ toolKey && isText e.2
  | _ => []

theorem map_filter_textEntries (document : Option Json.Value) :
    ((textEntries document).filter fun e => e.1 ≠ toolKey).map
        (fun (name, units) => (name, Json.Value.string units))
      = otherTexts document := by
  cases document with
  | none => rfl
  | some v =>
    cases v with
    | object entries =>
      unfold textEntries otherTexts
      induction entries with
      | nil => rfl
      | cons e rest ih =>
        obtain ⟨name, v⟩ := e
        by_cases hname : name = toolKey <;> cases v <;> simp_all [isText]
    | _ => rfl

theorem filter_foldl_update (versions : List (Option String)) (contents : Contents) :
    (versions.foldl (fun contents version => update version contents) contents).filter
        (fun e => e.1 ≠ toolKey)
      = contents.filter fun e => e.1 ≠ toolKey := by
  induction versions generalizing contents with
  | nil => rfl
  | cons version rest ih => rw [List.foldl_cons, ih, filter_update]

theorem get?_toolKey_update (version : Option String) (contents : Contents) :
    Assoc.get? toolKey ((update version contents).map fun (name, units) =>
        (name, Json.Value.string units))
      = version.map fun v => .string (Json.Units.ofString v) := by
  rw [Assoc.get?_map_snd, get?_update, Option.map_map]
  rfl

/-- The version is found that was put in, unless it is empty. -/
theorem versionIn_update (version : Option String) (contents : Contents) :
    versionIn (some (.ofTexts (update version contents))) = Text.given? version := by
  simp only [versionIn, Json.Value.ofTexts, get?_toolKey_update]
  cases version with
  | none => rfl
  | some v =>
    by_cases hempty : v = ""
    · subst hempty
      rfl
    · have hunits : (Json.Units.ofString v).isEmpty = false := by
        simpa using mt Json.Units.ofString_eq_nil_iff.mp hempty
      simp [hunits, Text.given?, Option.filter, hempty]

theorem saveAll_eq_of_prepare (h : prepare fs directory = .ok made)
    (versions : List (Option String)) (last : Option String) :
    saveAll fs directory (versions ++ [last]) = saveAll made directory (versions ++ [last]) := by
  cases versions with
  | nil => exact congrArg (· >>= pure) (save_eq_of_prepare h last)
  | cons version rest =>
    exact congrArg (· >>= fun next => saveAll next directory (rest ++ [last]))
      (save_eq_of_prepare h version)

/-- **A file of versions is a map over whole runs.** Let the directory be there, or be one that
can be made, and let its file be missing or hold a text, which may be any document or none.
Then versions can be kept one after the other, and afterwards the last of them is loaded, unless
it is none or empty. The file then holds an object: the texts under other names that it held
at first, in their order, and the tool's entry with the last version, or no such entry if there
was none to keep. -/
theorem load_saveAll (hmade : prepare fs directory = .ok made)
    (hstart : HoldsAt made directory place document) (versions : List (Option String))
    (last : Option String) :
    ∃ saved entries, saveAll fs directory (versions ++ [last]) = .ok saved ∧
      load saved directory = .ok (Text.given? last) ∧
      readDocument saved directory = .ok (some (.object entries)) ∧
      entries.filter (fun e => e.1 ≠ toolKey) = otherTexts document ∧
      Assoc.get? toolKey entries = last.map fun v => .string (Json.Units.ofString v) := by
  obtain ⟨before, document', hbefore, hready, hholds, hentries⟩ :=
    saveAll_of_holdsAt (prepare_of_prepare hmade) hstart versions
  obtain ⟨saved, hsave, hsaved, hfile⟩ := save_of_holdsAt hready hholds last
  have hread : readDocument saved directory
      = .ok (some (.ofTexts (update last (textEntries document')))) :=
    readDocument_of_holdsAt (prepare_eq_ok_iff.mp hsaved).1 hfile
  refine ⟨saved, _, ?_, ?_, hread, ?_, get?_toolKey_update last _⟩
  · rw [saveAll_eq_of_prepare hmade, saveAll, List.foldlM_append]
    refine Outcome.bind_eq_ok_iff.mpr ⟨before, hbefore, ?_⟩
    exact Outcome.bind_eq_ok_iff.mpr ⟨saved, hsave, rfl⟩
  · rw [load, hread]
    exact congrArg Except.ok (versionIn_update last _)
  · rw [← map_filter_textEntries, List.filter_map]
    exact congrArg _ ((filter_update last _).trans
      (hentries ▸ filter_foldl_update versions (textEntries document)))

/-- A file with the versions of two tools, in a directory that is there: the version of the
other tool stays through all saves. -/
theorem load_saveAll_beside_other_tool :
    let psalm := Json.Units.ofString "psalm"
    let held := [(psalm, Json.Units.ofString "5.0"), (toolKey, Json.Units.ofString "1.9")]
    let place := ["proj", "cache", fileName]
    let file := Node.file (Text.Utf8.encode (write held).toList) Tree.defaultMode
    let fs : Files :=
      { tree := ⟨[(["proj"], .directory), (["proj", "cache"], .directory), (place, file)]⟩
        directory := ["proj"] }
    let directory := Path.Pure.ofString "cache"
    prepare fs directory = .ok fs ∧ HoldsAt fs directory place (some (.ofTexts held)) ∧
      ∃ saved entries,
        saveAll fs directory ([some "1.12.27", none] ++ [some "2.1.17"]) = .ok saved ∧
        load saved directory = .ok (some "2.1.17") ∧
        readDocument saved directory = .ok (some (.object entries)) ∧
        entries.filter (fun e => e.1 ≠ toolKey)
          = [(psalm, .string (Json.Units.ofString "5.0"))] ∧
        Assoc.get? toolKey entries = some (.string (Json.Units.ofString "2.1.17")) := by
  intro psalm held place file fs directory
  have hdirectory : fs.isDirectory directory.toString = true := by decide +kernel
  have hmade : prepare fs directory = .ok fs :=
    prepare_eq_ok_iff.mpr ⟨by decide +kernel, Files.makeDirectories_of_isDirectory hdirectory⟩
  have hlocate : fs.locate (path directory) = .ok place := by decide +kernel
  have hdecode : Text.Utf8.decode? (Text.Utf8.encode (write held).toList)
      = some (write held).toList :=
    Text.Utf8.decode?_encode _
  have hstart : HoldsAt fs directory place (some (.ofTexts held)) :=
    ⟨hlocate, .inr ⟨_, _, (write held).toList, rfl, hdecode, document?_write (by decide)⟩⟩
  have hothers : otherTexts (some (.ofTexts held))
      = [(psalm, .string (Json.Units.ofString "5.0"))] := by rfl
  exact ⟨hmade, hstart,
    hothers ▸ load_saveAll hmade hstart [some "1.12.27", none] (some "2.1.17")⟩

end EditorAnalysis.Project.VersionCache
