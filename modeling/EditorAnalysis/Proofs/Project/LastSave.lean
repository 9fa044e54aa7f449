/-
EditorAnalysis.Proofs.Project.LastSave — a save leaves nothing of the saves before it.

A save keeps the place of the tool's entry if there is one, and else puts the entry behind the
others. So a version that was saved before has already settled the place, and what is saved
next stands where it would stand anyway (`update_update`): the file is the same byte for byte,
and so are all other files (`save_absorbs_earlier`). Forgetting a version before that is
another matter, as it gives the place up.
-/
import EditorAnalysis.Proofs.Project.VersionCache

namespace EditorAnalysis.Project.VersionCache

open Host

variable {fs made : Files} {directory : Path.Pure} {place : Place}
  {document : Option Json.Value}

/-! ## Entries -/

/-- A version that was put in makes no difference to what is put in or taken out after it. -/
theorem update_update (earlier : String) (version : Option String) (contents : Contents) :
    update version (update (some earlier) contents) = update version contents := by
  cases version with
  | none => exact Assoc.erase_put toolKey _ contents
  | some v => exact Assoc.put_put toolKey _ _ contents

theorem update_self (version : Option String) (contents : Contents) :
    update version (update version contents) = update version contents := by
  cases version with
  | none => exact Assoc.erase_erase toolKey contents
  | some v => exact Assoc.put_put toolKey _ _ contents

/-- The entry that is forgotten and saved again stands behind the others. -/
example : let psalm := Json.Units.ofString "psalm"
    update (some "2") (update none [(toolKey, []), (psalm, [])])
      ≠ update (some "2") [(toolKey, []), (psalm, [])] := by decide

/-! ## Files -/

theorem kept_kept (fs : Files) (hplace : place ≠ []) (earlier later : Contents) :
    kept (kept fs place earlier) place later = kept fs place later := by
  have hmode : (kept fs place earlier).tree.modeAt place = fs.tree.modeAt place :=
    Tree.modeAt_of_file (Tree.get?_put_self hplace)
  rw [kept, hmode, kept, kept, Files.put_put]

/-- Two saves come to the later one alone, if they do so for the entries. -/
theorem save_save (hready : prepare fs directory = .ok fs)
    (h : HoldsAt fs directory place document) {earlier later : Option String}
    (hupdate : update later (update earlier (textEntries document))
      = update later (textEntries document)) :
    (save fs directory earlier >>= fun between => save between directory later)
      = save fs directory later := by
  have hbetween := holdsAt_kept h (nodup_update (nodup_textEntries h) earlier)
  calc (save fs directory earlier >>= fun between => save between directory later)
      = save (kept fs place (update earlier (textEntries document))) directory later := by
        rw [save_eq_kept hready h earlier]
        rfl
    _ = .ok (kept (kept fs place (update earlier (textEntries document))) place
          (update later (update earlier (textEntries document)))) := by
        rw [save_eq_kept (prepare_kept hready h _) hbetween later, textEntries_ofTexts]
    _ = save fs directory later := by
        rw [kept_kept fs h.isEnd.ne_nil, hupdate, save_eq_kept hready h later]

/-- Of any number of saves the last one counts, if all others save a version. -/
theorem saveAll_eq_save (hready : prepare fs directory = .ok fs)
    (h : HoldsAt fs directory place document) (earlier : List String) (last : Option String) :
    saveAll fs directory (earlier.map some ++ [last]) = save fs directory last := by
  induction earlier generalizing fs document with
  | nil =>
    rw [List.map_nil, List.nil_append, saveAll, List.foldlM_cons]
    exact bind_pure (save fs directory last)
  | cons version rest ih =>
    obtain ⟨saved, hsave, hsaved, hholds⟩ := save_of_holdsAt hready h (some version)
    calc saveAll fs directory ((version :: rest).map some ++ [last])
        = (save fs directory (some version) >>= fun between =>
            saveAll between directory (rest.map some ++ [last])) := rfl
      _ = saveAll saved directory (rest.map some ++ [last]) := by
          rw [hsave]
          rfl
      _ = save saved directory last := ih hsaved hholds
      _ = (save fs directory (some version) >>= fun between => save between directory last) := by
          rw [hsave]
          rfl
      _ = save fs directory last := save_save hready h (update_update version last _)

/-- **A save absorbs the saves before it.** Let the directory be there, or be one that can be
made, and let its file be missing or hold a text, which may be any document or none. Then a
version can be kept or forgotten, and the file holds bytes that depend on the texts that it held
at first and on that version. Saving another version before that leaves the very same files, byte
for byte, and so does saving any number of versions before; and doing it again changes nothing. -/
theorem save_absorbs_earlier (hmade : prepare fs directory = .ok made)
    (hstart : HoldsAt made directory place document) (version : Option String) :
    ∃ saved mode, save fs directory version = .ok saved ∧
      saved.look (path directory) = .ok (.file
        (Text.Utf8.encode (write (update version (textEntries document))).toList) mode) ∧
      (∀ earlier : String, (save fs directory (some earlier) >>= fun between =>
        save between directory version) = .ok saved) ∧
      (∀ earlier : List String,
        saveAll fs directory (earlier.map some ++ [version]) = .ok saved) ∧
      (save fs directory version >>= fun between => save between directory version)
        = .ok saved := by
  have hready := prepare_of_prepare hmade
  have hsave : save made directory version
      = .ok (kept made place (update version (textEntries document))) :=
    save_eq_kept hready hstart version
  have hplace := holdsAt_kept hstart (nodup_update (nodup_textEntries hstart) version)
  refine ⟨_, made.tree.modeAt place, (save_eq_of_prepare hmade version).trans hsave,
    Files.look_eq_ok_iff.mpr ⟨place, hplace.1, Tree.get?_put_self hstart.isEnd.ne_nil⟩,
    fun earlier => ?_, fun earlier => ?_, ?_⟩
  · rw [save_eq_of_prepare hmade, save_save hready hstart (update_update earlier version _), hsave]
  · rw [saveAll_eq_of_prepare hmade, saveAll_eq_save hready hstart, hsave]
  · rw [save_eq_of_prepare hmade, save_save hready hstart (update_self version _), hsave]

/-- The tool's entry is no text at first, so it loses its place and comes to stand behind the
other tool's. -/
theorem save_absorbs_earlier_beside_number :
    let text := "\x7b\"phpstan\": 1.9, \"psalm\": \"5.0\"\x7d".toList
    let psalm := Json.Units.ofString "psalm"
    let fs : Files :=
      { tree := ⟨[(["cache"], .directory),
          (["cache", fileName], .file (Text.Utf8.encode text) 0o600)]⟩
        directory := [] }
    let directory := Path.Pure.ofString "cache"
    let place := ["cache", fileName]
    let contents := [(psalm, Json.Units.ofString "5.0"), (toolKey, Json.Units.ofString "2.1.17")]
    prepare fs directory = .ok fs ∧ (∃ document, HoldsAt fs directory place document) ∧
      ∃ saved mode, save fs directory (some "2.1.17") = .ok saved ∧
        saved.look (path directory)
          = .ok (.file (Text.Utf8.encode (write contents).toList) mode) ∧
        (save fs directory (some "1.12.27") >>= fun between =>
          save between directory (some "2.1.17")) = .ok saved := by
  intro text psalm fs directory place contents
  have hdirectory : fs.isDirectory directory.toString = true := by decide +kernel
  have hmade : prepare fs directory = .ok fs :=
    prepare_eq_ok_iff.mpr ⟨by decide +kernel, Files.makeDirectories_of_isDirectory hdirectory⟩
  have hlocate : fs.locate (path directory) = .ok place := by decide +kernel
  have hdecode : Text.Utf8.decode? (Text.Utf8.encode text) = some text :=
    Text.Utf8.decode?_encode text
  have hread : (document? text).map textEntries = .ok [(psalm, Json.Units.ofString "5.0")] := by
    decide +kernel
  obtain ⟨document, hdocument, hentries⟩ := Outcome.map_eq_ok_iff.mp hread
  have hstart : HoldsAt fs directory place document :=
    ⟨hlocate, .inr ⟨_, _, text, rfl, hdecode, hdocument⟩⟩
  have hcontents : update (some "2.1.17") (textEntries document) = contents := by
    rw [hentries]
    decide +kernel
  obtain ⟨saved, mode, hsave, hlook, hpair, -, -⟩ :=
    save_absorbs_earlier hmade hstart (some "2.1.17")
  rw [hcontents] at hlook
  exact ⟨hmade, ⟨document, hstart⟩, saved, mode, hsave, hlook, hpair "1.12.27"⟩

end EditorAnalysis.Project.VersionCache
