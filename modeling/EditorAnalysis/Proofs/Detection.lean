/-
EditorAnalysis.Proofs.Detection — what a detector that runs the tool answers, and the world
that it leaves.

A tool that ends well with an output answers with the version in it
(`version_running_of_run`), and whatever is answered stood in some output
(`exists_extract?_of_version_running`). The files are afterwards as the tool left them: a
tool that touches no file when it is asked (`LeavesFiles`) leaves all surroundings as they
were (`world_running`).
-/
import EditorAnalysis.Detection
import EditorAnalysis.Proofs.Execution
import EditorAnalysis.Proofs.Outcome
import EditorAnalysis.Proofs.Version.Extract

namespace EditorAnalysis.Detection

open Host

variable {programs : Programs} {tool : String} {s : Surroundings}

/-! ## Answers -/

/-- A detector judges what came of running the tool, unless the limit is at fault, and then
it has found out nothing. -/
theorem running_cases (programs : Programs) (tool : String) (s : Surroundings) :
    let outcome := Execution.run programs s (request tool defaultLimit)
    ((running programs tool s).version = (judge defaultLimit outcome.1).1 ∧
        (running programs tool s).world = outcome.2) ∨
      ((running programs tool s).version = none ∧ (running programs tool s).world = s) := by
  intro outcome
  unfold running
  split
  · rename_i finding hdetect
    unfold detect at hdetect
    dsimp only at hdetect
    left
    split at hdetect
    · split at hdetect
      · cases hdetect
      · obtain rfl := Except.ok.inj hdetect
        exact ⟨rfl, rfl⟩
    · obtain rfl := Except.ok.inj hdetect
      exact ⟨rfl, rfl⟩
  · exact .inr ⟨rfl, rfl⟩

theorem version_running_of_run {completed : Execution.Completed}
    (hrun : (Execution.run programs s (request tool defaultLimit)).1 = .ok completed) :
    (running programs tool s).version = (judge defaultLimit (.ok completed)).1 := by
  unfold running
  split
  · rename_i finding hdetect
    unfold detect at hdetect
    simp only [hrun] at hdetect
    obtain rfl := Except.ok.inj hdetect
    rfl
  · rename_i hdetect
    unfold detect at hdetect
    simp only [hrun] at hdetect
    cases hdetect

theorem judge_of_success {limit : Seconds} {completed : Execution.Completed}
    (htime : completed.stoppedAt = none) (hstatus : completed.status = 0) :
    (judge limit (.ok completed)).1 = Version.extract? (completed.output.getD "") := by
  simp only [judge, htime, hstatus]
  cases Version.extract? (completed.output.getD "") <;> rfl

theorem exists_extract?_of_judge {limit : Seconds}
    {result : Except Fault Execution.Completed} {version : String}
    (h : (judge limit result).1 = some version) :
    ∃ output, Version.extract? output = some version := by
  cases result with
  | error fault => cases h
  | ok completed =>
    unfold judge at h
    dsimp only at h
    split at h
    · cases h
    · split at h
      · cases h
      · split at h
        · cases h
        · rename_i found hfound
          obtain rfl := Option.some.inj h
          exact ⟨_, hfound⟩

/-- Whatever is answered was found in an output. -/
theorem exists_extract?_of_version_running {version : String}
    (h : (running programs tool s).version = some version) :
    ∃ output, Version.extract? output = some version := by
  rcases running_cases programs tool s with ⟨hversion, -⟩ | ⟨hversion, -⟩
  · rw [hversion] at h
    exact exists_extract?_of_judge h
  · rw [hversion] at h
    cases h

/-- An answer is not blank. -/
theorem not_isBlankText_of_version_running {version : String}
    (h : (running programs tool s).version = some version) :
    Text.isBlankText version = false := by
  obtain ⟨output, hextract⟩ := exists_extract?_of_version_running h
  exact Version.not_isBlankText_of_extract? hextract

/-! ## The world afterwards -/

/-- No program touches a file when it is asked for its version. -/
def LeavesFiles (programs : Programs) : Prop :=
  ∀ i tree, i.arguments = [versionOption] → (programs i tree).2 = tree

theorem arguments_of_invocation {limit : Seconds} {command : List String} {i : Invocation}
    (h : Execution.invocation s (request tool limit) = .ok (command, i)) :
    i.arguments = [versionOption] := by
  obtain ⟨hresolve, -, harguments, -⟩ := Execution.invocation_eq_ok h
  obtain ⟨path, -, rfl⟩ := Outcome.map_eq_ok_iff.mp hresolve
  exact harguments

theorem run_request_world (hquiet : LeavesFiles programs) (limit : Seconds) :
    (Execution.run programs s (request tool limit)).2 = s := by
  unfold Execution.run
  split
  · rfl
  · rename_i command i hinvocation
    have harguments := arguments_of_invocation hinvocation
    have hcandidate : ∀ path, (programs { i with path } s.tree).2 = s.tree := fun path =>
      hquiet { i with path } s.tree harguments
    have htree := Execution.tree_startFirst hcandidate
      (Execution.candidates s (request tool limit) i.path)
    generalize Execution.startFirst programs i s.tree _ = answer at htree
    obtain ⟨result, tree⟩ := answer
    obtain rfl : tree = s.tree := htree
    cases result with
    | error reason => rfl
    | ok episode => cases Execution.excess? (request tool limit) <;> rfl

/-- Asking a tool that touches no file changes nothing. -/
theorem world_running (hquiet : LeavesFiles programs) (tool : String) (s : Surroundings) :
    (running programs tool s).world = s := by
  rcases running_cases programs tool s with ⟨-, hworld⟩ | ⟨-, hworld⟩
  · rw [hworld]
    exact run_request_world hquiet defaultLimit
  · exact hworld

/-! ## A tool that prints a text -/

/-- Programs that print a text at once, end well and touch no file. -/
def printing (text : String) : Programs := fun _ tree =>
  (.ok { emissions := [⟨0, .output, Text.Utf8.encode text.toList⟩]
         ending := .exited 0
         lifetime := some 0
         silence := some 0 }, tree)

theorem leavesFiles_printing (text : String) : LeavesFiles (printing text) := fun _ _ _ => rfl

end EditorAnalysis.Detection
