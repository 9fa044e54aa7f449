/-
EditorAnalysis.Proofs.Execution.StoppedOutput — what is told of a program that was stopped.

A program that came to its end is told of by `wholeText`, and one that was stopped by
`partialText`. On the bytes of a text without carriage returns the first gives that text
(`wholeText_encode`). On a part of these bytes the second gives the characters of which all
bytes are there (`prefix_partialText_iff`), so what is told of a stopped program begins what
is told of it when it is left alone.

All this holds while somebody can still write to the streams when the time is up. A program
that has closed them before and merely lives on is told of as if it had written nothing.
-/
import EditorAnalysis.Execution
import EditorAnalysis.Proofs.Text.Utf8
import Mathlib.Data.List.Infix

namespace EditorAnalysis.Text

theorem unifyNewlines_of_not_mem {cs : List Char} (h : '\r' ∉ cs) : unifyNewlines cs = cs := by
  induction cs with
  | nil => rfl
  | cons c cs ih =>
    have hc : c ≠ '\r' := fun heq => h (heq ▸ List.mem_cons_self)
    rw [unifyNewlines, ih fun hmem => h (List.mem_cons_of_mem c hmem)]
    · exact fun _ heq _ => hc heq
    · exact hc

end EditorAnalysis.Text

namespace EditorAnalysis.Host

theorem Seconds.isAfter_of_le {limit : Seconds} {earlier later : Nat} (hle : earlier ≤ later)
    (h : limit.isAfter later = true) : limit.isAfter earlier = true := by
  match limit with
  | .whole n =>
    simp only [isAfter, decide_eq_true_eq] at h ⊢
    omega
  | .real .nan => exact h
  | .real (.infinity _) => exact h
  | .real (.finite true _ _) => exact h
  | .real (.finite false mantissa exponent) =>
    rw [isAfter] at h ⊢
    split at h
    · rename_i hexponent
      rw [if_pos hexponent]
      simp only [decide_eq_true_eq] at h ⊢
      exact Nat.lt_of_le_of_lt hle h
    · rename_i hexponent
      rw [if_neg hexponent]
      simp only [decide_eq_true_eq] at h ⊢
      exact Nat.lt_of_le_of_lt (Nat.mul_le_mul_right _ hle) h

/-- What was written by the limit begins what was written in all. -/
theorem Episode.written_upTo_begins {e : Episode}
    (h : e.emissions.Pairwise fun m n => m.time ≤ n.time) (limit : Seconds)
    (streams : List Stream) : (e.upTo limit).written streams <+: e.written streams := by
  have hemissions : (e.upTo limit).emissions <+: e.emissions := by
    rw [Episode.upTo]
    dsimp only
    generalize e.emissions = ms at h
    induction h with
    | nil => exact List.prefix_rfl
    | @cons m ms hlater _ ih =>
      by_cases hm : limit.isAfter m.time = true
      · rw [List.filter_cons, if_pos hm]
        exact List.cons_prefix_cons.mpr ⟨rfl, ih⟩
      · -- nothing that comes later is in time either
        rw [List.filter_cons, if_neg hm, List.filter_eq_nil_iff.mpr fun n hn hafter =>
          hm (Seconds.isAfter_of_le (hlater n hn) hafter)]
        exact List.nil_prefix
  exact List.IsPrefix.flatMap (hemissions.filter _) _

end EditorAnalysis.Host

namespace EditorAnalysis.Execution

open Host
open Text.Utf8 (Bytes encode)

/-! ## The two texts of what was written -/

theorem wholeText_encode {text : List Char} (h : '\r' ∉ text) :
    wholeText (encode text) = String.ofList text := by
  rw [wholeText, Text.Utf8.decodeReplacing_encode, Text.unifyNewlines_of_not_mem h]

theorem partialText_begins {text : List Char} {part : Bytes} (h : part <+: encode text) :
    (partialText part).toList <+: text := by
  rw [partialText, String.toList_ofList]
  exact (Text.Utf8.decodeDropping_cut h).1

theorem prefix_partialText_iff {text : List Char} {part : Bytes} (h : part <+: encode text)
    (front : List Char) : front <+: (partialText part).toList ↔ encode front <+: part := by
  rw [partialText, String.toList_ofList]
  exact Text.Utf8.prefix_decodeDropping_iff h front

/-! ## How a program's life is told -/

/-- The streams that are kept as one of the two. -/
def Request.keptAs (r : Request) : Stream → List Stream
  | .output => if r.merge then [.output, .diagnostics] else if r.capture then [.output] else []
  | .diagnostics => if r.capture && !r.merge then [.diagnostics] else []

/-- The text of a stream, in the result of a command or in the fault that its status is. -/
def textOf (stream : Stream) : Except Fault Completed → Option String
  | .ok c =>
    match stream with
    | .output => c.output
    | .diagnostics => c.diagnostics
  | .error (.commandFailed _ _ output diagnostics) =>
    match stream with
    | .output => output
    | .diagnostics => diagnostics
  | .error _ => none

/-- The diagnostics of a stopped program end with the notice. -/
def noticed (stream : Stream) (limit : Seconds) (text : String) : String :=
  match stream with
  | .output => text
  | .diagnostics => withNotice text (timeoutNotice limit)

/-- A program is started whose life is the episode, with a limit that can be waited for. -/
def Starts (programs : Programs) (s : Surroundings) (r : Request) (e : Episode) : Prop :=
  excess? r = none ∧ ∃ command i, invocation s r = .ok (command, i) ∧
    (startFirst programs i s.tree (candidates s r i.path)).1 = .ok e

/-- The program is stopped at the limit. -/
structure Stops (programs : Programs) (s : Surroundings) (r : Request) (limit : Seconds)
    (e : Episode) : Prop where
  starts : Starts programs s r e
  limited : r.limit = some limit
  outlives : e.outlives r.listens limit = true

/-- The program comes to its end. -/
structure Ends (programs : Programs) (s : Surroundings) (r : Request) (e : Episode) : Prop where
  starts : Starts programs s r e
  inTime : ∀ limit, r.limit = some limit → e.outlives r.listens limit = false

variable {programs programs' : Programs} {s s' : Surroundings} {r r' : Request}
  {limit : Seconds} {e e' : Episode} {stream : Stream}

theorem run_of_starts (h : Starts programs s r e) :
    ∃ command, (run programs s r).1 = checked r (completed r command e) := by
  obtain ⟨hexcess, command, i, hinvocation, hstart⟩ := h
  refine ⟨command, ?_⟩
  rw [run, hinvocation]
  dsimp only
  rw [hexcess, hstart]

/-- A status that is a fault takes the texts with it. -/
theorem textOf_checked (c : Completed) :
    textOf stream (checked r c) = textOf stream (.ok c) := by
  unfold checked
  split
  · rfl
  · rfl

theorem listens_of_keptAs (h : r.keptAs stream ≠ []) : r.listens = true := by
  cases stream <;> cases hcapture : r.capture <;> cases hmerge : r.merge <;>
    simp [Request.keptAs, Request.listens, hcapture, hmerge] at h ⊢

theorem textOf_ended {command : List String} (hkept : r.keptAs stream ≠ []) :
    textOf stream (.ok (ended r command e)) = some (wholeText (e.written (r.keptAs stream))) := by
  cases stream <;> cases hcapture : r.capture <;> cases hmerge : r.merge <;>
    simp [Request.keptAs, Request.listens, textOf, ended, hcapture, hmerge] at hkept ⊢

/-- As long as the streams are open, what was written is handed over. -/
theorem textOf_stopped {command : List String} (hkept : r.keptAs stream ≠ []) :
    textOf stream (.ok (stopped r command limit e)) = some (noticed stream limit
      (if e.isOpenAt limit then partialText ((e.upTo limit).written (r.keptAs stream))
      else "")) := by
  cases stream <;> cases hcapture : r.capture <;> cases hmerge : r.merge <;>
    simp [Request.keptAs, Request.listens, textOf, stopped, noticed, hcapture, hmerge] at hkept ⊢

theorem textOf_run_of_ends (h : Ends programs s r e) (hkept : r.keptAs stream ≠ []) :
    textOf stream (run programs s r).1 = some (wholeText (e.written (r.keptAs stream))) := by
  obtain ⟨command, hrun⟩ := run_of_starts h.starts
  have hended : completed r command e = ended r command e := by
    unfold completed
    split
    · rfl
    · rename_i limit hlimit
      rw [if_neg (by simp [h.inTime limit hlimit])]
  rw [hrun, textOf_checked, hended, textOf_ended hkept]

theorem textOf_run_of_stops (h : Stops programs s r limit e) (hkept : r.keptAs stream ≠ []) :
    textOf stream (run programs s r).1 = some (noticed stream limit
      (if e.isOpenAt limit then partialText ((e.upTo limit).written (r.keptAs stream))
      else "")) := by
  obtain ⟨command, hrun⟩ := run_of_starts h.starts
  have hstopped : completed r command e = stopped r command limit e := by
    rw [completed, h.limited]
    dsimp only
    rw [if_pos h.outlives]
  rw [hrun, textOf_checked, hstopped, textOf_stopped hkept]

/-! ## Stopped and left alone -/

/-- **A stopped program is told of up to its last complete character.** A stream is kept
alike for two commands, of which one is stopped at its limit and one comes to its end. What the
second wrote is a text without carriage returns, and what the first had written by then begins
its bytes. The text of the second is told in full. What is told of the first, the notice
apart, begins it, and exactly those beginnings of a text are in it of which all bytes were
written. Where nobody can write to the streams any more when the time is up, nothing is
told of them. -/
theorem stopped_text_begins_whole_text {text : List Char} (hkept : r.keptAs stream ≠ [])
    (halike : r'.keptAs stream = r.keptAs stream) (hstops : Stops programs s r limit e)
    (hends : Ends programs' s' r' e') (hreturn : '\r' ∉ text)
    (hwhole : e'.written (r.keptAs stream) = encode text)
    (hpart : (e.upTo limit).written (r.keptAs stream) <+: encode text) :
    textOf stream (run programs' s' r').1 = some (String.ofList text) ∧
      ∃ told : String,
        textOf stream (run programs s r).1 = some (noticed stream limit told) ∧
        told.toList <+: text ∧
        (e.isOpenAt limit = true → ∀ front : List Char,
          front <+: told.toList ↔ encode front <+: (e.upTo limit).written (r.keptAs stream)) ∧
        (e.isOpenAt limit = false → told = "") := by
  constructor
  · rw [textOf_run_of_ends hends (halike ▸ hkept), halike, hwhole, wholeText_encode hreturn]
  · refine ⟨_, textOf_run_of_stops hstops hkept, ?_⟩
    cases hopen : e.isOpenAt limit with
    | true => exact ⟨partialText_begins hpart, fun _ => prefix_partialText_iff hpart, by simp⟩
    | false => exact ⟨List.nil_prefix, by simp, fun _ => rfl⟩

/-- A system with one program. -/
def systemWithTool : Surroundings :=
  { tree := ⟨[(["bin"], .directory), (["bin", "tool"], .file [] 0o755)]⟩
    directory := []
    searchPath := ["/bin"]
    environment := [] }

/-- A request that runs the program and listens to it. -/
def toolRequest (limit : Option Seconds) : Request := { command := ["tool"], capture := true, limit }

/-- A program that lives for three seconds and writes some bytes in pieces. Its streams are
closed at the given time. -/
def writingInPieces (pieces : List (Nat × Bytes)) (silence : Nat) : Episode :=
  { emissions := pieces.map fun (time, bytes) => { time, stream := .output, bytes }
    ending := .exited 0
    lifetime := some 3000000000
    silence := some silence }

theorem starts_toolRequest {limit : Option Seconds} (h : excess? (toolRequest limit) = none)
    (e : Episode) : Starts (fun _ tree => (.ok e, tree)) systemWithTool (toolRequest limit) e := by
  have hinvocation : invocation systemWithTool (toolRequest none) = .ok (["/bin/tool"],
      { path := "/bin/tool", arguments := [], directory := [], environment := [] }) := rfl
  exact ⟨h, _, _, hinvocation, rfl⟩

theorem stops_toolRequest (pieces : List (Nat × Bytes)) (silence : Nat) :
    let e := writingInPieces pieces silence
    Stops (fun _ tree => (.ok e, tree)) systemWithTool (toolRequest (some (.whole 1)))
      (.whole 1) e :=
  ⟨starts_toolRequest rfl _, rfl, rfl⟩

theorem ends_toolRequest (e : Episode) :
    Ends (fun _ tree => (.ok e, tree)) systemWithTool (toolRequest none) e :=
  ⟨starts_toolRequest rfl e, by simp [toolRequest]⟩

/-- The second of two letters takes two bytes, and the time is up between them. -/
theorem stopped_text_begins_whole_text_of_split_letter :
    let e := writingInPieces [(0, [0x68, 0xC3]), (2000000000, [0xA9])] 3000000000
    let programs : Programs := fun _ tree => (.ok e, tree)
    let r := toolRequest (some (.whole 1))
    let r' := toolRequest none
    Stops programs systemWithTool r (.whole 1) e ∧ Ends programs systemWithTool r' e ∧
      e.written (r.keptAs .output) = encode ['h', 'é'] ∧
      textOf .output (run programs systemWithTool r').1 = some "hé" ∧
      ∃ told : String, textOf .output (run programs systemWithTool r).1 = some told ∧
        told.toList <+: ['h', 'é'] ∧
        ∀ front : List Char, front <+: told.toList ↔ encode front <+: [0x68, 0xC3] := by
  intro e programs r r'
  have hstops : Stops programs systemWithTool r (.whole 1) e := stops_toolRequest _ _
  have hends : Ends programs systemWithTool r' e := ends_toolRequest e
  have halike : r'.keptAs .output = r.keptAs .output := rfl
  have hwhole : e.written (r.keptAs .output) = encode ['h', 'é'] := rfl
  have hpart := Episode.written_upTo_begins (e := e) (by decide) (.whole 1) (r.keptAs .output)
  obtain ⟨htext, told, htold, hbegins, hopen, -⟩ :=
    stopped_text_begins_whole_text (by decide) halike hstops hends (by decide) hwhole
      (hwhole ▸ hpart)
  exact ⟨hstops, hends, hwhole, htext, told, htold, hbegins, hopen (by decide)⟩

/-- A program writes a line, closes its streams and lives on. It is told of in full if it is
left alone, and as if it had written nothing if it is stopped. -/
theorem no_text_of_closed_streams :
    let e := writingInPieces [(0, encode ['h', 'i', '\n'])] 1000000
    let programs : Programs := fun _ tree => (.ok e, tree)
    let r := toolRequest (some (.whole 1))
    let r' := toolRequest none
    Stops programs systemWithTool r (.whole 1) e ∧ Ends programs systemWithTool r' e ∧
      (e.upTo (.whole 1)).written (r.keptAs .output) = encode ['h', 'i', '\n'] ∧
      textOf .output (run programs systemWithTool r').1 = some "hi\n" ∧
      textOf .output (run programs systemWithTool r).1 = some "" := by
  intro e programs r r'
  have hstops : Stops programs systemWithTool r (.whole 1) e := stops_toolRequest _ _
  have hends : Ends programs systemWithTool r' e := ends_toolRequest e
  have hwritten : e.written (r'.keptAs .output) = encode ['h', 'i', '\n'] := rfl
  refine ⟨hstops, hends, rfl, ?_, textOf_run_of_stops hstops (by decide)⟩
  rw [textOf_run_of_ends hends (by decide), hwritten, wholeText_encode (by decide)]

end EditorAnalysis.Execution
