/-
EditorAnalysis.Session — what an editor does with one settings object over time.

A session holds the settings, two registries of buffers, its own and a shared
one, and the world in which detectors work. Each step is answered and leaves a
new session.
-/
import EditorAnalysis.Command
import EditorAnalysis.Message

namespace EditorAnalysis

/-- What a session holds. -/
structure Session (σ : Type) where
  /-- The settings. -/
  settings : Settings
  /-- The world in which detectors work. -/
  world : σ
  /-- The session's own registry. -/
  own : Registry := .empty
  /-- The registry that all requests share unless they name another. -/
  shared : Registry := .empty

namespace Session

/-- What an editor may ask of a session. -/
inductive Step where
  /-- The options that every command begins with. -/
  | sharedOptions
  /-- The tool's version. -/
  | resolveVersion
  /-- The command that analyses paths. -/
  | batch (paths : List (Option String))
  /-- The command that analyses a buffer. -/
  | live (copy file : Option String)
  /-- What a batch command should analyse. -/
  | targets (file root : Option String) (sources : List String)
  /-- The command for a request, with one of the registries. -/
  | request (request : Command.Request) (useShared : Bool)
  /-- Registers a file in one of the registries. -/
  | register (registration : Registry.Registration) (useShared : Bool)
  /-- Assigns to a setting. -/
  | assign (name : String) (value : Datum)
  /-- Judges the message of a tool check. -/
  | validate (message : String)

/-- How a step is answered. -/
inductive Answer where
  | words (words : List String)
  | version (version : Option String)
  | targets (paths : List (Option String))
  | count (n : Nat)
  | verdict (verdict : Message.Verdict)
  | assigned
  | refused (fault : Fault)

variable {σ : Type}

/-- The session as work in progress. -/
def progress (s : Session σ) : Command.Progress σ := ⟨s.settings, s.world, []⟩

/-- The session after work. -/
def after (s : Session σ) (p : Command.Progress σ) : Session σ :=
  { s with settings := p.settings, world := p.world }

/-- One of the two registries. -/
def registry (s : Session σ) (useShared : Bool) : Registry :=
  if useShared then s.shared else s.own

/-- Replaces one of the two registries. -/
def withRegistry (s : Session σ) (useShared : Bool) (r : Registry) : Session σ :=
  if useShared then { s with shared := r } else { s with own := r }

/-- Answers a step, tells the journal, and leaves a new session. Requests are
answered with the detector that runs the tool, all other steps with the given
one. -/
def perform (detector running : Detector σ) (map : String → String) (s : Session σ) :
    Step → Answer × List Journal.Entry × Session σ
  | .sharedOptions => (.words (Command.shared s.settings map), [], s)
  | .resolveVersion =>
    let (version, p) := Command.resolveVersion detector s.progress
    (.version version, p.journal, s.after p)
  | .batch paths => (.words (Command.batch s.settings map paths), [], s)
  | .live copy file =>
    let (command, p) := Command.live detector map copy file s.progress
    (.words command, p.journal, s.after p)
  | .targets file root sources =>
    (.targets (Command.targets s.settings file root sources), [], s)
  | .request request useShared =>
    let (command, p) :=
      Command.ofRequest running map (s.registry useShared) request s.progress
    (.words command, p.journal, s.after p)
  | .register registration useShared =>
    let r := (s.registry useShared).register registration
    (.count r.size, Registry.registered registration, s.withRegistry useShared r)
  | .assign name value =>
    match s.settings.assignNamed name value with
    | .ok settings => (.assigned, [], { s with settings })
    | .error fault => (.refused fault, [], s)
  | .validate message =>
    let (verdict, settings) := Message.validate message s.settings
    (.verdict verdict, [], { s with settings })

end Session

end EditorAnalysis
