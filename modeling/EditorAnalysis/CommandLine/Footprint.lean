/-
EditorAnalysis.CommandLine.Footprint — the files that a request concerns.

Which files a run reads is known before it: those of the project's configuration, that
of the version cache, and then, when the settings are known, those that the tool may
stand in.
-/
import EditorAnalysis.CommandLine.Run

namespace EditorAnalysis.CommandLine

open Host

namespace Request

/-- The root of the project that a request concerns. -/
def root? : Request → Option String
  | settings root _ => some root
  | live choices .. => some choices.root
  | batch choices .. => some choices.root
  | version .. => none
  | supports _ => none

/-- The directory of the version cache that a request concerns. -/
def cache? : Request → Option String
  | settings _ cache => cache
  | version _ cache => cache
  | live _ _ _ _ cache => cache
  | batch .. => none
  | supports _ => none

/-- The files of a project's configuration. -/
def configurationFiles (root : Path.Pure) : List String :=
  [(root.child Project.Configuration.projectFile).toString,
    (root.child Project.Configuration.ownFile).toString]

/-- The files that a request reads or writes itself. -/
def files (s : Surroundings) (r : Request) : List String :=
  (r.root?.toList.flatMap fun root => configurationFiles (s.resolve (Path.Pure.ofString root)))
    ++ r.cache?.toList.map fun directory =>
      Project.VersionCache.path (Path.Pure.ofString directory)

/-- The tool that a request may run. -/
def tool? (s : Surroundings) : Request → Option String
  | version tool _ => some tool
  | live choices _ _ _ cache =>
    match load s choices.root cache choices.overrides with
    | .ok found => Text.given? (some found.toolPath)
    | .error _ => none
  | _ => none

/-- The files that the tool of a request may stand in. -/
def toolFiles (s : Surroundings) (r : Request) : List String :=
  match r.tool? s with
  | none => []
  | some tool =>
    if Execution.namesPath tool then [tool]
    else s.searchPath.map fun directory => Execution.nameIn directory tool

end Request

/-- The files of a tree that another does not have, or has with another content. -/
def changes (before after : Tree) : List (Place × Text.Utf8.Bytes) :=
  after.nodes.filterMap fun (place, node) =>
    match node with
    | .file content _ =>
      match before.get? place with
      | some (.file old _) => if old = content then none else some (place, content)
      | _ => some (place, content)
    | _ => none

end EditorAnalysis.CommandLine
