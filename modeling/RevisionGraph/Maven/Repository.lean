import RevisionGraph.Files.Tree
import RevisionGraph.Maven.Coordinate

/-!
# Local repositories

A local repository holds artifacts that were fetched before.  The parts of the group are
directories, then come artifact and version, and the file is named for both.  Who looks for it may
enter every directory, as in all `FileTree`s.
-/

set_option autoImplicit false

namespace RevisionGraph

/-- A local repository at a path. -/
structure Repository where
  root : Path
  deriving DecidableEq, Repr

namespace Repository

/-- The repository at a path that may start with a tilde. -/
def ofText (home : String → Option String) (root : String) : Result Repository := do
  return ⟨← (Path.ofText root).expandHome home⟩

/-- Where the artifact of a coordinate is. -/
def artifactPath (r : Repository) (c : Coordinate) : Path :=
  let group := (Text.split '.' c.groupId).foldl Path.append r.root
  ((group.append c.artifactId).append c.version).append
    (c.artifactId ++ "-" ++ c.version ++ ".jar")

/-- The path of the artifact, if there is a file. -/
def resolve (r : Repository) (files : FileTree) (cwd : Place) (c : Coordinate) : Result Path :=
  let path := r.artifactPath c
  let missing := .error (.analysis (.artifactMissing c.text path.toText))
  if path.hasNul then missing
  else match files.find cwd path with
    | .ok (_, ⟨.file _, _, _⟩) => .ok path
    | .error .nameTooLong => .error (.file ⟨.nameTooLong, path.toText⟩)
    | _ => missing

end Repository

end RevisionGraph
