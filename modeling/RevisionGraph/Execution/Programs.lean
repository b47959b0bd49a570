import RevisionGraph.Files.Tree

/-!
# Finding programs

A program is an executable file.  `findProgram` finds it by a word: a word with a slash is a path,
any other is looked for in each directory of a search path in turn.
-/

set_option autoImplicit false

namespace RevisionGraph.Execution

/-- The variables of a process. -/
abbrev Environment := OrderedMap String String

/-- The directories in which programs are looked for. -/
def searchPath (environment : Environment) : List String :=
  match environment.find? "PATH" with
  | some path => Text.split ':' path
  | none => ["/bin", "/usr/bin"]

/-- Where a program is, or why it cannot be started: a permission that lacks somewhere along the
way counts for more than a file that lacks. -/
def findProgram (files : FileTree) (cwd : Place) (path : List String) (word : String) :
    Except FileCause Place :=
  let attempt (p : Path) : Except FileCause Place :=
    match files.find cwd p with
    | .ok (place, node) =>
      if node.content != .directory && node.isExecutable then .ok place else .error .permission
    | .error cause => .error cause
  if word.toList.contains '/' then attempt (Path.ofText word)
  else
    let tries := path.map fun directory ↦
      attempt (if word.isEmpty then Path.ofText directory else (Path.ofText directory).append word)
    match tries.find? Except.toBool with
    | some found => found
    | none =>
      let grave := tries.find? fun
        | .error .notFound | .error .notADirectory => false
        | _ => true
      match grave, tries.getLast? with
      | some failure, _ => failure
      | none, some failure => failure
      | none, none => .error .notFound

end RevisionGraph.Execution
