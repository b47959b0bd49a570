import RevisionGraph.Simulation.Shell.State

/-!
# Redirections

A redirection whose target is known is an `Aim`: a file, another descriptor or a text.  `redirect`
makes it, and `Aside` remembers what was on the descriptors before, so that `restore` can bring it
back.
-/

set_option autoImplicit false

namespace RevisionGraph.Shell

open RevisionGraph.System
open ShellM

/-- What a descriptor is to stand for. -/
inductive Aim where
  | file (kind : RedirectKind) (path : String)
  /-- the same as another descriptor, or nothing -/
  | descriptor (other : Option Nat)
  | document (text : String)

/-- What was on descriptors before redirections: each with the number under which it is kept, or
with none where there was nothing. -/
abbrev Aside := List (Nat × Option Nat)

/-- Why a file cannot be opened, in the words of a shell. -/
def openReason (creating : Bool) : FileCause → String
  | .notFound | .notADirectory => if creating then "Directory nonexistent" else "No such file"
  | cause => cause.errno.2

/-- Opens a file for writing where a switch keeps the files that are there. -/
def openGuarded (path : String) : ShellM (Attempt Nat) := do
  match ← ask (.look path true) with
  | .ok look =>
    if look.kind = .file then return .error .alreadyExists
    ask (.openFile path { access := .writing })
  | .error _ => ask (.openFile path { access := .writing, create := true, exclusive := true })

/-- Opens a file as a redirection asks for. -/
def openFor (kind : RedirectKind) (path : String) : ShellM Nat := do
  let (creating, opened) : Bool × Attempt Nat ← match kind with
    | .read => do pure (false, ← ask (.openFile path .toRead))
    | .append => do
      pure (true, ← ask (.openFile path { access := .writing, create := true, append := true }))
    | .both => do pure (true, ← ask (.openFile path { access := .both, create := true }))
    | .write => do
      if ← isOn 'C' then pure (true, ← openGuarded path)
      else pure (true, ← ask (.openFile path .anew))
    | _ => do pure (true, ← ask (.openFile path .anew))
  match opened with
  | .ok fd => return fd
  | .error cause =>
    let verb := if creating then "create" else "open"
    abort s!"cannot {verb} {path}: {openReason creating cause}"

/-- How much of a text goes into a pipe without anybody reading it. -/
def pipeEase : Nat := 4096

/-- A descriptor from which a text can be read. -/
def openDocument (text : String) : ShellM Nat := do
  let (reader, writer) ← ask .pipe
  let bytes := Text.Octets.toBytes text
  if bytes.length ≤ pipeEase then
    let _ ← ask (.write writer bytes)
  else
    let writing : Act Nat := do
      let _ ← Act.ask (.close reader)
      let _ ← Act.ask (.write writer bytes)
      return 0
    let _ ← act (Act.fork writing)
  let _ ← ask (.close writer)
  return reader

/-- Sets aside what is on a descriptor, once. -/
def setAside (aside : Aside) (fd : Nat) : ShellM Aside := do
  if aside.any (·.1 == fd) then return aside
  match ← ask (.keep fd 10) with
  | .ok kept => return (fd, some kept) :: aside
  | .error _ => return (fd, none) :: aside

/-- Makes what a descriptor stands for stand on another one alone. -/
def moveTo (source fd : Nat) : ShellM Unit := do
  if source != fd then
    let _ ← ask (.duplicate source fd)
    let _ ← ask (.close source)

/-- Makes one redirection; with `keeping` what was there before is set aside. -/
def redirect (keeping : Bool) (aside : Aside) (fd : Nat) (aim : Aim) : ShellM Aside := do
  let save : ShellM Aside := if keeping then setAside aside fd else return aside
  match aim with
  | .file kind path =>
    let opened ← openFor kind path
    -- the new descriptor may be the one that is redirected, which then was free
    if opened = fd then return if aside.any (·.1 == fd) || !keeping then aside else (fd, none) :: aside
    let aside ← save
    moveTo opened fd
    return aside
  | .document text =>
    let opened ← openDocument text
    if opened = fd then return if aside.any (·.1 == fd) || !keeping then aside else (fd, none) :: aside
    let aside ← save
    moveTo opened fd
    return aside
  | .descriptor none =>
    let aside ← save
    let _ ← ask (.close fd)
    return aside
  | .descriptor (some other) =>
    if other = fd then return aside
    let aside ← save
    match ← ask (.duplicate other fd) with
    | .ok () => return aside
    | .error cause => abort s!"{other}: {cause.errno.2}"

/-- Makes redirections one after another.  The answer says whether all were possible; what the
others have set aside is known in any case. -/
def redirectAll (keeping : Bool) (aims : List (Nat × Aim)) : ShellM (Aside × Bool) := do
  let step (done : Aside × Bool) (r : Nat × Aim) : ShellM (Aside × Bool) := do
    if !done.2 then return done
    match ← outcome (redirect keeping done.1 r.1 r.2) with
    | .ok aside => return (aside, true)
    | .error .fault => return (done.1, false)
    | .error b => throw b
  aims.foldlM step ([], true)

/-- Brings back what was set aside, or only forgets it. -/
def restore (forget : Bool) (aside : Aside) : ShellM Unit :=
  aside.forM fun (fd, kept) ↦ do
    match kept with
    | some kept =>
      if !forget then
        let _ ← ask (.duplicate kept fd)
      let _ ← ask (.close kept)
    | none =>
      if !forget then
        let _ ← ask (.close fd)

end RevisionGraph.Shell
