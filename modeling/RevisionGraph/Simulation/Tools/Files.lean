import RevisionGraph.Simulation.Calendar.Reader
import RevisionGraph.Simulation.Files.Rights
import RevisionGraph.Simulation.Tools.Options

/-!
# Tools that change files

`cp`, `mv`, `ln` and `rm` work on files and what stands below directories; `mkdir`, `rmdir`,
`touch`, `chmod`, `mkfifo`, `mktemp` and `truncate` change one place at a time.

Steps tell by a truth value whether they did what was asked of them.
-/

set_option autoImplicit false

namespace RevisionGraph.Tools

open RevisionGraph.System ToolM

/-- More levels of directories than any path has. -/
def depthBound : Nat := 2100

/-- Says why a step cannot be taken. -/
def refuse (why : String) : ToolM Bool := do
  flush
  complain why
  return false

/-- Says what was done, if that is asked for. -/
def report (wanted : Bool) (text : String) : ToolM Unit := do
  if wanted then printLine text

/-- Says that a source or a target lacks. -/
def lackingFile (operands : List String) : ToolM Unit := do
  match operands with
  | [] => misuse 1 "missing file operand"
  | [first] => misuse 1 s!"missing destination file operand after '{first}'"
  | _ => return

/-- The names in a directory, in their order. -/
def namesIn (path : String) : ToolM (List String) := do
  match ← ask (.list path) with
  | .ok names => return names
  | .error _ => return []

/-- Runs a step on each source and where it goes: into a directory, or in place of what the target
is. -/
def onSources (given : Given) (operands : List String) (step : String → String → ToolM Bool) :
    ToolM Nat := do
  let into (directory : String) (sources : List String) : ToolM Nat :=
    onEach sources fun source ↦ step source (within directory (baseName source))
  match given.value? 't' with
  | some directory =>
    if operands.isEmpty then misuse 1 "missing file operand"
    match ← look directory true with
    | .ok l =>
      if l.kind == .directory then into directory operands
      else abort 1 s!"target directory '{directory}': {reason .notADirectory}"
    | .error cause => abort 1 s!"target directory '{directory}': {reason cause}"
  | none =>
    lackingFile operands
    let target := operands.getLastD ""
    let sources := operands.dropLast
    if given.has 'T' then
      match sources with
      | [source] => onEach [source] fun source ↦ step source target
      | _ =>
        let extra := operands.getD 2 ""
        misuse 1 s!"extra operand '{extra}'"
    else
      match ← look target true, sources with
      | .ok l, _ =>
        if l.kind == .directory then into target sources
        else if 1 < sources.length then abort 1 s!"target '{target}': {reason .notADirectory}"
        else onEach sources fun source ↦ step source target
      | .error cause, _ :: _ :: _ => abort 1 s!"target '{target}': {reason cause}"
      | .error _, _ => onEach sources fun source ↦ step source target

/-! ## Copying -/

/-- How files are copied. -/
structure Copying where
  recursive : Bool := false
  /-- symbolic links are copied as such -/
  links : Bool := false
  force : Bool := false
  keepOld : Bool := false
  onlyNewer : Bool := false
  verbose : Bool := false
  /-- rights and times are copied, too -/
  faithful : Bool := false
  /-- names are given instead of copies: `l` hard ones, `s` symbolic ones -/
  naming : Option Char := none

/-- Copies the content of one file to another. -/
def copyContent (c : Copying) (source target : String) (from_ : Look) : ToolM Bool := do
  match ← ask (.openFile source .toRead) with
  | .error cause => refuse s!"cannot open '{source}' for reading: {reason cause}"
  | .ok input =>
    let isNew := !(← look target true).toBool
    let opened ← ask (.openFile target .anew)
    let opened ← match opened with
      | .error _ =>
        if c.force && !isNew then
          let _ ← ask (.remove target)
          ask (.openFile target .anew)
        else pure opened
      | .ok _ => pure opened
    match opened with
    | .error cause =>
      let _ ← ask (.close input)
      let cause := if isNew && target.endsWith "/" && cause = .isADirectory then
        FileCause.notADirectory else cause
      refuse s!"cannot create regular file '{target}': {reason cause}"
    | .ok output =>
      let copied ← eachChunk input (none : Option FileCause) fun _ bytes ↦ do
        match ← ask (.write output bytes) with
        | .ok () => return (none, true)
        | .error cause => return (some cause, false)
      let _ ← ask (.close input)
      let _ ← ask (.close output)
      if isNew || c.faithful then
        let mask ← ask (.mask none)
        let rights := if c.faithful then from_.rights else Rights.without from_.rights mask
        let _ ← ask (.setRights target rights)
      if c.faithful then
        let _ ← ask (.setTime target (some from_.time))
      match copied with
      | .ok none => return true
      | .ok (some cause) => refuse s!"error writing '{target}': {reason cause}"
      | .error cause => refuse s!"error reading '{source}': {reason cause}"

/-- Copies what is at a path; the bound is on the depth of directories. -/
def copyFor (c : Copying) : Nat → (source target : String) → ToolM Bool
  | 0, _, _ => return false
  | n + 1, source, target => do
    match ← look source (!c.links) with
    | .error cause => refuse s!"cannot stat '{source}': {reason cause}"
    | .ok s =>
      if s.kind == .directory && !c.recursive then
        return ← refuse s!"-r not specified; omitting directory '{source}'"
      let old ← look target true
      let oldSelf ← look target false
      if let (.error cause, true) := (old, target.endsWith "/" && s.kind != .directory) then
        if cause = .notADirectory then
          return ← refuse s!"cannot stat '{target}': {reason cause}"
      if let .ok o := old then
        if o.number = s.number && s.kind != .directory && c.naming.isNone then
          return ← refuse s!"'{source}' and '{target}' are the same file"
        if c.keepOld then return true
        if c.onlyNewer && s.time ≤ o.time then return true
        if s.kind == .directory && o.kind != .directory then
          return ← refuse s!"cannot overwrite non-directory '{target}' with directory '{source}'"
        if s.kind != .directory && o.kind == .directory then
          return ← refuse s!"cannot overwrite directory '{target}' with non-directory"
      else if oldSelf.toBool && s.kind == .file && c.naming.isNone then
        return ← refuse s!"not writing through dangling symlink '{target}'"
      match s.kind, c.naming with
      | .directory, _ =>
        -- a directory cannot stand below itself
        let ups ← iterateFor depthBound (directoryName (withoutSlashes target), false)
          fun (up, found) ↦ do
            match ← look up true with
            | .ok l =>
              if l.number = s.number then return ((up, true), false)
              return ((within up "..", found), l.number ≠ FileTree.rootNumber)
            | .error _ => return ((up, found), false)
        if ups.2 then
          return ← refuse s!"cannot copy a directory, '{source}', into itself, '{target}'"
        if !old.toBool then
          match ← ask (.makeDirectory target 0o777) with
          | .ok () => report c.verbose s!"'{source}' -> '{target}'"
          | .error cause =>
            return ← refuse s!"cannot create directory '{target}': {reason cause}"
        let inner := { c with links := c.links || c.recursive }
        let good ← (← namesIn source).foldlM (fun good name ↦ do
          let fine ← copyFor inner n (within source name) (within target name)
          return good && fine) true
        let mask ← ask (.mask none)
        if !old.toBool || c.faithful then
          let _ ← ask (.setRights target
            (if c.faithful then s.rights else Rights.without s.rights mask))
        if c.faithful then
          let _ ← ask (.setTime target (some s.time))
        return good
      | _, some letter =>
        if c.force then
          let _ ← ask (.remove target)
        let made ← if letter = 's' then ask (.makeLink source target)
          else ask (.addName source target)
        match made with
        | .ok () =>
          report c.verbose s!"'{source}' -> '{target}'"
          return true
        | .error cause =>
          let kind := if letter = 's' then "symbolic" else "hard"
          refuse s!"cannot create {kind} link '{target}' to '{source}': {reason cause}"
      | .link, none =>
        match ← ask (.readLink source) with
        | .error cause => refuse s!"cannot read symbolic link '{source}': {reason cause}"
        | .ok text =>
          if oldSelf.toBool then
            let _ ← ask (.remove target)
          match ← ask (.makeLink text target) with
          | .ok () =>
            report c.verbose s!"'{source}' -> '{target}'"
            return true
          | .error cause => refuse s!"cannot create symbolic link '{target}': {reason cause}"
      | .pipe, none =>
        if !c.recursive then copyContent c source target s
        else match ← ask (.makePipe target s.rights) with
          | .ok () => return true
          | .error cause => refuse s!"cannot create fifo '{target}': {reason cause}"
      | _, none =>
        report c.verbose s!"'{source}' -> '{target}'"
        copyContent c source target s

/-- Copies files. -/
def cp : Tool := do
  let table := OptionTable.make "abdfHiLlnPprRst:TuvxZ" [("archive", 'a'), ("force", 'f'),
    ("interactive", 'i'), ("link", 'l'), ("dereference", 'L'), ("no-clobber", 'n'),
    ("no-dereference", 'P'), ("preserve", 'p'), ("recursive", 'r'), ("symbolic-link", 's'),
    ("target-directory", 't'), ("no-target-directory", 'T'), ("update", 'u'), ("verbose", 'v')] true
  let (given, operands) ← options table 1
  let any (letters : String) : Bool := letters.toList.any given.has
  let c : Copying := {
    recursive := any "arR", links := any "adP" || (any "rR" && !any "LH")
    force := any "f", keepOld := given.lastOf ['n', 'i', 'f'] == some 'n', onlyNewer := any "u"
    verbose := any "v", faithful := any "ap", naming := given.lastOf ['l', 's'] }
  onSources given operands (copyFor c depthBound)

/-! ## Moving -/

/-- Moves one file. -/
def moveOne (given : Given) (source target : String) : ToolM Bool := do
  match ← look source false with
  | .error cause => refuse s!"cannot stat '{source}': {reason cause}"
  | .ok s =>
    if let .ok o ← look target false then
      if o.number = s.number && s.kind != .directory then
        return ← refuse s!"'{source}' and '{target}' are the same file"
      match given.lastOf ['n', 'i', 'f'] with
      | some 'n' => return true
      | _ => pure ()
      if given.has 'u' && s.time ≤ o.time then return true
      if s.kind == .directory && o.kind != .directory then
        return ← refuse s!"cannot overwrite non-directory '{target}' with directory '{source}'"
      if s.kind != .directory && o.kind == .directory then
        return ← refuse s!"cannot overwrite directory '{target}' with non-directory"
    match ← ask (.rename source target) with
    | .ok () =>
      report (given.has 'v') s!"renamed '{source}' -> '{target}'"
      return true
    | .error .invalid => refuse s!"cannot move '{source}' to a subdirectory of itself, '{target}'"
    | .error .notEmpty => refuse s!"cannot overwrite '{target}': {reason .notEmpty}"
    | .error cause => refuse s!"cannot move '{source}' to '{target}': {reason cause}"

/-- Moves files. -/
def mv : Tool := do
  let table := OptionTable.make "bfint:TuvZ" [("force", 'f'), ("interactive", 'i'),
    ("no-clobber", 'n'), ("target-directory", 't'), ("no-target-directory", 'T'), ("update", 'u'),
    ("verbose", 'v')] true
  let (given, operands) ← options table 1
  onSources given operands (moveOne given)

/-! ## Names for files -/

/-- Links one file. -/
def linkOne (given : Given) (source target : String) : ToolM Bool := do
  let symbolic := given.has 's'
  let kind := if symbolic then "symbolic" else "hard"
  if !symbolic then
    match ← look source (given.has 'L') with
    | .error cause => return ← refuse s!"failed to access '{source}': {reason cause}"
    | .ok s =>
      if s.kind == .directory then
        return ← refuse s!"{source}: hard link not allowed for directory"
      if given.has 'f' then
        if let .ok o ← look target false then
          if o.number = s.number then
            return ← refuse s!"'{source}' and '{target}' are the same file"
  if given.has 'f' then
    if let .ok o ← look target false then
      if o.kind == .directory then
        return ← refuse s!"{target}: cannot overwrite directory"
      let _ ← ask (.remove target)
  let made ← if symbolic then ask (.makeLink source target) else ask (.addName source target)
  match made with
  | .ok () =>
    let arrow := if symbolic then "->" else "=>"
    report (given.has 'v') s!"'{target}' {arrow} '{source}'"
    return true
  | .error cause =>
    let direction := if symbolic && (cause = .nameTooLong || source.isEmpty) then s!" -> '{source}'"
      else if !symbolic && cause ≠ .alreadyExists then s!" => '{source}'" else ""
    refuse s!"failed to create {kind} link '{target}'{direction}: {reason cause}"

/-- Links files. -/
def ln : Tool := do
  let table := OptionTable.make "bdfiLnPrst:Tv" [("force", 'f'), ("logical", 'L'),
    ("no-dereference", 'n'), ("symbolic", 's'), ("target-directory", 't'),
    ("no-target-directory", 'T'), ("verbose", 'v')] true
  let (given, operands) ← options table 1
  match operands, given.has 't' with
  | [], false => misuse 1 "missing file operand"
  | [source], false => onEach [source] fun source ↦ linkOne given source (baseName source)
  | operands, _ =>
    -- a link to a directory may stand for the place of the new name itself
    let target := operands.getLastD ""
    let own := match ← look target false with
      | .ok l => given.has 'n' && l.kind == .link
      | .error _ => false
    let given' := if own && !given.has 't' then ('T', none) :: given else given
    onSources given' operands (linkOne given)

/-! ## Removing -/

/-- How files are removed. -/
structure Removing where
  quiet : Bool
  recursive : Bool
  emptyToo : Bool
  verbose : Bool

/-- Removes what is at a path; the bound is on the depth of directories. -/
def removeFor (r : Removing) : Nat → String → ToolM Bool
  | 0, _ => return false
  | n + 1, path => do
    let cannot (cause : FileCause) : ToolM Bool :=
      refuse s!"cannot remove '{path}': {reason cause}"
    match ← look path false with
    | .error cause =>
      if r.quiet && (cause = .notFound || cause = .notADirectory) then return true
      cannot cause
    | .ok l =>
      if l.kind == .directory then
        if !r.recursive && !r.emptyToo then return ← cannot .isADirectory
        let inside ← if r.recursive then namesIn path else pure []
        let good ← inside.foldlM (fun good name ↦ do
          let fine ← removeFor r n (within path name)
          return good && fine) true
        if !good then return false
        match ← ask (.removeDirectory path) with
        | .ok () =>
          report r.verbose s!"removed directory '{path}'"
          return true
        | .error cause => cannot cause
      else match ← ask (.remove path) with
        | .ok () =>
          report r.verbose s!"removed '{path}'"
          return true
        | .error cause => cannot cause

/-- Gives a file another name, by hard means. -/
def link : Tool := do
  let (_, operands) ← options (OptionTable.make "" [] true) 1
  match operands with
  | [] => misuse 1 "missing operand"
  | [first] => misuse 1 s!"missing operand after ‘{first}’"
  | [path, other] =>
    match ← ask (.addName path other) with
    | .ok () => return 0
    | .error cause => abort 1 s!"cannot create link '{other}' to '{path}': {reason cause}"
  | _ :: _ :: extra :: _ => misuse 1 s!"extra operand ‘{extra}’"

/-- Takes one name away. -/
def unlink : Tool := do
  let (_, operands) ← options (OptionTable.make "" [] true) 1
  match operands with
  | [] => misuse 1 "missing operand"
  | [path] =>
    match ← ask (.remove path) with
    | .ok () => return 0
    | .error cause => abort 1 s!"cannot unlink '{path}': {reason cause}"
  | _ :: extra :: _ => misuse 1 s!"extra operand ‘{extra}’"

/-- Writes back what is held, which is nothing. -/
def sync : Tool := do
  let (_, operands) ← options (OptionTable.make "df" [("data", 'd'), ("file-system", 'f')] true) 1
  onEach operands fun path ↦ do
    match ← look path true with
    | .ok _ => return true
    | .error cause => refuse s!"error opening '{path}': {reason cause}"

/-- Removes files. -/
def rm : Tool := do
  let table := OptionTable.make "dfiIrRv" [("dir", 'd'), ("force", 'f'), ("recursive", 'r'),
    ("verbose", 'v'), ("one-file-system", 'x'), ("preserve-root", 'p'),
    ("no-preserve-root", 'q')] true
  let (given, operands) ← options table 1
  let recursive := given.has 'r' || given.has 'R'
  if operands.isEmpty then
    if given.has 'f' then return 0
    misuse 1 "missing operand"
  let r : Removing := {
    quiet := given.has 'f', recursive, emptyToo := given.has 'd', verbose := given.has 'v' }
  onEach operands fun path ↦ do
    if recursive && ["/", ".", ".."].contains (baseName path) then
      if baseName path = "/" then
        complain "it is dangerous to operate recursively on '/'"
        return ← refuse "use --no-preserve-root to override this failsafe"
      return ← refuse s!"refusing to remove '.' or '..' directory: skipping '{path}'"
    removeFor r depthBound path

/-! ## Directories -/

/-- The rights that an option asks for. -/
def rightsOption (given : Given) (start : Nat) : ToolM (Option Nat) := do
  match given.value? 'm' with
  | none => return none
  | some clauses =>
    let mask ← ask (.mask none)
    match ({ allowed := Rights.without 0o777 mask } : Rights.Change).result? start clauses with
    | some rights => return some rights
    | none => abort 1 s!"invalid mode ‘{clauses}’"

/-- The paths on the way to a path, which is the last of them. -/
def pathsTo (path : String) : List String :=
  let bare := withoutSlashes path
  let ends := bare.toList.zipIdx.filterMap fun (c, k) ↦
    if c = '/' && 0 < k && bare.toList[k - 1]? != some '/' then some k else none
  ends.map (fun k ↦ String.ofList (bare.toList.take k)) ++ [path]

/-- Makes directories. -/
def mkdir : Tool := do
  let table := OptionTable.make "m:pvZ" [("mode", 'm'), ("parents", 'p'), ("verbose", 'v')] true
  let (given, operands) ← options table 1
  if operands.isEmpty then misuse 1 "missing operand"
  let rights ← rightsOption given 0o777
  let cannot (path : String) (cause : FileCause) : ToolM Bool :=
    refuse s!"cannot create directory ‘{path}’: {reason cause}"
  let finish (path : String) (made : Attempt Unit) : ToolM Bool := do
    if let (.ok (), some rights) := (made, rights) then
      let _ ← ask (.setRights path rights)
    return true
  onEach operands fun path ↦ do
    if !given.has 'p' then
      match ← ask (.makeDirectory path 0o777) with
      | .ok () =>
        report (given.has 'v') s!"{← name}: created directory '{path}'"
        finish path (.ok ())
      | .error cause => cannot path cause
    else
      let rec walk : List String → ToolM Bool
        | [] => return true
        | step :: rest => do
          match ← ask (.makeDirectory step 0o777) with
          | .ok () =>
            report (given.has 'v') s!"{← name}: created directory '{step}'"
            if rest.isEmpty then
              let _ ← finish step (.ok ())
            walk rest
          | .error cause =>
            if ← isDirectory step then walk rest
            else if cause = .alreadyExists && !rest.isEmpty then cannot step .notADirectory
            else cannot step cause
      walk (pathsTo path)

/-- Removes directories with nothing in them. -/
def rmdir : Tool := do
  let table := OptionTable.make "pv" [("parents", 'p'), ("verbose", 'v'),
    ("ignore-fail-on-non-empty", 'I')] true
  let (given, operands) ← options table 1
  if operands.isEmpty then misuse 1 "missing operand"
  let removeOne (path : String) : ToolM (Attempt Unit) := do
    report (given.has 'v') s!"{← name}: removing directory, '{path}'"
    ask (.removeDirectory path)
  onEach operands fun path ↦ do
    let paths := if given.has 'p' then (pathsTo path).reverse else [path]
    let rec walk : List String → ToolM Bool
      | [] => return true
      | path :: above => do
        match ← removeOne path with
        | .ok () => walk above
        | .error cause =>
          if cause = .notEmpty && given.has 'I' then return true
          refuse s!"failed to remove '{path}': {reason cause}"
    walk paths

/-! ## Times, rights and sizes -/

/-- Sets when files were changed. -/
def touch : Tool := do
  let table := OptionTable.make "acd:fhmr:t:" [("no-create", 'c'), ("date", 'd'),
    ("reference", 'r'), ("time", 'T')] true
  let (given, operands) ← options table 1
  if operands.isEmpty then misuse 1 "missing file operand"
  let now : Nat ← ask .clock
  let time : Option Nat ← match given.value? 'r', given.value? 'd', given.value? 't' with
    | some path, _, _ => match ← look path true with
      | .ok l => pure (some l.time)
      | .error cause => abort 1 s!"failed to get attributes of '{path}': {reason cause}"
    | none, some text, _ =>
      match Calendar.readMoment? now text with
      | some t => pure (some t.toNat)
      | none => abort 1 s!"invalid date format ‘{text}’"
    | none, none, some text =>
      match Calendar.readStamp? now text with
      | some t => pure (some t.toNat)
      | none => abort 1 s!"invalid date format ‘{text}’"
    | none, none, none => pure none
  onEach operands fun path ↦ do
    match ← look path true with
    | .ok _ =>
      let _ ← ask (.setTime path time)
      return true
    | .error cause =>
      if given.has 'c' then return cause = .notFound
      let how : Opening := { access := .writing, create := true }
      match ← writeFile path how [] with
      | .ok () =>
        if time.isSome then
          let _ ← ask (.setTime path time)
        return true
      | .error cause =>
        if path.endsWith "/" then
          let cause := if cause = .isADirectory then FileCause.notFound else cause
          refuse s!"setting times of '{path}': {reason cause}"
        else refuse s!"cannot touch '{path}': {reason cause}"

/-- Changes the rights of what is at a path; the bound is on the depth of directories. -/
def chmodFor (recursive : Bool) (tell : String → Nat → Nat → ToolM Unit)
    (change : Bool → Nat → Option Nat) : Nat → String → ToolM Bool
  | 0, _ => return false
  | n + 1, path => do
    match ← look path true with
    | .error cause => refuse s!"cannot access '{path}': {reason cause}"
    | .ok l =>
      let rights := (change (l.kind == .directory) l.rights).getD l.rights
      let _ ← ask (.setRights path rights)
      tell path l.rights rights
      if recursive && l.kind == .directory then
        (← namesIn path).foldlM (fun good name ↦ do
          let inner := within path name
          match ← look inner false with
          | .ok l =>
            if l.kind == .link then return good
            let fine ← chmodFor recursive tell change n inner
            return good && fine
          | .error _ => return good) true
      else return true

/-- A number in base eight, of four digits. -/
def octal (n : Nat) : String :=
  let digits := Nat.toDigits 8 n
  String.ofList (List.replicate (4 - digits.length) '0' ++ digits)

/-- Changes rights. -/
def chmod : Tool := do
  let isMode (a : String) : Bool := match a.toList with
    | '-' :: c :: _ => "rwxXstugoa,+=01234567".toList.contains c
    | _ => false
  let arguments := (← get).call.arguments
  let options := arguments.filter isMode
  let rest := arguments.filter fun a ↦ !isMode a
  let table := OptionTable.make "cfRv" [("changes", 'c'), ("recursive", 'R'), ("silent", 'f'),
    ("quiet", 'f'), ("verbose", 'v'), ("reference", 'r')] true
  let (given, operands) ← match table.readFor (rest.length + 1) rest with
    | .ok answer => pure answer
    | .error why => misuse 1 why
  let (mode, paths) := match options, operands with
    | [], mode :: paths => (some mode, paths)
    | [], [] => (none, [])
    | modes, paths => (some (",".intercalate modes), paths)
  match mode, paths with
  | none, _ => misuse 1 "missing operand"
  | some mode, [] => misuse 1 s!"missing operand after ‘{mode}’"
  | some mode, paths =>
    let mask ← ask (.mask none)
    let change (directory : Bool) (rights : Nat) : Option Nat :=
      ({ directory, allowed := Rights.without Rights.all mask } : Rights.Change).result? rights mode
    if (change false 0).isNone then misuse 1 s!"invalid mode: ‘{mode}’"
    let say (path : String) (old new : Nat) : ToolM Unit := do
      let shown (n : Nat) : String := octal n ++ " (" ++ Rights.text n ++ ")"
      if old ≠ new && (given.has 'v' || given.has 'c') then
        printLine s!"mode of '{path}' changed from {shown old} to {shown new}"
      else if given.has 'v' then printLine s!"mode of '{path}' retained as {shown new}"
    onEach paths (chmodFor (given.has 'R') say change depthBound)

/-- Gives files to somebody, which can only be who has them; a colon may stand before a group. -/
def ownership (what : String) : Tool := do
  let table := OptionTable.make "cfhRv" [("changes", 'c'), ("no-dereference", 'h'), ("recursive", 'R'),
    ("silent", 'f'), ("quiet", 'f'), ("verbose", 'v'), ("reference", 'r')] true
  let table := { table with
    names := table.names.map fun n ↦ if n.2.1 = 'r' then (n.1, 'r', .always) else n }
  let (given, operands) ← options table 1
  let operands := if given.has 'r' then "" :: operands else operands
  match operands with
  | [] => misuse 1 "missing operand"
  | [owner] => misuse 1 s!"missing operand after ‘{owner}’"
  | owner :: paths =>
    let isRoot (s : String) : Bool := ["", "root", "0"].contains s
    let (person, group) := match Text.split ':' owner with
      | [person, group] => (person, group)
      | _ => (owner, "")
    if what = "group" then
      if !isRoot owner then abort 1 s!"invalid group: ‘{owner}’"
    else
      if !isRoot person then abort 1 s!"invalid user: ‘{owner}’"
      if !isRoot group then abort 1 s!"invalid group: ‘{owner}’"
    onEach paths fun path ↦ do
      match ← look path true with
      | .ok _ =>
        let kind := if what = "group" then "group" else "ownership"
        report (given.has 'v') s!"{kind} of '{path}' retained as {owner}"
        return true
      | .error cause => refuse s!"cannot access '{path}': {reason cause}"

/-- Changes owners. -/
def chown : Tool := ownership "user"

/-- Changes groups. -/
def chgrp : Tool := ownership "group"

/-- Makes pipes. -/
def mkfifo : Tool := do
  let (given, operands) ← options (OptionTable.make "m:Z" [("mode", 'm')] true) 1
  if operands.isEmpty then misuse 1 "missing operand"
  let rights ← rightsOption given 0o666
  onEach operands fun path ↦ do
    match ← ask (.makePipe path 0o666) with
    | .ok () =>
      if let some rights := rights then
        let _ ← ask (.setRights path rights)
      return true
    | .error cause => refuse s!"cannot create fifo '{path}': {reason cause}"

/-- Makes a file or a directory of a name that nothing has. -/
def mktemp : Tool := do
  let table := OptionTable.make "dp:qtu" [("directory", 'd'), ("tmpdir", 'p'), ("quiet", 'q'),
    ("dry-run", 'u')] true
  let (given, operands) ← options table 1
  if 1 < operands.length then misuse 1 "too many templates"
  let template := operands.headD "tmp.XXXXXXXXXX"
  let place := (given.value? 'p').orElse fun _ ↦
    if operands.isEmpty || given.has 't' || given.has 'p' then some "/tmp" else none
  let marks := (template.toList.reverse.takeWhile (· == 'X')).length
  if marks < 3 then abort 1 s!"too few X's in template ‘{template}’"
  let full := match place with
    | some directory => within directory template
    | none => template
  let base := full.toList.take (full.length - marks)
  let letters := "abcdefghijklmnopqrstuvwxyzABCDEFGHIJKLMNOPQRSTUVWXYZ0123456789".toList
  let clock : Nat ← ask .clock
  let number : Nat ← ask .self
  let start := clock + 7919 * number
  let nameFor (n : Nat) : String :=
    let mixed := n * 2862933555777941757 + 3037000493
    String.ofList (base ++ (List.range marks).map fun k ↦
      letters.getD (mixed / 62 ^ (k + 3) % 62) 'x')
  let outcome ← iterateFor 100 (start, (.error .alreadyExists : Attempt String)) fun (n, _) ↦ do
    let path := nameFor n
    let made ← if given.has 'u' then pure (.ok ())
      else if given.has 'd' then ask (.makeDirectory path 0o700)
      else
        let how : Opening := { access := .writing, create := true, exclusive := true }
        writeFile path how []
    match made with
    | .ok () => return ((n, .ok path), false)
    | .error cause => return ((n + 1, .error cause), cause = .alreadyExists)
  match outcome.2 with
  | .ok path =>
    if !given.has 'd' && !given.has 'u' then
      let _ ← ask (.setRights path 0o600)
    printLine path
    return 0
  | .error cause =>
    if given.has 'q' then return 1
    let what := if given.has 'd' then "directory" else "file"
    abort 1 s!"failed to create {what} via template ‘{full}’: {reason cause}"

/-- Changes the size of files. -/
def truncate : Tool := do
  let table := OptionTable.make "cor:s:"
    [("no-create", 'c'), ("io-blocks", 'o'), ("reference", 'r'), ("size", 's')] true
  let (given, operands) ← options table 1
  let text ← match given.value? 's', given.value? 'r' with
    | some text, _ => pure text
    | none, some path => match ← look path true with
      | .ok l => pure (toString l.size)
      | .error cause => abort 1 s!"cannot stat '{path}': {reason cause}"
    | none, none => misuse 1 "you must specify either ‘--size’ or ‘--reference’"
  if operands.isEmpty then misuse 1 "missing file operand"
  let sign := text.toList.headD ' '
  let body := if "+-<>/%".toList.contains sign then String.ofList (text.toList.drop 1) else text
  let digits := body.toList.takeWhile Char.isDigit
  let units := [("", 1), ("K", 1024), ("k", 1024), ("M", 2 ^ 20), ("G", 2 ^ 30), ("KB", 1000),
    ("MB", 10 ^ 6)]
  let unit := units.find? fun u ↦ u.1 == String.ofList (body.toList.drop digits.length)
  let n ← match digits.isEmpty, unit with
    | false, some (_, unit) => pure (Text.readDecimal digits * unit)
    | _, _ => abort 1 s!"Invalid number: ‘{text}’"
  onEach operands fun path ↦ do
    let old ← look path true
    if old.toBool || !given.has 'c' then
      let how : Opening := { access := .writing, create := true }
      match ← writeFile path how [] with
      | .error cause => return ← refuse s!"cannot open '{path}' for writing: {reason cause}"
      | .ok () => pure ()
      let size := match old with
        | .ok l => l.size
        | .error _ => 0
      let new := match sign with
        | '+' => size + n
        | '-' => size - n
        | '<' => min size n
        | '>' => max size n
        | '/' => size / n * n
        | '%' => (size + n - 1) / n * n
        | _ => n
      match ← ask (.resize path new) with
      | .ok () => return true
      | .error cause => refuse s!"failed to truncate '{path}' at {new} bytes: {reason cause}"
    else return true

/-! ## Installing -/

/-- Makes a directory and those on the way to it. -/
def makeWay (verbose : Bool) (path : String) : ToolM Bool := do
  (pathsTo path).foldlM (fun good step ↦ do
    if !good then return false
    match ← ask (.makeDirectory step 0o755) with
    | .ok () =>
      report verbose s!"{← name}: creating directory '{step}'"
      return true
    | .error cause =>
      if ← isDirectory step then return true
      refuse s!"cannot create directory '{step}': {reason cause}") true

/-- Copies files with the rights of programs, or makes directories. -/
def install : Tool := do
  let table := OptionTable.make "bcCdDg:m:o:pst:Tv" [("directory", 'd'), ("mode", 'm'), ("group", 'g'),
    ("owner", 'o'), ("preserve-timestamps", 'p'), ("strip", 's'), ("target-directory", 't'),
    ("no-target-directory", 'T'), ("verbose", 'v')] true
  let (given, operands) ← options table 1
  let rights ← match given.value? 'm' with
    | none => pure 0o755
    | some clauses =>
      match ({ allowed := Rights.all } : Rights.Change).result? 0 clauses with
      | some rights => pure rights
      | none => abort 1 s!"invalid mode ‘{clauses}’"
  if given.has 'd' then
    if operands.isEmpty then misuse 1 "missing file operand"
    onEach operands fun path ↦ do
      let good ← makeWay (given.has 'v') path
      if good then
        let _ ← ask (.setRights path rights)
      return good
  else
    if given.has 'D' then
      if let [_, target] := operands then
        let directory := directoryName target
        if directory ≠ "." && directory ≠ "/" then
          let _ ← makeWay (given.has 'v') directory
    onSources given operands fun source target ↦ do
      match ← look source true with
      | .error cause => refuse s!"cannot stat '{source}': {reason cause}"
      | .ok l =>
        if l.kind == .directory then return ← refuse s!"omitting directory '{source}'"
        -- what is there gives way to the new file
        let _ ← ask (.remove target)
        report (given.has 'v') s!"'{source}' -> '{target}'"
        let good ← copyContent { faithful := given.has 'p' } source target l
        if good then
          let _ ← ask (.setRights target rights)
        return good

end RevisionGraph.Tools
