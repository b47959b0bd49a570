import RevisionGraph.Execution.Programs

/-!
# Home directories

The home directory of whoever runs a process is in the variable `HOME`; those of other users are in
a list of accounts.
-/

set_option autoImplicit false

namespace RevisionGraph.Execution

/-- A directory without the slashes at its end; nothing else means the root. -/
def bareDirectory (directory : String) : String :=
  let bare := (directory.toList.reverse.dropWhile (· == '/')).reverse
  if bare.isEmpty then "/" else String.ofList bare

/-- The home directory of a user; the empty name means whoever runs the process. -/
def home (accounts : OrderedMap String String) (environment : Environment) (user : String) :
    Option String :=
  (if user.isEmpty then environment.find? "HOME" else accounts.find? user).map bareDirectory

/-- The accounts that a system has from the start. -/
def usualAccounts : OrderedMap String String := .ofList [
  ("root", "/root"), ("daemon", "/usr/sbin"), ("bin", "/bin"), ("sys", "/dev"), ("sync", "/bin"),
  ("games", "/usr/games"), ("man", "/var/cache/man"), ("lp", "/var/spool/lpd"),
  ("mail", "/var/mail"), ("news", "/var/spool/news"), ("uucp", "/var/spool/uucp"),
  ("proxy", "/bin"), ("www-data", "/var/www"), ("backup", "/var/backups"), ("list", "/var/list"),
  ("irc", "/run/ircd"), ("_apt", "/nonexistent"), ("nobody", "/nonexistent")]

end RevisionGraph.Execution
