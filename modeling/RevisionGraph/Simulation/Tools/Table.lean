import RevisionGraph.Simulation.Shell.Start
import RevisionGraph.Simulation.Tools.Blocks
import RevisionGraph.Simulation.Tools.Columns
import RevisionGraph.Simulation.Tools.Comparing
import RevisionGraph.Simulation.Tools.Dates
import RevisionGraph.Simulation.Tools.Editing.Run
import RevisionGraph.Simulation.Tools.Files
import RevisionGraph.Simulation.Tools.Find
import RevisionGraph.Simulation.Tools.Lines
import RevisionGraph.Simulation.Tools.Listing
import RevisionGraph.Simulation.Tools.Matching
import RevisionGraph.Simulation.Tools.Printing
import RevisionGraph.Simulation.Tools.Running

/-!
# All programs

`programs` are the shell and the tools, each under the name of its file.
-/

set_option autoImplicit false

namespace RevisionGraph.Tools

open RevisionGraph.System

/-- The tools, by name. -/
def tools : List (String × Tool) := [
  ("[", testWith (Shell.inBrackets .program)), ("arch", arch), ("base32", encodingTool .base32),
  ("base64", encodingTool .base64), ("basename", basename), ("cat", cat), ("chgrp", chgrp),
  ("chmod", chmod), ("chown", chown), ("cksum", cksum), ("cmp", cmp), ("comm", comm), ("cp", cp),
  ("cut", cut), ("date", date), ("dd", dd), ("diff", diff), ("dirname", dirname), ("echo", echo),
  ("egrep", grepAs (some 'E')), ("env", env), ("expand", expandTabs), ("expr", expr),
  ("factor", factor), ("false", fail), ("fgrep", grepAs (some 'F')), ("find", find), ("fold", fold),
  ("grep", grep), ("groups", groups), ("head", head), ("hostname", hostname), ("id", id),
  ("install", install), ("join", join), ("link", link), ("ln", ln), ("logname", logname),
  ("ls", ls), ("mkdir", mkdir), ("mkfifo", mkfifo), ("mktemp", mktemp), ("mv", mv), ("nice", nice),
  ("nl", nl), ("nohup", nohup), ("nproc", nproc), ("od", od), ("paste", paste),
  ("printenv", printenv), ("printf", printf), ("pwd", pwd), ("readlink", readlink),
  ("realpath", realpath), ("rev", rev), ("rm", rm), ("rmdir", rmdir), ("sed", sed), ("seq", seq),
  ("setsid", setsid), ("shuf", shuf), ("sleep", sleep), ("sort", sort), ("split", split),
  ("stat", stat), ("stdbuf", stdbuf), ("sum", sum), ("sync", sync), ("tac", tac), ("tail", tail),
  ("tee", tee), ("test", testWith (Shell.test .program)), ("timeout", timeout), ("touch", touch),
  ("tr", tr), ("true", succeed), ("truncate", truncate), ("tsort", tsort), ("tty", tty),
  ("uname", uname), ("unexpand", unexpandTabs), ("uniq", uniq), ("unlink", unlink),
  ("users", users), ("wc", wc), ("which", which), ("who", users), ("whoami", whoami),
  ("xargs", xargs), ("yes", yes)]

/-- The tools that show digests, named for these. -/
def digestTools : List (String × Tool) :=
  digestKinds.map fun (name, kind) ↦ (name ++ "sum", digestTool kind)

/-- The programs, by name. -/
def programs : List (String × Program) :=
  ("sh", Shell.shell) :: ("dash", Shell.shell) :: (tools ++ digestTools).map fun (name, tool) ↦ (name, tool.program)

/-- The program of a name. -/
def programOf? (name : String) : Option Program :=
  (programs.find? fun p ↦ p.1 == name).map Prod.snd

end RevisionGraph.Tools
