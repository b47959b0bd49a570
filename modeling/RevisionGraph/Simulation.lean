import RevisionGraph.Simulation.Host
import RevisionGraph.Simulation.Start
import RevisionGraph.Simulation.Text.Octets

/-!
# Surroundings to run in

The library leaves open what is around it: how an engine is started and what it does, which settings
there are, and where the journal goes.  Its theorems hold for all of that.

To be run as a program it needs some surroundings, and these are here: a machine with processes, a
shell and its tools, which engines can be scripts for; settings from variables and files; and the
export of a journal.  Nothing is proved about them, and no other part of the library depends on them
but the command line.
-/
