/-!
# Notices

A `Notice` is one line for whoever watches a run.
-/

set_option autoImplicit false

namespace RevisionGraph

/-- How much a notice matters. -/
inductive Level where
  | info
  | warning
  | error
  deriving DecidableEq, Repr

/-- How a log names the level. -/
def Level.name : Level → String
  | .info => "INFO"
  | .warning => "WARNING"
  | .error => "ERROR"

/-- What a program has to say. -/
structure Notice where
  level : Level
  text : String
  deriving DecidableEq, Repr

/-- A notice that all is well. -/
def Notice.info (text : String) : Notice := ⟨.info, text⟩

/-- A notice that something may be wrong. -/
def Notice.warning (text : String) : Notice := ⟨.warning, text⟩

/-- A notice that something went wrong. -/
def Notice.error (text : String) : Notice := ⟨.error, text⟩

end RevisionGraph
