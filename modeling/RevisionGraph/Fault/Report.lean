import RevisionGraph.Json.Display

/-!
# Reports of failures

A `Report` is a failure as callers see it: a category, a headline and details.  `Report.text` puts
the details in parentheses behind the headline, in their order.

* **Categories.**  `Category.name` is the name by which metrics, spans and callers know a category.
* **Families.**  The failures of this library form a family: `Category.families` lists the
  categories that a category falls under, the widest first.
-/

set_option autoImplicit false

namespace RevisionGraph

/-- The kinds of faults that whoever is told of one can tell apart. -/
inductive Category where
  | callGraph
  | format
  | invariant
  | analysis
  | artifactNotFound
  | invalidConfig
  | value
  | missingKey
  | missingAttribute
  | outOfRange
  | wrongType
  | memory
  | undecodable
  | invalidSettings
  | commandNotFound
  | commandTimeout
  | commandFailed
  | publisherClosed
  | runtime
  | fileNotFound
  | fileExists
  | isADirectory
  | notADirectory
  | permission
  | operatingSystem
  /-- a category of somebody else's, by its name -/
  | foreign (name : String)
  deriving DecidableEq, Repr

namespace Category

/-- How a report names the category. -/
def name : Category → String
  | .callGraph => "CallGraphError"
  | .format => "FormatError"
  | .invariant => "InvariantViolation"
  | .analysis => "AnalysisError"
  | .artifactNotFound => "ArtifactNotFoundError"
  | .invalidConfig => "InvalidConfigError"
  | .value => "ValueError"
  | .missingKey => "KeyError"
  | .missingAttribute => "AttributeError"
  | .outOfRange => "IndexError"
  | .wrongType => "TypeError"
  | .memory => "MemoryError"
  | .undecodable => "UnicodeDecodeError"
  | .invalidSettings => "ValidationError"
  | .commandNotFound => "CommandNotFoundError"
  | .commandTimeout => "CommandTimeoutError"
  | .commandFailed => "CommandFailedError"
  | .publisherClosed => "PublisherClosedError"
  | .runtime => "RuntimeError"
  | .fileNotFound => "FileNotFoundError"
  | .fileExists => "FileExistsError"
  | .isADirectory => "IsADirectoryError"
  | .notADirectory => "NotADirectoryError"
  | .permission => "PermissionError"
  | .operatingSystem => "OSError"
  | .foreign name => name

/-- The categories of this library that a category falls under, the widest first. -/
def families : Category → List Category
  | .callGraph => [.callGraph]
  | .format => [.callGraph, .format]
  | .invariant => [.callGraph, .invariant]
  | .analysis => [.callGraph, .analysis]
  | .artifactNotFound => [.callGraph, .analysis, .artifactNotFound]
  | .invalidConfig => [.callGraph, .invalidConfig]
  | _ => []

/-- The category of a name of this library's own failures. -/
def ofName? (name : String) : Option Category :=
  [callGraph, format, invariant, analysis, artifactNotFound, invalidConfig].find?
    fun c ↦ c.name == name

end Category

/-- What is told of a fault. -/
structure Report where
  category : Category
  headline : String
  details : List (String × Json) := []
  deriving DecidableEq

namespace Report

/-- The headline, with the details behind it if there are any. -/
def text (r : Report) : String :=
  if r.details.isEmpty then r.headline
  else
    let shown := r.details.map fun d ↦ d.1 ++ "=" ++ d.2.plain
    r.headline ++ " (" ++ ", ".intercalate shown ++ ")"

/-- A setting with a value that cannot be used. -/
def invalidConfig (key : String) (value : Json) (reason : String) : Report where
  category := .invalidConfig
  headline := "Invalid configuration for " ++ key ++ ": " ++ value.plain
  details := [("key", .text key), ("value", .text value.plain), ("reason", .text reason)]

end Report

end RevisionGraph
