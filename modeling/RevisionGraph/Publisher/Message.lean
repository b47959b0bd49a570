import RevisionGraph.Json.Writer
import RevisionGraph.Text.Utf8

/-!
# Messages

A `Message` is what is handed to a publisher: a value under a key, for a topic.  Its line is the
JSON object of the three on a line of its own.
-/

set_option autoImplicit false

namespace RevisionGraph

/-- What is published. -/
structure Message where
  topic : String
  key : String
  value : String
  deriving DecidableEq, Repr

namespace Message

/-- The document of a message. -/
def toJson (m : Message) : Json :=
  .object [("topic", .text m.topic), ("key", .text m.key), ("value", .text m.value)]

/-- The line of a message, with its line feed. -/
def line (m : Message) : String := m.toJson.write .spaced ++ "\n"

end Message

end RevisionGraph
