import RevisionGraph.Fault.Report
import RevisionGraph.Json.Reader
import RevisionGraph.Text.Encoding
import RevisionGraph.Text.Layout

/-!
# What can go wrong

A `Fault` is the cause of a failure.

* **Documents.**  `FormatFault`: a document, a record or a fact has the wrong shape.
* **Call graphs.**  `InvariantFault`: the parts of a call graph do not fit together.
* **Analysis.**  `AnalysisFault`: an engine gave no call graph.
* **Texts and values.**  `ConversionFault`: a text or value could not be turned into another.
* **Files.**  `FileFault`: the file system refused an operation on a path, or, as `Fault.writing`
  has it, on a file that is open.
* **Others.**  `Fault.foreign`: a fault that this library knows nothing of but its name and text.

`Fault.report` words each cause, and `Fault.message` is the text of the report.
-/

set_option autoImplicit false

namespace RevisionGraph

/-! ## Causes -/

/-- Why a document, a record or a fact has the wrong shape. -/
inductive FormatFault where
  | notObject (context : String) (actual : Json)
  | missingMember (key context : String)
  | wrongKind (key context : String) (expected : Json.Kind) (actual : Json)
  | methodIdNotInteger (value : Json)
  | methodIdNegative (id : Int)
  | identifierNotText (value : Json)
  | identifierBlank (text : String)
  | dependenciesNotArray (value : Json)
  | dependencyGroupNotArray (index : Nat)
  | dependencyNotObject (index : Nat)
  | internalCallNotPair (entry : Json)
  | internalCallIds (entry : Json)
  | externalCallNotTriple (entry : Json)
  | externalCallTags (entry : Json)
  | countNotDecimal (tag : String) (count : Json)
  | externalCallRepeated (source : Int) (target : String)
  | revisionNotJson (error : String)
  | revisionIncomplete (fields : List String)
  | factNotJson (line : Nat) (error : String)
  | factNotObject (line : Nat)
  | recordNotJson (error : String)
  | recordNotObject (record : String)
  | recordDate (date : Json)
  | coordinateUnreadable (record : Json) (missing : String)
  /-- a failure of the caller's own -/
  | other (headline : String)
  deriving DecidableEq

/-- Why the parts of a call graph do not fit together. -/
inductive InvariantFault where
  | sharedMethodId (id : Int) (first second : String)
  | danglingMethodIds (revision : String) (ids : List Int)
  | methodOfUnknownType (type method : String)
  | methodOfTwoTypes (type method : String)
  | callFromUnknownMethod (source target : String)
  deriving DecidableEq

/-- Why an engine gave no call graph. -/
inductive AnalysisFault where
  | commandMissing (reason generator : String)
  | commandTimedOut (reason generator coordinate : String)
  | commandFailed (reason generator coordinate errors : String)
  | noFacts (generator coordinate : String)
  | artifactMissing (coordinate path : String)
  deriving DecidableEq

/-- Why a text or a value cannot be turned into another. -/
inductive ConversionFault where
  /-- an integer text of that many digits is not read -/
  | tooManyDigitsToRead (count : Nat)
  /-- an integer is too long to be written -/
  | tooManyDigitsToWrite
  | notInteger (text : String)
  | notIterable (value : Json)
  | undecodable (e : Text.Undecodable)
  | noClosingQuote
  | noEscapedCharacter
  | loneOpeningBrace
  | loneClosingBrace
  | unclosedField
  | badField (reason : String)
  | unknownConversion (letter : Char)
  | unknownField (name : String)
  /-- nothing is kept under the key, which is shown -/
  | unknownKey (shown : String)
  | positionalField (index : Nat)
  /-- the subject has no such attribute -/
  | unknownAttribute (subject name : String)
  /-- the subject has no entries -/
  | notSubscriptable (subject : String)
  /-- values of the kind have numbered entries, and this one has not as many -/
  | entryOutOfRange (kind : String)
  | ancestorOutOfRange (index : Nat)
  /-- entries are numbered, not named -/
  | entryNotNumbered (reason : String)
  | layout (fault : Text.LayoutFault)
  | unsupportedLayout (kind : String)
  | noFirstWord
  /-- nothing stands where a path should -/
  | noPath
  | illegalVariableName
  | nulInWord
  | ratioOutOfRange
  | ratioNotANumber
  deriving DecidableEq

/-- Why the file system refused. -/
inductive FileCause where
  | notFound
  | permission
  | alreadyExists
  | notADirectory
  | isADirectory
  | nameTooLong
  | tooManyLinks
  | notEmpty
  | invalid
  | badDescriptor
  | notPermitted
  | noProcess
  | noChild
  | interrupted
  | noDevice
  | noSpace
  | illegalSeek
  | brokenPipe
  | badProgram
  | tooManyFiles
  deriving DecidableEq, Repr

/-- The file system refused an operation on a path. -/
structure FileFault where
  cause : FileCause
  path : String
  deriving DecidableEq, Repr

/-- Why something could not be done. -/
inductive Fault where
  | format (cause : FormatFault)
  | invariant (cause : InvariantFault)
  | analysis (cause : AnalysisFault)
  | conversion (cause : ConversionFault)
  | invalidConfig (key value reason : String)
  /-- settings whose values are refused, each with the rule it breaks -/
  | invalidSettings (fields : List (String × String))
  | file (fault : FileFault)
  /-- a file that is open does not take what is written -/
  | writing (cause : FileCause)
  /-- a file was closed and is used all the same -/
  | closedFile
  /-- a command cannot start in the directory -/
  | workingDirectory (fault : FileFault)
  | commandNotFound (reason : String)
  | commandTimedOut (elapsed command : String)
  | commandFailed (exitCode : Int) (command errors : String)
  | publisherClosed (path : Option String)
  | runtime (text : String)
  /-- a fault of somebody else's, with the name of its kind -/
  | foreign (kind text : String)
  deriving DecidableEq

/-! ## Wording -/

namespace FormatFault

/-- The headline and the details of a fault of shape. -/
def wording : FormatFault → String × List (String × Json)
  | .notObject context actual =>
    (context ++ " must be an object", [("type", .text actual.kindName)])
  | .missingMember key context => ("Missing required key '" ++ key ++ "' in " ++ context, [])
  | .wrongKind key context expected actual =>
    ("Key '" ++ key ++ "' in " ++ context ++ " must be " ++ expected.label,
      [("actual", .text actual.kindName)])
  | .methodIdNotInteger value =>
    ("Method id must be an integer", [("value", .text value.display)])
  | .methodIdNegative id => ("Method id must not be negative", [("value", .text (toString id))])
  | .identifierNotText value =>
    ("Identifier must be a non-empty string", [("value", .text value.display)])
  | .identifierBlank text => ("Identifier must not contain whitespace", [("value", .text text)])
  | .dependenciesNotArray value => ("depset must be an array", [("type", .text value.kindName)])
  | .dependencyGroupNotArray index => ("depset entries must be arrays", [("index", .int index)])
  | .dependencyNotObject index => ("dependencies must be objects", [("index", .int index)])
  | .internalCallNotPair entry =>
    ("Internal call must be a [source, target] pair", [("value", .text entry.display)])
  | .internalCallIds entry =>
    ("Internal call ids must be integers", [("value", .text entry.display)])
  | .externalCallNotTriple entry =>
    ("External call must be a [source, target, metadata] triple", [("value", .text entry.display)])
  | .externalCallTags entry =>
    ("External call metadata must be an object", [("value", .text entry.display)])
  | .countNotDecimal tag count =>
    ("External call counts must be decimal strings",
      [("tag", .text tag), ("count", .text count.display)])
  | .externalCallRepeated source target =>
    ("Duplicate external call",
      [("source", .text (toString source)), ("target", .text target)])
  | .revisionNotJson error => ("Revision call graph is not valid JSON", [("error", .text error)])
  | .revisionIncomplete fields =>
    ("Missing revision call graph fields", [("fields", .text (", ".intercalate fields))])
  | .factNotJson line error =>
    ("Invalid fact line", [("line", .int line), ("error", .text error)])
  | .factNotObject line => ("Fact must be an object", [("line", .int line)])
  | .recordNotJson error => ("Record is not valid JSON", [("error", .text error)])
  | .recordNotObject record => ("Record must be a JSON object", [("record", .text record)])
  | .recordDate date => ("Record date must be an integer", [("date", .text date.display)])
  | .coordinateUnreadable record missing =>
    ("Could not parse input coordinates",
      [("record", .text record.display), ("missing", .text missing)])
  | .other headline => (headline, [])

end FormatFault

namespace InvariantFault

/-- What is said of the fault, and its details. -/
def wording : InvariantFault → String × List (String × Json)
  | .sharedMethodId id first second =>
    (s!"Method id {id} is defined by more than one type",
      [("first", .text first), ("second", .text second)])
  | .danglingMethodIds revision ids =>
    ("Call graph references methods missing from the class hierarchy",
      [("revision", .text revision), ("ids", .text (", ".intercalate (ids.map toString)))])
  | .methodOfUnknownType type method =>
    ("Method declared for an unregistered type",
      [("type", .text type), ("method", .text method)])
  | .methodOfTwoTypes type method =>
    ("Method registered under two types", [("type", .text type), ("method", .text method)])
  | .callFromUnknownMethod source target =>
    ("Call from a method the artifact does not define",
      [("source", .text source), ("target", .text target)])

end InvariantFault

namespace AnalysisFault

/-- What is reported of the fault. -/
def report : AnalysisFault → Report
  | .commandMissing reason generator =>
    ⟨.analysis, reason, [("generator", .text generator)]⟩
  | .commandTimedOut reason generator coordinate =>
    ⟨.analysis, reason, [("generator", .text generator), ("coordinate", .text coordinate)]⟩
  | .commandFailed reason generator coordinate errors =>
    ⟨.analysis, reason, [("generator", .text generator), ("coordinate", .text coordinate),
      ("stderr", .text errors)]⟩
  | .noFacts generator coordinate =>
    ⟨.analysis, "Engine finished without writing facts",
      [("generator", .text generator), ("coordinate", .text coordinate)]⟩
  | .artifactMissing coordinate path =>
    ⟨.artifactNotFound, "Could not find JAR for Maven coordinate: " ++ coordinate,
      [("path", .text path)]⟩

end AnalysisFault

namespace ConversionFault

/-- What the two texts about long integers share. -/
def digitLimitText (detail : String) : String :=
  s!"Exceeds the limit ({Text.digitLimit} digits) for integer string conversion" ++ detail ++
    "; use sys.set_int_max_str_digits() to increase the limit"

/-- A text that is no integer is shown up to here. -/
def shownLength : Nat := 200

/-- The category of the fault. -/
def category : ConversionFault → Category
  | .notIterable _ => .wrongType
  | .undecodable _ => .undecodable
  | .unknownField _ => .missingKey
  | .unknownKey _ => .missingKey
  | .positionalField _ => .outOfRange
  | .entryOutOfRange _ => .outOfRange
  | .ancestorOutOfRange _ => .outOfRange
  | .entryNotNumbered _ => .wrongType
  | .layout .tooWide => .memory
  | .noFirstWord => .outOfRange
  | .unknownAttribute _ _ => .missingAttribute
  | .notSubscriptable _ => .wrongType
  | .unsupportedLayout _ => .wrongType
  | .noPath => .wrongType
  | _ => .value

/-- What is said of the fault. -/
def headline : ConversionFault → String
  | .tooManyDigitsToRead count => digitLimitText s!": value has {count} digits"
  | .tooManyDigitsToWrite => digitLimitText ""
  | .notInteger text =>
    let shown := (Text.quoted text).toList.take shownLength
    "invalid literal for int() with base 10: " ++ String.ofList shown
  | .notIterable value => "'" ++ value.kindName ++ "' object is not iterable"
  | .undecodable e => e.message
  | .noClosingQuote => "No closing quotation"
  | .noEscapedCharacter => "No escaped character"
  | .loneOpeningBrace => "Single '\x7b' encountered in format string"
  | .loneClosingBrace => "Single '\x7d' encountered in format string"
  | .unclosedField => "expected '\x7d' before end of string"
  | .badField reason => reason
  | .unknownField name => Text.quoted name
  | .unknownKey shown => shown
  | .unknownConversion letter => "Unknown conversion specifier " ++ Text.shownUpTo 0x7e letter
  | .unknownAttribute subject name => s!"{subject} has no attribute '{name}'"
  | .notSubscriptable subject => s!"{subject} is not subscriptable"
  | .entryOutOfRange kind => s!"{kind} index out of range"
  | .ancestorOutOfRange index => toString index
  | .entryNotNumbered reason => reason
  | .layout fault => fault.message
  | .unsupportedLayout kind => s!"unsupported format string passed to {kind}.__format__"
  | .positionalField index =>
    s!"Replacement index {index} out of range for positional args tuple"
  | .noFirstWord => "list index out of range"
  | .noPath => "expected str, bytes or os.PathLike object, not list"
  | .illegalVariableName => "illegal environment variable name"
  | .nulInWord => "embedded null byte"
  | .ratioOutOfRange => "Probability must be in range [0.0, 1.0]."
  | .ratioNotANumber => "cannot convert float NaN to integer"

end ConversionFault

namespace FileCause

/-- The category of a refusal for the cause. -/
def category : FileCause → Category
  | .notFound => .fileNotFound
  | .permission => .permission
  | .alreadyExists => .fileExists
  | .notADirectory => .notADirectory
  | .isADirectory => .isADirectory
  | .notPermitted => .permission
  | _ => .operatingSystem

/-- The number of the cause and its text. -/
def errno : FileCause → Nat × String
  | .notFound => (2, "No such file or directory")
  | .permission => (13, "Permission denied")
  | .alreadyExists => (17, "File exists")
  | .notADirectory => (20, "Not a directory")
  | .isADirectory => (21, "Is a directory")
  | .nameTooLong => (36, "File name too long")
  | .tooManyLinks => (40, "Too many levels of symbolic links")
  | .notEmpty => (39, "Directory not empty")
  | .invalid => (22, "Invalid argument")
  | .badDescriptor => (9, "Bad file descriptor")
  | .notPermitted => (1, "Operation not permitted")
  | .noProcess => (3, "No such process")
  | .noChild => (10, "No child processes")
  | .interrupted => (4, "Interrupted system call")
  | .noDevice => (6, "No such device or address")
  | .noSpace => (28, "No space left on device")
  | .illegalSeek => (29, "Illegal seek")
  | .brokenPipe => (32, "Broken pipe")
  | .badProgram => (8, "Exec format error")
  | .tooManyFiles => (24, "Too many open files")

/-- The text of a cause. -/
def plainText (cause : FileCause) : String :=
  let (number, reason) := cause.errno
  s!"[Errno {number}] {reason}"

/-- The text of a cause, about a path as it is shown. -/
def text (cause : FileCause) (shown : String) : String := cause.plainText ++ ": " ++ shown

end FileCause

namespace Fault

/-- What is reported of a fault. -/
def report : Fault → Report
  | .format cause => ⟨.format, cause.wording.1, cause.wording.2⟩
  | .invariant cause => ⟨.invariant, cause.wording.1, cause.wording.2⟩
  | .analysis cause => cause.report
  | .conversion cause => ⟨cause.category, cause.headline, []⟩
  | .invalidConfig key value reason => .invalidConfig key (.text value) reason
  | .invalidSettings fields =>
    ⟨.invalidSettings, "; ".intercalate (fields.map fun f ↦ f.1 ++ ": " ++ f.2), []⟩
  | .file fault => ⟨fault.cause.category, fault.cause.text (Text.quoted fault.path), []⟩
  | .writing cause => ⟨cause.category, cause.plainText, []⟩
  | .closedFile => ⟨.value, "I/O operation on closed file.", []⟩
  | .workingDirectory fault =>
    ⟨fault.cause.category,
      fault.cause.text ("PosixPath(" ++ Text.quoted fault.path ++ ")"), []⟩
  | .commandNotFound reason => ⟨.commandNotFound, reason, []⟩
  | .commandTimedOut elapsed command =>
    ⟨.commandTimeout, s!"Command timed out after {elapsed}s: {command}", []⟩
  | .commandFailed exitCode command _ =>
    ⟨.commandFailed, s!"Command failed with exit code {exitCode}: {command}", []⟩
  | .publisherClosed none => ⟨.publisherClosed, "Publisher is closed", []⟩
  | .publisherClosed (some path) =>
    ⟨.publisherClosed, "Publisher for " ++ path ++ " is closed", []⟩
  | .runtime text => ⟨.runtime, text, []⟩
  | .foreign kind text => ⟨.foreign kind, text, []⟩

/-- The category that a fault is reported in. -/
def category (e : Fault) : Category := e.report.category

/-- The text of a failure. -/
def message (e : Fault) : String := e.report.text

/-- The operating system refused something. -/
def isFromSystem : Fault → Bool
  | .file _ | .writing _ | .workingDirectory _ => true
  | _ => false

end Fault

/-- A document that is no JSON: its integers are too long, or `wrap` says what it is to be. -/
def Json.Misread.fault (wrap : String → FormatFault) : Json.Misread → Fault
  | .tooManyDigits count => .conversion (.tooManyDigitsToRead count)
  | .malformed defect line column position =>
    .format (wrap (defect.message ++ ": " ++ Json.place line column position))

end RevisionGraph
