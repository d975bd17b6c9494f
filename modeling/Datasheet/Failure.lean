/-!
# Failures

Why a request is not answered. A failure is of the client's making or of the
service's (`Failure.isClient`); only the former's message is meant for the
client.
-/

namespace Datasheet

inductive FailureKind where
  | internal
  | validation
  | unsupportedFormat
  | malformedFile
  | parse
  | database
  | upstream
  | io
deriving DecidableEq

namespace FailureKind

/-- Whether what the client sent is at fault. -/
def isClient : FailureKind → Bool
  | validation | unsupportedFormat | malformedFile | parse => true
  | internal | database | upstream | io => false

/-- How a log line names the kind. -/
def title : FailureKind → String
  | internal => "Internal error"
  | validation => "Validation error"
  | unsupportedFormat => "Unsupported format"
  | malformedFile => "Malformed file"
  | parse => "Parse error"
  | database => "Database error"
  | upstream => "Upstream error"
  | io => "IO error"

/-- How stored data names the kind. -/
def tag : FailureKind → String
  | internal => "Internal"
  | validation => "ValidationError"
  | unsupportedFormat => "UnsupportedFormat"
  | malformedFile => "MalformedFile"
  | parse => "ParseError"
  | database => "DatabaseError"
  | upstream => "UpstreamError"
  | io => "IoError"

end FailureKind

/-- A failure: its kind and a message about it. -/
structure Failure where
  kind : FailureKind
  message : String
deriving DecidableEq

namespace Failure

def isClient (f : Failure) : Bool := f.kind.isClient

/-- The line that a log shows: the kind, then the message. -/
def display (f : Failure) : String := f.kind.title ++ ": " ++ f.message

end Failure

end Datasheet
