import MemberStream.Codec.Error

namespace MemberStream

/-!
# Labels of errors

A label names the kind of an error in one word, without the facts it carries.
Reports and rehearsals refer to errors by their labels.
-/

namespace ParameterError

/-- All parameter errors. -/
def members : List ParameterError :=
  [.compressionLevel, .algorithm, .deflateFormat, .direction, .inputBufferMode, .pollingMode,
    .huffmanHeader, .debugLevel, .outputBufferLength, .inputBufferLength, .bufferGrowth,
    .bounceBufferLength, .maxBufferLength, .incompatibleDirection, .invalidTarget, .rejected]

/-- The list of parameter errors is complete. -/
theorem mem_members
    (error : ParameterError) :
    error ∈ members := by
  cases error <;> decide

/-- The label of a parameter error. -/
def label : ParameterError → String
  | .compressionLevel =>
      "CompressionLevel"
  | .algorithm =>
      "Algorithm"
  | .deflateFormat =>
      "DeflateFormat"
  | .direction =>
      "Direction"
  | .inputBufferMode =>
      "InputBufferMode"
  | .pollingMode =>
      "PollingMode"
  | .huffmanHeader =>
      "HuffmanHdr"
  | .debugLevel =>
      "DebugLevel"
  | .outputBufferLength =>
      "OutputBufLength"
  | .inputBufferLength =>
      "InputBufLength"
  | .bufferGrowth =>
      "BufferGrowth"
  | .bounceBufferLength =>
      "BounceBufferLength"
  | .maxBufferLength =>
      "MaxBufferLength"
  | .incompatibleDirection =>
      "IncompatibleDirection"
  | .invalidTarget =>
      "InvalidTarget"
  | .rejected =>
      "Rejected"

/-- The parameter error with a given label. -/
def ofLabel?
    (text : String) :
    Option ParameterError :=
  members.find? (fun error => error.label == text)

end ParameterError

namespace TransportKind

/-- All kinds of transport failures. -/
def members : List TransportKind :=
  [.notFound, .permissionDenied, .connectionRefused, .connectionReset, .connectionAborted,
    .notConnected, .addressInUse, .addressNotAvailable, .brokenPipe, .alreadyExists,
    .wouldBlock, .invalidInput, .invalidData, .timedOut, .writeZero, .interrupted,
    .unsupported, .unexpectedEnd, .outOfMemory, .other]

/-- The list of kinds is complete. -/
theorem mem_members
    (kind : TransportKind) :
    kind ∈ members := by
  cases kind <;> decide

/-- The kind with a given name. -/
def ofName?
    (text : String) :
    Option TransportKind :=
  members.find? (fun kind => kind.name == text)

end TransportKind

/-- The label of a stream error. -/
def StreamError.label : StreamError → String
  | .invalidParameter _ =>
      "InvalidParameter"
  | .applyAfterStart =>
      "ApplyAfterStart"
  | .insufficientBuffer =>
      "InsufficientBuffer"
  | .corruptInput _ =>
      "CorruptInput"
  | .timeout =>
      "Timeout"
  | .integrityCheckFailed =>
      "IntegrityCheckFailed"
  | .unsupportedFormat _ =>
      "UnsupportedFormat"
  | .resourceExhausted _ =>
      "ResourceExhausted"
  | .alreadyClosed =>
      "AlreadyClosed"
  | .notYetStarted =>
      "NotYetStarted"
  | .emptyBuffer =>
      "EmptyBuffer"
  | .bufferLimitExceeded _ _ =>
      "BufferLimitExceeded"
  | .shortWrite =>
      "ShortWrite"
  | .engineFault _ =>
      "EngineFault"
  | .transport _ _ =>
      "Io"

/-- The label of a codec failure. -/
def CodecFailure.label : CodecFailure → String
  | .levelOutOfRange _ _ =>
      "LevelOutOfRange"
  | .encodeFailed _ =>
      "EncodeFailed"
  | .decodeFailed =>
      "DecodeFailed"
  | .truncated _ =>
      "Truncated"
  | .badMagic =>
      "BadMagic"
  | .checksumMismatch =>
      "ChecksumMismatch"

end MemberStream
