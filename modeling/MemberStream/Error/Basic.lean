namespace MemberStream

/-!
# Errors of options, engines and streams

Every failure of the library is one value of `StreamError`.  A stream keeps the
first one that ends it and hands the same value back on every later call, so
errors are plain data: two failures are the same exactly when their values are.
-/

/-- The parameter domain that an option, a text or a raw number violates. -/
inductive ParameterError
  | compressionLevel
  | algorithm
  | deflateFormat
  | direction
  | inputBufferMode
  | pollingMode
  | huffmanHeader
  | debugLevel
  | outputBufferLength
  | inputBufferLength
  | bufferGrowth
  | bounceBufferLength
  | maxBufferLength
  | incompatibleDirection
  | invalidTarget
  | rejected
  deriving Repr, DecidableEq

namespace ParameterError

/-- The wording of a parameter error. -/
def message : ParameterError → String
  | .compressionLevel =>
      "invalid compression level"
  | .algorithm =>
      "invalid algorithm type"
  | .deflateFormat =>
      "invalid deflate format type"
  | .direction =>
      "invalid direction"
  | .inputBufferMode =>
      "invalid input buffer mode"
  | .pollingMode =>
      "invalid polling mode"
  | .huffmanHeader =>
      "invalid huffman header type"
  | .debugLevel =>
      "invalid debug level"
  | .outputBufferLength =>
      "invalid size for output buffer length"
  | .inputBufferLength =>
      "invalid size for input buffer length"
  | .bufferGrowth =>
      "invalid size for buffer growth"
  | .bounceBufferLength =>
      "invalid size for bounce buffer length"
  | .maxBufferLength =>
      "invalid size for maximum buffer length"
  | .incompatibleDirection =>
      "direction not usable by this stream"
  | .invalidTarget =>
      "option applied to incorrect type"
  | .rejected =>
      "engine rejected session parameters"

end ParameterError

/-- What kind of failure a sink or a source reports. -/
inductive TransportKind
  | notFound
  | permissionDenied
  | connectionRefused
  | connectionReset
  | connectionAborted
  | notConnected
  | addressInUse
  | addressNotAvailable
  | brokenPipe
  | alreadyExists
  | wouldBlock
  | invalidInput
  | invalidData
  | timedOut
  | writeZero
  | interrupted
  | unsupported
  | unexpectedEnd
  | outOfMemory
  | other
  deriving Repr, DecidableEq

namespace TransportKind

/-- The name under which a kind appears in messages. -/
def name : TransportKind → String
  | .notFound =>
      "NotFound"
  | .permissionDenied =>
      "PermissionDenied"
  | .connectionRefused =>
      "ConnectionRefused"
  | .connectionReset =>
      "ConnectionReset"
  | .connectionAborted =>
      "ConnectionAborted"
  | .notConnected =>
      "NotConnected"
  | .addressInUse =>
      "AddrInUse"
  | .addressNotAvailable =>
      "AddrNotAvailable"
  | .brokenPipe =>
      "BrokenPipe"
  | .alreadyExists =>
      "AlreadyExists"
  | .wouldBlock =>
      "WouldBlock"
  | .invalidInput =>
      "InvalidInput"
  | .invalidData =>
      "InvalidData"
  | .timedOut =>
      "TimedOut"
  | .writeZero =>
      "WriteZero"
  | .interrupted =>
      "Interrupted"
  | .unsupported =>
      "Unsupported"
  | .unexpectedEnd =>
      "UnexpectedEof"
  | .outOfMemory =>
      "OutOfMemory"
  | .other =>
      "Other"

/-- The wording of a failure that carries nothing but its kind. -/
def description : TransportKind → String
  | .notFound =>
      "entity not found"
  | .permissionDenied =>
      "permission denied"
  | .connectionRefused =>
      "connection refused"
  | .connectionReset =>
      "connection reset"
  | .connectionAborted =>
      "connection aborted"
  | .notConnected =>
      "not connected"
  | .addressInUse =>
      "address in use"
  | .addressNotAvailable =>
      "address not available"
  | .brokenPipe =>
      "broken pipe"
  | .alreadyExists =>
      "entity already exists"
  | .wouldBlock =>
      "operation would block"
  | .invalidInput =>
      "invalid input parameter"
  | .invalidData =>
      "invalid data"
  | .timedOut =>
      "timed out"
  | .writeZero =>
      "write zero"
  | .interrupted =>
      "operation interrupted"
  | .unsupported =>
      "unsupported"
  | .unexpectedEnd =>
      "unexpected end of file"
  | .outOfMemory =>
      "out of memory"
  | .other =>
      "other error"

end TransportKind

/-- A failure of an option, an engine call or a stream. -/
inductive StreamError
  | invalidParameter (cause : ParameterError)
  | applyAfterStart
  /-- The output slice handed to the engine was too small. -/
  | insufficientBuffer
  | corruptInput (text : String)
  | timeout
  | integrityCheckFailed
  | unsupportedFormat (text : String)
  | resourceExhausted (text : String)
  | alreadyClosed
  | notYetStarted
  | emptyBuffer
  | bufferLimitExceeded (requested limit : Nat)
  | shortWrite
  /-- An unspecified engine failure, or an engine that breaks its contract. -/
  | engineFault (text : String)
  | transport (kind : TransportKind) (text : String)
  deriving Repr, DecidableEq

namespace StreamError

/-- The wording of an error. -/
def message : StreamError → String
  | .invalidParameter cause =>
      "invalid parameter: " ++ cause.message
  | .applyAfterStart =>
      "cannot apply options after reset or I/O"
  | .insufficientBuffer =>
      "insufficient buffer"
  | .corruptInput text =>
      "input data was corrupted: " ++ text
  | .timeout =>
      "operation timed out"
  | .integrityCheckFailed =>
      "integrity check failed"
  | .unsupportedFormat text =>
      "unsupported format: " ++ text
  | .resourceExhausted text =>
      "resource exhausted: " ++ text
  | .alreadyClosed =>
      "stream already closed"
  | .notYetStarted =>
      "session not started"
  | .emptyBuffer =>
      "empty buffer"
  | .bufferLimitExceeded requested limit =>
      "buffer limit exceeded: requested " ++ toString requested ++ " bytes, limit " ++
        toString limit
  | .shortWrite =>
      "short write to output stream"
  | .engineFault text =>
      "engine fault: " ++ text
  | .transport kind text =>
      "I/O error (" ++ kind.name ++ "): " ++ text

/-- Only a too small output slice is met by trying again with a larger one. -/
def retryable : StreamError → Bool
  | .insufficientBuffer =>
      true
  | _ =>
      false

/-- The kind under which a stream error crosses a byte-stream interface. -/
def transportKind : StreamError → TransportKind
  | .transport kind _ =>
      kind
  | .invalidParameter _ | .applyAfterStart =>
      .invalidInput
  | .corruptInput _ | .integrityCheckFailed | .emptyBuffer =>
      .invalidData
  | .timeout =>
      .timedOut
  | .unsupportedFormat _ =>
      .unsupported
  | .resourceExhausted _ | .bufferLimitExceeded _ _ =>
      .outOfMemory
  | .shortWrite =>
      .writeZero
  | .insufficientBuffer | .alreadyClosed | .notYetStarted | .engineFault _ =>
      .other

end StreamError

/-- A failure reported by a sink or a source, or through a byte-stream interface. -/
inductive TransportError
  /-- A failure that carries nothing but its kind. -/
  | plain (kind : TransportKind)
  /-- A failure with a wording of its own. -/
  | worded (kind : TransportKind) (text : String)
  /-- A stream error on its way through a byte-stream interface. -/
  | wrapped (error : StreamError)
  /-- A stream error that somebody else has put into a failure of another kind. -/
  | enclosing (kind : TransportKind) (error : StreamError)
  deriving Repr, DecidableEq

namespace TransportError

/-- The kind of a transport failure. -/
def kind : TransportError → TransportKind
  | .plain kind =>
      kind
  | .worded kind _ =>
      kind
  | .wrapped error =>
      error.transportKind
  | .enclosing kind _ =>
      kind

/-- The wording of a transport failure. -/
def message : TransportError → String
  | .plain kind =>
      kind.description
  | .worded _ text =>
      text
  | .wrapped error | .enclosing _ error =>
      error.message

end TransportError

/--
Recover the stream error that a transport failure carries; any other transport
failure keeps its kind and wording.
-/
def StreamError.ofTransport : TransportError → StreamError
  | .wrapped error | .enclosing _ error =>
      error
  | error =>
      .transport error.kind error.message

/-- A stream error survives the way through a byte-stream interface. -/
@[simp]
theorem StreamError.ofTransport_wrapped
    (error : StreamError) :
    StreamError.ofTransport (.wrapped error) = error := by
  rfl

end MemberStream
