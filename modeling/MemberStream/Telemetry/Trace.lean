import MemberStream.Error.Basic
import MemberStream.Parameter.Domain

namespace MemberStream

/-!
# Trace records

A stream tells what it does as events.  Each event has a tag, the debug level
from which on it is recorded; the level in force also decides how severe a
recorded event is.  A session opens a span, and every event carries the names
of the regions it happened in.
-/

/-- How urgent a recorded event is. -/
inductive Severity
  | debug
  | info
  deriving Repr, DecidableEq

/-- Something a stream reports about itself. -/
inductive Event
  | writerStarted (outputLength : Nat)
  | readerStarted (inputLength : Nat)
  /-- A whole buffer was held back. -/
  | held (count : Nat)
  | compressed (remaining consumed produced offset : Nat)
  | decompressed (consumed produced offset buffered : Nat)
  | outputExpanded (current next : Nat)
  | inputExpanded (current next : Nat)
  | transferred (count buffered capacity : Nat)
  | forwarded (count : Nat) (ok : Bool)
  | placeholder (codec : String) (synthetic : Bool) (length : Nat)
  | writerClosed (bytesIn : UInt64)
  | readerClosed (ok : Bool)
  /-- A reset found that the stream before it could not be finished. -/
  | unfinished (error : StreamError)
  | writerFailed (error : StreamError)
  | readerFailed (error : StreamError)
  deriving Repr, DecidableEq

/-- The value of one field of an event or a span. -/
inductive FieldValue
  | text (value : String)
  | number (value : Nat)
  | flag (value : Bool)
  deriving Repr, DecidableEq

namespace Event

/-- The debug level from which on an event is recorded. -/
def tag : Event → DebugLevel
  | .writerStarted _ | .readerStarted _ =>
      .low
  | .writerClosed _ | .readerClosed _ =>
      .low
  | .unfinished _ | .writerFailed _ | .readerFailed _ =>
      .low
  | .held _ | .compressed _ _ _ _ | .decompressed _ _ _ _ =>
      .medium
  | .outputExpanded _ _ | .inputExpanded _ _ =>
      .medium
  | .transferred _ _ _ | .forwarded _ _ | .placeholder _ _ _ =>
      .medium

/-- The wording of an event. -/
def message : Event → String
  | .writerStarted _ =>
      "writer session started"
  | .readerStarted _ =>
      "reader session started"
  | .held _ =>
      "write->bounce"
  | .compressed _ _ _ _ =>
      "write->engine"
  | .decompressed _ _ _ _ =>
      "read->engine"
  | .outputExpanded _ _ =>
      "expand output buffer"
  | .inputExpanded _ _ =>
      "expand input buffer"
  | .transferred _ _ _ =>
      "transfer"
  | .forwarded _ _ =>
      "write->output"
  | .placeholder _ _ _ =>
      "write->output placeholder"
  | .writerClosed _ =>
      "writer closed"
  | .readerClosed _ =>
      "reader closed"
  | .unfinished _ =>
      "previous stream left unfinished"
  | .writerFailed _ =>
      "writer error"
  | .readerFailed _ =>
      "reader error"

/-- The named values of an event. -/
def fields : Event → List (String × FieldValue)
  | .writerStarted outputLength =>
      [("output_len", .number outputLength)]
  | .readerStarted inputLength =>
      [("input_len", .number inputLength)]
  | .held count =>
      [("held", .number count)]
  | .compressed remaining consumed produced offset =>
      [("remaining", .number remaining), ("consumed", .number consumed),
        ("produced", .number produced), ("offset", .number offset)]
  | .decompressed consumed produced offset buffered =>
      [("consumed", .number consumed), ("produced", .number produced),
        ("offset", .number offset), ("buffered", .number buffered)]
  | .outputExpanded current next | .inputExpanded current next =>
      [("from", .number current), ("to", .number next)]
  | .transferred count buffered capacity =>
      [("read", .number count), ("buffered", .number buffered),
        ("capacity", .number capacity)]
  | .forwarded count ok =>
      [("written", .number count), ("ok", .flag ok)]
  | .placeholder codec synthetic length =>
      [("codec", .text codec), ("synthetic", .flag synthetic), ("len", .number length)]
  | .writerClosed bytesIn =>
      [("bytes_in", .number bytesIn.toNat)]
  | .readerClosed ok =>
      [("ok", .flag ok)]
  | .unfinished error | .writerFailed error | .readerFailed error =>
      [("error", .text error.message)]

end Event

/-- The span of one session. -/
inductive Span
  | writer (algorithm : Algorithm) (level : UInt32) (mode : InputBufferMode)
  | reader (algorithm : Algorithm) (level : UInt32)
  deriving Repr, DecidableEq

namespace Span

/-- The name of a span among the regions of an event. -/
def name : Span → String
  | .writer _ _ _ =>
      "qz_writer"
  | .reader _ _ =>
      "qz_reader"

/-- The named values of a span. -/
def fields : Span → List (String × FieldValue)
  | .writer algorithm level mode =>
      [("algorithm", .text algorithm.name), ("level", .number level.toNat),
        ("mode", .text (Domain.label mode))]
  | .reader algorithm level =>
      [("algorithm", .text algorithm.name), ("level", .number level.toNat)]

end Span

/-- The names of the regions entered at some moment, outermost first. -/
abbrev Scope := List String

/-- One record of a trace. -/
inductive TraceRecord
  | opened (span : Span)
  | event (severity : Severity) (scope : Scope) (event : Event)
  deriving Repr, DecidableEq

/-- What has been recorded so far, newest first. -/
abbrev Trace := List TraceRecord

namespace Trace

/-- The severity of events while a debug level is in force. -/
def severity
    (level : DebugLevel) :
    Severity :=
  if DebugLevel.high ≤ level then .info else .debug

/-- Record an event if the level in force reaches its tag. -/
def record
    (trace : Trace)
    (level : DebugLevel)
    (scope : Scope)
    (event : Event) :
    Trace :=
  if event.tag ≤ level then
    .event (severity level) scope event :: trace
  else
    trace

/-- Recording an event goes in front of what has been recorded before. -/
theorem record_append
    (trace past : Trace)
    (level : DebugLevel)
    (scope : Scope)
    (event : Event) :
    record (trace ++ past) level scope event = record trace level scope event ++ past := by
  unfold record
  split <;> rfl

end Trace

end MemberStream
