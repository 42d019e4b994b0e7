namespace MemberStream

/-!
# Session counters

Byte counts reported by the engine and the time spent per stage, all in 64-bit
words.  Byte counts wrap; stage times saturate.
-/

/-- What a stream spends its time on. -/
inductive Stage
  | read
  | write
  | engine
  | copy
  deriving Repr, DecidableEq

namespace Stage

/-- All stages. -/
def members : List Stage :=
  [.read, .write, .engine, .copy]

/-- The name of a stage in messages. -/
def name : Stage → String
  | .read =>
      "read"
  | .write =>
      "write"
  | .engine =>
      "engine"
  | .copy =>
      "copy"

/-- The label under which a stage is serialised. -/
def label : Stage → String
  | .read =>
      "Read"
  | .write =>
      "Write"
  | .engine =>
      "Engine"
  | .copy =>
      "Copy"

end Stage

/-- The counters of one session. -/
structure Counters where
  readTime : UInt64 := 0
  writeTime : UInt64 := 0
  /-- Bytes the engine consumed. -/
  bytesIn : UInt64 := 0
  /-- Bytes the engine produced. -/
  bytesOut : UInt64 := 0
  engineTime : UInt64 := 0
  copyTime : UInt64 := 0
  deriving Repr, DecidableEq

namespace Counters

/-- Counters at the start of a session. -/
def zero : Counters :=
  {}

/-- Whether nothing has been counted. -/
def isZero
    (counters : Counters) :
    Bool :=
  counters == zero

/-- Count one successful engine step. -/
def addStep
    (counters : Counters)
    (consumed produced : Nat) :
    Counters :=
  { counters with
    bytesIn := counters.bytesIn + UInt64.ofNat consumed
    bytesOut := counters.bytesOut + UInt64.ofNat produced }

/-- The time spent in a stage, in nanoseconds. -/
def time
    (counters : Counters) : Stage → UInt64
  | .read =>
      counters.readTime
  | .write =>
      counters.writeTime
  | .engine =>
      counters.engineTime
  | .copy =>
      counters.copyTime

/-- A sum of times that stops at the largest word. -/
def saturatingTime
    (first second : UInt64) :
    UInt64 :=
  UInt64.ofNat (min (first.toNat + second.toNat) (2 ^ (64 : Nat) - 1))

/-- Charge a time to its stage. -/
def addTime
    (counters : Counters)
    (stage : Stage)
    (nanoseconds : UInt64) :
    Counters :=
  let total := saturatingTime (counters.time stage) nanoseconds
  match stage with
  | .read =>
      { counters with readTime := total }
  | .write =>
      { counters with writeTime := total }
  | .engine =>
      { counters with engineTime := total }
  | .copy =>
      { counters with copyTime := total }

/-- The field-wise sum of the counters of two streams. -/
def merge
    (first second : Counters) :
    Counters where
  readTime :=
    first.readTime + second.readTime
  writeTime :=
    first.writeTime + second.writeTime
  bytesIn :=
    first.bytesIn + second.bytesIn
  bytesOut :=
    first.bytesOut + second.bytesOut
  engineTime :=
    first.engineTime + second.engineTime
  copyTime :=
    first.copyTime + second.copyTime

end Counters

end MemberStream
