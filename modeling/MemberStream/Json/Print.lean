import MemberStream.Parameter.Set
import MemberStream.Telemetry.Snapshot

namespace MemberStream

/-!
# Writing JSON

Parameter sets, counters and snapshots are written as compact objects whose
keys follow the order of the fields.  Their strings are plain labels, so no
character needs an escape.
-/

namespace Json

/-- A string that needs no escapes. -/
def quoted
    (text : String) :
    String :=
  "\"" ++ text ++ "\""

/-- An object with the given keys and already written values. -/
def object
    (members : List (String × String)) :
    String :=
  let written := members.map (fun member => quoted member.1 ++ ":" ++ member.2)
  "\x7b" ++ String.intercalate "," written ++ "\x7d"

/-- A member of a closed domain. -/
def ofMember
    {α : Type}
    [domain : Domain α]
    (member : α) :
    String :=
  quoted (domain.label member)

/-- A truth value. -/
def ofBool
    (value : Bool) :
    String :=
  if value then "true" else "false"

/-- A 32-bit number. -/
def ofWord
    (value : UInt32) :
    String :=
  toString value.toNat

/-- A length that may be absent. -/
def ofLength?
    (length : Option Nat) :
    String :=
  match length with
  | some length =>
      toString length
  | none =>
      "null"

/-- Counters. -/
def ofCounters
    (counters : Counters) :
    String :=
  object
    [ ("read_time_ns", toString counters.readTime.toNat)
    , ("write_time_ns", toString counters.writeTime.toNat)
    , ("bytes_in", toString counters.bytesIn.toNat)
    , ("bytes_out", toString counters.bytesOut.toNat)
    , ("engine_time_ns", toString counters.engineTime.toNat)
    , ("copy_time_ns", toString counters.copyTime.toNat) ]

/-- A snapshot with its derived figures. -/
def ofSnapshot
    (snapshot : Snapshot) :
    String :=
  object
    [ ("direction", ofMember snapshot.direction)
    , ("algorithm", ofMember snapshot.algorithm)
    , ("level", ofWord snapshot.level)
    , ("counters", ofCounters snapshot.counters)
    , ("compression_ratio", Snapshot.shortestText snapshot.ratio)
    , ("engine_mb_per_sec", Snapshot.shortestText snapshot.speed) ]

/-- A parameter set without the marks of its explicit fields. -/
def ofParameters
    (parameters : ParameterSet) :
    String :=
  object
    [ ("algorithm", ofMember parameters.algorithm)
    , ("level", ofWord parameters.level)
    , ("direction", ofMember parameters.direction)
    , ("deflate_format", ofMember parameters.deflateFormat)
    , ("output_buf_len", toString parameters.outputBufferLength)
    , ("input_buf_len", toString parameters.inputBufferLength)
    , ("buffer_growth", toString parameters.bufferGrowth)
    , ("bounce_buffer_len", toString parameters.bounceBufferLength)
    , ("input_buffer_mode", ofMember parameters.inputBufferMode)
    , ("max_buffer_len", ofLength? parameters.maxBufferLength)
    , ("debug_level", ofMember parameters.debugLevel)
    , ("huffman_hdr", ofMember parameters.huffmanHeader)
    , ("polling_mode", ofMember parameters.pollingMode)
    , ("sw_backup", ofBool parameters.softwareBackup)
    , ("sensitive", ofBool parameters.sensitive)
    , ("max_forks", ofWord parameters.maxForks)
    , ("hw_buf_size", ofWord parameters.hardwareBufferSize)
    , ("stream_buf_size", ofWord parameters.streamBufferSize)
    , ("sw_switch_threshold", ofWord parameters.softwareSwitchThreshold)
    , ("req_count_threshold", ofWord parameters.requestCountThreshold)
    , ("wait_count_threshold", ofWord parameters.waitCountThreshold) ]

end Json

end MemberStream
