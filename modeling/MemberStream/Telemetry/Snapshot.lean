import MemberStream.Decimal.Fixed
import MemberStream.Decimal.Shortest
import MemberStream.Parameter.Domain
import MemberStream.Telemetry.Counters

namespace MemberStream

/-!
# Snapshots

A snapshot is a view of the counters of one stream.  The ratio is uncompressed
over compressed bytes in both directions, so that a writer and the reader of
its output report the same figure; the speed is uncompressed megabytes per
second of engine time.  A zero denominator gives zero.
-/

/-- Whose counters are shown, and for which session. -/
structure Snapshot where
  direction : Direction
  algorithm : Algorithm
  level : UInt32
  counters : Counters

namespace Snapshot

/-- The uncompressed bytes. -/
def plainBytes
    (snapshot : Snapshot) :
    UInt64 :=
  if snapshot.direction = .decompress then
    snapshot.counters.bytesOut
  else
    snapshot.counters.bytesIn

/-- The compressed bytes. -/
def packedBytes
    (snapshot : Snapshot) :
    UInt64 :=
  if snapshot.direction = .decompress then
    snapshot.counters.bytesIn
  else
    snapshot.counters.bytesOut

/-- Uncompressed over compressed bytes. -/
def ratio
    (snapshot : Snapshot) :
    Float :=
  if snapshot.packedBytes = 0 then
    0
  else
    snapshot.plainBytes.toFloat / snapshot.packedBytes.toFloat

/-- Uncompressed megabytes per second of engine time. -/
def speed
    (snapshot : Snapshot) :
    Float :=
  if snapshot.counters.engineTime = 0 then
    0
  else
    (snapshot.plainBytes.toFloat / 1e6) / (snapshot.counters.engineTime.toFloat / 1e9)

/-- A figure with six places. -/
def sixPlaces
    (figure : Float) :
    String :=
  Decimal.fixed 6 (BinaryValue.ofBits figure.toBits)

/-- A figure with the fewest digits that identify it. -/
def shortestText
    (figure : Float) :
    String :=
  Decimal.render (BinaryValue.ofBits figure.toBits)

/-- The letter of the operation: `d` for decompression, otherwise `c`. -/
def operationCode
    (snapshot : Snapshot) :
    String :=
  if snapshot.direction = .decompress then "d" else "c"

/-- The column names of a row. -/
def csvHeader : String :=
  "op,algo,level,in,out,rtime,wtime,etime,ctime,ratio,speed"

/-- A time in whole milliseconds. -/
def milliseconds
    (nanoseconds : UInt64) :
    String :=
  toString (nanoseconds.toNat / 1000000)

/-- A count in decimal. -/
def count
    (number : UInt64) :
    String :=
  toString number.toNat

/-- One row of comma-separated values. -/
def toCsvRow
    (snapshot : Snapshot) :
    String :=
  let counters := snapshot.counters
  String.intercalate ","
    [ snapshot.operationCode
    , snapshot.algorithm.name
    , toString snapshot.level.toNat
    , count counters.bytesIn
    , count counters.bytesOut
    , milliseconds counters.readTime
    , milliseconds counters.writeTime
    , milliseconds counters.engineTime
    , milliseconds counters.copyTime
    , sixPlaces snapshot.ratio
    , sixPlaces snapshot.speed ]

/-- A report of one figure per line. -/
def toText
    (snapshot : Snapshot) :
    String :=
  let counters := snapshot.counters
  String.intercalate "\n"
    [ "Algorithm " ++ snapshot.algorithm.name
    , "Level " ++ toString snapshot.level.toNat
    , "Bytes In " ++ count counters.bytesIn
    , "Bytes Out " ++ count counters.bytesOut
    , "Read Time " ++ milliseconds counters.readTime ++ " ms"
    , "Write Time " ++ milliseconds counters.writeTime ++ " ms"
    , "Engine Time " ++ milliseconds counters.engineTime ++ " ms"
    , "Copy Time " ++ milliseconds counters.copyTime ++ " ms"
    , "Compression Ratio " ++ sixPlaces snapshot.ratio
    , "Compression Speed " ++ sixPlaces snapshot.speed ++ " MB/s (Engine)" ]

end Snapshot

end MemberStream
