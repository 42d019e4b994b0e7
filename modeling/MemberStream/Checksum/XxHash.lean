import MemberStream.Bytes

namespace MemberStream

/-!
# The xxHash checksums

`xxHash32` guards LZ4 frames and `xxHash64` guards zstd frames, both with seed
zero.  A string is cut into stripes of four lanes; the lanes are folded over
the whole stripes and the rest is mixed in word by word and byte by byte.
-/

namespace XxHash32

/-- The five odd multipliers of the 32-bit hash. -/
def prime1 : UInt32 := 2654435761

/-- The second multiplier. -/
def prime2 : UInt32 := 2246822519

/-- The third multiplier. -/
def prime3 : UInt32 := 3266489917

/-- The fourth multiplier. -/
def prime4 : UInt32 := 668265263

/-- The fifth multiplier. -/
def prime5 : UInt32 := 374761393

/-- Rotate a word to the left. -/
def rotate
    (word : UInt32)
    (amount : UInt32) :
    UInt32 :=
  (word <<< amount) ||| (word >>> (32 - amount))

/-- The word made of four octets, least significant first. -/
def word
    (b0 b1 b2 b3 : UInt8) :
    UInt32 :=
  b0.toUInt32 ||| (b1.toUInt32 <<< 8) ||| (b2.toUInt32 <<< 16) ||| (b3.toUInt32 <<< 24)

/-- Fold one word into a lane. -/
def round
    (lane input : UInt32) :
    UInt32 :=
  prime1 * rotate (lane + prime2 * input) 13

/-- Spread the bits of the result. -/
def avalanche
    (hash : UInt32) :
    UInt32 :=
  let hash := prime2 * (hash ^^^ (hash >>> 15))
  let hash := prime3 * (hash ^^^ (hash >>> 13))
  hash ^^^ (hash >>> 16)

/-- Mix in what is left after the whole stripes. -/
def finish
    (hash : UInt32) :
    Bytes → UInt32
  | b0 :: b1 :: b2 :: b3 :: rest =>
      finish (prime4 * rotate (hash + prime3 * word b0 b1 b2 b3) 17) rest
  | byte :: rest =>
      finish (prime1 * rotate (hash + prime5 * byte.toUInt32) 11) rest
  | [] =>
      avalanche hash

/-- Fold the whole stripes into the four lanes, then finish. -/
def stripes
    (length lane1 lane2 lane3 lane4 : UInt32) :
    Bytes → UInt32
  | a0 :: a1 :: a2 :: a3 :: b0 :: b1 :: b2 :: b3 ::
      c0 :: c1 :: c2 :: c3 :: d0 :: d1 :: d2 :: d3 :: rest =>
      stripes length
        (round lane1 (word a0 a1 a2 a3))
        (round lane2 (word b0 b1 b2 b3))
        (round lane3 (word c0 c1 c2 c3))
        (round lane4 (word d0 d1 d2 d3))
        rest
  | rest =>
      finish
        (rotate lane1 1 + rotate lane2 7 + rotate lane3 12 + rotate lane4 18 + length)
        rest

end XxHash32

/-- The 32-bit hash of a byte string with seed zero. -/
def xxHash32
    (bytes : Bytes) :
    UInt32 :=
  let length := UInt32.ofNat bytes.length
  if bytes.length < 16 then
    XxHash32.finish (XxHash32.prime5 + length) bytes
  else
    XxHash32.stripes length
      (XxHash32.prime1 + XxHash32.prime2) XxHash32.prime2 0 (0 - XxHash32.prime1) bytes

namespace XxHash64

/-- The five odd multipliers of the 64-bit hash. -/
def prime1 : UInt64 := 11400714785074694791

/-- The second multiplier. -/
def prime2 : UInt64 := 14029467366897019727

/-- The third multiplier. -/
def prime3 : UInt64 := 1609587929392839161

/-- The fourth multiplier. -/
def prime4 : UInt64 := 9650029242287828579

/-- The fifth multiplier. -/
def prime5 : UInt64 := 2870177450012600261

/-- Rotate a word to the left. -/
def rotate
    (word : UInt64)
    (amount : UInt64) :
    UInt64 :=
  (word <<< amount) ||| (word >>> (64 - amount))

/-- The word made of eight octets, least significant first. -/
def word
    (b0 b1 b2 b3 b4 b5 b6 b7 : UInt8) :
    UInt64 :=
  b0.toUInt64 ||| (b1.toUInt64 <<< 8) ||| (b2.toUInt64 <<< 16) ||| (b3.toUInt64 <<< 24) |||
    (b4.toUInt64 <<< 32) ||| (b5.toUInt64 <<< 40) ||| (b6.toUInt64 <<< 48) |||
    (b7.toUInt64 <<< 56)

/-- Fold one word into a lane. -/
def round
    (lane input : UInt64) :
    UInt64 :=
  prime1 * rotate (lane + prime2 * input) 31

/-- Fold a finished lane into the hash. -/
def mergeLane
    (hash lane : UInt64) :
    UInt64 :=
  prime1 * (hash ^^^ round 0 lane) + prime4

/-- Spread the bits of the result. -/
def avalanche
    (hash : UInt64) :
    UInt64 :=
  let hash := prime2 * (hash ^^^ (hash >>> 33))
  let hash := prime3 * (hash ^^^ (hash >>> 29))
  hash ^^^ (hash >>> 32)

/-- Mix in the octets after the last whole word. -/
def finishBytes
    (hash : UInt64)
    (bytes : Bytes) :
    UInt64 :=
  avalanche
    (bytes.foldl
      (fun hash byte => prime1 * rotate (hash ^^^ (prime5 * byte.toUInt64)) 11) hash)

/-- Mix in a half word if one is left, then the octets after it. -/
def finishHalf
    (hash : UInt64) :
    Bytes → UInt64
  | b0 :: b1 :: b2 :: b3 :: rest =>
      finishBytes
        (prime2 * rotate (hash ^^^ (prime1 * word b0 b1 b2 b3 0 0 0 0)) 23 + prime3)
        rest
  | rest =>
      finishBytes hash rest

/-- Mix in what is left after the whole stripes. -/
def finish
    (hash : UInt64) :
    Bytes → UInt64
  | b0 :: b1 :: b2 :: b3 :: b4 :: b5 :: b6 :: b7 :: rest =>
      finish
        (prime1 * rotate (hash ^^^ round 0 (word b0 b1 b2 b3 b4 b5 b6 b7)) 27 + prime4)
        rest
  | rest =>
      finishHalf hash rest

/-- Fold the whole stripes into the four lanes, then finish. -/
def stripes
    (length lane1 lane2 lane3 lane4 : UInt64) :
    Bytes → UInt64
  | a0 :: a1 :: a2 :: a3 :: a4 :: a5 :: a6 :: a7 ::
      b0 :: b1 :: b2 :: b3 :: b4 :: b5 :: b6 :: b7 ::
      c0 :: c1 :: c2 :: c3 :: c4 :: c5 :: c6 :: c7 ::
      d0 :: d1 :: d2 :: d3 :: d4 :: d5 :: d6 :: d7 :: rest =>
      stripes length
        (round lane1 (word a0 a1 a2 a3 a4 a5 a6 a7))
        (round lane2 (word b0 b1 b2 b3 b4 b5 b6 b7))
        (round lane3 (word c0 c1 c2 c3 c4 c5 c6 c7))
        (round lane4 (word d0 d1 d2 d3 d4 d5 d6 d7))
        rest
  | rest =>
      let hash :=
        rotate lane1 1 + rotate lane2 7 + rotate lane3 12 + rotate lane4 18
      let hash := mergeLane (mergeLane (mergeLane (mergeLane hash lane1) lane2) lane3) lane4
      finish (hash + length) rest

end XxHash64

/-- The 64-bit hash of a byte string with seed zero. -/
def xxHash64
    (bytes : Bytes) :
    UInt64 :=
  let length := UInt64.ofNat bytes.length
  if bytes.length < 32 then
    XxHash64.finish (XxHash64.prime5 + length) bytes
  else
    XxHash64.stripes length
      (XxHash64.prime1 + XxHash64.prime2) XxHash64.prime2 0 (0 - XxHash64.prime1) bytes

end MemberStream
