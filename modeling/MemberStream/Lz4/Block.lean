import MemberStream.Bits.Decoder
import MemberStream.Lz.History
import MemberStream.Lz.Parse

namespace MemberStream

/-!
# LZ4 blocks

A block is a sequence of literal runs and copies.  A token octet holds both
lengths, each continued in further octets if it does not fit; the last run has
no copy behind it.  A block ends exactly where its data does.
-/

namespace Lz4

open Decoder

/-- The length that a token holds in full is below this. -/
def tokenLimit : Nat :=
  15

/-- The shortest copy. -/
def shortestCopy : Nat :=
  4

/-- Read the rest of a length whose part in the token is given. -/
def continuedLength
    (short : Nat) :
    Decoder Nat :=
  if short < tokenLimit then
    return short
  else
    iterate
      (fun total => do
        let next ← octet
        if next = 255 then
          return .again (total + 255)
        else
          return .stop (total + next.toNat))
      short

/-- What limits the content of a block. -/
structure BlockBounds where
  /-- Where in the history copies may reach at the earliest. -/
  floor : Nat
  /-- Where in the history the block may end at the latest. -/
  ceiling : Nat

/-- Add literals to a block. -/
def addLiterals
    (bounds : BlockBounds)
    (history : History)
    (count : Nat) :
    Decoder History := do
  let literals ← octets count
  require (history.size + count ≤ bounds.ceiling) .decodeFailed
  return history.append literals

/-- Add a copy to a block. -/
def addCopy
    (bounds : BlockBounds)
    (history : History)
    (distance count : Nat) :
    Decoder History := do
  require (0 < distance && bounds.floor + distance ≤ history.size) .decodeFailed
  require (history.size + count ≤ bounds.ceiling) .decodeFailed
  return history.copy distance count

/-- Read the data of a block behind some history. -/
def blockContent
    (bounds : BlockBounds)
    (history : History) :
    Decoder History :=
  iterate
    (fun history => do
      let token ← octet
      let literalCount ← continuedLength (token.toNat / 16)
      let history ← addLiterals bounds history literalCount
      if ← atEnd then
        return .stop history
      else do
        let distance ← word 2
        let copyCount ← continuedLength (token.toNat % 16)
        let history ← addCopy bounds history distance (copyCount + shortestCopy)
        return .again history)
    history

/-- The octets that continue a length. -/
def lengthContinuation
    (length : Nat) :
    Bytes :=
  if length < tokenLimit then
    []
  else
    List.replicate ((length - tokenLimit) / 255) 255 ++
      [UInt8.ofNat ((length - tokenLimit) % 255)]

/-- The token octet of two lengths. -/
def tokenOctet
    (literalCount copyCount : Nat) :
    UInt8 :=
  UInt8.ofNat (min literalCount tokenLimit * 16 + min copyCount tokenLimit)

/-- The octets of a literal run and the copy behind it. -/
def sequenceOctets
    (sequence : LzSequence) :
    Bytes :=
  let literalCount := sequence.literals.length
  let copyCount := sequence.length - shortestCopy
  tokenOctet literalCount copyCount ::
    (lengthContinuation literalCount ++ sequence.literals ++
      littleEndian 2 sequence.distance ++ lengthContinuation copyCount)

/-- The octets of the last literal run. -/
def tailOctets
    (literals : Bytes) :
    Bytes :=
  tokenOctet literals.length 0 :: (lengthContinuation literals.length ++ literals)

/-- The copies of a block; the last bytes of a block are literals. -/
def limits
    (sourceLength : Nat) :
    LzLimits where
  shortest :=
    8
  longest :=
    sourceLength
  farthest :=
    65535
  margin :=
    12

/-- The data of a block with given content. -/
def blockOctets
    (source : Bytes) :
    Bytes :=
  let parse := LzParse.ofBytes (limits source.length) source
  parse.sequences.flatMap sequenceOctets ++ tailOctets parse.tail

end Lz4

end MemberStream
