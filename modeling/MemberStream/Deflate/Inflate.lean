import MemberStream.Deflate.Code
import MemberStream.Lz.History

namespace MemberStream

/-!
# Inflating deflate bodies

A deflate body is a sequence of blocks, each of them stored, compressed with the
fixed codes or compressed with codes of its own.  A code may be incomplete only
if it has at most one symbol; the code of the code lengths is always complete.
-/

namespace Deflate

open Decoder

/-- The content of a stored block: its length, the complement of that, and the bytes. -/
def storedBlock
    (history : History) :
    Decoder History := do
  let length ← word 2
  let complement ← word 2
  require (length + complement == 0xffff) .decodeFailed
  let bytes ← octets length
  return history.append bytes

/-- Read a value from the range of a symbol. -/
def rangeValue
    (ranges : List (Nat × Nat))
    (symbol : Nat) :
    Decoder Nat :=
  match ranges[symbol]? with
  | some (base, extraBits) => do
      let extra ← number extraBits
      return base + extra
  | none =>
      malformed

/-- Read one item of a compressed block. -/
def token
    (codes : BlockCodes) :
    Decoder Token := do
  let symbol ← codes.literals.symbol
  if symbol < endSymbol then
    return .literal (UInt8.ofNat symbol)
  else if symbol = endSymbol then
    return .finish
  else do
    let length ← rangeValue lengthRanges (symbol - (endSymbol + 1))
    let distanceSymbol ← codes.distances.symbol
    let distance ← rangeValue distanceRanges distanceSymbol
    return .copy distance length

/-- The content of a compressed block. -/
def compressedBlock
    (codes : BlockCodes)
    (history : History) :
    Decoder History :=
  iterate
    (fun history => do
      match ← token codes with
      | .literal byte =>
          return .again (history.push byte)
      | .copy distance length =>
          return .again (history.copy distance length)
      | .finish =>
          return .stop history)
    history

/-- Whether a code leaves no position of its tree unassigned. -/
def isComplete
    (lengths : List Nat) :
    Bool :=
  codeSpace longestCode (canonicalCodes longestCode lengths) == 2 ^ longestCode

/-- Whether a code may be used for the data of a block. -/
def isUsable
    (lengths : List Nat) :
    Bool :=
  isComplete lengths || (canonicalCodes longestCode lengths).length ≤ 1

/-- The order in which the code lengths of code lengths are stored. -/
def lengthCodeOrder : List Nat :=
  [16, 17, 18, 0, 8, 7, 9, 6, 10, 5, 11, 4, 12, 3, 13, 2, 14, 1, 15]

/-- Read the code lengths of some symbols, three bits each. -/
def lengthCodeLengths : List Nat → Decoder (List (Nat × Nat))
  | [] =>
      return []
  | symbol :: rest => do
      let length ← number 3
      let others ← lengthCodeLengths rest
      return (symbol, length) :: others

/--
Read `total` code lengths; symbol 16 repeats the last one, and 17 and 18 stand
for runs of zeros.  The lengths read so far are given last first.
-/
def codeLengths
    (code : HuffmanTree)
    (total : Nat) :
    Decoder (List Nat) :=
  iterate
    (fun lengths => do
      let symbol ← code.symbol
      let extended ←
        if symbol < 16 then
          pure (symbol :: lengths)
        else if symbol = 16 then
          match lengths with
          | [] =>
              malformed
          | previous :: _ => do
              let extra ← number 2
              pure (List.replicate (3 + extra) previous ++ lengths)
        else if symbol = 17 then do
          let extra ← number 3
          pure (List.replicate (3 + extra) 0 ++ lengths)
        else do
          let extra ← number 7
          pure (List.replicate (11 + extra) 0 ++ lengths)
      if extended.length < total then
        return .again extended
      else do
        require (extended.length == total) .decodeFailed
        return .stop extended.reverse)
    []

/-- Read the codes of a block that carries its own. -/
def dynamicCodes : Decoder BlockCodes := do
  let literalCount ← number 5
  let distanceCount ← number 5
  let lengthCount ← number 4
  let literalCount := literalCount + 257
  let distanceCount := distanceCount + 1
  require (literalCount ≤ 286 && distanceCount ≤ 30) .decodeFailed
  let stored ← lengthCodeLengths (lengthCodeOrder.take (lengthCount + 4))
  let ordered := (List.range 19).map (fun symbol => (stored.lookup symbol).getD 0)
  require (isComplete ordered) .decodeFailed
  let code := HuffmanTree.ofCodes 7 (canonicalCodes longestCode ordered)
  let lengths ← codeLengths code (literalCount + distanceCount)
  let (literals, distances) := lengths.splitAt literalCount
  require (isUsable literals && isUsable distances) .decodeFailed
  return .ofLengths literals distances

/-- Read one block behind some content; the result tells whether it is the last. -/
def block
    (history : History) :
    Decoder (Bool × History) := do
  let last ← bit
  let kind ← number 2
  let extended ←
    match kind with
    | 0 =>
        storedBlock history
    | 1 =>
        compressedBlock .fixed history
    | 2 => do
        let codes ← dynamicCodes
        compressedBlock codes history
    | _ =>
        malformed
  return (last, extended)

/-- Read blocks behind some content up to the last one. -/
def blocks
    (history : History) :
    Decoder History :=
  iterate
    (fun history => do
      let (last, extended) ← block history
      if last then
        return .stop extended
      else
        return .again extended)
    history

/-- Read a deflate body. -/
def body : Decoder History :=
  blocks #[]

end Deflate

end MemberStream
