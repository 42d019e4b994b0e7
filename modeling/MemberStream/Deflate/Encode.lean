import MemberStream.Bits.Packing
import MemberStream.Deflate.Code
import MemberStream.Lz.Parse

namespace MemberStream

/-!
# Writing deflate bodies

A source is written as one block in the fixed codes, or as stored blocks if that
is shorter.
-/

namespace Deflate

/-- The most a stored block holds. -/
def longestStored : Nat :=
  65535

/-- The copies of a deflate body. -/
def limits : LzLimits where
  shortest :=
    4
  longest :=
    258
  farthest :=
    32768
  margin :=
    0

/-- The codes of a tree as a table. -/
def codeTable
    (tree : HuffmanTree)
    (count : Nat) :
    Array (List Bool) :=
  ((List.range count).map (fun symbol => (tree.code? symbol).getD [])).toArray

/-- The fixed literal and length codes. -/
def literalTable : Array (List Bool) :=
  codeTable BlockCodes.fixed.literals 288

/-- The fixed distance codes. -/
def distanceTable : Array (List Bool) :=
  codeTable BlockCodes.fixed.distances 32

/-- The bits of a symbol and the extra bits behind it. -/
def rangeBits
    (ranges : List (Nat × Nat))
    (table : Array (List Bool))
    (first value : Nat) :
    List Bool :=
  let (symbol, base, extraBits) := rangeOf ranges value
  table.getD (first + symbol) [] ++ numberBits extraBits (value - base)

/-- The bits of one item of a block in the fixed codes. -/
def tokenBits : Token → List Bool
  | .literal byte =>
      literalTable.getD byte.toNat []
  | .copy distance length =>
      rangeBits lengthRanges literalTable (endSymbol + 1) length ++
        rangeBits distanceRanges distanceTable 0 distance
  | .finish =>
      literalTable.getD endSymbol []

/-- The items of a parsed source. -/
def tokens
    (parse : LzParse) :
    List Token :=
  let ofSequence (sequence : LzSequence) : List Token :=
    sequence.literals.map .literal ++ [.copy sequence.distance sequence.length]
  parse.sequences.flatMap ofSequence ++ parse.tail.map .literal ++ [.finish]

/-- A last block in the fixed codes. -/
def fixedBlock
    (tokens : List Token) :
    Bytes :=
  packBits ([true, true, false] ++ tokens.flatMap tokenBits)

/-- A stored block. -/
def storedBlockOf
    (last : Bool)
    (bytes : Bytes) :
    Bytes :=
  UInt8.ofNat last.toNat :: (littleEndian 2 bytes.length ++
    littleEndian 2 (longestStored - bytes.length) ++ bytes)

/-- Stored blocks behind chunks that are given last first. -/
def storedChunks
    (chunks : List Bytes)
    (source : Bytes) :
    List Bytes :=
  if source.length ≤ longestStored then
    (storedBlockOf true source :: chunks).reverse
  else
    storedChunks
      (storedBlockOf false (source.take longestStored) :: chunks)
      (source.drop longestStored)
termination_by source.length
decreasing_by
  simp only [List.length_drop, longestStored] at *
  omega

/-- A source in stored blocks. -/
def storedBody
    (source : Bytes) :
    Bytes :=
  (storedChunks [] source).flatten

/-- A number of bits that is at least that of a block in the fixed codes. -/
def fixedCost
    (parse : LzParse) :
    Nat :=
  let ofSequence (sequence : LzSequence) : Nat := 9 * sequence.literals.length + 31
  (parse.sequences.map ofSequence).sum + 9 * parse.tail.length + 10

/-- The deflate body of a source at a level; level zero only stores. -/
def encodeBody
    (level : UInt32)
    (source : Bytes) :
    Bytes :=
  if level = 0 then
    storedBody source
  else
    let parse := LzParse.ofBytes limits source
    if fixedCost parse ≤ 8 * source.length then
      fixedBlock (tokens parse)
    else
      storedBody source

end Deflate

end MemberStream
