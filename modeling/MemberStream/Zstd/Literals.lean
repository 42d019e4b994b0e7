import MemberStream.Bits.Huffman
import MemberStream.Zstd.Fse

namespace MemberStream

/-!
# Literals of a block

A compressed block starts with its literals: stored, a single byte repeated, or
in a Huffman code.  The code is described in front of the literals or is the
last one of the frame.  It is given by a weight for each symbol, where a larger
weight means a shorter code; the weight of the last symbol is left out, since
the weights fill up a tree.
-/

namespace Zstd

open Decoder

/-- The longest code of a literal, and the largest weight. -/
def longestLiteralCode : Nat :=
  12

/-- The accuracy of the finest table that weights are coded with. -/
def finestWeightLog : Nat :=
  6

/-- How many weights may be given. -/
def weightLimit : Nat :=
  255

/-- Read weights that are stored in four bits each, the higher half of an octet first. -/
def storedWeights
    (count : Nat) :
    Decoder (List Nat) := do
  let stored ← octets ((count + 1) / 2)
  let halves := stored.flatMap fun byte => [byte.toNat / 16, byte.toNat % 16]
  return halves.take count

/--
Read symbols from two states that take turns, until the bits do not suffice for
a next state; the other state then gives the last symbol.
-/
def alternatingSymbols
    (table : FseTable) :
    Nat →
    Nat →
    Nat →
    Decoder (List Nat)
  | 0, _, _ | 1, _, _ =>
      malformed
  | room + 2, state, other => do
      let symbol := (table.entry state).symbol
      match ← attempt (table.next state) with
      | none =>
          return [symbol, (table.entry other).symbol]
      | some following => do
          let symbols ← alternatingSymbols table (room + 1) other following
          return symbol :: symbols

/-- Read weights behind the description of their table. -/
def codedWeights : Decoder (List Nat) := do
  let table ← fseTable finestWeightLog 256
  let stored ← remainder
  backward stored do
    let state ← table.start
    let other ← table.start
    alternatingSymbols table weightLimit state other

/-- Read the weights of all symbols but the last. -/
def weights : Decoder (List Nat) := do
  let first ← octet
  if 128 ≤ first then
    storedWeights (first.toNat - 127)
  else do
    let piece ← octets first.toNat
    within (.ofBytes piece) codedWeights

/-- How much of a tree a symbol takes up, in units of the longest codes. -/
def share
    (weight : Nat) :
    Nat :=
  if weight = 0 then
    0
  else
    2 ^ (weight - 1)

/-- The symbols of a code with their lengths, the longest codes first. -/
def codesOfWeights
    (longest : Nat)
    (weights : List Nat) :
    List (Nat × Nat) :=
  let numbered := weights.zipIdx.map (fun entry => (entry.2, entry.1))
  (List.range longest).flatMap fun lighter =>
    (numbered.filter (fun entry => entry.2 == lighter + 1)).map
      (fun entry => (entry.1, longest - lighter))

/-- Read the description of a code. -/
def literalTree : Decoder HuffmanTree := do
  let given ← weights
  let total := (given.map share).sum
  let longest := total.log2 + 1
  let left := 2 ^ longest - total
  require (given.all (fun weight => decide (weight ≤ longestLiteralCode))) .decodeFailed
  require (0 < total && longest ≤ longestLiteralCode && left == 2 ^ left.log2) .decodeFailed
  let all := given ++ [left.log2 + 1]
  let lightest := all.count 1
  require (2 ≤ lightest && lightest % 2 == 0) .decodeFailed
  return .ofCodes longest (codesOfWeights longest all)

/-- Read some coded literals; those read so far are given last first. -/
def codedLiterals
    (tree : HuffmanTree)
    (literals : Bytes) :
    Nat →
    Decoder Bytes
  | 0 =>
      return literals.reverse
  | count + 1 => do
      let symbol ← tree.symbol
      codedLiterals tree (UInt8.ofNat symbol :: literals) count

/-- Read a given number of literals that take up a whole piece. -/
def literalStream
    (tree : HuffmanTree)
    (piece : Bytes)
    (count : Nat) :
    Decoder Bytes :=
  backward piece (entire (codedLiterals tree [] count))

/-- The fewest literals that are spread over four streams. -/
def fewestSplitLiterals : Nat :=
  6

/-- Read literals from four streams, the lengths of the first three before them. -/
def splitLiterals
    (tree : HuffmanTree)
    (count : Nat) :
    Decoder Bytes := do
  require (fewestSplitLiterals ≤ count) .decodeFailed
  let first ← word 2
  let second ← word 2
  let third ← word 2
  let firstPiece ← octets first
  let secondPiece ← octets second
  let thirdPiece ← octets third
  let lastPiece ← remainder
  let quarter := (count + 3) / 4
  let firstPart ← literalStream tree firstPiece quarter
  let secondPart ← literalStream tree secondPiece quarter
  let thirdPart ← literalStream tree thirdPiece quarter
  let lastPart ← literalStream tree lastPiece (count - 3 * quarter)
  return firstPart ++ secondPart ++ thirdPart ++ lastPart

/-- The literals of a block and the code that the next block may use again. -/
structure Literals where
  content : Bytes
  tree : Option HuffmanTree

/-- Read the number of literals that are stored or repeated. -/
def plainCount : Decoder Nat := do
  if ← bit then
    if ← bit then
      number 20
    else
      number 12
  else
    number 5

/-- Read literals in a Huffman code, which is the given one unless it comes first. -/
def compressedLiterals
    (limit : Nat)
    (earlier : Option HuffmanTree) :
    Decoder Literals := do
  let form ← number 2
  let width :=
    match form with
    | 2 =>
        14
    | 3 =>
        18
    | _ =>
        10
  let count ← number width
  let length ← number width
  require (count ≤ limit) .decodeFailed
  let piece ← octets length
  within (.ofBytes piece) do
    let tree ←
      match earlier with
      | some tree =>
          pure tree
      | none =>
          literalTree
    let content ←
      if form = 0 then do
        let stored ← remainder
        literalStream tree stored count
      else
        splitLiterals tree count
    return { content := content, tree := some tree }

/-- Read the literals of a block, given the last code of the frame. -/
def literals
    (limit : Nat)
    (earlier : Option HuffmanTree) :
    Decoder Literals := do
  let kind ← number 2
  match kind with
  | 0 => do
      let count ← plainCount
      require (count ≤ limit) .decodeFailed
      let content ← octets count
      return { content := content, tree := earlier }
  | 1 => do
      let count ← plainCount
      require (count ≤ limit) .decodeFailed
      let byte ← octet
      return { content := List.replicate count byte, tree := earlier }
  | 2 =>
      compressedLiterals limit none
  | _ => do
      require earlier.isSome .decodeFailed
      compressedLiterals limit earlier

end Zstd

end MemberStream
