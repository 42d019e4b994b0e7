import MemberStream.Zstd.Fse

namespace MemberStream

/-!
# Sequences of a block

Behind the literals of a block follow its sequences.  A sequence takes some
literals and copies from a distance behind; its three fields are ranges that are
told by symbols, and the symbols are the states of three FSE tables.  Small
values in the distance field refer to distances used before.
-/

namespace Zstd

open Decoder

/-- The code of one of the three fields of a sequence. -/
structure FieldCode where
  /-- The accuracy of the finest table. -/
  finestLog : Nat
  /-- The base of each symbol's range and the bits that choose within it. -/
  ranges : List (Nat × Nat)
  /-- The table of blocks that carry none. -/
  predefined : FseTable

/-- How many literals a sequence takes. -/
def literalCountCode : FieldCode where
  finestLog :=
    9
  ranges :=
    (List.range 16).map (fun symbol => (symbol, 0)) ++
      [(16, 1), (18, 1), (20, 1), (22, 1), (24, 2), (28, 2), (32, 3), (40, 3), (48, 4),
        (64, 6), (128, 7), (256, 8), (512, 9), (1024, 10), (2048, 11), (4096, 12),
        (8192, 13), (16384, 14), (32768, 15), (65536, 16)]
  predefined :=
    .ofCounts 6
      ([4, 3] ++ List.replicate 11 2 ++ [1, 1, 1] ++ List.replicate 9 2 ++ [3, 2] ++
        List.replicate 5 1 ++ List.replicate 4 (-1))

/-- How many bytes a sequence copies. -/
def copyCountCode : FieldCode where
  finestLog :=
    9
  ranges :=
    (List.range 32).map (fun symbol => (symbol + 3, 0)) ++
      [(35, 1), (37, 1), (39, 1), (41, 1), (43, 2), (47, 2), (51, 3), (59, 3), (67, 4),
        (83, 4), (99, 5), (131, 7), (259, 8), (515, 9), (1027, 10), (2051, 11),
        (4099, 12), (8195, 13), (16387, 14), (32771, 15), (65539, 16)]
  predefined :=
    .ofCounts 6
      ([1, 4, 3] ++ List.replicate 6 2 ++ List.replicate 37 1 ++ List.replicate 7 (-1))

/-- How the distance of a sequence is told. -/
def distanceCode : FieldCode where
  finestLog :=
    8
  ranges :=
    (List.range 32).map (fun symbol => (2 ^ symbol, symbol))
  predefined :=
    .ofCounts 5
      (List.replicate 6 1 ++ List.replicate 3 2 ++ List.replicate 15 1 ++
        List.replicate 5 (-1))

namespace FieldCode

/-- Read the table of a field in one of four ways: none, one symbol, a description, the last one. -/
def table
    (code : FieldCode)
    (mode : Nat)
    (earlier : Option FseTable) :
    Decoder FseTable :=
  match mode with
  | 0 =>
      return code.predefined
  | 1 => do
      let symbol ← octet
      require (symbol.toNat < code.ranges.length) .decodeFailed
      return .single symbol.toNat
  | 2 =>
      fseTable code.finestLog code.ranges.length
  | _ =>
      match earlier with
      | some table =>
          return table
      | none =>
          malformed

/-- Read the value of a field from the range of its symbol. -/
def value
    (code : FieldCode)
    (symbol : Nat) :
    Decoder Nat :=
  match code.ranges[symbol]? with
  | some (base, width) => do
      let offset ← bigNumber width
      return base + offset
  | none =>
      malformed

end FieldCode

/-- The three fields of a sequence, or what belongs to each of them. -/
structure Fields (α : Type) where
  literalCount : α
  distance : α
  copyCount : α
  deriving Repr, DecidableEq

/-- Read the symbols' first states. -/
def firstStates
    (tables : Fields FseTable) :
    Decoder (Fields Nat) := do
  let literalCount ← tables.literalCount.start
  let distance ← tables.distance.start
  let copyCount ← tables.copyCount.start
  return { literalCount, distance, copyCount }

/-- Read the states after some states. -/
def nextStates
    (tables : Fields FseTable)
    (states : Fields Nat) :
    Decoder (Fields Nat) := do
  let literalCount ← tables.literalCount.next states.literalCount
  let copyCount ← tables.copyCount.next states.copyCount
  let distance ← tables.distance.next states.distance
  return { literalCount, distance, copyCount }

/-- Read the values that some states stand for. -/
def fieldValues
    (tables : Fields FseTable)
    (states : Fields Nat) :
    Decoder (Fields Nat) := do
  let distance ← distanceCode.value (tables.distance.entry states.distance).symbol
  let copyCount ← copyCountCode.value (tables.copyCount.entry states.copyCount).symbol
  let literalCount ←
    literalCountCode.value (tables.literalCount.entry states.literalCount).symbol
  return { literalCount, distance, copyCount }

/-- Read the values of as many further sequences; those read so far are given last first. -/
def sequenceValues
    (tables : Fields FseTable)
    (states : Fields Nat)
    (sequences : List (Fields Nat)) :
    Nat →
    Decoder (List (Fields Nat))
  | 0 =>
      return sequences.reverse
  | 1 => do
      let values ← fieldValues tables states
      return (values :: sequences).reverse
  | count + 2 => do
      let values ← fieldValues tables states
      let following ← nextStates tables states
      sequenceValues tables following (values :: sequences) (count + 1)

/-- Read the number of sequences. -/
def sequenceCount : Decoder Nat := do
  let first ← octet
  if first < 128 then
    return first.toNat
  else if first < 255 then do
    let second ← octet
    return (first.toNat - 128) * 256 + second.toNat
  else do
    let count ← word 2
    return count + 0x7f00

/-- Read the tables of a block, given the last ones of the frame. -/
def sequenceTables
    (earlier : Option (Fields FseTable)) :
    Decoder (Fields FseTable) := do
  let reserved ← number 2
  let copyMode ← number 2
  let distanceMode ← number 2
  let literalMode ← number 2
  require (reserved == 0) .decodeFailed
  let literalCount ← literalCountCode.table literalMode (earlier.map Fields.literalCount)
  let distance ← distanceCode.table distanceMode (earlier.map Fields.distance)
  let copyCount ← copyCountCode.table copyMode (earlier.map Fields.copyCount)
  return { literalCount, distance, copyCount }

/-- The sequences of a block and the tables that the next block may use again. -/
structure Sequences where
  values : List (Fields Nat)
  tables : Option (Fields FseTable)

/-- Read the sequences of a block to its end, given the last tables of the frame. -/
def sequences
    (earlier : Option (Fields FseTable)) :
    Decoder Sequences := do
  let count ← sequenceCount
  if count = 0 then do
    let ended ← atEnd
    require ended .decodeFailed
    return { values := [], tables := earlier }
  else do
    let tables ← sequenceTables earlier
    let stored ← remainder
    let values ←
      backward stored <| entire do
        let states ← firstStates tables
        sequenceValues tables states [] count
    return { values := values, tables := some tables }

/-- The last three distances of a frame, the latest first. -/
structure RecentDistances where
  first : Nat := 1
  second : Nat := 4
  third : Nat := 8
  deriving Repr, DecidableEq

namespace RecentDistances

/-- Put a new distance in front. -/
def push
    (recent : RecentDistances)
    (distance : Nat) :
    RecentDistances :=
  ⟨distance, recent.first, recent.second⟩

/--
The distances after a sequence; its own is the first of them.  A value above
three is a new distance.  Smaller values count through the recent ones, from the
second one on if the sequence takes no literals, and behind the third comes one
less than the first.
-/
def update
    (recent : RecentDistances)
    (value : Nat)
    (takesLiterals : Bool) :
    RecentDistances :=
  if 3 < value then
    recent.push (value - 3)
  else
    match if takesLiterals then value else value + 1 with
    | 0 | 1 =>
        recent
    | 2 =>
        ⟨recent.second, recent.first, recent.third⟩
    | 3 =>
        recent.push recent.third
    | _ =>
        recent.push (recent.first - 1)

end RecentDistances

end Zstd

end MemberStream
