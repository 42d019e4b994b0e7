import MemberStream.Bytes

namespace MemberStream

/-!
# Finding repetitions

A parse cuts a source into sequences, each a run of literals and a copy from a
distance behind, and the literals after the last copy.  A table of recent
positions proposes where to copy from; a proposal is compared with the source
before it is used, so the table can be wrong without harm.
-/

/-- A run of literals followed by a copy. -/
structure LzSequence where
  literals : Bytes
  distance : Nat
  length : Nat
  deriving Repr, DecidableEq

/-- The sequences of a source and the literals behind them. -/
structure LzParse where
  sequences : List LzSequence
  tail : Bytes
  deriving Repr, DecidableEq

/-- What a parse may use. -/
structure LzLimits where
  /-- The shortest and the longest copy. -/
  shortest : Nat
  longest : Nat
  farthest : Nat
  /-- How many bytes before the end copies must stop. -/
  margin : Nat

namespace LzParse

/-- How many positions the table distinguishes. -/
def tableSize : Nat :=
  2 ^ (15 : Nat)

/-- The multiplier that spreads four bytes over the table. -/
def spread : UInt32 :=
  2654435761

/-- The place of the four bytes at a position in the table. -/
def slot
    (source : Array UInt8)
    (position : Nat) :
    Nat :=
  let byte (offset : Nat) : UInt32 := (source.getD (position + offset) 0).toUInt32
  let word := byte 0 ||| (byte 1 <<< 8) ||| (byte 2 <<< 16) ||| (byte 3 <<< 24)
  ((spread * word) >>> 17).toNat

/-- Make a position the latest one at its place in the table. -/
def remember
    (source : Array UInt8)
    (table : Array (Option Nat))
    (position : Nat) :
    Array (Option Nat) :=
  table.setIfInBounds (slot source position) (some position)

/--
How many bytes from `position` on, below `limit`, equal those from `candidate`
on, counted from `matched` equal ones.
-/
def matchLength
    (source : Array UInt8)
    (candidate position limit matched : Nat) :
    Nat :=
  if position + matched < limit ∧
      source.getD (candidate + matched) 0 = source.getD (position + matched) 0 then
    matchLength source candidate position limit (matched + 1)
  else
    matched
termination_by limit - (position + matched)

/-- The bytes of a source from one position to another. -/
def slice
    (source : Array UInt8)
    (first last : Nat) :
    Bytes :=
  (source.extract first last).toList

/-- The copy from a candidate position: its distance and length, if it may be used. -/
def confirm?
    (limits : LzLimits)
    (source : Array UInt8)
    (position candidate : Nat) :
    Option (Nat × Nat) :=
  let limit := min (source.size - limits.margin) (position + limits.longest)
  let length := matchLength source candidate position limit 0
  if candidate < position ∧ position - candidate ≤ limits.farthest ∧
      0 < length ∧ limits.shortest ≤ length then
    some (position - candidate, length)
  else
    none

/-- A confirmed copy is not empty. -/
theorem confirm?_pos
    {limits : LzLimits}
    {source : Array UInt8}
    {position candidate distance length : Nat}
    (confirmed : confirm? limits source position candidate = some (distance, length)) :
    0 < length := by
  simp only [confirm?, Option.ite_none_right_eq_some, Option.some.injEq, Prod.mk.injEq]
    at confirmed
  obtain ⟨⟨-, -, positive, -⟩, -, same⟩ := confirmed
  exact same ▸ positive

/-- The copy proposed at a position. -/
def proposal?
    (limits : LzLimits)
    (source : Array UInt8)
    (table : Array (Option Nat))
    (position : Nat) :
    Option (Nat × Nat) :=
  (table.getD (slot source position) none).bind (confirm? limits source position)

/-- A proposed copy is not empty. -/
theorem proposal?_pos
    {limits : LzLimits}
    {source : Array UInt8}
    {table : Array (Option Nat)}
    {position distance length : Nat}
    (proposed : proposal? limits source table position = some (distance, length)) :
    0 < length := by
  obtain ⟨candidate, -, confirmed⟩ := Option.bind_eq_some_iff.mp proposed
  exact confirm?_pos confirmed

/--
Parse from a position on; the literals since `anchor` belong to the next
sequence, and the sequences so far are given last first.
-/
def scan
    (limits : LzLimits)
    (source : Array UInt8)
    (table : Array (Option Nat))
    (anchor position : Nat)
    (sequences : List LzSequence) :
    LzParse :=
  if position + limits.shortest + limits.margin < source.size then
    match _proposed : proposal? limits source table position with
    | some (distance, length) =>
        let next := position + length
        scan limits source (remember source table position) next next
          ({ literals := slice source anchor position, distance, length } :: sequences)
    | none =>
        scan limits source (remember source table position) anchor (position + 1) sequences
  else
    { sequences := sequences.reverse
      tail := slice source anchor source.size }
termination_by source.size - position
decreasing_by
  · have := proposal?_pos _proposed
    omega
  · omega

/-- Parse a source. -/
def ofBytes
    (limits : LzLimits)
    (source : Bytes) :
    LzParse :=
  scan limits source.toArray (Array.replicate tableSize none) 0 0 []

end LzParse

end MemberStream
