import MemberStream.Bits.Decoder

namespace MemberStream

/-!
# Finite state entropy

An FSE table turns a state into a symbol, and with a few bits into the next
state.  It is built from a normalised count for each symbol; the counts sum to
the size of the table, where a count of -1 takes one place.  The states that
belong to a symbol are spread over the table.
-/

namespace Zstd

open Decoder

/-- What a state stands for: its symbol, and the next states. -/
structure FseEntry where
  symbol : Nat
  /-- How many bits choose among the next states. -/
  width : Nat
  /-- The first of the next states. -/
  base : Nat
  deriving Repr, DecidableEq, Inhabited

/-- A table with `2 ^ log` states. -/
structure FseTable where
  log : Nat
  entries : Array FseEntry
  deriving Repr

namespace FseTable

/-- The table of a single symbol. -/
def single
    (symbol : Nat) :
    FseTable where
  log :=
    0
  entries :=
    #[⟨symbol, 0, 0⟩]

/-- The entry of a state. -/
def entry
    (table : FseTable)
    (state : Nat) :
    FseEntry :=
  table.entries.getD state ⟨0, 0, 0⟩

/-- Read the first state. -/
def start
    (table : FseTable) :
    Decoder Nat :=
  bigNumber table.log

/-- Read the state after a state. -/
def next
    (table : FseTable)
    (state : Nat) :
    Decoder Nat := do
  let entry := table.entry state
  let offset ← bigNumber entry.width
  return entry.base + offset

/-- The distance between neighbouring places of a spread symbol. -/
def stride
    (size : Nat) :
    Nat :=
  size / 2 + size / 8 + 3

/-- The symbols with their places, which counts of -1 take from the end of the table. -/
def places
    (size : Nat)
    (counts : List (Nat × Int)) :
    List (Nat × Nat) :=
  let rare := (counts.filter (fun entry => entry.2 == -1)).map Prod.fst
  let common := counts.flatMap (fun entry => List.replicate entry.2.toNat entry.1)
  let limit := size - rare.length
  let visited := (List.range size).map (fun index => index * stride size % size)
  rare.zipIdx.map (fun entry => (size - 1 - entry.2, entry.1)) ++
    (visited.filter (fun place => decide (place < limit))).zip common

/-- Number the states of each symbol and compute their next states. -/
def numberStates
    (log : Nat)
    (counts : List (Nat × Int))
    (symbols : Array Nat) :
    Array FseEntry :=
  let firsts :=
    (counts.map (fun entry => if entry.2 = -1 then 1 else entry.2.toNat)).toArray
  let step (state : Array Nat × Array FseEntry) (symbol : Nat) : Array Nat × Array FseEntry :=
    let (numbers, entries) := state
    let number := numbers.getD symbol 1
    let width := log - number.log2
    let entry : FseEntry := ⟨symbol, width, number * 2 ^ width - 2 ^ log⟩
    (numbers.setIfInBounds symbol (number + 1), entries.push entry)
  (symbols.foldl step (firsts, #[])).2

/-- The table of the symbols from 0 on with given counts. -/
def ofCounts
    (log : Nat)
    (counts : List Int) :
    FseTable :=
  let size := 2 ^ log
  let numbered := counts.zipIdx.map (fun entry => (entry.2, entry.1))
  let place (symbols : Array Nat) (entry : Nat × Nat) : Array Nat :=
    symbols.setIfInBounds entry.1 entry.2
  let symbols := (places size numbered).foldl place (Array.replicate size 0)
  { log := log
    entries := numberStates log numbered symbols }

end FseTable

/-- The accuracy of the coarsest table description. -/
def coarsestLog : Nat :=
  5

/-- How far a table description has been read. -/
structure CountState where
  /-- One more than the part of the table that is left. -/
  remaining : Nat
  /-- The counts so far, last first. -/
  counts : List Int
  afterZero : Bool

/-- Read how many more zeros follow a zero count: runs of three as long as that is told. -/
def zeroRun : Decoder Nat :=
  iterate
    (fun total => do
      let run ← number 2
      if run = 3 then
        return .again (total + 3)
      else
        return .stop (total + run))
    0

/--
Read a count while `remaining` is one more than the part of the table that is
left.  Small values have one bit less than large ones.
-/
def count
    (remaining : Nat) :
    Decoder Int := do
  let width := remaining.log2
  let threshold := 2 ^ width
  let short := 2 * threshold - 1 - remaining
  let low ← number width
  if low < short then
    return (low : Int) - 1
  else do
    let high ← bit
    let value := low + high.toNat * threshold
    if threshold ≤ value then
      return (value : Int) - (short : Int) - 1
    else
      return (value : Int) - 1

/-- Read one more count, and the zeros before it. -/
def countRound
    (symbolLimit : Nat)
    (state : CountState) :
    Decoder (Round CountState (List Int)) := do
  let zeros ←
    if state.afterZero then
      zeroRun
    else
      pure 0
  let counts := List.replicate zeros 0 ++ state.counts
  require (counts.length < symbolLimit) .decodeFailed
  let next ← count state.remaining
  let remaining := state.remaining - next.natAbs
  let counts := next :: counts
  if remaining ≤ 1 then
    return .stop counts.reverse
  else do
    require (counts.length < symbolLimit) .decodeFailed
    return .again ⟨remaining, counts, next == 0⟩

/-- Read the description of a table of limited accuracy and number of symbols. -/
def fseTable
    (finestLog symbolLimit : Nat) :
    Decoder FseTable := do
  let log ← number 4
  let log := log + coarsestLog
  require (log ≤ finestLog) .decodeFailed
  let counts ← iterate (countRound symbolLimit) ⟨2 ^ log + 1, [], false⟩
  let _ ← octets 0
  return .ofCounts log counts

end Zstd

end MemberStream
