import MemberStream.Proofs.Bits.Packed
import MemberStream.Proofs.Bits.Ranges
import MemberStream.Zstd.Encode

namespace MemberStream

/-!
# Reading written copies

The data that is written for a copy is read as one sequence without literals,
which copies from the distance that it was written for.
-/

open BitStream

namespace Zstd

/-- The range of a value in a field, which its symbol tells. -/
theorem rangeOf_spec
    {code : FieldCode}
    {limit value : Nat}
    {range : Nat × Nat}
    {ranges : List (Nat × Nat)}
    (same : code.ranges = range :: ranges)
    (covers : coversUpTo limit code.ranges = true)
    (low : range.1 ≤ value)
    (high : value < limit) :
    ∃ symbol base width,
      rangeOf code.ranges value = (symbol, base, width) ∧
        symbol < code.ranges.length ∧
        (base, width) ∈ code.ranges ∧
        ReadsBits (code.value symbol) value (numberBits width (value - base)).reverse := by
  rw [same] at covers
  obtain ⟨symbol, base, width, range, found, least, most⟩ := rangeOf_eq covers low high
  refine ⟨symbol, base, width, same ▸ range, ?_, ?_, ?_⟩
  · rw [same]
    exact (List.getElem?_eq_some_iff.mp found).1
  · rw [same]
    exact List.mem_of_getElem? found
  · have offset : ReadsBits (Decoder.bigNumber width) (value - base)
        (numberBits width (value - base)).reverse :=
      .bigNumber (by omega)
    have all : ReadsBits
        (Decoder.bigNumber width >>= fun offset => pure (base + offset))
        (base + (value - base)) (numberBits width (value - base)).reverse :=
      .last offset (.pure _)
    rw [Nat.add_sub_cancel' least] at all
    unfold FieldCode.value
    rw [same, found]
    exact all

theorem reads_noLiterals
    (limit : Nat)
    (earlier : Option HuffmanTree) :
    Reads .boundary .boundary (literals limit earlier)
      { content := [], tree := earlier } [0x00] := by
  intro held more admits
  rw [show held = [] from admits]
  exact ⟨[], rfl, rfl⟩

/-- A field whose values all have one symbol is told by that symbol. -/
theorem reads_singleTable
    {code : FieldCode}
    {symbol : Nat}
    (earlier : Option FseTable)
    (known : symbol < code.ranges.length)
    (small : symbol < 256) :
    Reads .boundary .boundary (code.table 1 earlier) (.single symbol) [UInt8.ofNat symbol] := by
  have value : (UInt8.ofNat symbol).toNat = symbol :=
    UInt8.toNat_ofNat_of_lt' small
  have all : Reads .boundary .boundary (code.table 1 earlier)
      (.single (UInt8.ofNat symbol).toNat) [UInt8.ofNat symbol] := by
    refine .last (.octet _) (.last (.require _ ?_) (.pure _))
    rw [value]
    exact decide_eq_true known
  rw [value] at all
  exact all

/-- The tables of one sequence, each of which tells one symbol. -/
def copyTables
    (distanceSymbol countSymbol : Nat) :
    Fields FseTable where
  literalCount :=
    .single 0
  distance :=
    .single distanceSymbol
  copyCount :=
    .single countSymbol

/-- The tables of a copy are read as they are written. -/
theorem reads_copyTables
    {distanceSymbol countSymbol : Nat}
    (earlier : Option (Fields FseTable))
    (distanceKnown : distanceSymbol < distanceCode.ranges.length)
    (countKnown : countSymbol < copyCountCode.ranges.length) :
    Reads .boundary .boundary (sequenceTables earlier) (copyTables distanceSymbol countSymbol)
      [0x54, 0x00, UInt8.ofNat distanceSymbol, UInt8.ofNat countSymbol] := by
  have distanceSmall : distanceSymbol < 256 :=
    Nat.lt_trans distanceKnown (show 32 < 256 by decide)
  have countSmall : countSymbol < 256 :=
    Nat.lt_trans countKnown (show 53 < 256 by decide)
  have tables : Reads .boundary .boundary
      (do
        Decoder.require ((0 : Nat) == 0) .decodeFailed
        let literalCount ← literalCountCode.table 1 (earlier.map Fields.literalCount)
        let distance ← distanceCode.table 1 (earlier.map Fields.distance)
        let copyCount ← copyCountCode.table 1 (earlier.map Fields.copyCount)
        return ({ literalCount, distance, copyCount } : Fields FseTable))
      (copyTables distanceSymbol countSymbol)
      ([0x00] ++ ([UInt8.ofNat distanceSymbol] ++ [UInt8.ofNat countSymbol])) :=
    .silent (.require _ rfl)
      (.bind (reads_singleTable _ (show 0 < 36 by decide) (show 0 < 256 by decide))
        (.bind (reads_singleTable _ distanceKnown distanceSmall)
          (.last (reads_singleTable _ countKnown countSmall) (.pure _))))
  intro held more admits
  rw [show held = [] from admits]
  obtain ⟨left, there, done⟩ := tables [] more rfl
  refine ⟨left, there, ?_⟩
  rw [← done]
  rfl

/-- The values of one sequence are read in the order of its fields. -/
theorem readsBits_copyValues
    {distanceSymbol countSymbol distance count : Nat}
    {distanceBits countBits : List Bool}
    (distanceReads : ReadsBits (distanceCode.value distanceSymbol) distance distanceBits)
    (countReads : ReadsBits (copyCountCode.value countSymbol) count countBits) :
    ReadsBits
      (do
        let states ← firstStates (copyTables distanceSymbol countSymbol)
        sequenceValues (copyTables distanceSymbol countSymbol) states [] 1)
      [{ literalCount := 0, distance := distance, copyCount := count }]
      (distanceBits ++ countBits) := by
  have states : ReadsBits (firstStates (copyTables distanceSymbol countSymbol))
      { literalCount := 0, distance := 0, copyCount := 0 } [] :=
    .silent (.pure 0) (.silent (.pure 0) (.silent (.pure 0) (.pure _)))
  have none : ReadsBits (literalCountCode.value 0) 0 [] :=
    .silent (.pure 0) (.pure _)
  have values : ReadsBits
      (fieldValues (copyTables distanceSymbol countSymbol)
        { literalCount := 0, distance := 0, copyCount := 0 })
      { literalCount := 0, distance := distance, copyCount := count }
      (distanceBits ++ countBits) :=
    .bind distanceReads (.last countReads (.silent none (.pure _)))
  exact .silent states (.last values (.pure _))

theorem reads_oneSequence :
    Reads .boundary .boundary sequenceCount 1 [0x01] :=
  .last (.octet 0x01) (.first (by decide) (.pure _))

/-- The data of a copy without literals is read as one sequence. -/
theorem reads_copySequences
    {distance count : Nat}
    (earlier : Option (Fields FseTable))
    (near : distance + 3 < 2 ^ (32 : Nat))
    (least : 3 ≤ count)
    (most : count < 65539 + 2 ^ (16 : Nat)) :
    ∃ tables written,
      copyData distance count = 0x00 :: written ∧
        written.length ≤ 11 ∧
        ReadsToEnd .boundary (sequences earlier)
          { values := [{ literalCount := 0, distance := distance + 3, copyCount := count }],
            tables := some tables }
          written := by
  obtain ⟨distanceSymbol, distanceBase, distanceWidth, distanceRange, distanceKnown,
      distanceMember, distanceReads⟩ :=
    rangeOf_spec (show distanceCode.ranges = (1, 0) :: _ from rfl)
      (show coversUpTo (2 ^ 32) distanceCode.ranges = true by decide) (by omega) near
  obtain ⟨countSymbol, countBase, countWidth, countRange, countKnown, countMember, countReads⟩ :=
    rangeOf_spec (show copyCountCode.ranges = (3, 0) :: _ from rfl)
      (show coversUpTo (65539 + 2 ^ 16) copyCountCode.ranges = true by decide) least most
  have distanceNarrow : distanceWidth ≤ 31 :=
    (show ∀ range ∈ distanceCode.ranges, range.2 ≤ 31 by decide) _ distanceMember
  have countNarrow : countWidth ≤ 16 :=
    (show ∀ range ∈ copyCountCode.ranges, range.2 ≤ 16 by decide) _ countMember
  let bits := numberBits countWidth (count - countBase) ++
    numberBits distanceWidth (distance + 3 - distanceBase)
  have values := readsBits_copyValues distanceReads countReads
  rw [← List.reverse_append] at values
  refine ⟨copyTables distanceSymbol countSymbol,
    [0x01] ++ ([0x54, 0x00, UInt8.ofNat distanceSymbol, UInt8.ofNat countSymbol] ++
      packBits (bits ++ [true])), ?_, ?_, ?_⟩
  · unfold copyData
    rw [distanceRange, countRange]
    rfl
  · have packed : (packBits (bits ++ [true])).length ≤ 6 := by
      apply length_packBits_le
      simp only [bits, List.length_append, length_numberBits, List.length_singleton]
      omega
    simp only [List.length_append, List.length_cons, List.length_nil]
    omega
  · refine .bind reads_oneSequence ?_
    refine .bind (reads_copyTables earlier distanceKnown countKnown) (.remainder ?_)
    show ReadsToEnd .boundary _ _ ([] ++ [])
    exact .bind values.backward (.pure _ [])

/-- A sequence without literals copies from its distance. -/
theorem expand_copy
    {ceiling distance count : Nat}
    (recent : RecentDistances)
    {history : History}
    (stream : BitStream)
    (positive : 0 < distance)
    (inside : distance ≤ history.size)
    (below : history.size + count ≤ ceiling) :
    expand ceiling recent history []
        [{ literalCount := 0, distance := distance + 3, copyCount := count }] stream =
      .done (history.copy distance count, recent.push distance) stream := by
  have updated : recent.update (distance + 3) (decide (0 < 0)) = recent.push distance := by
    unfold RecentDistances.update
    rw [if_pos (by omega), Nat.add_sub_cancel]
  have copies : (decide (0 < distance) && decide (distance ≤ history.size + 0)) = true := by
    simp [positive, inside]
  have fits : decide (history.size + 0 + count ≤ ceiling) = true :=
    decide_eq_true below
  have ends : decide ((history.copy distance count).size + 0 ≤ ceiling) = true := by
    rw [History.size_copy]
    exact decide_eq_true below
  have split : splitBytes? 0 ([] : Bytes) = some ([], []) := rfl
  unfold expand
  dsimp only
  rw [split]
  dsimp only
  rw [updated]
  refine (Decoder.bind_done (Decoder.require_done copies stream)).trans ?_
  refine (Decoder.bind_done (Decoder.require_done fits stream)).trans ?_
  exact Decoder.bind_done (Decoder.require_done ends stream)

/-- A copy within the bounds of a frame is read from its block. -/
theorem reads_copyData
    {header : FrameHeader}
    {state : FrameState}
    {distance count : Nat}
    (positive : 0 < distance)
    (inside : distance ≤ state.history.size)
    (near : distance + 3 < 2 ^ (32 : Nat))
    (least : 3 ≤ count)
    (most : count < 65539 + 2 ^ (16 : Nat))
    (below : state.history.size + count ≤ header.ceiling state.history.size)
    (room : 12 ≤ header.blockLimit) :
    ∃ after : FrameState,
      after.history = state.history.copy distance count ∧
        Reads .boundary .boundary
          (blockBody header state .compressed (copyData distance count).length) after
          (copyData distance count) := by
  obtain ⟨tables, written, same, short, values⟩ :=
    reads_copySequences state.tables near least most
  refine ⟨{ history := state.history.copy distance count, recent := state.recent.push distance,
            tree := state.tree, tables := some tables }, rfl, ?_⟩
  have content : ReadsToEnd .boundary (compressedBlock header state)
      { history := state.history.copy distance count, recent := state.recent.push distance,
        tree := state.tree, tables := some tables }
      ([0x00] ++ written) := by
    refine .bind (reads_noLiterals _ _) (.after values ?_)
    intro stream
    exact Decoder.bind_done (expand_copy state.recent stream positive inside below)
  have fits : decide ((copyData distance count).length ≤ header.blockLimit) = true := by
    rw [same, List.length_cons]
    exact decide_eq_true (by omega)
  rw [same] at fits ⊢
  exact .silent (.require _ fits) (.last (.octets (0x00 :: written)) content.within)

end Zstd

end MemberStream
