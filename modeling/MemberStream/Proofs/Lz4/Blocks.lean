import MemberStream.Lz4.Block
import MemberStream.Proofs.Bits.Reads
import MemberStream.Proofs.Lz.Replay

namespace MemberStream

/-!
# Reading written LZ4 blocks

The data that is written for a block is read as its content, behind any history.
-/

namespace Lz4

/-- The octets that continue a length are read behind its part in the token. -/
theorem reads_continuation
    {last : Nat}
    (total count : Nat)
    (short : last < 255) :
    Reads .boundary .boundary
      (Decoder.iterate
        (fun total => do
          let next ← Decoder.octet
          if next = 255 then
            return .again (total + 255)
          else
            return .stop (total + next.toNat))
        total)
      (total + 255 * count + last) (List.replicate count 255 ++ [UInt8.ofNat last]) := by
  induction count generalizing total with
  | zero =>
      have value : (UInt8.ofNat last).toNat = last :=
        UInt8.toNat_ofNat_of_lt' (show last < 256 by omega)
      have other : UInt8.ofNat last ≠ 255 := by
        intro same
        have equal := congrArg UInt8.toNat same
        rw [value] at equal
        have : last = 255 := equal
        omega
      have round : Reads .boundary .boundary
          (do
            let next ← Decoder.octet
            if next = 255 then
              return (.again (total + 255) : Decoder.Round Nat Nat)
            else
              return .stop (total + next.toNat))
          (.stop (total + last)) ([UInt8.ofNat last] ++ []) := by
        refine .bind (.octet _) ?_
        rw [if_neg other, value]
        exact .pure _
      exact .stop round
  | succ count ih =>
      have rest := ih (total + 255)
      rw [show total + 255 + 255 * count + last = total + 255 * (count + 1) + last by omega] at rest
      have round : Reads .boundary .boundary
          (do
            let next ← Decoder.octet
            if next = 255 then
              return (.again (total + 255) : Decoder.Round Nat Nat)
            else
              return .stop (total + next.toNat))
          (.again (total + 255)) ([255] ++ []) :=
        .bind (.octet 255) (.pure _)
      have all := Reads.again round (List.cons_ne_nil 255 []) rest
      rw [List.replicate_succ]
      exact all

/-- A length is read from its continuation behind its part in the token. -/
theorem reads_continuedLength
    (length : Nat) :
    Reads .boundary .boundary (continuedLength (min length tokenLimit)) length
      (lengthContinuation length) := by
  by_cases short : length < tokenLimit
  · have whole : min length tokenLimit = length := Nat.min_eq_left (Nat.le_of_lt short)
    have written : lengthContinuation length = [] := if_pos short
    rw [whole, written]
    exact .first short (.pure length)
  · have whole : min length tokenLimit = tokenLimit := Nat.min_eq_right (Nat.le_of_not_lt short)
    have written : lengthContinuation length =
        List.replicate ((length - tokenLimit) / 255) 255 ++
          [UInt8.ofNat ((length - tokenLimit) % 255)] := if_neg short
    have reads := reads_continuation tokenLimit ((length - tokenLimit) / 255)
      (Nat.mod_lt (length - tokenLimit) (show 255 > 0 by decide))
    have same : tokenLimit + 255 * ((length - tokenLimit) / 255) + (length - tokenLimit) % 255 =
        length := by
      omega
    rw [same] at reads
    rw [whole, written]
    exact .second (Nat.lt_irrefl _) reads

/-- A token octet holds the parts of both lengths. -/
theorem toNat_tokenOctet
    (literalCount copyCount : Nat) :
    (tokenOctet literalCount copyCount).toNat / 16 = min literalCount tokenLimit ∧
      (tokenOctet literalCount copyCount).toNat % 16 = min copyCount tokenLimit := by
  have first : min literalCount tokenLimit ≤ 15 := Nat.min_le_right _ _
  have second : min copyCount tokenLimit ≤ 15 := Nat.min_le_right _ _
  have value : (tokenOctet literalCount copyCount).toNat =
      min literalCount tokenLimit * 16 + min copyCount tokenLimit :=
    UInt8.toNat_ofNat_of_lt' (show _ < 256 by omega)
  rw [value]
  omega

/-- Literals are added as they are written. -/
theorem reads_addLiterals
    {bounds : BlockBounds}
    {history : History}
    (literals : Bytes)
    (below : history.size + literals.length ≤ bounds.ceiling) :
    Reads .boundary .boundary (addLiterals bounds history literals.length)
      (history.append literals) literals := by
  have all : Reads .boundary .boundary (addLiterals bounds history literals.length)
      (history.append literals) (literals ++ ([] ++ [])) :=
    .bind (.octets literals) (.bind (.require _ (decide_eq_true below)) (.pure _))
  rw [List.nil_append, List.append_nil] at all
  exact all

theorem reads_addCopy
    {bounds : BlockBounds}
    {history : History}
    {distance count : Nat}
    (positive : 0 < distance)
    (above : bounds.floor + distance ≤ history.size)
    (below : history.size + count ≤ bounds.ceiling) :
    Reads .boundary .boundary (addCopy bounds history distance count)
      (history.copy distance count) [] := by
  have inside :
      (decide (0 < distance) && decide (bounds.floor + distance ≤ history.size)) = true := by
    simp [positive, above]
  exact .bind (.require _ inside) (.bind (.require _ (decide_eq_true below)) (.pure _))

/-- One round of reading a block. -/
def blockRound
    (bounds : BlockBounds)
    (history : History) :
    Decoder (Decoder.Round History History) := do
  let token ← Decoder.octet
  let literalCount ← continuedLength (token.toNat / 16)
  let history ← addLiterals bounds history literalCount
  if ← Decoder.atEnd then
    return .stop history
  else do
    let distance ← Decoder.word 2
    let copyCount ← continuedLength (token.toNat % 16)
    let history ← addCopy bounds history distance (copyCount + shortestCopy)
    return .again history

/-- A sequence is read as its literals and its copy. -/
theorem reads_blockRound_sequence
    {bounds : BlockBounds}
    {history : History}
    {sequence : LzSequence}
    (positive : 0 < sequence.distance)
    (near : sequence.distance ≤ 65535)
    (long : shortestCopy ≤ sequence.length)
    (above :
      bounds.floor + sequence.distance ≤ history.size + sequence.literals.length)
    (below :
      history.size + sequence.literals.length + sequence.length ≤ bounds.ceiling) :
    Reads .boundary .boundary (blockRound bounds history)
      (.again ((history.append sequence.literals).copy sequence.distance sequence.length))
      (sequenceOctets sequence) := by
  obtain ⟨literalPart, copyPart⟩ :=
    toNat_tokenOctet sequence.literals.length (sequence.length - shortestCopy)
  have grown := history.size_append sequence.literals
  have distance : Reads .boundary .boundary (Decoder.word 2) sequence.distance
      (littleEndian 2 sequence.distance) :=
    .word (show sequence.distance < 256 ^ 2 by omega)
  have copy : Reads .boundary .boundary
      (addCopy bounds (history.append sequence.literals) sequence.distance
        (sequence.length - shortestCopy + shortestCopy))
      ((history.append sequence.literals).copy sequence.distance sequence.length) [] := by
    rw [Nat.sub_add_cancel long]
    exact reads_addCopy positive (grown ▸ above) (grown ▸ below)
  have all : Reads .boundary .boundary (blockRound bounds history)
      (.again ((history.append sequence.literals).copy sequence.distance sequence.length))
      ([tokenOctet sequence.literals.length (sequence.length - shortestCopy)] ++
        (lengthContinuation sequence.literals.length ++
          (sequence.literals ++
            (littleEndian 2 sequence.distance ++
              (lengthContinuation (sequence.length - shortestCopy) ++ ([] ++ [])))))) := by
    refine .bind (.octet _) ?_
    rw [literalPart, copyPart]
    refine .bind (reads_continuedLength _) (.bind (reads_addLiterals _ (by omega)) ?_)
    refine .more (.bind distance (.bind (reads_continuedLength _) (.bind copy (.pure _)))) ?_
    exact List.cons_ne_nil _ _
  rw [List.append_nil, List.append_nil] at all
  simp only [sequenceOctets, List.append_assoc]
  exact all

/-- The last literals of a block are read to its end. -/
theorem readsToEnd_blockRound_tail
    {bounds : BlockBounds}
    {history : History}
    (literals : Bytes)
    (below : history.size + literals.length ≤ bounds.ceiling) :
    ReadsToEnd .boundary (blockRound bounds history) (.stop (history.append literals))
      (tailOctets literals) := by
  obtain ⟨literalPart, -⟩ := toNat_tokenOctet literals.length 0
  have all : ReadsToEnd .boundary (blockRound bounds history) (.stop (history.append literals))
      ([tokenOctet literals.length 0] ++
        (lengthContinuation literals.length ++ (literals ++ []))) := by
    refine .bind (.octet _) ?_
    rw [literalPart]
    refine .bind (reads_continuedLength _) (.bind (reads_addLiterals _ below) ?_)
    exact .ended (.pure _ _)
  rw [List.append_nil] at all
  exact all

/-- Sequences and a tail that cover a source are read as the rest of the source. -/
theorem readsToEnd_of_covers
    {limits : LzLimits}
    {bounds : BlockBounds}
    {prior source : Bytes}
    {position : Nat}
    {sequences : List LzSequence}
    {tail : Bytes}
    {history : History}
    (near : limits.farthest ≤ 65535)
    (long : shortestCopy ≤ limits.shortest)
    (floor : bounds.floor ≤ prior.length)
    (ceiling : prior.length + source.length ≤ bounds.ceiling)
    (covers : Covers limits source position sequences tail)
    (content : history.toList = prior ++ source.take position) :
    ∃ whole : History,
      whole.toList = prior ++ source ∧
        ReadsToEnd .boundary (blockContent bounds history) whole
          (sequences.flatMap sequenceOctets ++ tailOctets tail) := by
  induction covers generalizing history with
  | @tail position within =>
      have size : history.size = prior.length + position := by
        rw [← Array.length_toList, content, List.length_append, List.length_take,
          Nat.min_eq_left within]
      refine ⟨history.append (source.drop position), ?_, ?_⟩
      · rw [History.toList_append, content, List.append_assoc, List.take_append_drop]
      · refine .stop (readsToEnd_blockRound_tail _ ?_)
        rw [List.length_drop]
        omega
  | @sequence position sequence rest tail fits covers ih =>
      have within := fits.within
      have size : history.size = prior.length + position := by
        rw [← Array.length_toList, content, List.length_append, List.length_take,
          Nat.min_eq_left (by omega)]
      have inside := fits.distance_le
      have round : Reads .boundary .boundary (blockRound bounds history) _
          (sequenceOctets sequence) :=
        reads_blockRound_sequence fits.distance_pos (Nat.le_trans fits.near near)
          (Nat.le_trans long fits.shortest) (by omega) (by omega)
      obtain ⟨whole, same, reads⟩ := ih (History.toList_of_fits content fits)
      refine ⟨whole, same, ?_⟩
      rw [List.flatMap_cons, List.append_assoc]
      exact .again round (List.cons_ne_nil _ _) reads

/-- The data of a block is read as the source that it is written for. -/
theorem readsToEnd_blockOctets
    {bounds : BlockBounds}
    (history : History)
    (source : Bytes)
    (floor : bounds.floor ≤ history.size)
    (ceiling : history.size + source.length ≤ bounds.ceiling) :
    ReadsToEnd .boundary (blockContent bounds history) (history.append source)
      (blockOctets source) := by
  obtain ⟨whole, same, reads⟩ :=
    readsToEnd_of_covers
      (show (limits source.length).farthest ≤ 65535 from Nat.le_refl _)
      (show 4 ≤ 8 by decide)
      (by rw [Array.length_toList]; exact floor) (by rw [Array.length_toList]; exact ceiling)
      (LzParse.covers_ofBytes (limits source.length) source) (List.append_nil _).symm
  rw [← History.toList_append] at same
  rw [← Array.toList_inj.mp same]
  exact reads

theorem blockOctets_ne_nil
    (source : Bytes) :
    blockOctets source ≠ [] := by
  unfold blockOctets
  exact List.append_ne_nil_of_right_ne_nil _ (List.cons_ne_nil _ _)

end Lz4

end MemberStream
