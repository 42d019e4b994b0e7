import MemberStream.Proofs.Deflate.FixedCodes

namespace MemberStream

/-!
# Reading written bodies

A body that is written for a source, as a block in the fixed codes or as stored
blocks, is read as the source.
-/

open BitStream

namespace Deflate

/-- A block in the fixed codes is read as its source. -/
theorem reads_fixedBlock
    (source : Bytes) :
    Reads .boundary .anywhere body source.toArray
      (fixedBlock (tokens (LzParse.ofBytes limits source))) := by
  have content : ReadsBits (compressedBlock .fixed #[]) source.toArray
      ((tokens (LzParse.ofBytes limits source)).flatMap tokenBits) :=
    readsBits_of_covers (LzParse.covers_ofBytes limits source) rfl
  have first : ReadsBits (block #[]) (true, source.toArray)
      ([true] ++ (numberBits 2 1 ++
        ((tokens (LzParse.ofBytes limits source)).flatMap tokenBits ++ []))) :=
    .bind (.bit true) (.bind (.number (show 1 < 2 ^ 2 by decide)) (.bind content (.pure _)))
  have whole : ReadsBits body source.toArray
      (([true] ++ (numberBits 2 1 ++
        ((tokens (LzParse.ofBytes limits source)).flatMap tokenBits ++ []))) ++ []) :=
    .stop (.bind first (.pure _))
  obtain ⟨count, short, packed⟩ := bitsOf_packBits
    ([true, true, false] ++ (tokens (LzParse.ofBytes limits source)).flatMap tokenBits)
  rw [List.append_nil, List.append_nil] at whole
  exact whole.reads packed (by rw [List.length_replicate]; exact short)

theorem length_storedBlockOf
    (last : Bool)
    (bytes : Bytes) :
    (storedBlockOf last bytes).length = bytes.length + 5 := by
  rw [storedBlockOf, List.length_cons, List.length_append, List.length_append,
    length_littleEndian, length_littleEndian]
  omega

/-- Stored blocks are no shorter than what they hold. -/
theorem le_length_storedChunks
    (chunks : List Bytes)
    (source : Bytes) :
    chunks.flatten.length + source.length ≤ (storedChunks chunks source).flatten.length := by
  fun_induction storedChunks chunks source with
  | case1 chunks source short =>
      rw [List.length_flatten, List.length_flatten, List.map_reverse, List.sum_reverse,
        List.map_cons, List.sum_cons, length_storedBlockOf]
      omega
  | case2 chunks source long ih =>
      have front : (source.take longestStored).length = longestStored :=
        List.length_take_of_le (by omega)
      rw [List.flatten_cons, List.length_append, length_storedBlockOf, front, List.length_drop]
        at ih
      omega

/-- The content of a stored block is read behind its lengths. -/
theorem reads_storedBlock
    {bytes : Bytes}
    (history : History)
    (fits : bytes.length ≤ longestStored) :
    Reads .anywhere .boundary (storedBlock history) (history.append bytes)
      (littleEndian 2 bytes.length ++
        (littleEndian 2 (longestStored - bytes.length) ++ bytes)) := by
  simp only [longestStored] at fits ⊢
  have sum : (bytes.length + (65535 - bytes.length) == 0xffff) = true := by
    rw [beq_iff_eq]
    omega
  have all : Reads .anywhere .boundary (storedBlock history) (history.append bytes)
      (littleEndian 2 bytes.length ++
        (littleEndian 2 (65535 - bytes.length) ++ ([] ++ (bytes ++ [])))) :=
    .bind (.word (show bytes.length < 256 ^ 2 by omega))
      (.bind (.word (show 65535 - bytes.length < 256 ^ 2 by omega))
        (.bind (.require _ sum) (.bind (.octets bytes) (.pure _))))
  rw [List.append_nil] at all
  exact all

/-- A stored block is read behind the octet that tells its kind. -/
theorem reads_block_stored
    {bytes : Bytes}
    (history : History)
    (last : Bool)
    (fits : bytes.length ≤ longestStored) :
    Reads .boundary .boundary (block history) (last, history.append bytes)
      (storedBlockOf last bytes) := by
  have behindKind : Reads .anywhere .boundary
      (storedBlock history >>= fun extended => pure (last, extended))
      (last, history.append bytes)
      ((littleEndian 2 bytes.length ++
        (littleEndian 2 (longestStored - bytes.length) ++ bytes)) ++ []) :=
    .bind (reads_storedBlock history fits) (.pure _)
  intro held more admits
  rw [show held = [] from admits]
  obtain ⟨left, there, done⟩ := behindKind (List.replicate 5 false) more
    (by decide : (List.replicate 5 false).length < 8)
  refine ⟨left, there, ?_⟩
  rw [List.append_nil, ← List.append_assoc] at done
  rw [← done]
  cases last with
  | false =>
      rfl
  | true =>
      rfl

/-- The stored blocks of a source are read behind some content. -/
theorem reads_storedChunks
    (history : History)
    (chunks : List Bytes)
    (source : Bytes) :
    ∃ written,
      (storedChunks chunks source).flatten = chunks.reverse.flatten ++ written ∧
        Reads .boundary .boundary (blocks history) (history.append source) written := by
  fun_induction storedChunks chunks source generalizing history with
  | case1 chunks source short =>
      refine ⟨storedBlockOf true source, ?_, ?_⟩
      · rw [List.reverse_cons, List.flatten_append, List.flatten_singleton]
      · have all : Reads .boundary .boundary (blocks history) (history.append source)
            (storedBlockOf true source ++ []) :=
          .stop (.bind (reads_block_stored history true short) (.pure _))
        rw [List.append_nil] at all
        exact all
  | case2 chunks source long ih =>
      have front : (source.take longestStored).length ≤ longestStored :=
        List.length_take_le _ _
      obtain ⟨written, same, reads⟩ := ih (history.append (source.take longestStored))
      rw [History.append_append, List.take_append_drop] at reads
      refine ⟨storedBlockOf false (source.take longestStored) ++ written, ?_, ?_⟩
      · rw [same, List.reverse_cons, List.flatten_append, List.flatten_singleton,
          List.append_assoc]
      · have first : Reads .boundary .boundary
            (block history >>= fun result =>
              if result.1 then
                (pure (.stop result.2) : Decoder (Decoder.Round History History))
              else
                pure (.again result.2))
            (.again (history.append (source.take longestStored)))
            (storedBlockOf false (source.take longestStored) ++ []) :=
          .bind (reads_block_stored history false front) (.pure _)
        rw [List.append_nil] at first
        exact .again first (List.cons_ne_nil _ _) reads

/-- Stored blocks are read as their source. -/
theorem reads_storedBody
    (source : Bytes) :
    Reads .boundary .boundary body source.toArray (storedBody source) := by
  obtain ⟨written, same, reads⟩ := reads_storedChunks #[] [] source
  rw [History.append_nothing] at reads
  rw [storedBody, same]
  exact reads

/-- A body is read as the source that it is written for. -/
theorem reads_encodeBody
    (level : UInt32)
    (source : Bytes) :
    Reads .boundary .anywhere body source.toArray (encodeBody level source) := by
  unfold encodeBody
  split
  · exact (reads_storedBody source).ending
  · dsimp only
    split
    · exact reads_fixedBlock source
    · exact (reads_storedBody source).ending

end Deflate

end MemberStream
