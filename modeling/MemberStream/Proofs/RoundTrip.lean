import MemberStream.Proofs.Codec.Joined
import MemberStream.Proofs.Reader.Ending
import MemberStream.Proofs.Writer.Opening

namespace MemberStream

/-!
# From a writer through a sink to a reader

What is written to a stream and closed is what a reader gets that reads the
bytes of the sink: the same bytes, in order, and behind them the end.  The
buffers of neither side have a part in it, nor has the way in which the sink
takes its bytes or the source hands them out.
-/

variable {encoders : Encoders}

namespace ParameterSet

/-- What a stream without content puts out is short. -/
theorem length_placeholder_le
    (parameters : ParameterSet) :
    parameters.placeholder.length ≤ 64 := by
  unfold placeholder
  cases parameters.algorithm with
  | deflate =>
      cases format : parameters.deflateFormat with
      | _ =>
          exact Nat.le_of_ble_eq_true rfl
  | lz4 =>
      exact Nat.le_of_ble_eq_true rfl
  | zstd =>
      exact Nat.le_of_ble_eq_true rfl

/-- What a stream puts out: its placeholder if there is no content, and else its members. -/
def output
    (parameters : ParameterSet)
    (content stream : Bytes) :
    Bytes :=
  if content = [] then
    parameters.placeholder
  else
    stream

/-- What a stream puts out is never nothing, and unpacking it gives the pieces of its content. -/
theorem Packs.unpackStream
    {reader writer : ParameterSet}
    {pieces : List Bytes}
    {stream : Bytes}
    (packs : writer.Packs encoders pieces stream)
    (inverted : encoders.Inverted)
    (understands : reader.Understands writer)
    (short : ∀ piece ∈ pieces, piece.length < 2 ^ (64 : Nat)) :
    writer.output pieces.flatten stream ≠ [] ∧
      reader.unpackStream (writer.output pieces.flatten stream) = (pieces.flatten, none) := by
  unfold output
  split
  · rename_i nothing
    have some : writer.placeholder ≠ [] := by
      have positive := (decodeMember_bounds (decodeMember_of_placeholder understands [])).1
      exact List.length_pos_iff.mp positive
    rw [ParameterSet.unpackStream, if_neg some, unpack_placeholder understands, nothing]
    exact ⟨some, rfl⟩
  · rename_i content
    have some : stream ≠ [] := by
      rintro rfl
      have same := packs.unpack inverted understands short
      rw [unpack_nil] at same
      exact content (congrArg Prod.fst same).symm
    rw [ParameterSet.unpackStream, if_neg some, packs.unpack inverted understands short]
    exact ⟨some, rfl⟩

/-- Unpacking the output of a stream gives its content. -/
theorem unpackStream_output
    {reader writer : ParameterSet}
    {pieces : List Bytes}
    {stream : Bytes}
    (inverted : encoders.Inverted)
    (understands : reader.Understands writer)
    (short : pieces.flatten.length < 2 ^ (64 : Nat))
    (packs : writer.Packs encoders pieces stream) :
    reader.unpackStream (writer.output pieces.flatten stream) = (pieces.flatten, none) :=
  (packs.unpackStream inverted understands (length_lt_of_mem_flatten short)).2

end ParameterSet

namespace Writer

variable {σ : Type} [Sink σ]

/-- A writer that was given some buffers and has been closed. -/
structure Wrote
    (parameters : ParameterSet)
    (buffers : List Bytes)
    (stream : Bytes)
    (results : List (Except StreamError Nat))
    (closing : Except StreamError Unit)
    (last : Writer (RecordedSink σ) (MemberEngine encoders)) :
    Prop where
  /-- Every write takes its whole buffer. -/
  whole : results = buffers.map (fun bytes => .ok bytes.length)
  closes : closing = .ok ()
  received : last.sink.received = parameters.output buffers.flatten stream
  crc : last.crc.value = crc32 buffers.flatten
  bytesIn : last.counters.bytesIn = UInt64.ofNat buffers.flatten.length
  bytesOut : last.counters.bytesOut = UInt64.ofNat stream.length

/-- A session that writes some buffers and closes puts out the members of their pieces. -/
theorem wrote_of_opened
    {parameters : ParameterSet}
    {writer : Writer (RecordedSink σ) (MemberEngine encoders)}
    {buffers : List Bytes}
    {stream : Bytes}
    (opened : writer.Opened parameters)
    (unlimited : parameters.maxBufferLength = none)
    (accepts : Sink.Accepts writer.sink)
    (blank : writer.sink.received = [])
    (packs : parameters.Packs encoders (parameters.segments [] buffers) stream)
    (short : stream.length ≤ maxLength) :
    Wrote parameters buffers stream (writer.writeEach buffers).1
      (writer.writeEach buffers).2.close.1 (writer.writeEach buffers).2.close.2 := by
  have yields := ended_of_prepared (prepared_of_opened opened accepts) buffers
  obtain ⟨last, succeeds, ended⟩ :=
    yields.of_packs packs (ParameterSet.fitsEach_of_short packs unlimited short)
  obtain ⟨results, closes⟩ := writeEach_of_writeThenClose succeeds
  simp only [blank, List.nil_append] at ended
  rw [closes]
  refine ⟨?_, rfl, ended.received, ?_, ended.bytesIn, ended.bytesOut⟩
  · rw [results, List.map_map]
    rfl
  · rw [ended.crc]
    rfl

end Writer

/--
A reader gets exactly what was written to a stream, and behind it the end:
every write takes its whole buffer and closing succeeds, every read gets the
next bytes as far as there are any, both checksums are that of the content, and
the counters of both sides agree.  All that is asked of the encoders is that
they are inverted.
-/
theorem readChunks_of_written
    {σ ρ : Type}
    [Sink σ]
    [Source ρ]
    {given taken : ParameterSet}
    {writer : Writer (RecordedSink σ) (MemberEngine encoders)}
    {reader : Reader ρ (MemberEngine encoders)}
    {buffers : List Bytes}
    {sizes : List Nat}
    {stream : Bytes}
    (inverted : encoders.Inverted)
    (written : writer.Opened given)
    (read : reader.Opened taken)
    (understands : taken.Understands given)
    (unlimited : given.maxBufferLength = none ∧ taken.maxBufferLength = none)
    (accepts : Sink.Accepts writer.sink)
    (blank : writer.sink.received = [])
    (packs : given.Packs encoders (given.segments [] buffers) stream)
    (short : buffers.flatten.length < 2 ^ (63 : Nat) ∧ stream.length < 2 ^ (63 : Nat))
    (served : Serves reader.source (writer.writeEach buffers).2.close.2.sink.received)
    (positive : ∀ size ∈ sizes, size ≠ 0) :
    let content := buffers.flatten
    let writes := writer.writeEach buffers
    let closed := writes.2.close
    let reads := reader.readChunks sizes
    writes.1 = buffers.map (fun bytes => .ok bytes.length) ∧
      closed.1 = .ok () ∧
      closed.2.crc.value = crc32 content ∧
      closed.2.counters.bytesIn.toNat = content.length ∧
      reads.1 = answers content none sizes ∧
      deliveredBy reads.1 = content.take sizes.sum ∧
      (content.length ≤ sizes.sum →
        ∀ size, size ≠ 0 →
          let ended := reads.2.readChunk size
          ended.1 = .ok [] ∧
            ended.2.crc.value = crc32 content ∧
            ended.2.counters.bytesOut.toNat = content.length ∧
            ended.2.counters.bytesIn.toNat = closed.2.sink.received.length ∧
            (content ≠ [] → closed.2.counters.bytesOut = ended.2.counters.bytesIn)) := by
  intro content writes closed reads
  obtain ⟨shortContent, shortStream⟩ := short
  have wide : (2 : Nat) ^ 63 ≤ maxLength := by
    decide
  have wrote : Writer.Wrote given buffers stream writes.1 closed.1 closed.2 :=
    Writer.wrote_of_opened written unlimited.1 accepts blank packs (by omega)
  have segments : (given.segments [] buffers).flatten = content := by
    rw [given.flatten_segments, List.nil_append]
  have unpacked : taken.unpackStream closed.2.sink.received = (content, none) := by
    have shorter : (given.segments [] buffers).flatten.length < 2 ^ 64 := by
      rw [segments]
      exact Nat.lt_trans shortContent (by decide)
    have all := ParameterSet.unpackStream_output inverted understands shorter packs
    rw [segments] at all
    rw [wrote.received]
    exact all
  have shortInput : closed.2.sink.received.length < 2 ^ 63 := by
    rw [wrote.received, ParameterSet.output]
    split
    · exact Nat.lt_of_le_of_lt given.length_placeholder_le (by decide)
    · exact shortStream
  have stands := Reader.stands_of_opened read unlimited.2 served
  rw [unpacked] at stands
  obtain ⟨results, after⟩ := Reader.readChunks_of_stands stands shortInput shortContent positive
  have count : (UInt64.ofNat content.length).toNat = content.length :=
    UInt64.toNat_ofNat_of_lt' (Nat.lt_trans shortContent (by decide))
  refine ⟨wrote.whole, wrote.closes, wrote.crc, ?_, results, ?_, ?_⟩
  · rw [wrote.bytesIn, count]
  · rw [← deliveredBy_answers content none]
    exact congrArg deliveredBy results
  · intro enough size some ended
    rw [List.nil_append, List.take_of_length_le enough, List.drop_of_length_le enough] at after
    have answered := (Reader.readChunk_of_stands after shortInput (Nat.two_pow_pos 63) some).1
    obtain ⟨crc, bytesIn, bytesOut⟩ := Reader.exhausts_of_stands after shortInput some
    refine ⟨?_, ?_, ?_, ?_, ?_⟩
    · rw [answer_nil] at answered
      exact answered
    · rw [crc]
      rfl
    · rw [bytesOut, count]
    · rw [bytesIn, UInt64.toNat_ofNat_of_lt' (Nat.lt_trans shortInput (by decide))]
    · intro nonempty
      rw [wrote.bytesOut, bytesIn, wrote.received, ParameterSet.output, if_neg nonempty]

/-- The law holds of members with lengths in their headers that come and go in small pieces. -/
theorem readChunks_of_written_scripted :
    let sink : ScriptedSink := { perWrite := some 3, interruptEvery := 2 }
    let writer : Writer (RecordedSink ScriptedSink) MemberEngine :=
      Writer.applyAll
        { sink := { sink := sink }, engine := {}, overrides := { level := some 0 } } []
    let closed := (writer.writeEach [[1, 2], [], [3]]).2.close
    let source : ScriptedSource :=
      { data := closed.2.sink.received, perRead := some 2, interruptEvery := 3 }
    let reader : Reader ScriptedSource MemberEngine :=
      Reader.applyAll { source := source, engine := {} } [[.deflateFormat .gzip]]
    writer.Opened { level := 0 } ∧
      closed.1 = .ok () ∧
      (reader.readChunks [1, 5, 5]).1 = [.ok [1], .ok [2, 3], .ok []] := by
  intro sink writer closed source reader
  have opened : writer.Opened { level := 0 } :=
    .built { sink := sink } {} { level := some 0 } [] rfl rfl
  have readerOpened : reader.Opened { deflateFormat := .gzip } :=
    .built source {} {} [[.deflateFormat .gzip]] rfl rfl
  have understands :
      ({ deflateFormat := .gzip } : ParameterSet).Understands { level := 0 } :=
    ⟨rfl, .inr ⟨by decide, by decide⟩⟩
  have accepts : Sink.Accepts writer.sink :=
    RecordedSink.accepts (ScriptedSink.accepts rfl (by intro most same; cases same; decide) rfl)
  have served : Serves reader.source closed.2.sink.received :=
    source.serves rfl (by intro most same; cases same; decide)
  have segments :
      ({ level := 0 } : ParameterSet).segments [] [[1, 2], [], [3]] = [[1, 2], [3]] := by
    show pieces _ [] ++ pieces _ [] ++ (pieces _ [1, 2] ++ pieces _ [] ++
      (pieces _ [] ++ pieces _ [] ++ pieces _ [3])) = _
    rw [pieces_nil, pieces_of_short (List.cons_ne_nil _ _) (by decide),
      pieces_of_short (List.cons_ne_nil _ _) (by decide)]
    rfl
  have packs := ParameterSet.Packs.cons
    (encodeMember_stored (show [1, 2].length ≤ Deflate.longestStored by decide))
    (.cons (encodeMember_stored (show [3].length ≤ Deflate.longestStored by decide)) .nil)
  rw [← segments] at packs
  have law := readChunks_of_written Encoders.Inverted.own opened readerOpened understands
    ⟨rfl, rfl⟩ accepts rfl packs ⟨by decide, by decide⟩ served
    (by decide : ∀ size ∈ [1, 5, 5], size ≠ 0)
  exact ⟨opened, law.2.1, law.2.2.2.2.1⟩

end MemberStream
