import MemberStream.Proofs.Codec.Joined
import MemberStream.Proofs.Writer.Opening
import MemberStream.Rehearsal.Transport

namespace MemberStream

/-!
# What a stream puts out

What the sink of a stream gets is told by its writes and its parameters alone.
The reference below cuts the writes into pieces and puts the members of the
pieces one behind the other; it knows of no engine, no buffer and no growth.
Whenever the calls of a session succeed, its sink has got just that.
-/

variable {encoders : Encoders}

namespace ParameterSet

/-- The output of a stream: the members of its pieces, or the placeholder if there are none. -/
def reference
    (parameters : ParameterSet)
    (encoders : Encoders)
    (buffers : List Bytes) :
    Except CodecError Bytes :=
  match parameters.segments [] buffers with
  | [] =>
      .ok parameters.placeholder
  | pieces =>
      (pieces.mapM (parameters.encodeMember encoders)).map List.flatten

/-- Packed pieces are encoded one after the other. -/
theorem mapM_of_packs
    {parameters : ParameterSet}
    {pieces : List Bytes}
    {stream : Bytes}
    (packs : parameters.Packs encoders pieces stream) :
    (pieces.mapM (parameters.encodeMember encoders)).map List.flatten = .ok stream := by
  induction packs with
  | nil =>
      rfl
  | @cons piece member stream pieces encoded packs ih =>
      rw [List.mapM_cons, encoded]
      cases others : pieces.mapM (parameters.encodeMember encoders) with
      | error error =>
          rw [others] at ih
          cases ih
      | ok members =>
          rw [others] at ih
          cases ih
          rfl

/-- A stream without content has no pieces. -/
theorem segments_eq_nil
    {parameters : ParameterSet}
    {buffers : List Bytes} :
    parameters.segments [] buffers = [] ↔ buffers.flatten = [] := by
  have whole := parameters.flatten_segments [] buffers
  rw [List.nil_append] at whole
  constructor
  · intro none
    rw [none] at whole
    exact whole.symm
  · intro nothing
    rw [nothing] at whole
    cases segments : parameters.segments [] buffers with
    | nil =>
        rfl
    | cons piece rest =>
        rw [segments] at whole
        have member : piece ∈ parameters.segments [] buffers := by
          rw [segments]
          exact List.mem_cons_self
        exact absurd (List.append_eq_nil_iff.mp whole).1 (ne_nil_of_mem_segments member)

/-- The reference of a stream is its placeholder, or what its pieces are packed as. -/
theorem reference_of_packs
    {parameters : ParameterSet}
    {buffers : List Bytes}
    {stream : Bytes}
    (packs : parameters.Packs encoders (parameters.segments [] buffers) stream) :
    parameters.reference encoders buffers =
      .ok (if buffers.flatten = [] then parameters.placeholder else stream) := by
  unfold reference
  split
  · rename_i none
    rw [if_pos (segments_eq_nil.mp none)]
  · rename_i some
    rw [if_neg (fun nothing => some (segments_eq_nil.mpr nothing)), mapM_of_packs packs]

/-- Pieces that are encoded one after the other are packed. -/
theorem packs_of_mapM
    {parameters : ParameterSet}
    {pieces : List Bytes}
    {stream : Bytes}
    (encoded : (pieces.mapM (parameters.encodeMember encoders)).map List.flatten = .ok stream) :
    parameters.Packs encoders pieces stream := by
  induction pieces generalizing stream with
  | nil =>
      cases encoded
      exact .nil
  | cons piece pieces ih =>
      rw [List.mapM_cons] at encoded
      cases first : parameters.encodeMember encoders piece with
      | error error =>
          rw [first] at encoded
          cases encoded
      | ok member =>
          rw [first] at encoded
          cases others : pieces.mapM (parameters.encodeMember encoders) with
          | error error =>
              rw [others] at encoded
              cases encoded
          | ok members =>
              rw [others] at encoded ih
              cases encoded
              exact .cons first (ih rfl)

/-- The output of a stream consists of written members, which hold what was written. -/
theorem members_of_reference
    {reader writer : ParameterSet}
    {buffers : List Bytes}
    {output : Bytes}
    (inverted : encoders.Inverted)
    (understands : reader.Understands writer)
    (short : buffers.flatten.length < 2 ^ (64 : Nat))
    (refers : writer.reference encoders buffers = .ok output) :
    ∃ members,
      (∀ member ∈ members, reader.Written member) ∧
        joined members = output ∧ joinedContent members = buffers.flatten := by
  unfold reference at refers
  split at refers
  · rename_i none
    cases refers
    refine ⟨[⟨writer.placeholder, []⟩], ?_, List.append_nil _, ?_⟩
    · intro member among
      rw [List.mem_singleton.mp among]
      exact .placeholder understands
    · exact (segments_eq_nil.mp none).symm
  · have whole := writer.flatten_segments [] buffers
    rw [List.nil_append] at whole
    rw [← whole] at short ⊢
    exact members_of_packs inverted understands short (packs_of_mapM refers)

/-- Parameters with another output buffer, another growth of it and another ceiling. -/
def rebuffered
    (parameters : ParameterSet)
    (outputBufferLength bufferGrowth : Nat)
    (maxBufferLength : Option Nat) :
    ParameterSet :=
  { parameters with
    outputBufferLength := outputBufferLength
    bufferGrowth := bufferGrowth
    maxBufferLength := maxBufferLength }

/-- The pieces of a stream do not depend on its output buffer. -/
theorem segments_rebuffered
    (parameters : ParameterSet)
    (outputBufferLength bufferGrowth : Nat)
    (maxBufferLength : Option Nat)
    (held : Bytes)
    (buffers : List Bytes) :
    (parameters.rebuffered outputBufferLength bufferGrowth maxBufferLength).segments held buffers =
      parameters.segments held buffers := by
  induction buffers generalizing held with
  | nil =>
      rfl
  | cons bytes buffers ih =>
      rw [segments, segments]
      dsimp only
      rw [ih]
      rfl

/-- The reference of a stream does not depend on its output buffer. -/
theorem reference_rebuffered
    (parameters : ParameterSet)
    (outputBufferLength bufferGrowth : Nat)
    (maxBufferLength : Option Nat)
    (buffers : List Bytes) :
    (parameters.rebuffered outputBufferLength bufferGrowth maxBufferLength).reference encoders
        buffers =
      parameters.reference encoders buffers := by
  unfold reference
  rw [segments_rebuffered]
  rfl

end ParameterSet

namespace Writer

variable {σ τ : Type} [Sink σ] [Sink τ]

/-- Whether every write of some buffers succeeds, and closing after them. -/
def Succeeds
    (writer : Writer (RecordedSink σ) (MemberEngine encoders))
    (buffers : List Bytes) :
    Prop :=
  (∀ result ∈ (writer.writeEach buffers).1, ∃ count, result = .ok count) ∧
    (writer.writeEach buffers).2.close.1 = .ok ()

/-- The state of a writer that has written some buffers and has been closed. -/
def closedAfter
    (writer : Writer (RecordedSink σ) (MemberEngine encoders))
    (buffers : List Bytes) :
    Writer (RecordedSink σ) (MemberEngine encoders) :=
  (writer.writeEach buffers).2.close.2

/-- A closed writer that has put out some output for some buffers. -/
structure PutOut
    (before output : Bytes)
    (buffers : List Bytes)
    (closed : Writer (RecordedSink σ) (MemberEngine encoders)) :
    Prop where
  received : closed.sink.received = before ++ output
  crc : closed.crc.value = crc32 buffers.flatten
  bytesIn : closed.counters.bytesIn = UInt64.ofNat buffers.flatten.length
  /-- A placeholder is not counted. -/
  bytesOut :
    closed.counters.bytesOut =
      UInt64.ofNat (if buffers.flatten = [] then 0 else output.length)

/-- A session that succeeds puts out its reference. -/
theorem putOut_of_succeeds
    {parameters : ParameterSet}
    {writer : Writer (RecordedSink σ) (MemberEngine encoders)}
    {buffers : List Bytes}
    (opened : writer.Opened parameters)
    (accepts : Sink.Accepts writer.sink)
    (succeeds : writer.Succeeds buffers) :
    ∃ output,
      parameters.reference encoders buffers = .ok output ∧
        PutOut writer.sink.received output buffers (writer.closedAfter buffers) := by
  obtain ⟨counts, whole⟩ := writeThenClose_of_writeEach succeeds.1 succeeds.2
  have yields := ended_of_prepared (prepared_of_opened opened accepts) buffers
  rw [whole] at yields
  obtain ⟨-, stream, packs, ended⟩ := yields.of_ok
  simp only [List.nil_append] at ended
  refine ⟨_, ParameterSet.reference_of_packs packs.packs, ended.received, ?_, ended.bytesIn, ?_⟩
  · rw [closedAfter, ended.crc]
    rfl
  · rw [closedAfter, ended.bytesOut]
    split
    · rename_i nothing
      have blank := packs.packs
      rw [ParameterSet.segments_eq_nil.mpr nothing] at blank
      cases blank
      rfl
    · rfl

/--
Two sessions over the same writes that differ in their output buffers, in the growth of
these and in their ceilings put out the same bytes if both succeed: those of the reference,
and their checksums and counters are the same.
-/
theorem putOut_reference
    {parameters : ParameterSet}
    {outputBufferLength bufferGrowth : Nat}
    {maxBufferLength : Option Nat}
    {writer : Writer (RecordedSink σ) (MemberEngine encoders)}
    {other : Writer (RecordedSink τ) (MemberEngine encoders)}
    {buffers : List Bytes}
    (opened :
      writer.Opened parameters ∧
        other.Opened (parameters.rebuffered outputBufferLength bufferGrowth maxBufferLength))
    (accepts : Sink.Accepts writer.sink ∧ Sink.Accepts other.sink)
    (succeeds : writer.Succeeds buffers ∧ other.Succeeds buffers) :
    ∃ output,
      parameters.reference encoders buffers = .ok output ∧
        PutOut writer.sink.received output buffers (writer.closedAfter buffers) ∧
        PutOut other.sink.received output buffers (other.closedAfter buffers) := by
  obtain ⟨output, refers, putOut⟩ := putOut_of_succeeds opened.1 accepts.1 succeeds.1
  obtain ⟨again, refersAgain, putOutAgain⟩ := putOut_of_succeeds opened.2 accepts.2 succeeds.2
  rw [ParameterSet.reference_rebuffered, refers] at refersAgain
  cases refersAgain
  exact ⟨output, refers, putOut, putOutAgain⟩

/-- A session succeeds if there can be room for the members of its pieces. -/
theorem succeeds_of_packs
    {parameters : ParameterSet}
    {writer : Writer (RecordedSink σ) (MemberEngine encoders)}
    {buffers : List Bytes}
    {stream : Bytes}
    (opened : writer.Opened parameters)
    (accepts : Sink.Accepts writer.sink)
    (packs : parameters.Packs encoders (parameters.segments [] buffers) stream)
    (fits : parameters.FitsEach encoders (parameters.segments [] buffers)) :
    writer.Succeeds buffers := by
  obtain ⟨last, whole, -⟩ :=
    (ended_of_prepared (prepared_of_opened opened accepts) buffers).of_packs packs fits
  obtain ⟨results, closes⟩ := writeEach_of_writeThenClose whole
  refine ⟨?_, congrArg Prod.fst closes⟩
  intro result inside
  rw [results] at inside
  obtain ⟨count, -, same⟩ := List.mem_map.mp inside
  exact ⟨count, same.symm⟩

/-- The law holds of two sessions, one of which has a small output buffer that may not grow. -/
theorem putOut_reference_bounded :
    let parameters : ParameterSet := { level := 0 }
    let narrow : ParameterSet := parameters.rebuffered 131072 131072 (some 131072)
    let sink : ScriptedSink := { perWrite := some 3 }
    let writer : Writer (RecordedSink ScriptedSink) MemberEngine :=
      applyAll { sink := { sink := sink }, engine := {}, overrides := { level := some 0 } } []
    let other : Writer (RecordedSink ScriptedSink) MemberEngine :=
      applyAll { sink := { sink := sink }, engine := {}, overrides := { level := some 0 } }
        [[.outputBufferLength 131072, .bufferGrowth 131072, .maxBufferLength 131072]]
    writer.Opened parameters ∧ other.Opened narrow ∧
      ∃ output,
        parameters.reference .own [[1, 2], [3]] = .ok output ∧
          PutOut [] output [[1, 2], [3]] (writer.closedAfter [[1, 2], [3]]) ∧
          PutOut [] output [[1, 2], [3]] (other.closedAfter [[1, 2], [3]]) := by
  intro parameters narrow sink writer other
  have opened : writer.Opened parameters :=
    .built { sink := sink } {} { level := some 0 } [] rfl rfl
  have openedOther : other.Opened narrow :=
    .built { sink := sink } {} { level := some 0 }
      [[.outputBufferLength 131072, .bufferGrowth 131072, .maxBufferLength 131072]] rfl rfl
  have accepts : Sink.Accepts writer.sink ∧ Sink.Accepts other.sink :=
    have taken : Sink.Accepts sink :=
      ScriptedSink.accepts rfl (by intro most same; cases same; decide) rfl
    ⟨RecordedSink.accepts taken, RecordedSink.accepts taken⟩
  have segments : parameters.segments [] [[1, 2], [3]] = [[1, 2], [3]] := by
    show pieces _ [] ++ pieces _ [] ++ (pieces _ [1, 2] ++ pieces _ [] ++ pieces _ [3]) = _
    rw [pieces_nil, pieces_of_short (List.cons_ne_nil _ _) (by decide),
      pieces_of_short (List.cons_ne_nil _ _) (by decide)]
    rfl
  have segmentsOther : narrow.segments [] [[1, 2], [3]] = [[1, 2], [3]] := by
    rw [parameters.segments_rebuffered, segments]
  have first := encodeMember_stored (show [1, 2].length ≤ Deflate.longestStored by decide)
  have second := encodeMember_stored (show [3].length ≤ Deflate.longestStored by decide)
  have fits : parameters.FitsEach .own [[1, 2], [3]] ∧ narrow.FitsEach .own [[1, 2], [3]] := by
    refine ⟨ParameterSet.fitsEach_of_short (.cons first (.cons second .nil)) rfl (by decide), ?_⟩
    intro piece inside member encoded
    change parameters.encodeMember .own piece = .ok member at encoded
    rcases List.mem_cons.mp inside with rfl | inside
    · rw [first] at encoded
      cases encoded
      decide
    · rw [List.mem_singleton.mp inside, second] at encoded
      cases encoded
      decide
  have succeeds : writer.Succeeds [[1, 2], [3]] := by
    have packs : parameters.Packs .own [[1, 2], [3]] _ := .cons first (.cons second .nil)
    have roomy := fits.1
    rw [← segments] at packs roomy
    exact succeeds_of_packs opened accepts.1 packs roomy
  have succeedsOther : other.Succeeds [[1, 2], [3]] := by
    have packs : narrow.Packs .own [[1, 2], [3]] _ := .cons first (.cons second .nil)
    have roomy := fits.2
    rw [← segmentsOther] at packs roomy
    exact succeeds_of_packs openedOther accepts.2 packs roomy
  exact
    ⟨opened, openedOther,
      putOut_reference ⟨opened, openedOther⟩ accepts ⟨succeeds, succeedsOther⟩⟩

end Writer

end MemberStream
