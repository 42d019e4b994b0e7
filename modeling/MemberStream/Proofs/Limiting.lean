import MemberStream.Proofs.Reader.Growing
import MemberStream.Proofs.Reader.Limiting
import MemberStream.Proofs.Writer.Growing
import MemberStream.Proofs.Writer.Limiting
import MemberStream.Proofs.Zstd.Frames
import MemberStream.Rehearsal.Transport

namespace MemberStream

/-!
# The output limit is exact

A stream on a member engine fails for its limit if and only if it meets a member that is longer
than that, be it encoded or decoded.  Everything before that member goes through.
-/

variable {encoders : Encoders}

/-- Whether an output buffer is within a limit, now and at every data call of the session. -/
structure OutputBuffer.Within
    (buffer : OutputBuffer)
    (limit : Nat) :
    Prop where
  now : buffer.length ≤ limit
  always : ∀ attempt ∈ buffer.attempts, attempt.capacity ≤ limit

/-- An output buffer that grows as it should is within the limit of the session in force. -/
theorem OutputBuffer.Grows.output_within
    {buffer : OutputBuffer}
    {parameters : ParameterSet}
    {limit : Nat}
    (grows : buffer.Grows)
    (inForce : buffer.inForce = some parameters)
    (limited : parameters.maxBufferLength = some limit) :
    buffer.Within limit := by
  obtain ⟨now, always⟩ := (grows parameters inForce).le_limit limited
  exact ⟨now, always⟩

/--
A writer with a limit stops at the first piece whose member is longer, with the members before
it in the sink, and at no other piece that the codec accepts.  A reader with a limit whose
source is shorter stops at the first member whose content is longer, with the contents before
it delivered.  The output buffer of neither of them is ever longer than the limit, whatever it
starts with, however it grows and whatever is requested.
-/
theorem limit_exact
    {σ ρ ε : Type}
    [Sink σ]
    [Source ρ]
    [Engine ε]
    {parameters : ParameterSet}
    {limit : Nat}
    (limited : parameters.maxBufferLength = some limit)
    (word : limit ≤ maxLength) :
    (∀ (writer : Writer (RecordedSink σ) (MemberEngine encoders)) (buffers : List Bytes),
      writer.Opened parameters →
        Sink.Accepts writer.sink →
          Writer.PacksUpTo parameters limit writer.sink.received
            (parameters.segments [] buffers) (buffers.map List.length)
            (writer.writeThenClose buffers).1 (writer.writeThenClose buffers).2) ∧
      (∀ (reader : Reader ρ (MemberEngine encoders)) (upstream : Bytes) (sizes : List Nat),
        reader.Opened parameters →
          Serves reader.source upstream →
            upstream.length < limit →
              (∀ size ∈ sizes, size ≠ 0) →
                Reader.ReadsWithin parameters limit upstream sizes (reader.readOut sizes).1
                  (reader.readOut sizes).2.1) ∧
      ∀ (engine : ε) (overrides : Overrides) (staged : ParameterSet),
        (∀ (sink : σ) (requests : List (WriterRequest σ)),
          let built : Writer σ (RecordedEngine ε) :=
            { sink, engine := { engine }, overrides, staged }
          let buffer := (built.serveEach requests).outputBuffer
          buffer.inForce = some parameters → buffer.Within limit) ∧
          ∀ (source : ρ) (requests : List (ReaderRequest ρ)),
            let built : Reader ρ (RecordedEngine ε) :=
              { source, engine := { engine }, overrides, staged }
            let buffer := (built.serveEach requests).outputBuffer
            buffer.inForce = some parameters → buffer.Within limit := by
  refine ⟨?_, ?_, ?_⟩
  · intro writer buffers opened accepts
    exact Writer.packsUpTo_of_opened opened accepts limited word buffers
  · intro reader upstream sizes opened served below positive
    exact Reader.readsWithin_of_opened opened limited word served below positive
  · intro engine overrides staged
    refine ⟨?_, ?_⟩
    · intro sink requests built buffer inForce
      exact (Writer.grows_serveEach sink engine overrides staged requests).output_within inForce
        limited
    · intro source requests built buffer inForce
      exact (Reader.grows_serveEach source engine overrides staged requests).output_within inForce
        limited

/-- At level zero a piece is stored, without a container if the format is raw. -/
theorem encodeMember_raw
    {parameters : ParameterSet}
    (algorithm : parameters.algorithm = .deflate)
    (format : parameters.deflateFormat = .raw)
    (level : parameters.level = 0)
    (piece : Bytes) :
    parameters.encodeMember .own piece = .ok (Deflate.storedBody piece) := by
  rw [ParameterSet.encodeMember_eq, ParameterSet.memberOf, algorithm, format, level]
  change Except.mapError _ (Except.ok (Deflate.encodeBody 0 piece)) = _
  rw [Deflate.encodeBody, if_pos rfl]
  rfl

/-- Of two pieces that are stored the first one is packed, if the second is beyond the limit. -/
theorem packsBefore_raw
    {parameters : ParameterSet}
    {limit : Nat}
    {first second : Bytes}
    (algorithm : parameters.algorithm = .deflate)
    (format : parameters.deflateFormat = .raw)
    (level : parameters.level = 0)
    (limited : parameters.maxBufferLength = some limit)
    (within : (Deflate.storedBody first).length ≤ limit)
    (exceeds : limit < second.length) :
    parameters.PacksBefore .own limit [first, second] (Deflate.storedBody first) := by
  have longer := Deflate.le_length_storedChunks [] second
  rw [List.flatten_nil, List.length_nil, Nat.zero_add] at longer
  have parts : [first, second] = [first] ++ second :: [] :=
    rfl
  refine .here parts
    (ParameterSet.packsWithin_single (encodeMember_raw algorithm format level first) ?_)
    (encodeMember_raw algorithm format level second) (Nat.lt_of_lt_of_le exceeds longer)
  intro most same
  cases limited.symm.trans same
  exact within

/-- Of two runs the first one is unpacked, if the second is beyond the limit. -/
theorem unpacksWithin_runs
    {parameters : ParameterSet}
    {first second : Nat}
    (algorithm : parameters.algorithm = .zstd)
    (shortest : 24 ≤ first)
    (shorter : first < second)
    (longest : second ≤ Zstd.longestBlock) :
    parameters.UnpacksWithin second (Zstd.runFrame 5 first ++ Zstd.runFrame 7 second)
      (List.replicate (first + 1) 5) .beyond := by
  have decodes {input content : Bytes} {length : Nat}
      (decoded : Zstd.decodeMember input = .ok (length, content)) :
      parameters.decodeMember input = .ok (length, content) := by
    unfold ParameterSet.decodeMember
    rw [algorithm]
    dsimp only
    rw [decoded]
    rfl
  have front := Zstd.decodeMember_runFrame 5 shortest (by omega) (Zstd.runFrame 7 second)
  have back := Zstd.decodeMember_runFrame 7 (show 24 ≤ second by omega) longest []
  rw [List.append_nil] at back
  rw [← List.append_nil (List.replicate (first + 1) 5)]
  refine .member (decodes front) (by rw [List.length_replicate]; exact shorter) ?_
  rw [List.drop_left]
  exact .beyond (decodes back) (by rw [List.length_replicate]; exact Nat.lt_succ_self second)

/--
The law holds of a writer whose second piece is one byte longer than the limit, and of a reader
whose second member is: the first one goes through.
-/
theorem limit_exact_exceeded :
    let given : ParameterSet :=
      { level := 0, deflateFormat := .raw, inputBufferMode := .noLast,
        hardwareBufferSize := 262144, maxBufferLength := some 131072 }
    let taken : ParameterSet :=
      { algorithm := .zstd, maxBufferLength := some 131072, explicit := { algorithm := true } }
    let sink : RecordedSink ScriptedSink := { sink := { perWrite := some 3 } }
    let writer : Writer (RecordedSink ScriptedSink) MemberEngine :=
      Writer.applyAll { sink := sink, engine := {}, overrides := { level := some 0 } }
        [[.deflateFormat .raw, .inputBufferMode .noLast],
          [.hardwareBufferSize 262144, .maxBufferLength 131072]]
    let long : Bytes := List.replicate 131073 7
    let upstream : Bytes := Zstd.runFrame 5 30 ++ Zstd.runFrame 7 131072
    let source : ScriptedSource := { data := upstream, perRead := some 3, interruptEvery := 2 }
    let reader : Reader ScriptedSource MemberEngine :=
      Reader.applyAll { source := source, engine := {} }
        [[.algorithm .zstd, .maxBufferLength 131072]]
    let recorded : Reader ScriptedSource (RecordedEngine MemberEngine) :=
      { source := source, engine := { engine := {} }, staged := taken }
    let written := writer.writeThenClose [[1, 2], long]
    let read := reader.readOut (List.replicate 40 20)
    writer.Opened given ∧
      (∃ wanted, written.1 = .error (.bufferLimitExceeded wanted 131072)) ∧
      written.2.sink.received = [1, 2, 0, 0xfd, 0xff, 1, 2] ∧
      reader.Opened taken ∧
      (∃ wanted, read.2.1 = some (.error (.bufferLimitExceeded wanted 131072))) ∧
      read.1 = List.replicate 31 5 ∧
      (recorded.serveEach [.reset source]).outputBuffer.Within 131072 := by
  intro given taken sink writer long upstream source reader recorded written read
  have opened : writer.Opened given :=
    .built sink {} { level := some 0 }
      [[.deflateFormat .raw, .inputBufferMode .noLast],
        [.hardwareBufferSize 262144, .maxBufferLength 131072]] rfl rfl
  have readerOpened : reader.Opened taken :=
    .built source {} {} [[.algorithm .zstd, .maxBufferLength 131072]] rfl rfl
  have accepts : Sink.Accepts writer.sink :=
    RecordedSink.accepts (ScriptedSink.accepts rfl (by intro most same; cases same; decide) rfl)
  have served : Serves reader.source upstream :=
    source.serves rfl (by intro most same; cases same; decide)
  obtain ⟨writes, -, -⟩ :=
    limit_exact (σ := ScriptedSink) (ρ := ScriptedSource) (ε := MemberEngine)
      (show given.maxBufferLength = some 131072 from rfl) (by decide)
  obtain ⟨-, reads, buffers⟩ :=
    limit_exact (σ := ScriptedSink) (ρ := ScriptedSource) (ε := MemberEngine)
      (show taken.maxBufferLength = some 131072 from rfl) (by decide)
  have longer : long.length = 131073 := List.length_replicate
  have segments : given.segments [] [[1, 2], long] = [[1, 2], long] := by
    have small : pieces given.chunkLength [1, 2] = [[1, 2]] :=
      pieces_of_short (List.cons_ne_nil _ _) (by decide)
    have large : pieces given.chunkLength long = [long] :=
      pieces_of_short (List.ne_nil_of_length_pos (by omega)) (by rw [longer]; decide)
    simp only [ParameterSet.segments, InputBufferMode.part, given, pieces_nil]
    rw [small, large]
    rfl
  have stored : Deflate.storedBody [1, 2] = [1, 2, 0, 0xfd, 0xff, 1, 2] := by
    rw [Deflate.storedBody, Deflate.storedChunks, if_pos (by decide)]
    rfl
  have before : given.PacksBefore .own 131072 [[1, 2], long] (Deflate.storedBody [1, 2]) :=
    packsBefore_raw rfl rfl rfl rfl (by rw [stored]; decide) (by omega)
  rw [← segments, stored] at before
  obtain ⟨refused, received⟩ := (writes writer [[1, 2], long] opened accepts).refused _ before
  have unpacks : taken.UnpacksWithin 131072 upstream (List.replicate 31 5) .beyond :=
    unpacksWithin_runs rfl (by decide) (by decide) (by decide)
  have whole := (reads reader upstream (List.replicate 40 20) readerOpened served (by decide)
    (by decide)).reads _ _ unpacks
  obtain ⟨last, ends⟩ := Option.ne_none_iff_exists'.mp (whole.ends (by decide))
  obtain ⟨delivered, answers⟩ := whole.whole last ends
  cases answers with
  | beyond wanted =>
      exact ⟨opened, refused, received, readerOpened, ⟨wanted, ends⟩, delivered,
        (buffers {} {} taken).2 source [.reset source] rfl⟩

end MemberStream
