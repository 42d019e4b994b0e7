import MemberStream.Proofs.Codec.RoundTrip
import MemberStream.Proofs.Engine.Member
import MemberStream.Proofs.Transport.Accepting
import MemberStream.Proofs.Writer.Frame
import MemberStream.Proofs.Writer.Segments
import MemberStream.Proofs.Writer.Yielding

namespace MemberStream

/-!
# Packing member by member

A writer on a member engine puts what is submitted to it into its sink piece by
piece, each as one member, whatever the lengths of its output buffer are: a
member that does not fit is parked until the buffer has grown.  Submission stops
at a piece whose member there cannot be room for, and at one that is refused.
-/

variable {encoders : Encoders}

namespace Writer

variable {σ : Type}

/-- A writer whose session compresses into a sink that accepts everything. -/
structure Compresses
    [Sink σ]
    (parameters : ParameterSet)
    (writer : Writer (RecordedSink σ) (MemberEngine encoders)) :
    Prop where
  failure : writer.failure = none
  session : writer.engine.session = some parameters
  allowed : parameters.direction.allows .compress = true
  limit : writer.growth.limit = parameters.maxBufferLength
  increment : 0 < writer.growth.increment
  /-- The output buffer stays below the ceiling. -/
  bounded : ∀ limit, parameters.maxBufferLength = some limit → writer.outputLength ≤ limit
  accepts : Sink.Accepts writer.sink

/-- What is parked is the first member of what is left of some input. -/
def ParksFor
    (parameters : ParameterSet)
    (input : Bytes)
    (writer : Writer (RecordedSink σ) (MemberEngine encoders)) :
    Prop :=
  ∀ parked,
    writer.engine.parked = some parked →
      input ≠ [] ∧ MemberEngine.encodeFront encoders parameters input = .ok parked

/-- The sink, the checksum and the counters of a writer that has packed some content. -/
structure Accounts
    (before content stream : Bytes)
    (writer : Writer (RecordedSink σ) (MemberEngine encoders)) :
    Prop where
  received : writer.sink.received = before ++ stream
  crc : writer.crc = Crc32.empty.update content
  bytesIn : writer.counters.bytesIn = UInt64.ofNat content.length
  bytesOut : writer.counters.bytesOut = UInt64.ofNat stream.length
  wroteOutput : writer.wroteOutput = !content.isEmpty
  blank : content = [] → stream = []

/-- A mark changes neither the session nor what is parked. -/
theorem markedEngine_eq
    (writer : Writer (RecordedSink σ) (MemberEngine encoders)) :
    writer.markedEngine.session = writer.engine.session ∧
      writer.markedEngine.parked = writer.engine.parked := by
  unfold markedEngine
  split
  · exact ⟨rfl, rfl⟩
  · exact ⟨rfl, rfl⟩

/-- An engine call with input comes to new work on the input. -/
theorem compress_eq_fresh
    [Sink σ]
    {parameters : ParameterSet}
    {writer : Writer (RecordedSink σ) (MemberEngine encoders)}
    {input : Bytes}
    (compresses : writer.Compresses parameters)
    (parks : writer.ParksFor parameters input)
    (some : input ≠ []) :
    EngineCalls.compress writer.markedEngine input writer.outputLength =
      writer.markedEngine.fresh (MemberEngine.encodeFront encoders parameters input)
        writer.outputLength := by
  obtain ⟨session, parked⟩ := writer.markedEngine_eq
  refine MemberEngine.call_eq_fresh (session.trans compresses.session) compresses.allowed some ?_ _
  intro found same
  rw [parked] at same
  exact (parks found same).2

/-- A step over a piece accounts for the piece and for its member. -/
theorem accounts_accept
    {before content stream piece member input : Bytes}
    {writer : Writer (RecordedSink σ) (MemberEngine encoders)}
    (accounts : writer.Accounts before content stream)
    (some : piece ≠ [])
    (front : input.take piece.length = piece)
    (scope : Scope)
    (offset : Nat)
    (engine : MemberEngine encoders)
    {received : RecordedSink σ}
    (arrived : received.received = writer.sink.received ++ member) :
    ({ ({ writer with engine := engine } : Writer (RecordedSink σ) (MemberEngine encoders)).accept
          scope ⟨piece.length, member.length⟩ offset input with sink := received } :
        Writer (RecordedSink σ) (MemberEngine encoders)).Accounts before (content ++ piece)
      (stream ++ member) where
  received := by
    rw [arrived, accounts.received, List.append_assoc]
  crc := by
    change writer.crc.update (input.take piece.length) = _
    rw [front, accounts.crc, Crc32.update_append]
  bytesIn := by
    change writer.counters.bytesIn + UInt64.ofNat piece.length = _
    rw [accounts.bytesIn, List.length_append, UInt64.ofNat_add]
  bytesOut := by
    change writer.counters.bytesOut + UInt64.ofNat member.length = _
    rw [accounts.bytesOut, List.length_append, UInt64.ofNat_add]
  wroteOutput := by
    change true = _
    rw [List.isEmpty_eq_false_iff.mpr (List.append_ne_nil_of_right_ne_nil content some)]
    rfl
  blank := by
    intro nothing
    exact absurd (List.append_eq_nil_iff.mp nothing).2 some

/-- Everything that a call over some input can be answered with. -/
inductive Answered
    (parameters : ParameterSet)
    (writer : Writer (RecordedSink σ) (MemberEngine encoders))
    (input : Bytes) :
    Reply × MemberEngine encoders →
    Prop where
  /-- The member of the first piece is handed over. -/
  | handed
      {member : Bytes}
      (encoded : parameters.encodeMember encoders (input.take parameters.chunkLength) = .ok member)
      (fits : member.length ≤ writer.outputLength) :
      Answered parameters writer input
        (⟨.ok ⟨(input.take parameters.chunkLength).length, member.length⟩, member⟩,
          { writer.markedEngine with parked := none })
  /-- It is parked for want of room. -/
  | parked
      {member : Bytes}
      (encoded : parameters.encodeMember encoders (input.take parameters.chunkLength) = .ok member)
      (beyond : writer.outputLength < member.length) :
      Answered parameters writer input
        (⟨.error .insufficientBuffer, []⟩,
          { writer.markedEngine with
            parked := some
              ⟨.compress, input.length, (input.take parameters.chunkLength).length, member⟩ })
  | failed
      {error : CodecError}
      {cause : StreamError}
      (fails : parameters.encodeMember encoders (input.take parameters.chunkLength) = .error error)
      (causes : error.toStreamError = cause) :
      Answered parameters writer input
        (⟨.error cause, []⟩, { writer.markedEngine with parked := none })

/-- A call that asks for room has parked the member of the first piece, which is too long. -/
theorem parked_of_answered
    {parameters : ParameterSet}
    {writer : Writer (RecordedSink σ) (MemberEngine encoders)}
    {input filled : Bytes}
    {engine : MemberEngine encoders}
    (answered :
      Answered parameters writer input (⟨.error .insufficientBuffer, filled⟩, engine)) :
    ∃ member,
      parameters.encodeMember encoders (input.take parameters.chunkLength) = .ok member ∧
        writer.outputLength < member.length ∧
        engine =
          { writer.markedEngine with
            parked := some
              ⟨.compress, input.length, (input.take parameters.chunkLength).length, member⟩ } := by
  cases answered with
  | @parked member encoded beyond =>
      exact ⟨member, encoded, beyond, rfl⟩
  | failed fails causes =>
      exact absurd causes (CodecError.toStreamError_ne_insufficientBuffer _)

theorem rejects_of_full
    {parameters : ParameterSet}
    {writer : Writer (RecordedSink σ) (MemberEngine encoders)}
    {input filled : Bytes}
    {engine : MemberEngine encoders}
    (answered :
      Answered parameters writer input (⟨.error .insufficientBuffer, filled⟩, engine))
    (full : parameters.ceiling ≤ writer.outputLength)
    (wanted : Nat) :
    parameters.Rejects encoders (input.take parameters.chunkLength)
      (.bufferLimitExceeded wanted parameters.ceiling) := by
  obtain ⟨member, encoded, beyond, -⟩ := parked_of_answered answered
  exact .room encoded (Nat.lt_of_le_of_lt full beyond)

variable [Sink σ]

/-- A call over some input is answered with one of the cases. -/
theorem answered_of_compress
    {parameters : ParameterSet}
    {writer : Writer (RecordedSink σ) (MemberEngine encoders)}
    {input : Bytes}
    (compresses : writer.Compresses parameters)
    (parks : writer.ParksFor parameters input)
    (some : input ≠ []) :
    Answered parameters writer input
      (EngineCalls.compress writer.markedEngine input writer.outputLength) := by
  have outcome := MemberEngine.fresh_cases writer.markedEngine
    (MemberEngine.encodeFront encoders parameters input) writer.outputLength
  rw [← compress_eq_fresh compresses parks some] at outcome
  generalize EngineCalls.compress writer.markedEngine input writer.outputLength = answer
    at outcome ⊢
  unfold MemberEngine.encodeFront at outcome
  dsimp only at outcome
  cases encoded : parameters.encodeMember encoders (input.take parameters.chunkLength) with
  | ok member =>
      rw [encoded] at outcome
      cases outcome with
      | handed works fits =>
          cases works
          exact .handed encoded fits
      | parked works beyond =>
          cases works
          exact .parked encoded beyond
      | failed fails =>
          cases fails
  | error error =>
      rw [encoded] at outcome
      cases outcome with
      | handed works fits =>
          cases works
      | parked works beyond =>
          cases works
      | failed fails =>
          cases fails
          exact .failed encoded rfl

/-- A buffer that fills the address space is as long as may be. -/
theorem Compresses.ceiling_of_saturated
    {parameters : ParameterSet}
    {writer : Writer (RecordedSink σ) (MemberEngine encoders)}
    (compresses : writer.Compresses parameters)
    (full : maxLength ≤ writer.outputLength) :
    parameters.ceiling = maxLength := by
  rw [ParameterSet.ceiling, Nat.min_eq_right]
  cases limited : parameters.maxBufferLength with
  | none =>
      exact Nat.le_refl _
  | some limit =>
      exact Nat.le_trans full (compresses.bounded limit limited)

/-- A step over a piece that the sink has taken is accounted for. -/
theorem accounts_of_settle
    {parameters : ParameterSet}
    {writer settled : Writer (RecordedSink σ) (MemberEngine encoders)}
    {engine : MemberEngine encoders}
    {scope : Scope}
    {offset : Nat}
    {before content stream piece member input : Bytes}
    (compresses : writer.Compresses parameters)
    (accounts : writer.Accounts before content stream)
    (some : piece ≠ [])
    (front : input.take piece.length = piece)
    (settles :
      ({ writer with engine := engine } : Writer (RecordedSink σ) (MemberEngine encoders)).settle
          scope ⟨piece.length, member.length⟩ member offset input =
        (.ok (), settled))
    (session : engine.session = Option.some parameters) :
    settled.Compresses parameters ∧ settled.engine = engine ∧
      settled.Accounts before (content ++ piece) (stream ++ member) := by
  rcases settle_ok settles with ⟨silent, rfl⟩ | ⟨sink, written, rfl⟩
  · have arrived : writer.sink.received = writer.sink.received ++ member := by
      rw [List.length_eq_zero_iff.mp silent, List.append_nil]
    obtain ⟨received, crc, bytesIn, bytesOut, wroteOutput, blank⟩ :=
      accounts_accept accounts some front scope offset engine arrived
    refine ⟨?_, rfl, received, crc, bytesIn, bytesOut, wroteOutput, blank⟩
    exact ⟨compresses.failure, session, compresses.allowed, compresses.limit,
      compresses.increment, compresses.bounded, compresses.accepts⟩
  · obtain ⟨-, accepts⟩ := Sink.accepts_of_writeAll compresses.accepts member
    rw [show Sink.writeAll writer.sink member = (.ok (), sink) from written] at accepts
    obtain ⟨received, crc, bytesIn, bytesOut, wroteOutput, blank⟩ :=
      accounts_accept accounts some front scope offset engine
        (RecordedSink.received_of_writeAll_ok written)
    refine ⟨?_, rfl, received, crc, bytesIn, bytesOut, wroteOutput, blank⟩
    exact ⟨compresses.failure, session, compresses.allowed, compresses.limit,
      compresses.increment, compresses.bounded, accepts⟩

/-- A round over some input packs its first piece, or makes room for the member of it. -/
theorem packs_of_advance
    {parameters : ParameterSet}
    {writer next : Writer (RecordedSink σ) (MemberEngine encoders)}
    {scope : Scope}
    {offset count : Nat}
    {before content stream input : Bytes}
    (compresses : writer.Compresses parameters)
    (parks : writer.ParksFor parameters input)
    (accounts : writer.Accounts before content stream)
    (some : input ≠ [])
    (advance : Advance writer scope offset input next count) :
    next.Compresses parameters ∧
      ((count = 0 ∧ next.ParksFor parameters input ∧ next.Accounts before content stream) ∨
        ∃ member,
          parameters.PacksWithin encoders [input.take parameters.chunkLength] member ∧
            count = (input.take parameters.chunkLength).length ∧
            next.engine.parked = none ∧
            next.Accounts before (content ++ input.take parameters.chunkLength)
              (stream ++ member)) := by
  have session := writer.markedEngine_eq.1.trans compresses.session
  have answered := answered_of_compress compresses parks some
  cases advance with
  | @step step member engine settled answer within busy settles =>
      rw [answer] at answered
      cases answered with
      | handed encoded fits =>
          have piece : input.take parameters.chunkLength ≠ [] := by
            intro empty
            rcases List.take_eq_nil_iff.mp empty with zero | none
            · exact Nat.ne_of_gt parameters.chunkLength_pos zero
            · exact some none
          have taken : input.take (input.take parameters.chunkLength).length =
              input.take parameters.chunkLength := by
            rw [List.length_take, ← List.take_take, List.take_length]
          have packs : parameters.PacksWithin encoders [input.take parameters.chunkLength] member :=
            ParameterSet.packsWithin_single encoded fun limit same =>
              Nat.le_trans fits (compresses.bounded limit same)
          rw [Reply.front_of_length _ _ rfl] at settles
          obtain ⟨compresses, engine, accounts⟩ :=
            accounts_of_settle compresses accounts piece taken settles session
          refine ⟨compresses, .inr ⟨member, packs, rfl, ?_, accounts⟩⟩
          rw [engine]
  | grow answer grown larger =>
      rw [answer] at answered
      have growth := GrowthPolicy.nextOutputLength_cases compresses.increment input.length
        writer.outputLength
      rw [grown] at growth
      cases growth with
      | enlarged limit increment bounded _ =>
          rw [compresses.limit] at limit bounded
          obtain ⟨member, encoded, -, rfl⟩ := parked_of_answered answered
          refine ⟨⟨compresses.failure, session, compresses.allowed, limit, increment, bounded,
            compresses.accepts⟩, .inl ⟨rfl, ?_, ?_⟩⟩
          · intro parked same
            cases same
            refine ⟨some, ?_⟩
            unfold MemberEngine.encodeFront
            dsimp only
            rw [encoded]
          · exact ⟨accounts.received, accounts.crc, accounts.bytesIn, accounts.bytesOut,
              accounts.wroteOutput, accounts.blank⟩

/-- A round over some input fails only if its first piece is rejected, and puts nothing out. -/
theorem rejects_of_halt
    {parameters : ParameterSet}
    {writer failed : Writer (RecordedSink σ) (MemberEngine encoders)}
    {scope : Scope}
    {offset : Nat}
    {input : Bytes}
    {error : StreamError}
    (compresses : writer.Compresses parameters)
    (parks : writer.ParksFor parameters input)
    (some : input ≠ [])
    (halt : Halt writer scope offset input error failed) :
    parameters.Rejects encoders (input.take parameters.chunkLength) error ∧
      failed.sink.received = writer.sink.received := by
  have answered := answered_of_compress compresses parks some
  have growth := GrowthPolicy.nextOutputLength_cases compresses.increment input.length
    writer.outputLength
  cases halt with
  | overreport answer beyond =>
      rw [answer] at answered
      cases answered with
      | handed encoded fits =>
          simp only [Step.exceeds, List.length_take, Bool.or_eq_true, decide_eq_true_eq] at beyond
          omega
  | idle answer within idle =>
      rw [answer] at answered
      cases answered with
      | handed encoded fits =>
          have positive := List.length_pos_iff.mpr some
          have chunk := parameters.chunkLength_pos
          simp only [Step.isIdle, List.length_take, Bool.and_eq_true, beq_iff_eq] at idle
          omega
  | sink answer within busy settles =>
      obtain ⟨cause, sink, failed, -, -⟩ := settle_error settles
      obtain ⟨written, -⟩ := Sink.accepts_of_writeAll compresses.accepts _
      rw [show Sink.writeAll writer.sink _ = (.error cause, sink) from failed] at written
      cases written
  | limit answer refused =>
      rw [answer] at answered
      rw [refused] at growth
      cases growth with
      | refused ceiling reached word =>
          rw [compresses.limit] at ceiling
          rw [← ParameterSet.ceiling_of_limited ceiling (Nat.le_of_lt word)] at reached ⊢
          exact ⟨rejects_of_full answered reached _, rfl⟩
  | saturated answer grown stuck =>
      rw [answer] at answered
      rw [grown] at growth
      cases growth with
      | enlarged limit increment within larger =>
          have full : maxLength ≤ writer.outputLength :=
            Nat.le_of_not_lt (fun below => stuck (larger below))
          have ceiling := compresses.ceiling_of_saturated full
          rw [← ceiling] at full ⊢
          exact ⟨rejects_of_full answered full _, rfl⟩
  | engine answer terminal =>
      rw [answer] at answered
      cases answered with
      | parked encoded beyond =>
          exact absurd rfl terminal
      | failed fails causes =>
          rw [← causes]
          exact ⟨.codec fails, rfl⟩

/-- A writer that has packed some content and stands ready for more. -/
structure Stands
    (parameters : ParameterSet)
    (before content stream : Bytes)
    (writer : Writer (RecordedSink σ) (MemberEngine encoders)) :
    Prop where
  compresses : writer.Compresses parameters
  parked : writer.engine.parked = none
  accounts : writer.Accounts before content stream

/-- A submission packs the pieces of its input, and then it has consumed all of it. -/
theorem yields_of_submit
    {parameters : ParameterSet}
    {writer : Writer (RecordedSink σ) (MemberEngine encoders)}
    {before content stream : Bytes}
    (stands : writer.Stands parameters before content stream)
    (scope : Scope)
    (offset : Nat)
    (input : Bytes) :
    Yields parameters (before ++ stream) (pieces parameters.chunkLength input)
      (offset + input.length)
      (fun more next => next.Stands parameters before (content ++ input) (stream ++ more))
      (writer.submit scope offset input) := by
  have parks : writer.ParksFor parameters input := by
    intro parked same
    rw [stands.parked] at same
    cases same
  -- Over the rounds: the content and the stream so far vary, and growing the buffer leaves a member
  -- parked for the same input.
  refine submit_induction (motive := fun writer offset input outcome =>
      ∀ content stream,
        writer.Compresses parameters →
          writer.ParksFor parameters input →
            writer.Accounts before content stream →
              Yields parameters (before ++ stream) (pieces parameters.chunkLength input)
                (offset + input.length)
                (fun more next =>
                  next.Stands parameters before (content ++ input) (stream ++ more))
                outcome)
    ?finish ?advance ?halt writer offset input content stream stands.compresses parks
    stands.accounts
  case finish =>
    intro writer offset content stream compresses parks accounts
    rw [pieces_nil]
    refine .packed parameters.packsWithin_nil ?_
    rw [List.append_nil, List.append_nil]
    refine ⟨compresses, ?_, accounts⟩
    cases parked : writer.engine.parked with
    | none =>
        rfl
    | some found =>
        exact absurd rfl (parks found parked).1
  case advance =>
    intro writer next offset count input outcome some advance later content stream
      compresses parks accounts
    obtain ⟨compresses, ⟨rfl, parks, accounts⟩ | ⟨member, packs, rfl, parked, accounts⟩⟩ :=
      packs_of_advance compresses parks accounts some advance
    · exact later content stream compresses parks accounts
    · have parks : next.ParksFor parameters
          (input.drop (input.take parameters.chunkLength).length) := by
        intro found same
        rw [parked] at same
        cases same
      have gap : input.drop (input.take parameters.chunkLength).length =
          input.drop parameters.chunkLength := by
        rw [List.length_take]
        rcases Nat.le_total parameters.chunkLength input.length with enough | less
        · rw [Nat.min_eq_left enough]
        · rw [Nat.min_eq_right less, List.drop_of_length_le less, List.drop_length]
      have yields := later _ _ compresses parks accounts
      rw [gap, Nat.add_assoc, ← List.length_append, List.take_append_drop] at yields
      rw [pieces_of_nonempty parameters.chunkLength_pos some]
      refine Yields.behind packs ?_
      simpa only [List.append_assoc, List.take_append_drop] using yields
  case halt =>
    intro writer failed offset input error some halt content stream compresses parks accounts
    obtain ⟨rejects, kept⟩ := rejects_of_halt compresses parks some halt
    rw [pieces_of_nonempty parameters.chunkLength_pos some]
    refine .stopped (.here (List.nil_append _).symm parameters.packsWithin_nil rejects ?_)
    rw [kept, accounts.received, List.append_nil]

end Writer

end MemberStream
