import MemberStream.Proofs.Codec.Unpack
import MemberStream.Proofs.Engine.Member
import MemberStream.Proofs.Reader.Filling

namespace MemberStream

/-!
# Unpacking member by member

A reader on a member engine owes its caller what is in the window and what the
unread input holds.  No round changes that but by delivering bytes, whatever the
lengths of its buffers are: the input is filled whole, a member that does not
fit is parked until the output buffer has grown, and a member without content
leaves the window empty.
-/

variable {encoders : Encoders}

namespace ParameterSet

/-- What is left of a stream behind some of its members. -/
inductive Reaches
    (parameters : ParameterSet)
    (stream : Bytes) :
    Bytes →
    Prop where
  | front :
      Reaches parameters stream stream
  | behind
      {rest content : Bytes}
      {length : Nat}
      (reaches : Reaches parameters stream rest)
      (decoded : parameters.decodeMember rest = .ok (length, content)) :
      Reaches parameters stream (rest.drop length)

/-- No member that some contents may come from is longer than a buffer can be. -/
def Roomy
    (parameters : ParameterSet)
    (stream contents : Bytes) :
    Prop :=
  ∀ (rest content : Bytes) (length : Nat),
    parameters.Reaches stream rest →
      parameters.decodeMember rest = .ok (length, content) →
        content.length ≤ contents.length →
          content.length ≤ maxLength

theorem Roomy.of_le
    {parameters : ParameterSet}
    {stream contents fewer : Bytes}
    (roomy : parameters.Roomy stream contents)
    (shorter : fewer.length ≤ contents.length) :
    parameters.Roomy stream fewer := by
  intro rest content length reaches decoded within
  exact roomy rest content length reaches decoded (Nat.le_trans within shorter)

/-- There is room for contents that are short as a whole. -/
theorem roomy_of_short
    (parameters : ParameterSet)
    (stream : Bytes)
    {contents : Bytes}
    (short : contents.length < 2 ^ (63 : Nat)) :
    parameters.Roomy stream contents := by
  intro rest content length reaches decoded within
  simp only [maxLength]
  omega

end ParameterSet

namespace Reader

variable {σ : Type}

/-- A reader whose session decompresses without a ceiling. -/
structure Decompresses
    (parameters : ParameterSet)
    (reader : Reader σ (MemberEngine encoders)) :
    Prop where
  phase : reader.phase = .active
  failure : reader.failure = none
  session : reader.engine.session = some parameters
  allowed : parameters.direction.allows .decompress = true
  unlimited : reader.growth.limit = none
  increment : 0 < reader.growth.increment

/-- What a reader has still to deliver: some content and, behind it, maybe a failure. -/
inductive Owes
    [Source σ]
    (parameters : ParameterSet)
    (upstream contents : Bytes)
    (ending : Option StreamError)
    (reader : Reader σ (MemberEngine encoders)) :
    Prop where
  /-- Nothing has been read, so it is all that the source serves. -/
  | unread
      (unread : reader.Unread upstream)
      (empty : reader.window = [])
      (idle : reader.engine.parked = none)
      (owed : parameters.unpackStream upstream = (contents, ending))
  /-- It is the window and what the unread input holds. -/
  | filled
      (filled : reader.Filled upstream)
      (nonempty : upstream ≠ [])
      (reached : parameters.Reaches upstream reader.unread)
      (parked :
        ∀ parked,
          reader.engine.parked = some parked →
            MemberEngine.decodeFront parameters reader.unread = .ok parked)
      (content : contents = reader.window ++ (parameters.unpack reader.unread).1)
      (failure : ending = (parameters.unpack reader.unread).2.map CodecError.toStreamError)

/-- The checksum and the counters of a reader that has delivered some bytes. -/
structure Accounts
    (delivered : Bytes)
    (reader : Reader σ (MemberEngine encoders)) :
    Prop where
  crc : reader.crc = Crc32.empty.update delivered
  bytesIn : reader.counters.bytesIn = UInt64.ofNat reader.inputOffset
  bytesOut :
    reader.counters.bytesOut = UInt64.ofNat (delivered.length + reader.window.length)

/-- A reader that has delivered some bytes and owes some more. -/
structure Underway
    [Source σ]
    (parameters : ParameterSet)
    (upstream delivered contents : Bytes)
    (ending : Option StreamError)
    (reader : Reader σ (MemberEngine encoders)) :
    Prop where
  decompresses : reader.Decompresses parameters
  owes : reader.Owes parameters upstream contents ending
  accounts : reader.Accounts delivered

/-- What a round may come to on a reader that has delivered some bytes and owes some more. -/
def Round.Pays
    [Source σ]
    (parameters : ParameterSet)
    (upstream delivered contents : Bytes)
    (ending : Option StreamError) :
    Round σ (MemberEngine encoders) →
    Prop
  | .took bytes next =>
      ∃ left,
        contents = bytes ++ left ∧
          next.Underway parameters upstream (delivered ++ bytes) left ending
  | .moved next =>
      next.Underway parameters upstream delivered contents ending
  | .ended last =>
      contents = [] ∧ ending = none ∧
        last.Underway parameters upstream delivered contents ending ∧
        last.inputOffset = upstream.length
  | .failed error last =>
      contents = [] ∧ ending = some error ∧ last.Accounts delivered

theorem decompress_eq_fresh
    {parameters : ParameterSet}
    {reader : Reader σ (MemberEngine encoders)}
    (decompresses : reader.Decompresses parameters)
    (some : reader.unread ≠ [])
    (parked :
      ∀ parked,
        reader.engine.parked = .some parked →
          MemberEngine.decodeFront parameters reader.unread = .ok parked) :
    EngineCalls.decompress reader.engine reader.unread reader.outputLength =
      reader.engine.fresh (MemberEngine.decodeFront parameters reader.unread)
        reader.outputLength :=
  MemberEngine.call_eq_fresh decompresses.session decompresses.allowed some parked _

/-- A window that holds bytes is drained, and the rest is still owed. -/
theorem pays_of_drain
    [Source σ]
    {parameters : ParameterSet}
    {upstream delivered contents : Bytes}
    {ending : Option StreamError}
    {reader : Reader σ (MemberEngine encoders)}
    (underway : reader.Underway parameters upstream delivered contents ending)
    (some : 0 < reader.outputLeft)
    (wanted : Nat) :
    Round.Pays parameters upstream delivered contents ending
      (.took (reader.drain wanted).1 (reader.drain wanted).2) := by
  obtain ⟨⟨phase, failure, session, allowed, unlimited, increment⟩, owes, accounts⟩ := underway
  have whole : (reader.drain wanted).1 ++ (reader.drain wanted).2.window = reader.window := by
    simp only [drain, List.splitAt_eq]
    exact List.take_append_drop _ _
  have split := congrArg List.length whole
  rw [List.length_append] at split
  cases owes with
  | unread unread empty idle owed =>
      rw [reader.windowed, empty] at some
      exact absurd some (Nat.lt_irrefl 0)
  | filled filled nonempty reached parked content ending =>
      refine ⟨(reader.drain wanted).2.window ++ (parameters.unpack reader.unread).1, ?_, ?_⟩
      · rw [content, ← List.append_assoc, whole]
      · refine ⟨⟨phase, failure, session, allowed, unlimited, increment⟩, ?_, ?_⟩
        · obtain ⟨unread, offset, inputRead, sourceTotal, sourceDone⟩ := filled
          exact .filled ⟨unread, offset, inputRead, sourceTotal, sourceDone⟩ nonempty reached
            parked rfl ending
        · refine ⟨?_, accounts.bytesIn, ?_⟩
          · change reader.crc.update (reader.drain wanted).1 = _
            rw [accounts.crc, Crc32.update_append]
          · change reader.counters.bytesOut = _
            rw [accounts.bytesOut, List.length_append, Nat.add_assoc, split]

/-- A step over the front of the unread input accounts for what it consumed and produced. -/
theorem accounts_accept
    {delivered : Bytes}
    {reader : Reader σ (MemberEngine encoders)}
    (accounts : reader.Accounts delivered)
    (empty : reader.window = [])
    (scope : Scope)
    (step : Step)
    (reply : Reply) :
    (reader.accept scope step reply).Accounts delivered where
  crc := accounts.crc
  bytesIn := by
    change reader.counters.bytesIn + UInt64.ofNat step.consumed =
      UInt64.ofNat (reader.inputOffset + step.consumed)
    rw [accounts.bytesIn, UInt64.ofNat_add]
  bytesOut := by
    change reader.counters.bytesOut + UInt64.ofNat step.produced =
      UInt64.ofNat (delivered.length + (reply.front step.produced).length)
    rw [accounts.bytesOut, empty, reply.length_front, List.length_nil, Nat.add_zero,
      UInt64.ofNat_add]

section Advance

variable {ε : Type} [EngineCalls ε]

/-- A step within what was offered, and not idle, moves a reader on. -/
theorem advance_of_step
    {reader : Reader σ ε}
    {step : Step}
    {bytes : Bytes}
    {engine : ε}
    (scope : Scope)
    (wanted : Nat)
    (answer :
      EngineCalls.decompress reader.engine reader.unread reader.outputLength =
        (⟨.ok step, bytes⟩, engine))
    (within :
      step.exceeds (reader.inputRead - reader.inputOffset) reader.outputLength = false)
    (busy : step.isIdle = false) :
    reader.advance scope wanted =
      .moved (({ reader with engine := engine } : Reader σ ε).accept scope step
        ⟨.ok step, bytes⟩) := by
  unfold advance
  rw [answer]
  dsimp only
  rw [within, busy]
  rfl

/-- An output buffer that was too small and has grown moves a reader on. -/
theorem advance_of_growth
    {reader : Reader σ ε}
    {bytes : Bytes}
    {engine : ε}
    {length : Nat}
    {growth : GrowthPolicy}
    (scope : Scope)
    {wanted : Nat}
    (answer :
      EngineCalls.decompress reader.engine reader.unread reader.outputLength =
        (⟨.error .insufficientBuffer, bytes⟩, engine))
    (grown :
      reader.growth.nextOutputLength wanted reader.outputLength = (.ok length, growth))
    (larger : reader.outputLength < length) :
    reader.advance scope wanted =
      .moved
        { ({ reader with engine := engine, growth := growth } : Reader σ ε).report scope
              (.outputExpanded reader.outputLength length) with
          outputLength := length } := by
  unfold advance
  rw [answer]
  dsimp only
  rw [grown]
  dsimp only
  rw [if_pos larger]

/-- Any other failure of the engine is the reader's. -/
theorem advance_of_failure
    {reader : Reader σ ε}
    {bytes : Bytes}
    {engine : ε}
    {error : StreamError}
    (scope : Scope)
    (wanted : Nat)
    (answer :
      EngineCalls.decompress reader.engine reader.unread reader.outputLength =
        (⟨.error error, bytes⟩, engine))
    (terminal : error ≠ .insufficientBuffer) :
    reader.advance scope wanted = .failed error { reader with engine := engine } := by
  unfold advance
  rw [answer]
  split
  · rename_i same
    cases same
  · rename_i same
    cases same
    exact absurd rfl terminal
  · rename_i same
    cases same
    rfl

end Advance

/-- A reader with its input filled and its window empty, and what it has delivered. -/
structure Walks
    (parameters : ParameterSet)
    (upstream delivered : Bytes)
    (reader : Reader σ (MemberEngine encoders)) :
    Prop where
  decompresses : reader.Decompresses parameters
  filled : reader.Filled upstream
  nonempty : upstream ≠ []
  reached : parameters.Reaches upstream reader.unread
  parked :
    ∀ parked,
      reader.engine.parked = some parked →
        MemberEngine.decodeFront parameters reader.unread = .ok parked
  accounts : reader.Accounts delivered
  empty : reader.window = []

/-- A member that is handed out moves a reader on. -/
theorem advance_of_handed
    {parameters : ParameterSet}
    {upstream content : Bytes}
    {length : Nat}
    {engine : MemberEngine encoders}
    {reader : Reader σ (MemberEngine encoders)}
    (filled : reader.Filled upstream)
    (front : parameters.decodeMember reader.unread = .ok (length, content))
    (fits : content.length ≤ reader.outputLength)
    (answer :
      EngineCalls.decompress reader.engine reader.unread reader.outputLength =
        (⟨.ok ⟨length, content.length⟩, content⟩, engine))
    (scope : Scope)
    (wanted : Nat) :
    reader.advance scope wanted =
      .moved (({ reader with engine := engine } : Reader σ (MemberEngine encoders)).accept scope
        ⟨length, content.length⟩ ⟨.ok ⟨length, content.length⟩, content⟩) := by
  obtain ⟨some, enough⟩ := ParameterSet.decodeMember_bounds front
  have available := filled.available
  have within :
      Step.exceeds ⟨length, content.length⟩ (reader.inputRead - reader.inputOffset)
        reader.outputLength = false := by
    simp only [Step.exceeds, Bool.or_eq_false_iff, decide_eq_false_iff_not]
    omega
  have busy : Step.isIdle ⟨length, content.length⟩ = false := by
    simp only [Step.isIdle, Bool.and_eq_false_iff, beq_eq_false_iff_ne]
    omega
  exact advance_of_step scope wanted answer within busy

/-- Input that is filled stays so when the front of it has been used up. -/
theorem Filled.accept
    {upstream : Bytes}
    {step : Step}
    {reader : Reader σ (MemberEngine encoders)}
    (filled : reader.Filled upstream)
    (enough : step.consumed ≤ reader.unread.length)
    (engine : MemberEngine encoders)
    (scope : Scope)
    (reply : Reply) :
    (({ reader with engine := engine } : Reader σ (MemberEngine encoders)).accept scope step
      reply).Filled upstream := by
  refine ⟨?_, ?_, filled.inputRead, filled.sourceTotal, filled.sourceDone⟩
  · change reader.unread.drop step.consumed = upstream.drop (reader.inputOffset + step.consumed)
    rw [filled.unread, List.drop_drop]
  · change reader.inputOffset + step.consumed ≤ upstream.length
    rw [filled.unread, List.length_drop] at enough
    have offset := filled.offset
    omega

/-- A member that is handed out is in the window next, and no longer unread. -/
theorem underway_of_handed
    [Source σ]
    {parameters : ParameterSet}
    {upstream delivered content : Bytes}
    {length : Nat}
    {reader : Reader σ (MemberEngine encoders)}
    (walks : reader.Walks parameters upstream delivered)
    (more : reader.unread ≠ [])
    (front : parameters.decodeMember reader.unread = .ok (length, content))
    (fits : content.length ≤ reader.outputLength)
    (answer :
      EngineCalls.decompress reader.engine reader.unread reader.outputLength =
        (⟨.ok ⟨length, content.length⟩, content⟩, { reader.engine with parked := none }))
    (scope : Scope)
    (wanted : Nat) :
    Round.Pays parameters upstream delivered (parameters.unpack reader.unread).1
      ((parameters.unpack reader.unread).2.map CodecError.toStreamError)
      (reader.advance scope wanted) := by
  obtain ⟨⟨phase, failure, session, allowed, unlimited, increment⟩, filled, nonempty, reached,
    -, accounts, empty⟩ := walks
  obtain ⟨-, enough⟩ := ParameterSet.decodeMember_bounds front
  rw [advance_of_handed filled front fits answer, ParameterSet.unpack_ok more front]
  refine ⟨⟨phase, failure, session, allowed, unlimited, increment⟩, ?_, ?_⟩
  · refine .filled (filled.accept enough _ scope _) nonempty (.behind reached front) ?_ ?_ rfl
    · intro parked same
      cases same
    · change content ++ _ = Reply.front _ content.length ++ _
      rw [Reply.front_of_length _ _ rfl]
      rfl
  · let called : Reader σ (MemberEngine encoders) :=
      { reader with engine := { reader.engine with parked := none } }
    have still : called.Accounts delivered :=
      ⟨accounts.crc, accounts.bytesIn, accounts.bytesOut⟩
    exact accounts_accept still empty scope _ _

/-- A member that does not fit is parked, and the output buffer grows. -/
theorem underway_of_parked
    [Source σ]
    {parameters : ParameterSet}
    {upstream delivered : Bytes}
    {produced : ParkedMember}
    {reader : Reader σ (MemberEngine encoders)}
    (walks : reader.Walks parameters upstream delivered)
    (front : MemberEngine.decodeFront parameters reader.unread = .ok produced)
    (below : reader.outputLength < maxLength)
    (answer :
      EngineCalls.decompress reader.engine reader.unread reader.outputLength =
        (⟨.error .insufficientBuffer, []⟩, { reader.engine with parked := some produced }))
    (scope : Scope)
    (wanted : Nat) :
    Round.Pays parameters upstream delivered (parameters.unpack reader.unread).1
      ((parameters.unpack reader.unread).2.map CodecError.toStreamError)
      (reader.advance scope wanted) := by
  obtain ⟨⟨phase, failure, session, allowed, unlimited, increment⟩, filled, nonempty, reached,
    -, accounts, empty⟩ := walks
  obtain ⟨length, growth, grown, larger, unlimited, increment⟩ :=
    GrowthPolicy.nextOutputLength_of_unlimited unlimited increment wanted below
  rw [advance_of_growth scope answer grown larger]
  refine ⟨⟨phase, failure, session, allowed, unlimited, increment⟩, ?_, ?_⟩
  · obtain ⟨unread, offset, inputRead, sourceTotal, sourceDone⟩ := filled
    refine .filled ⟨unread, offset, inputRead, sourceTotal, sourceDone⟩ nonempty reached ?_ ?_ rfl
    · intro parked same
      cases same
      exact front
    · change _ = reader.window ++ (parameters.unpack reader.unread).1
      rw [empty]
      rfl
  · exact ⟨accounts.crc, accounts.bytesIn, accounts.bytesOut⟩

/-- With its window empty and some input unread a reader pays what it owes, member by member. -/
theorem pays_of_advance
    [Source σ]
    {parameters : ParameterSet}
    {upstream delivered : Bytes}
    {reader : Reader σ (MemberEngine encoders)}
    (walks : reader.Walks parameters upstream delivered)
    (more : reader.unread ≠ [])
    (roomy : parameters.Roomy upstream (parameters.unpack reader.unread).1)
    (scope : Scope)
    (wanted : Nat) :
    Round.Pays parameters upstream delivered (parameters.unpack reader.unread).1
      ((parameters.unpack reader.unread).2.map CodecError.toStreamError)
      (reader.advance scope wanted) := by
  have called := decompress_eq_fresh walks.decompresses more walks.parked
  have fresh := reader.engine.fresh_cases
    (MemberEngine.decodeFront parameters reader.unread) reader.outputLength
  cases front : parameters.decodeMember reader.unread with
  | error error =>
      have fails : MemberEngine.decodeFront parameters reader.unread =
          .error error.toStreamError := by
        rw [MemberEngine.decodeFront, front]
      rw [fails] at called
      rw [advance_of_failure scope wanted called error.toStreamError_ne_insufficientBuffer,
        ParameterSet.unpack_error more front]
      obtain ⟨crc, bytesIn, bytesOut⟩ := walks.accounts
      exact ⟨rfl, rfl, crc, bytesIn, bytesOut⟩
  | ok member =>
      obtain ⟨length, content⟩ := member
      have works : MemberEngine.decodeFront parameters reader.unread =
          .ok ⟨.decompress, reader.unread.length, length, content⟩ := by
        rw [MemberEngine.decodeFront, front]
      rw [works] at called fresh
      generalize answer :
        reader.engine.fresh (.ok ⟨.decompress, reader.unread.length, length, content⟩)
          reader.outputLength = reply at called fresh
      cases fresh with
      | handed same fits =>
          cases same
          exact underway_of_handed walks more front fits called scope wanted
      | parked same beyond =>
          cases same
          have whole := congrArg (fun held => held.1.length) (ParameterSet.unpack_ok more front)
          dsimp only at whole beyond
          rw [List.length_append] at whole
          have room := roomy reader.unread content length walks.reached front (by omega)
          exact underway_of_parked walks works (by omega) called scope wanted
      | failed same =>
          cases same

/-- A filled input that is exhausted has nothing left to give. -/
theorem pays_of_ended
    [Source σ]
    {parameters : ParameterSet}
    {upstream delivered : Bytes}
    {reader : Reader σ (MemberEngine encoders)}
    (walks : reader.Walks parameters upstream delivered)
    (exhausted : reader.unread = []) :
    Round.Pays parameters upstream delivered (parameters.unpack reader.unread).1
      ((parameters.unpack reader.unread).2.map CodecError.toStreamError)
      (.ended reader) := by
  have nothing := parameters.unpack_nil
  obtain ⟨decompresses, filled, nonempty, reached, parked, accounts, empty⟩ := walks
  have available := filled.available
  have offset := filled.offset
  rw [filled.inputRead, exhausted, List.length_nil] at available
  refine ⟨?_, ?_, ⟨decompresses, ?_, accounts⟩, by omega⟩
  · rw [exhausted, nothing]
  · rw [exhausted, nothing]
    rfl
  · refine .filled filled nonempty reached parked ?_ rfl
    rw [empty]
    rfl

/-- With its input filled and its window empty a reader pays what it owes. -/
theorem pays_of_walks
    [Source σ]
    {parameters : ParameterSet}
    {upstream delivered : Bytes}
    {reader : Reader σ (MemberEngine encoders)}
    (walks : reader.Walks parameters upstream delivered)
    (roomy : parameters.Roomy upstream (parameters.unpack reader.unread).1)
    (scope : Scope)
    (wanted : Nat) :
    Round.Pays parameters upstream delivered (parameters.unpack reader.unread).1
      ((parameters.unpack reader.unread).2.map CodecError.toStreamError)
      (if reader.inputExhausted then .ended reader else reader.advance scope wanted) := by
  by_cases exhausted : reader.inputExhausted = true
  · rw [if_pos exhausted]
    exact pays_of_ended walks (walks.filled.exhausted_iff.mp exhausted)
  · rw [if_neg exhausted]
    have more : reader.unread ≠ [] := fun nothing =>
      exhausted (walks.filled.exhausted_iff.mpr nothing)
    exact pays_of_advance walks more roomy scope wanted

/-- A reader decompresses on when only its input has changed. -/
theorem Decompresses.of_sameOutput
    {parameters : ParameterSet}
    {next reader : Reader σ (MemberEngine encoders)}
    (decompresses : reader.Decompresses parameters)
    (same : SameOutput next reader) :
    next.Decompresses parameters where
  phase := same.phase.trans decompresses.phase
  failure := same.failure.trans decompresses.failure
  session := by
    rw [same.engine]
    exact decompresses.session
  allowed := decompresses.allowed
  unlimited := by
    rw [same.growth]
    exact decompresses.unlimited
  increment := by
    rw [same.growth]
    exact decompresses.increment

/-- The accounts are as before when only the input has changed. -/
theorem Accounts.of_sameOutput
    {delivered : Bytes}
    {next reader : Reader σ (MemberEngine encoders)}
    (accounts : reader.Accounts delivered)
    (same : SameOutput next reader)
    (offset : next.inputOffset = reader.inputOffset) :
    next.Accounts delivered where
  crc := same.crc.trans accounts.crc
  bytesIn := by
    rw [same.counters, offset]
    exact accounts.bytesIn
  bytesOut := by
    rw [same.counters, same.window]
    exact accounts.bytesOut

/-- Every round pays what is owed. -/
theorem pays_of_round
    [Source σ]
    {parameters : ParameterSet}
    {upstream delivered contents : Bytes}
    {ending : Option StreamError}
    {reader : Reader σ (MemberEngine encoders)}
    (underway : reader.Underway parameters upstream delivered contents ending)
    (shortInput : upstream.length < 2 ^ (63 : Nat))
    (roomy : parameters.Roomy upstream contents)
    (scope : Scope)
    (wanted : Nat) :
    Round.Pays parameters upstream delivered contents ending (reader.round scope wanted) := by
  unfold round
  split
  · rename_i some
    exact pays_of_drain underway some wanted
  · rename_i drained
    have empty : reader.window = [] := by
      rw [reader.windowed] at drained
      exact List.length_eq_zero_iff.mp (by omega)
    obtain ⟨decompresses, owes, accounts⟩ := underway
    cases owes with
    | unread unread empty idle owed =>
        obtain ⟨filled, ensured, same, fills, offset⟩ :=
          ensureInput_of_unread scope unread (hasRoom_of_unlimited decompresses.unlimited _)
            (lt_maxLength_of_short shortInput)
        have accounts' := accounts.of_sameOutput same (offset.trans unread.inputOffset.symm)
        rw [ensured]
        by_cases nothing : upstream = []
        · rw [if_pos nothing]
          rw [ParameterSet.unpackStream, if_pos nothing] at owed
          cases owed
          exact ⟨rfl, rfl, accounts'⟩
        · rw [if_neg nothing]
          have whole : filled.unread = upstream := by
            rw [fills.unread, offset, List.drop_zero]
          rw [ParameterSet.unpackStream, if_neg nothing, ← whole] at owed
          cases owed
          have reached : parameters.Reaches upstream filled.unread := by
            rw [whole]
            exact .front
          refine pays_of_walks
            ⟨decompresses.of_sameOutput same, fills, nothing, reached, ?_, accounts', ?_⟩ roomy
            scope wanted
          · intro parked some
            rw [same.engine, idle] at some
            cases some
          · rw [same.window, empty]
    | filled fills nonempty reached parked content failure =>
        rw [empty, List.nil_append] at content
        subst content
        subst failure
        rw [ensureInput_of_filled scope fills nonempty]
        exact pays_of_walks ⟨decompresses, fills, nonempty, reached, parked, accounts, empty⟩ roomy
          scope wanted

end Reader

end MemberStream
