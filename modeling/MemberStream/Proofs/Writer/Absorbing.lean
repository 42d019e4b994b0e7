import Mathlib.Data.List.Chain
import MemberStream.Proofs.Writer.Marking
import MemberStream.Proofs.Writer.Renewal

namespace MemberStream

/-!
# An insufficient buffer is absorbed

When the engine finds the output buffer too small, a writer offers it the same
input again with a larger one, or fails for want of room.  What the engine said
is not passed on.
-/

/-- A compress call: what was offered, and what came of it. -/
structure Compression where
  input : Bytes
  capacity : Nat
  result : Except StreamError Step

namespace Compression

/-- Whether a call offers the input of an earlier one again, and more room, if that needed it. -/
def Regrows
    (later earlier : Compression) :
    Prop :=
  earlier.result = .error .insufficientBuffer →
    later.input = earlier.input ∧ earlier.capacity < later.capacity

end Compression

namespace EngineCall

/-- What a compress call offered and came to; all other calls are none. -/
def compression? : EngineCall → Option Compression
  | .compress input capacity reply =>
      some ⟨input, capacity, reply.result⟩
  | _ =>
      none

/-- The compress calls among some calls. -/
def compressions
    (calls : List EngineCall) :
    List Compression :=
  calls.filterMap compression?

/--
Whether every insufficient buffer among some calls, given newest first, was absorbed by the
next compress call, or was replaced by an exceeded limit in the error that the calls led to.
-/
structure Absorbed
    (calls : List EngineCall)
    (error : Option StreamError) :
    Prop where
  regrown : (compressions calls).IsChain Compression.Regrows
  replaced :
    ∀ compression,
      (compressions calls).head? = some compression →
        compression.result = .error .insufficientBuffer →
          ∃ wanted limit, error = some (.bufferLimitExceeded wanted limit)

namespace Absorbed

/-- Without a compress call there is nothing to absorb. -/
theorem of_quiet
    {calls : List EngineCall}
    (quiet : compressions calls = [])
    (error : Option StreamError) :
    Absorbed calls error where
  regrown := by
    rw [quiet]
    exact List.isChain_nil
  replaced compression first := by
    rw [quiet] at first
    cases first

/-- An insufficient buffer that came last is absorbed by the next call, if that regrows it. -/
theorem join
    {later earlier : List EngineCall}
    {error : Option StreamError}
    (after : Absorbed later error)
    (before : (compressions earlier).IsChain Compression.Regrows)
    (meets :
      ∀ compression,
        (compressions earlier).head? = some compression →
          compression.result = .error .insufficientBuffer →
            ∃ next,
              (compressions later).getLast? = some next ∧ next.Regrows compression) :
    Absorbed (later ++ earlier) error := by
  have parts : compressions (later ++ earlier) = compressions later ++ compressions earlier :=
    List.filterMap_append
  refine ⟨?_, ?_⟩
  · rw [parts]
    refine after.regrown.append before ?_
    intro next newest compression first insufficient
    obtain ⟨other, same, regrows⟩ := meets compression first insufficient
    rw [newest] at same
    cases same
    exact regrows insufficient
  · intro compression first insufficient
    rw [parts, List.head?_append] at first
    cases newest : (compressions later).head? with
    | none =>
        rw [newest] at first
        obtain ⟨next, last, -⟩ := meets compression first insufficient
        rw [List.head?_eq_none_iff.mp newest] at last
        cases last
    | some other =>
        rw [newest] at first
        cases first
        exact after.replaced compression newest insufficient

/-- What came to no error has left nothing to be absorbed by what follows. -/
theorem append
    {later earlier : List EngineCall}
    {error : Option StreamError}
    (after : Absorbed later error)
    (before : Absorbed earlier none) :
    Absorbed (later ++ earlier) error := by
  refine after.join before.regrown ?_
  intro compression first insufficient
  obtain ⟨wanted, limit, impossible⟩ := before.replaced compression first insufficient
  cases impossible

/-- Calls that are no compress calls leave everything absorbed. -/
theorem append_quiet
    {later earlier : List EngineCall}
    {error : Option StreamError}
    (quiet : compressions later = [])
    (before : Absorbed earlier error) :
    Absorbed (later ++ earlier) error := by
  have same : compressions (later ++ earlier) = compressions earlier := by
    unfold compressions at quiet ⊢
    rw [List.filterMap_append, quiet, List.nil_append]
  exact ⟨by rw [same]; exact before.regrown, by rw [same]; exact before.replaced⟩

end Absorbed

end EngineCall

namespace GrowthPolicy

/-- An output buffer may not grow for one reason only. -/
theorem eq_of_nextOutputLength_error
    {policy next : GrowthPolicy}
    {remaining current : Nat}
    {error : StreamError}
    (refused : policy.nextOutputLength remaining current = (.error error, next)) :
    ∃ wanted limit, error = .bufferLimitExceeded wanted limit := by
  simp only [nextOutputLength, Prod.mk.injEq] at refused
  obtain ⟨refused, -⟩ := refused
  have outcome :=
    policy.double.clamp_cases (policy.double.wantedOutputLength remaining current) current
  rw [refused] at outcome
  cases outcome with
  | refused ceiling beyond reached =>
      exact ⟨_, _, rfl⟩

end GrowthPolicy

namespace Writer

open EngineCall

variable {σ ε α : Type}

/-- Whether an outcome came of calls in which every insufficient buffer was absorbed. -/
def Absorbs
    (writer : Writer σ (RecordedEngine ε))
    (outcome : Except StreamError α × Writer σ (RecordedEngine ε)) :
    Prop :=
  ∃ more,
    outcome.2.engine.calls = more ++ writer.engine.calls ∧ Absorbed more (errorOf outcome.1)

/--
Whether a submission of some input absorbed every insufficient buffer, and offered all of
the input and the output buffer of before in its first compress call.
-/
def AbsorbedFrom
    (writer : Writer σ (RecordedEngine ε))
    (input : Bytes)
    (outcome : Except StreamError α × Writer σ (RecordedEngine ε)) :
    Prop :=
  ∃ more,
    outcome.2.engine.calls = more ++ writer.engine.calls ∧
      Absorbed more (errorOf outcome.1) ∧
      (input ≠ [] →
        ∃ oldest,
          (compressions more).getLast? = some oldest ∧
            oldest.input = input ∧ oldest.capacity = writer.outputLength)

/-- One round makes one compress call. -/
theorem compressions_of_markedEngine
    [EngineCalls ε]
    {writer : Writer σ (RecordedEngine ε)}
    {input : Bytes}
    {capacity : Nat}
    {reply : Reply}
    {engine : RecordedEngine ε}
    (answer : EngineCalls.compress writer.markedEngine input capacity = (reply, engine)) :
    ∃ more,
      engine.calls = more ++ writer.engine.calls ∧
        compressions more = [⟨input, capacity, reply.result⟩] := by
  have calls := calls_of_markedEngine answer
  rw [← List.cons_append] at calls
  refine ⟨_, calls, ?_⟩
  split <;> rfl

variable [Sink σ] [Engine ε]

/-- A round that halts on an insufficient buffer halts on an exceeded limit. -/
theorem exceeded_of_halt
    {writer failed : Writer σ ε}
    {scope : Scope}
    {offset : Nat}
    {input filled : Bytes}
    {error : StreamError}
    {engine : ε}
    (halt : Halt writer scope offset input error failed)
    (answer :
      EngineCalls.compress writer.markedEngine input writer.outputLength =
        (⟨.error .insufficientBuffer, filled⟩, engine)) :
    ∃ wanted limit, error = .bufferLimitExceeded wanted limit := by
  cases halt with
  | overreport other _ | idle other _ _ | sink other _ _ _ =>
      rw [answer] at other
      cases other
  | limit _ refused =>
      exact GrowthPolicy.eq_of_nextOutputLength_error refused
  | saturated _ _ _ =>
      exact ⟨_, _, rfl⟩
  | engine other terminal =>
      rw [answer] at other
      cases other
      exact absurd rfl terminal

/-- A submission absorbs every insufficient buffer. -/
theorem absorbedFrom_submit
    (writer : Writer σ (RecordedEngine ε))
    (scope : Scope)
    (offset : Nat)
    (input : Bytes) :
    writer.AbsorbedFrom input (writer.submit scope offset input) := by
  apply submit_induction
    (motive := fun (writer : Writer σ (RecordedEngine ε)) _ input outcome =>
      writer.AbsorbedFrom input outcome)
  case finish =>
    intro writer offset
    exact ⟨[], rfl, .of_quiet rfl _, fun more => absurd rfl more⟩
  case advance =>
    intro writer next offset count input outcome nonempty advance ⟨later, calls, absorbed, meets⟩
    obtain ⟨reply, answer⟩ := compressed_of_advance advance
    obtain ⟨first, firstCalls, firstCompressions⟩ := compressions_of_markedEngine answer
    refine ⟨later ++ first, ?_, absorbed.join ?_ ?_, ?_⟩
    · rw [calls, firstCalls, List.append_assoc]
    · rw [firstCompressions]
      exact List.isChain_singleton _
    · intro compression newest insufficient
      rw [firstCompressions] at newest
      cases newest
      cases advance with
      | step other within busy settles =>
          rw [answer] at other
          cases other
          cases insufficient
      | grow other grown larger =>
          rw [List.drop_zero] at meets
          obtain ⟨oldest, last, sameInput, capacity⟩ := meets nonempty
          exact ⟨oldest, last, fun _ => ⟨sameInput, by rw [capacity]; exact larger⟩⟩
    · intro _
      refine ⟨⟨input, writer.outputLength, reply.result⟩, ?_, rfl, rfl⟩
      unfold compressions at firstCompressions ⊢
      rw [List.filterMap_append, firstCompressions, List.getLast?_concat]
  case halt =>
    intro writer failed offset input error nonempty halt
    obtain ⟨reply, answer⟩ := compressed_of_halt halt
    obtain ⟨first, firstCalls, firstCompressions⟩ := compressions_of_markedEngine answer
    refine ⟨first, firstCalls, ⟨?_, ?_⟩, ?_⟩
    · rw [firstCompressions]
      exact List.isChain_singleton _
    · intro compression newest insufficient
      rw [firstCompressions] at newest
      cases newest
      obtain ⟨result, filled⟩ := reply
      cases insufficient
      obtain ⟨wanted, limit, exceeded⟩ := exceeded_of_halt halt answer
      exact ⟨wanted, limit, congrArg some exceeded⟩
    · intro _
      exact ⟨_, by rw [firstCompressions]; rfl, rfl, rfl⟩

omit [Sink σ] [Engine ε] in
theorem absorbs_of_quiet
    {writer next : Writer σ (RecordedEngine ε)}
    (more : List EngineCall)
    (result : Except StreamError α)
    (calls : next.engine.calls = more ++ writer.engine.calls)
    (quiet : compressions more = []) :
    writer.Absorbs (result, next) :=
  ⟨more, calls, .of_quiet quiet _⟩

omit [Sink σ] [Engine ε] in
/-- What follows a success absorbs on its own. -/
theorem Absorbs.trans
    {β : Type}
    {writer next : Writer σ (RecordedEngine ε)}
    {value : β}
    {outcome : Except StreamError α × Writer σ (RecordedEngine ε)}
    (first : writer.Absorbs (.ok value, next))
    (second : next.Absorbs outcome) :
    writer.Absorbs outcome := by
  obtain ⟨earlier, calls, before⟩ := first
  obtain ⟨later, laterCalls, after⟩ := second
  refine ⟨later ++ earlier, ?_, after.append before⟩
  rw [laterCalls, calls, List.append_assoc]

omit [Sink σ] [Engine ε] in
theorem Absorbs.followed
    {β : Type}
    {writer next last : Writer σ (RecordedEngine ε)}
    {error : StreamError}
    {more : List EngineCall}
    (first : writer.Absorbs ((.error error : Except StreamError β), next))
    (calls : last.engine.calls = more ++ next.engine.calls)
    (quiet : compressions more = []) :
    writer.Absorbs ((.error error : Except StreamError α), last) := by
  obtain ⟨earlier, before, absorbed⟩ := first
  refine ⟨more ++ earlier, ?_, absorbed.append_quiet quiet⟩
  rw [calls, before, List.append_assoc]

/-- A submission absorbs every insufficient buffer. -/
theorem absorbs_submit
    (writer : Writer σ (RecordedEngine ε))
    (scope : Scope)
    (offset : Nat)
    (input : Bytes) :
    writer.Absorbs (writer.submit scope offset input) := by
  obtain ⟨more, calls, absorbed, -⟩ := absorbedFrom_submit writer scope offset input
  exact ⟨more, calls, absorbed⟩

/-- Flushing what is held back absorbs every insufficient buffer. -/
theorem absorbs_flushHeld
    (writer : Writer σ (RecordedEngine ε))
    (scope : Scope) :
    writer.Absorbs (writer.flushHeld scope) := by
  have submits := absorbs_submit { writer with held := [] } scope 0 writer.held
  unfold Absorbs at submits ⊢
  rwa [flushHeld_eq, errorOf_map]

/-- Taking a buffer absorbs every insufficient buffer. -/
theorem absorbs_stage
    (writer : Writer σ (RecordedEngine ε))
    (scope : Scope)
    (bytes : Bytes) :
    writer.Absorbs (writer.stage scope bytes) := by
  have flushed := absorbs_flushHeld writer scope
  have comes := stages_stage writer scope bytes
  generalize writer.stage scope bytes = outcome at comes ⊢
  cases comes with
  | unflushed flushes | held flushes _ =>
      rw [flushes] at flushed
      exact flushed
  | @cut next _ front tail _ flushes _ _ _ submits
  | @halted next _ front tail _ flushes _ _ _ submits =>
      rw [flushes] at flushed
      have absorbs := absorbs_submit { next with held := next.held ++ tail } scope 0 front
      rw [submits] at absorbs
      exact flushed.trans absorbs

omit [Sink σ] in
/-- Becoming ready takes no compress call. -/
theorem absorbs_of_readied
    {writer active : Writer σ (RecordedEngine ε)}
    (readied : Readied writer active) :
    writer.Absorbs (.ok (), active) := by
  cases readied with
  | active unfailed phase =>
      exact absorbs_of_quiet [] _ rfl rfl
  | started unfailed phase starts =>
      exact absorbs_of_quiet [.start _ _] _
        (RecordedEngine.calls_of_start starts.engine) rfl

omit [Sink σ] in
/-- Failing to become ready takes no compress call. -/
theorem absorbs_of_unready
    {writer next : Writer σ (RecordedEngine ε)}
    {error : StreamError}
    (unready : Unready writer error next) :
    writer.Absorbs ((.error error : Except StreamError α), next) := by
  cases unready with
  | failed kept =>
      exact absorbs_of_quiet [] _ rfl rfl
  | closed unfailed phase =>
      exact absorbs_of_quiet [] _ rfl rfl
  | refused unfailed phase answer =>
      exact absorbs_of_quiet [.start _ _] _ (RecordedEngine.calls_of_start answer) rfl

omit [Sink σ] in
/-- Tearing down takes no compress call. -/
theorem calls_teardown
    (writer : Writer σ (RecordedEngine ε)) :
    ∃ more,
      writer.teardown.engine.calls = more ++ writer.engine.calls ∧ compressions more = [] := by
  unfold teardown
  split
  · exact ⟨[.close _], rfl, rfl⟩
  · exact ⟨[], rfl, rfl⟩

/-- A write absorbs every insufficient buffer. -/
theorem absorbs_writeChunk
    (writer : Writer σ (RecordedEngine ε))
    (bytes : Bytes) :
    writer.Absorbs (writer.writeChunk bytes) := by
  cases writes_writeChunk writer bytes with
  | unready refused same =>
      rw [same]
      exact absorbs_of_unready refused
  | @staged active readied stages =>
      rw [stages]
      exact (absorbs_of_readied readied).trans (absorbs_stage active _ bytes)

/-- Completing a stream absorbs every insufficient buffer. -/
theorem absorbs_complete
    (writer : Writer σ (RecordedEngine ε))
    (scope : Scope) :
    writer.Absorbs (writer.complete scope) := by
  have marks : writer.Absorbs (.ok (), writer.markedLast) :=
    absorbs_of_quiet [.setLast true] _ rfl rfl
  refine marks.trans ?_
  have flushed := absorbs_flushHeld writer.markedLast scope
  have comes := completes_complete writer scope
  generalize writer.complete scope = outcome at comes ⊢
  cases comes with
  | @unflushed _ failed flushes =>
      rw [flushes] at flushed
      obtain ⟨more, calls, quiet⟩ := calls_teardown failed
      exact flushed.followed calls quiet
  | @undrained next sink cause flushes drains =>
      rw [flushes] at flushed
      obtain ⟨more, calls, quiet⟩ := calls_teardown ({ next with sink := sink } : Writer σ _)
      exact flushed.trans (absorbs_of_quiet more _ calls quiet)
  | @drained next sink flushes drains =>
      rw [flushes] at flushed
      refine flushed.trans ?_
      unfold closeEngine
      cases closing : EngineCalls.close next.engine with
      | mk result engine =>
          have calls := RecordedEngine.calls_of_close closing
          cases result with
          | ok =>
              exact absorbs_of_quiet [.close _] _ calls rfl
          | error error =>
              exact absorbs_of_quiet [.close _] _ calls rfl

/-- Closing a writer absorbs every insufficient buffer. -/
theorem absorbs_close
    (writer : Writer σ (RecordedEngine ε)) :
    writer.Absorbs writer.close := by
  have closes := closes_close writer
  generalize writer.close = outcome at closes
  cases closes with
  | again phase =>
      exact absorbs_of_quiet [] _ rfl rfl
  | failed unclosed kept =>
      obtain ⟨more, calls, quiet⟩ := calls_teardown writer
      exact absorbs_of_quiet more _ calls quiet
  | unready unclosed unfailed refused =>
      exact absorbs_of_unready refused
  | @unplaced active failed scope error readied places =>
      obtain ⟨more, calls, quiet⟩ := calls_teardown failed
      obtain ⟨sink, trace, rfl⟩ := unplaced_of_writePlaceholder places
      exact (absorbs_of_readied readied).trans (absorbs_of_quiet more _ calls quiet)
  | @completed active whole scope readied shape =>
      refine (absorbs_of_readied readied).trans ?_
      obtain ⟨sink, trace, wroteOutput, rfl⟩ := eq_of_whole shape
      exact absorbs_complete _ scope

/--
What the closing of the stream before comes to in a reset, which keeps that to itself: only
an active writer that has not failed is closed.
-/
def closingFailure
    (writer : Writer σ ε) :
    Option StreamError :=
  if writer.phase = .active ∧ writer.failure = none then
    errorOf writer.close.1
  else
    none

/-- What a reset has cleared has absorbed every insufficient buffer of the stream before. -/
theorem absorbed_cleared
    (writer : Writer σ (RecordedEngine ε)) :
    ∃ more,
      writer.cleared.engine.calls = more ++ writer.engine.calls ∧
        Absorbed more writer.closingFailure := by
  have closed :
      ∃ more,
        writer.closeForReset.engine.calls = more ++ writer.engine.calls ∧
          Absorbed more writer.closingFailure := by
    have closes := absorbs_close writer
    unfold closeForReset closingFailure
    split
    · split <;> rename_i answer <;> rw [answer] at closes ⊢ <;> exact closes
    · exact ⟨[], rfl, .of_quiet rfl _⟩
  obtain ⟨earlier, before, absorbed⟩ := closed
  obtain ⟨later, torn, quiet⟩ := calls_teardown writer.closeForReset
  refine ⟨later ++ earlier, ?_, absorbed.append_quiet quiet⟩
  change writer.closeForReset.teardown.engine.calls = _
  rw [torn, before, List.append_assoc]

/--
A reset absorbs every insufficient buffer that its closing meets, and answers with what the
engine says to the start of the next session.
-/
theorem absorbed_reset
    (writer : Writer σ (RecordedEngine ε))
    (sink : σ) :
    ∃ more parameters result,
      (writer.serve (.reset sink)).2.engine.calls =
          .start parameters result :: (more ++ writer.engine.calls) ∧
        Absorbed more writer.closingFailure ∧
        (writer.serve (.reset sink)).1.error? = errorOf result := by
  obtain ⟨more, calls, absorbed⟩ := absorbed_cleared writer
  change
    ∃ more parameters result,
      (writer.reset sink).2.engine.calls =
          .start parameters result :: (more ++ writer.engine.calls) ∧
        Absorbed more writer.closingFailure ∧
        errorOf (writer.reset sink).1 = errorOf result
  rw [reset_eq]
  cases starts : writer.cleared.startSession [] with
  | mk result next =>
      cases result with
      | ok =>
          have answer := RecordedEngine.calls_of_start (started_of_startSession starts).engine
          rw [calls] at answer
          exact ⟨more, _, .ok (), answer, absorbed, rfl⟩
      | error error =>
          obtain ⟨engine, span, trace, refused, rfl⟩ := refused_of_startSession starts
          have answer := RecordedEngine.calls_of_start refused
          rw [calls] at answer
          exact ⟨more, _, .error error, answer, absorbed, rfl⟩

/-- Every request but a reset absorbs every insufficient buffer. -/
theorem absorbed_serve
    (writer : Writer σ (RecordedEngine ε))
    (request : WriterRequest σ)
    (noReset : request.isReset = false) :
    ∃ more,
      (writer.serve request).2.engine.calls = more ++ writer.engine.calls ∧
        Absorbed more (writer.serve request).1.error? := by
  have served := served_serve writer request
  generalize (writer.serve request).1.error? = error?, (writer.serve request).2 = next at served ⊢
  cases served with
  | @wrote call bytes writes =>
      exact absorbs_writeChunk writer bytes
  | closed closes =>
      exact absorbs_close writer
  | flushed flushes | applied options | overridden overrides | altered change =>
      exact ⟨[], rfl, .of_quiet rfl _⟩
  | reset sink =>
      cases noReset

end Writer

end MemberStream
