import MemberStream.Proofs.Telemetry.Telling
import MemberStream.Proofs.Writer.Freezing
import MemberStream.Proofs.Writer.Showing

namespace MemberStream

/-!
# Failures that a writer tells of

A writer that has not failed tells of the failure that a request leaves it with, once, and
of no other.  One that has failed tells of nothing more before it is reset.  A reset can
come to two failures, that of the stream it finishes and that of the session it starts.
-/

namespace Writer

variable {σ ε α : Type}

/-- A writer has told of its failure, if there is one, and of no other since some trace. -/
def Tells
    (writer : Writer σ ε)
    (past : Trace) :
    Prop :=
  writer.trace.failures .writer =
    toldAt writer.effective.debugLevel writer.failure ++ past.failures .writer

/-- An event that is about no failure of the writer leaves alone what its trace tells of. -/
theorem failures_report
    (writer : Writer σ ε)
    (scope : Scope)
    (event : Event)
    (other : event.failure? .writer = none) :
    (writer.report scope event).trace.failures .writer = writer.trace.failures .writer := by
  unfold report
  dsimp only
  rw [Trace.failures_record, other, toldAt_none]
  rfl

namespace Tells

variable {writer next : Writer σ ε} {past : Trace}

theorem of_unfailed
    (unfailed : writer.failure = none) :
    writer.Tells writer.trace := by
  unfold Tells
  rw [unfailed, toldAt_none]
  rfl

theorem silent
    (tells : writer.Tells past)
    (unfailed : writer.failure = none) :
    writer.trace.failures .writer = past.failures .writer := by
  have told : writer.trace.failures .writer = _ := tells
  rwa [unfailed, toldAt_none] at told

theorem trans
    (first : writer.Tells past)
    (unfailed : writer.failure = none)
    (second : next.Tells writer.trace) :
    next.Tells past := by
  unfold Tells
  rw [← first.silent unfailed]
  exact second

theorem report
    (tells : writer.Tells past)
    (scope : Scope)
    {event : Event}
    (other : event.failure? .writer = none) :
    (writer.report scope event).Tells past := by
  unfold Tells
  rw [failures_report writer scope event other]
  exact tells

/-- A writer that comes to fail tells of that. -/
theorem fail
    (tells : writer.Tells past)
    (unfailed : writer.failure = none)
    (scope : Scope)
    (error : StreamError) :
    (writer.fail (α := α) scope error).2.Tells past := by
  have told := Trace.failures_record writer.trace writer.effective.debugLevel scope
    (.writerFailed error) .writer
  rw [tells.silent unfailed] at told
  exact told

end Tells

section Session

variable [EngineCalls ε] {writer : Writer σ ε}

/-- Starting a session keeps no failure and tells of none. -/
theorem tells_startSession
    (unfailed : writer.failure = none)
    (scope : Scope) :
    (writer.startSession scope).2.Tells writer.trace ∧
      (writer.startSession scope).2.failure = none := by
  have opens {next : Writer σ ε} {span : Span} (still : next.failure = none)
      (trace : next.trace = .opened span :: writer.trace) :
      next.Tells writer.trace := by
    unfold Tells
    rw [still, toldAt_none, trace, Trace.failures_opened]
    rfl
  unfold startSession
  dsimp only
  split
  · exact ⟨opens unfailed rfl, unfailed⟩
  · refine ⟨Tells.report ?_ _ rfl, unfailed⟩
    exact opens unfailed rfl

theorem tells_teardown
    {past : Trace}
    (tells : writer.Tells past) :
    writer.teardown.Tells past := by
  unfold teardown
  split <;> exact tells

/-- A writer that has not failed tells why it could not get ready. -/
theorem tells_ready
    (unfailed : writer.failure = none)
    (scope : Scope) :
    (writer.ready scope).2.Tells writer.trace := by
  obtain ⟨tells, still⟩ := tells_startSession unfailed scope
  unfold ready
  rw [unfailed]
  dsimp only
  split
  · exact .of_unfailed unfailed
  · exact .of_unfailed unfailed
  · split
    · rename_i answer
      rwa [answer] at tells
    · rename_i error idle answer
      rw [answer] at tells still
      exact tells.fail still scope error

/-- A writer that has not failed tells why its engine could not be closed. -/
theorem tells_closeEngine
    (unfailed : writer.failure = none)
    (scope : Scope) :
    (writer.closeEngine scope).2.Tells writer.trace := by
  unfold closeEngine
  dsimp only
  split
  · exact (Tells.of_unfailed unfailed).report scope rfl
  · exact (Tells.of_unfailed unfailed).fail (α := Unit) unfailed scope _

end Session

section Submission

variable [Sink σ] {writer next : Writer σ ε}

/-- A writer that has not failed tells why a step could not be settled. -/
theorem tells_settle
    (unfailed : writer.failure = none)
    (scope : Scope)
    (step : Step)
    (output : Bytes)
    (offset : Nat)
    (input : Bytes) :
    (writer.settle scope step output offset input).2.Tells writer.trace := by
  have accepted : (writer.accept scope step offset input).Tells writer.trace :=
    (Tells.of_unfailed unfailed).report scope rfl
  have forwarded (ok : Bool) (sink : σ) :
      ((writer.accept scope step offset input).forwarded scope output ok sink).Tells
        writer.trace := by
    let sent : Writer σ ε := { writer.accept scope step offset input with sink := sink }
    have told : sent.Tells writer.trace := accepted
    exact told.report _ rfl
  cases settles : writer.settle scope step output offset input with
  | mk result settled =>
      cases result with
      | ok =>
          rcases settle_ok settles with ⟨-, rfl⟩ | ⟨sink, -, rfl⟩
          · exact accepted
          · exact forwarded true sink
      | error error =>
          obtain ⟨cause, sink, -, -, rfl⟩ := settle_error settles
          exact (forwarded false sink).fail unfailed _ error

variable [Engine ε]

/-- A round that goes on tells of nothing. -/
theorem tells_of_advance
    (unfailed : writer.failure = none)
    {scope : Scope}
    {offset count : Nat}
    {input : Bytes}
    (advance : Advance writer scope offset input next count) :
    next.Tells writer.trace := by
  cases advance with
  | @step step filled engine settled answer within busy settles =>
      let called : Writer σ ε := { writer with engine := engine }
      have still : called.failure = none := unfailed
      have tells := tells_settle still scope step
        (Reply.front ⟨.ok step, filled⟩ step.produced) offset input
      rwa [settles] at tells
  | grow answer grown larger =>
      exact (Tells.of_unfailed unfailed).report scope rfl

/-- A round that halts tells of its failure. -/
theorem tells_of_halt
    (unfailed : writer.failure = none)
    {scope : Scope}
    {offset : Nat}
    {input : Bytes}
    {error : StreamError}
    (halt : Halt writer scope offset input error next) :
    next.Tells writer.trace := by
  have quiet {called : Writer σ ε} (trace : called.trace = writer.trace)
      (same : called.failure = none) :
      called.Tells writer.trace :=
    trace ▸ .of_unfailed same
  cases halt with
  | overreport answer beyond =>
      exact (quiet rfl unfailed).fail (α := Nat) unfailed scope _
  | idle answer within idle =>
      exact (quiet rfl unfailed).fail (α := Nat) unfailed scope _
  | @sink step filled engine error failed answer within busy settles =>
      let called : Writer σ ε := { writer with engine := engine }
      have still : called.failure = none := unfailed
      have tells := tells_settle still scope step
        (Reply.front ⟨.ok step, filled⟩ step.produced) offset input
      rwa [settles] at tells
  | limit answer refused =>
      exact (quiet rfl unfailed).fail (α := Nat) unfailed scope _
  | saturated answer grown stuck =>
      exact ((quiet rfl unfailed).report scope rfl).fail (α := Nat) unfailed scope _
  | engine answer terminal =>
      exact (quiet rfl unfailed).fail (α := Nat) unfailed scope _

/-- A writer that has not failed tells why input could not be submitted. -/
theorem tells_submit
    (unfailed : writer.failure = none)
    (scope : Scope)
    (offset : Nat)
    (input : Bytes) :
    (writer.submit scope offset input).2.Tells writer.trace := by
  revert unfailed
  apply submit_induction
    (motive := fun writer _ _ outcome =>
      writer.failure = none → outcome.2.Tells writer.trace)
  case finish =>
    intro writer offset unfailed
    exact .of_unfailed unfailed
  case advance =>
    intro writer next offset count input outcome more advance later unfailed
    have still := (sameSession_of_advance advance).2.trans unfailed
    exact (tells_of_advance unfailed advance).trans still (later still)
  case halt =>
    intro writer failed offset input error more halt unfailed
    exact tells_of_halt unfailed halt

theorem unfailed_of_submit
    (unfailed : writer.failure = none)
    {scope : Scope}
    {offset count : Nat}
    {input : Bytes}
    (submits : writer.submit scope offset input = (.ok count, next)) :
    next.failure = none := by
  have kept := (sameSession_submit writer scope offset input).2
  rw [submits] at kept
  exact kept.trans unfailed

/-- A writer that has not failed tells why what is held back could not be flushed. -/
theorem tells_flushHeld
    (unfailed : writer.failure = none)
    (scope : Scope) :
    (writer.flushHeld scope).2.Tells writer.trace := by
  let emptied : Writer σ ε := { writer with held := [] }
  have still : emptied.failure = none := unfailed
  rw [flushHeld_eq]
  exact tells_submit still scope 0 writer.held

/-- A writer that flushes what is held back has not failed. -/
theorem unfailed_of_flushHeld
    (unfailed : writer.failure = none)
    {scope : Scope}
    (flushes : writer.flushHeld scope = (.ok (), next)) :
    next.failure = none := by
  obtain ⟨count, submits⟩ := submitted_of_flushHeld flushes
  let emptied : Writer σ ε := { writer with held := [] }
  have still : emptied.failure = none := unfailed
  exact unfailed_of_submit still submits

/-- A writer that has not failed tells why a buffer could not be taken. -/
theorem tells_stage
    (unfailed : writer.failure = none)
    (scope : Scope)
    (bytes : Bytes) :
    (writer.stage scope bytes).2.Tells writer.trace := by
  have tells := tells_flushHeld unfailed scope
  have holding {flushed : Writer σ ε} (tells : flushed.Tells writer.trace) (tail : Bytes) :
      ({ flushed with held := flushed.held ++ tail } : Writer σ ε).Tells writer.trace :=
    tells
  have comes := stages_stage writer scope bytes
  generalize writer.stage scope bytes = outcome at comes ⊢
  cases comes with
  | unflushed flushes =>
      rwa [flushes] at tells
  | held flushes holds =>
      rw [flushes] at tells
      exact (holding tells bytes).report scope rfl
  | @cut next _ front tail _ flushes _ _ _ submits
  | @halted next _ front tail _ flushes _ _ _ submits =>
      rw [flushes] at tells
      have still := unfailed_of_flushHeld unfailed flushes
      let staged : Writer σ ε := { next with held := next.held ++ tail }
      have open_ : staged.failure = none := still
      have submitted := (holding tells tail).trans still (tells_submit open_ scope 0 front)
      rwa [submits] at submitted

/-- A writer that has not failed tells why a write failed. -/
theorem tells_writeChunk
    (unfailed : writer.failure = none)
    (bytes : Bytes) :
    (writer.writeChunk bytes).2.Tells writer.trace := by
  have tells := tells_ready unfailed writer.scope
  unfold writeChunk
  dsimp only
  split
  · rename_i answer
    rwa [answer] at tells
  · rename_i active answer
    rw [answer] at tells
    obtain ⟨-, still, -⟩ := (readied_of_ready answer).open
    exact tells.trans still (tells_stage still _ bytes)

omit [Engine ε] in
theorem tells_writePlaceholder
    (unfailed : writer.failure = none)
    (scope : Scope) :
    (writer.writePlaceholder scope).2.Tells writer.trace ∧
      (writer.writePlaceholder scope).2.failure = none :=
  ⟨(Tells.of_unfailed unfailed).report (scope ++ ["empty"]) rfl, unfailed⟩

/-- A writer that has not failed tells why it could not be completed. -/
theorem tells_complete
    (unfailed : writer.failure = none)
    (scope : Scope) :
    (writer.complete scope).2.Tells writer.trace := by
  have marked : writer.markedLast.failure = none := unfailed
  have tells := tells_flushHeld marked scope
  have comes := completes_complete writer scope
  generalize writer.complete scope = outcome at comes ⊢
  cases comes with
  | unflushed flushes =>
      rw [flushes] at tells
      exact tells_teardown tells
  | @undrained next sink cause flushes drains =>
      rw [flushes] at tells
      let flushed : Writer σ ε := { next with sink := sink }
      have unfailed := unfailed_of_flushHeld marked flushes
      have still : flushed.failure = none := unfailed
      have quiet : flushed.Tells writer.trace := tells
      exact (tells_teardown quiet).fail ((failure_teardown _).trans still) scope _
  | @drained next sink flushes drains =>
      rw [flushes] at tells
      let flushed : Writer σ ε := { next with sink := sink }
      have unfailed := unfailed_of_flushHeld marked flushes
      have still : flushed.failure = none := unfailed
      have quiet : flushed.Tells writer.trace := tells
      exact quiet.trans still (tells_closeEngine still scope)

/-- A writer that has not failed tells why it could not be closed. -/
theorem tells_close
    (unfailed : writer.failure = none) :
    writer.close.2.Tells writer.trace := by
  have tells := tells_ready unfailed writer.scope
  unfold close
  rw [unfailed]
  dsimp only
  split
  · exact .of_unfailed unfailed
  · split
    · rename_i answer
      rwa [answer] at tells
    · rename_i active answer
      rw [answer] at tells
      obtain ⟨-, still, -⟩ := (readied_of_ready answer).open
      obtain ⟨places, placed⟩ := tells_writePlaceholder still (writer.scope ++ ["close"])
      split
      · split
        · rename_i written putsOut
          rw [putsOut] at places placed
          exact (tells.trans still places).trans placed (tells_complete placed _)
        · rename_i error failed putsOut
          rw [putsOut] at places placed
          have torn := tells_teardown (tells.trans still places)
          exact torn.fail ((failure_teardown failed).trans placed) _ error
      · exact tells.trans still (tells_complete still _)

/-- A writer that has not failed tells why a reset could not close it. -/
theorem tells_closeForReset
    (unfailed : writer.failure = none) :
    writer.closeForReset.Tells writer.trace := by
  apply closeForReset_keeps (motive := fun next => next.Tells writer.trace)
  · intro failed error tells
    exact tells.report [] rfl
  · exact .of_unfailed unfailed
  · intro active unfailed
    exact tells_close unfailed

/-- A writer that has failed is not closed by a reset. -/
theorem closeForReset_of_failed
    {error : StreamError}
    (kept : writer.failure = some error) :
    writer.closeForReset = writer := by
  unfold closeForReset
  split
  · rename_i open_
    cases kept.symm.trans open_.2
  · rfl

theorem trace_cleared
    (writer : Writer σ ε) :
    writer.cleared.trace = writer.closeForReset.trace := by
  change writer.closeForReset.teardown.trace = _
  unfold teardown
  split <;> rfl

/-- A reset tells why its session could not start. -/
theorem tells_reset
    (writer : Writer σ ε)
    (sink : σ) :
    (writer.reset sink).2.Tells writer.cleared.trace := by
  have unfailed : writer.cleared.failure = none := rfl
  obtain ⟨tells, still⟩ := tells_startSession unfailed []
  rw [reset_eq]
  split
  · rename_i answer
    rw [answer] at tells
    exact tells
  · rename_i error idle answer
    rw [answer] at tells still
    exact tells.fail still [] error

end Submission

section Requests

variable [Sink σ] [Engine ε] {writer : Writer σ ε}

/-- A writer that has not failed tells why a request failed, unless that resets it. -/
theorem tells_serve
    (unfailed : writer.failure = none)
    {request : WriterRequest σ}
    (noReset : request.isReset = false) :
    (writer.serve request).2.Tells writer.trace := by
  have served := served_serve writer request
  generalize (writer.serve request).1.error? = error?, (writer.serve request).2 = next at served ⊢
  cases served with
  | @wrote call bytes writes =>
      exact tells_writeChunk unfailed bytes
  | closed closes =>
      exact tells_close unfailed
  | flushed flushes | applied options | overridden overrides | altered change =>
      exact .of_unfailed unfailed
  | reset sink =>
      cases noReset

/-- A writer that has failed records nothing more, unless it is reset. -/
theorem trace_serve_of_failed
    {error : StreamError}
    (kept : writer.failure = some error)
    {request : WriterRequest σ}
    (noReset : request.isReset = false) :
    (writer.serve request).2.trace = writer.trace := by
  have refuses := refuses_of_failure kept
  have served := served_serve writer request
  generalize (writer.serve request).1.error? = error?, (writer.serve request).2 = next at served ⊢
  cases served with
  | @wrote call bytes writes =>
      rw [refuses.writeChunk]
  | closed closes =>
      rw [refuses.close]
      split
      · rfl
      · unfold teardown
        split <;> rfl
  | flushed flushes | applied options | overridden overrides | altered change =>
      rfl
  | reset sink =>
      cases noReset

end Requests

section Recorded

variable {writer next : Writer σ (RecordedEngine ε)}

/-- What a writer newly keeps as it goes on to another state. -/
def newlyKept
    (writer next : Writer σ (RecordedEngine ε)) :
    List KeptFailure :=
  KeptFailure.newly writer.failure next.failure next.streamParameters

theorem failures_of_tells
    (unfailed : writer.failure = none)
    (remembers : next.streamParameters.Remembers)
    (tells : next.Tells writer.trace) :
    next.trace.failures .writer =
      KeptFailure.told (writer.newlyKept next) ++ writer.trace.failures .writer := by
  unfold newlyKept
  rw [unfailed, KeptFailure.told_newly remembers]
  exact tells

variable [Sink σ] [Engine ε]

/-- The failures that a writer newly keeps in the course of a request, newest first. -/
def keptBy
    (writer : Writer σ (RecordedEngine ε)) :
    WriterRequest σ →
    List KeptFailure
  | .reset sink =>
      writer.cleared.newlyKept (writer.reset sink).2 ++ writer.newlyKept writer.closeForReset
  | request =>
      writer.newlyKept (writer.serve request).2

/-- The failures that a writer newly keeps in the course of some requests, newest first. -/
def keptIn
    (writer : Writer σ (RecordedEngine ε)) :
    List (WriterRequest σ) →
    List KeptFailure
  | [] =>
      []
  | request :: rest =>
      (writer.serve request).2.keptIn rest ++ writer.keptBy request

/-- Finishing a stream before a reset advances its parameters. -/
theorem advances_closeForReset
    (writer : Writer σ (RecordedEngine ε)) :
    writer.streamParameters.Advances writer.closeForReset.streamParameters := by
  apply closeForReset_keeps
    (motive := fun next => writer.streamParameters.Advances next.streamParameters)
  · intro failed error advances
    exact advances
  · exact .same
  · intro active unfailed
    exact advances_close writer

/-- A writer remembers its newest session after every request. -/
theorem remembers_serve
    (remembers : writer.streamParameters.Remembers)
    (request : WriterRequest σ) :
    (writer.serve request).2.streamParameters.Remembers := by
  have served := served_serve writer request
  generalize (writer.serve request).1.error? = error?, (writer.serve request).2 = next at served ⊢
  cases served with
  | @wrote call bytes writes =>
      exact remembers.advances (advances_writeChunk writer bytes)
  | closed closes =>
      exact remembers.advances (advances_close writer)
  | flushed flushes | applied options | overridden overrides | altered change =>
      exact remembers
  | reset sink =>
      rcases streamParameters_reset writer sink with same | same <;> rw [same]
      · rfl
      · exact remembers

/-- A request tells of what a writer newly keeps in its course. -/
theorem failures_serve
    (remembers : writer.streamParameters.Remembers)
    (request : WriterRequest σ) :
    (writer.serve request).2.trace.failures .writer =
      KeptFailure.told (writer.keptBy request) ++ writer.trace.failures .writer := by
  have served := remembers_serve remembers request
  have plain (noReset : request.isReset = false)
      (kept : writer.keptBy request = writer.newlyKept (writer.serve request).2) :
      (writer.serve request).2.trace.failures .writer =
        KeptFailure.told (writer.keptBy request) ++ writer.trace.failures .writer := by
    rw [kept]
    cases failure : writer.failure with
    | none =>
        exact failures_of_tells failure served (tells_serve failure noReset)
    | some error =>
        unfold newlyKept
        rw [trace_serve_of_failed failure noReset, failure]
        rfl
  cases request with
  | reset sink =>
      have unfailed : writer.cleared.failure = none := rfl
      have started := failures_of_tells unfailed served (tells_reset writer sink)
      have finished : writer.closeForReset.trace.failures .writer =
          KeptFailure.told (writer.newlyKept writer.closeForReset) ++
            writer.trace.failures .writer := by
        cases failure : writer.failure with
        | none =>
            exact failures_of_tells failure (remembers.advances (advances_closeForReset writer))
              (tells_closeForReset failure)
        | some error =>
            unfold newlyKept
            rw [closeForReset_of_failed failure, failure]
            rfl
      rw [trace_cleared, finished] at started
      rw [keptBy, KeptFailure.told_append, List.append_assoc]
      exact started
  | _ =>
      exact plain rfl rfl

/-- The trace of a writer tells of the failures that it has newly kept, each once and in order. -/
theorem failures_serveEach
    (remembers : writer.streamParameters.Remembers)
    (requests : List (WriterRequest σ)) :
    (writer.serveEach requests).trace.failures .writer =
      KeptFailure.told (writer.keptIn requests) ++ writer.trace.failures .writer := by
  induction requests generalizing writer with
  | nil =>
      rfl
  | cons request rest later =>
      have served := later (remembers_serve remembers request)
      rw [failures_serve remembers request] at served
      rw [keptIn, KeptFailure.told_append, List.append_assoc]
      exact served

/-- What a writer keeps in the course of a request has the parameters of some options behind it. -/
theorem follows_of_keptBy
    {overrides : Overrides}
    {options : List StreamOption}
    (follows : writer.Follows overrides options)
    {request : WriterRequest σ}
    (fixed : request.isOverride = false)
    {kept : KeptFailure}
    (keeps : kept ∈ writer.keptBy request) :
    ∃ options, kept.parameters.Follows overrides options := by
  have served := (follows_serve request fixed follows).parameters
  cases request with
  | reset sink =>
      rcases List.mem_append.mp keeps with started | finished
      · exact ⟨_, KeptFailure.parameters_of_newly started ▸ served⟩
      · have advanced := follows.parameters.advances (advances_closeForReset writer)
        exact ⟨_, KeptFailure.parameters_of_newly finished ▸ advanced⟩
  | _ =>
      exact ⟨_, KeptFailure.parameters_of_newly keeps ▸ served⟩

/-- What a writer keeps along some requests has the parameters of some options behind it. -/
theorem follows_of_keptIn
    {overrides : Overrides}
    {options : List StreamOption}
    (follows : writer.Follows overrides options)
    {requests : List (WriterRequest σ)}
    (fixed : ∀ request ∈ requests, request.isOverride = false)
    {kept : KeptFailure}
    (keeps : kept ∈ writer.keptIn requests) :
    ∃ options, kept.parameters.Follows overrides options := by
  induction requests generalizing writer options with
  | nil =>
      cases keeps
  | cons request rest later =>
      have first := fixed request List.mem_cons_self
      rcases List.mem_append.mp keeps with after | now
      · exact later (follows_serve request first follows)
          (fun other member => fixed other (List.mem_cons_of_mem request member)) after
      · exact follows_of_keptBy follows first now

end Recorded

end Writer

end MemberStream
