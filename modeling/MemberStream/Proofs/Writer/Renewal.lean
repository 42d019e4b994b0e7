import MemberStream.Proofs.Engine.Member
import MemberStream.Proofs.Writer.Options
import MemberStream.Proofs.Writer.Past
import MemberStream.Proofs.Writer.Session

namespace MemberStream

/-!
# What a reset leaves of a writer

A reset that succeeds leaves nothing of a writer but its options and what it has
recorded: what it starts is the session of a writer that has just been built.  So
no request tells writers apart that have been reset under the same options.
-/

variable {encoders : Encoders}

/-- A request to a writer, at any time of its life. -/
inductive WriterRequest (σ : Type)
  | call (call : WriterCall)
  | apply (options : List StreamOption)
  | override (overrides : Overrides)
  /-- Change the sink behind the back of the writer. -/
  | alter (change : σ → σ)
  | reset (sink : σ)
  | finish

/-- Whether a request resets the writer. -/
def WriterRequest.isReset
    {σ : Type} :
    WriterRequest σ → Bool
  | .reset _ =>
      true
  | _ =>
      false

/-- What a request to a writer came to. -/
inductive WriterReply (σ : Type)
  | answered (answer : WriterAnswer)
  | applied (result : Except StreamError Unit)
  | done
  | handedBack (result : Except StreamError σ)

/-- The error that a result holds. -/
def errorOf
    {α : Type} :
    Except StreamError α → Option StreamError
  | .ok _ =>
      none
  | .error error =>
      some error

@[simp]
theorem errorOf_map
    {α β : Type}
    (result : Except StreamError α)
    (f : α → β) :
    errorOf (result.map f) = errorOf result := by
  cases result <;> rfl

/-- A call whose result holds an error has failed with it. -/
theorem eq_error_of_errorOf
    {α β : Type}
    {outcome : Except StreamError α × β}
    {error : StreamError}
    (fails : errorOf outcome.1 = some error) :
    outcome = (.error error, outcome.2) := by
  obtain ⟨result, next⟩ := outcome
  cases result with
  | ok =>
      cases fails
  | error cause =>
      cases fails
      rfl

/-- The stream error that a write or a close came to. -/
def WriterAnswer.error? : WriterAnswer → Option StreamError
  | .chunkWritten (.error error) | .written (.error (.wrapped error)) | .closed (.error error) =>
      some error
  | _ =>
      none

/-- The stream error that a request for data, a close or a reset came to. -/
def WriterReply.error?
    {σ : Type} :
    WriterReply σ → Option StreamError
  | .answered answer =>
      answer.error?
  | .handedBack result =>
      errorOf result
  | _ =>
      none

@[simp]
theorem WriterAnswer.error?_chunkWritten
    (result : Except StreamError Nat) :
    (chunkWritten result).error? = errorOf result := by
  cases result <;> rfl

@[simp]
theorem WriterAnswer.error?_written
    (result : Except StreamError Nat) :
    (written (result.mapError .wrapped)).error? = errorOf result := by
  cases result <;> rfl

@[simp]
theorem WriterAnswer.error?_closed
    (result : Except StreamError Unit) :
    (closed result).error? = errorOf result := by
  cases result <;> rfl

/-- What a writer shows of itself. -/
structure WriterView (σ ε : Type) where
  sink : σ
  engine : ε
  parameters : ParameterSet
  counters : Counters
  checksum : UInt32
  closed : Bool

namespace Writer

variable {σ ε : Type}

/-- What can be seen of a writer. -/
def view
    (writer : Writer σ ε) :
    WriterView σ ε where
  sink := writer.sink
  engine := writer.engine
  parameters := writer.parameters
  counters := writer.counters
  checksum := writer.crc.value
  closed := writer.isClosed

/-- A writer that has just been built, under the options of another. -/
def rebuilt
    (writer : Writer σ (MemberEngine encoders))
    (sink : σ) :
    Writer σ (MemberEngine encoders) where
  sink := sink
  engine := {}
  overrides := writer.overrides
  staged := writer.staged

/-- A session starts if one has started under the same options. -/
theorem startSession_of_started
    {first second started : Writer σ (MemberEngine encoders)}
    (same : SameOptions second first)
    (starts : Started first started)
    (scope : Scope) :
    ∃ other, second.startSession scope = (.ok (), other) := by
  have answer := MemberEngine.start_of_start starts.engine second.engine
  unfold startSession
  dsimp only
  rw [same.resolve, answer]
  exact ⟨_, rfl⟩

/-- A session that starts is that of a writer just built, behind what has been recorded. -/
theorem started_eq_behind
    {writer started : Writer σ (MemberEngine encoders)}
    {scope : Scope}
    (unfailed : writer.failure = none)
    (starts : writer.startSession scope = (.ok (), started))
    (sink : σ) :
    { started with sink := sink } =
      ((writer.rebuilt sink).startSession scope).2.behind writer.trace := by
  unfold startSession at starts ⊢
  dsimp only at starts ⊢
  split at starts
  · cases starts
  · rename_i engine answer
    cases starts
    have again : EngineCalls.start (writer.rebuilt sink).engine
        ((writer.rebuilt sink).staged.resolve (writer.rebuilt sink).overrides) = _ :=
      MemberEngine.start_of_start answer {}
    rw [again]
    dsimp only [behind, report, rebuilt]
    rw [unfailed, ← Trace.record_append]
    rfl

variable [Sink σ] [Engine ε]

/-- Serve a request. -/
def serve
    (writer : Writer σ ε) :
    WriterRequest σ →
    WriterReply σ × Writer σ ε
  | .call call =>
      let (answer, next) := writer.perform call
      (.answered answer, next)
  | .apply options =>
      let (result, next) := writer.apply options
      (.applied result, next)
  | .override overrides =>
      (.done, { writer with overrides := overrides })
  | .alter change =>
      (.done, { writer with sink := change writer.sink })
  | .reset sink =>
      let (result, next) := writer.reset sink
      (.handedBack result, next)
  | .finish =>
      let (result, next) := writer.finish
      (.handedBack result, next)

theorem serve_write
    {call : WriterCall}
    {bytes : Bytes}
    (writes : call = .writeChunk bytes ∨ call = .write bytes)
    (writer : Writer σ ε) :
    (writer.serve (.call call)).1.error? = errorOf (writer.writeChunk bytes).1 ∧
      (writer.serve (.call call)).2 = (writer.writeChunk bytes).2 := by
  rcases writes with rfl | rfl
  · exact ⟨WriterAnswer.error?_chunkWritten _, rfl⟩
  · exact ⟨WriterAnswer.error?_written _, rfl⟩

/-- A request to close fails with what closing fails with, whether or not it takes the sink. -/
theorem serve_close
    {request : WriterRequest σ}
    (closes : request = .call .close ∨ request = .finish)
    (writer : Writer σ ε) :
    (writer.serve request).1.error? = errorOf writer.close.1 ∧
      (writer.serve request).2 = writer.close.2 := by
  rcases closes with rfl | rfl
  · exact ⟨WriterAnswer.error?_closed _, rfl⟩
  · change errorOf writer.finish.1 = _ ∧ writer.finish.2 = _
    rw [finish_eq]
    exact ⟨errorOf_map _ _, rfl⟩

/-- Everything that a request can come to: what it fails with, and the writer behind it. -/
inductive Served
    (writer : Writer σ ε) :
    WriterRequest σ →
    Option StreamError →
    Writer σ ε →
    Prop where
  /-- Both kinds of write take one chunk. -/
  | wrote
      {call : WriterCall}
      {bytes : Bytes}
      (writes : call = .writeChunk bytes ∨ call = .write bytes) :
      Served writer (.call call) (errorOf (writer.writeChunk bytes).1)
        (writer.writeChunk bytes).2
  /-- A flush goes to the sink alone, and its failure is no failure of the stream. -/
  | flushed
      {sink : σ}
      (flushes : writer.flush.2 = { writer with sink := sink }) :
      Served writer (.call .flush) none { writer with sink := sink }
  /-- Both ways to close come to one close. -/
  | closed
      {request : WriterRequest σ}
      (closes : request = .call .close ∨ request = .finish) :
      Served writer request (errorOf writer.close.1) writer.close.2
  | applied
      (options : List StreamOption) :
      Served writer (.apply options) none (writer.apply options).2
  | overridden
      (overrides : Overrides) :
      Served writer (.override overrides) none { writer with overrides := overrides }
  | altered
      (change : σ → σ) :
      Served writer (.alter change) none { writer with sink := change writer.sink }
  | reset
      (sink : σ) :
      Served writer (.reset sink) (errorOf (writer.reset sink).1) (writer.reset sink).2

/-- Every request comes to one of the cases. -/
theorem served_serve
    (writer : Writer σ ε)
    (request : WriterRequest σ) :
    Served writer request (writer.serve request).1.error? (writer.serve request).2 := by
  have wrote {call : WriterCall} {bytes : Bytes}
      (writes : call = .writeChunk bytes ∨ call = .write bytes) :
      Served writer (.call call) (writer.serve (.call call)).1.error?
        (writer.serve (.call call)).2 := by
    obtain ⟨answer, next⟩ := serve_write writes writer
    rw [answer, next]
    exact .wrote writes
  have closed {request : WriterRequest σ} (closes : request = .call .close ∨ request = .finish) :
      Served writer request (writer.serve request).1.error? (writer.serve request).2 := by
    obtain ⟨answer, next⟩ := serve_close closes writer
    rw [answer, next]
    exact .closed closes
  cases request with
  | call call =>
      cases call with
      | writeChunk bytes =>
          exact wrote (.inl rfl)
      | write bytes =>
          exact wrote (.inr rfl)
      | flush =>
          obtain ⟨sink, flushes⟩ :
              ∃ sink, writer.flush.2 = { writer with sink := sink } := by
            unfold flush
            split <;> exact ⟨_, rfl⟩
          change Served writer _ none writer.flush.2
          rw [flushes]
          exact .flushed flushes
      | close =>
          exact closed (.inl rfl)
  | apply options =>
      exact .applied options
  | override overrides =>
      exact .overridden overrides
  | alter change =>
      exact .altered change
  | reset sink =>
      exact .reset sink
  | finish =>
      exact closed (.inr rfl)

/-- The writer after some requests. -/
def serveEach
    (writer : Writer σ ε) :
    List (WriterRequest σ) →
    Writer σ ε
  | [] =>
      writer
  | request :: rest =>
      (writer.serve request).2.serveEach rest

/-- Requests in two parts are served part by part. -/
theorem serveEach_append
    (writer : Writer σ ε)
    (first second : List (WriterRequest σ)) :
    writer.serveEach (first ++ second) = (writer.serveEach first).serveEach second := by
  induction first generalizing writer with
  | nil =>
      rfl
  | cons request rest ih =>
      exact ih (writer.serve request).2

/-- What each of some requests keeps holds when all of them have been served. -/
theorem serveEach_keeps
    {motive : Writer σ ε → Prop}
    {requests : List (WriterRequest σ)}
    (keeps :
      ∀ (writer : Writer σ ε) (request : WriterRequest σ),
        request ∈ requests → motive writer → motive (writer.serve request).2)
    {writer : Writer σ ε}
    (holds : motive writer) :
    motive (writer.serveEach requests) := by
  induction requests generalizing writer with
  | nil =>
      exact holds
  | cons request rest ih =>
      have served := keeps writer request List.mem_cons_self holds
      exact ih (fun writer other member =>
        keeps writer other (List.mem_cons_of_mem request member)) served

/-- Serve some requests: every reply, and what can be seen of the writer behind it. -/
def observe
    (writer : Writer σ ε) :
    List (WriterRequest σ) →
    List (WriterReply σ × WriterView σ ε)
  | [] =>
      []
  | request :: rest =>
      let (reply, next) := writer.serve request
      (reply, next.view) :: next.observe rest

/-- A call comes to the same whatever has been recorded before. -/
theorem perform_behind
    (writer : Writer σ ε)
    (past : Trace)
    (call : WriterCall) :
    (writer.behind past).perform call = outcomeBehind (writer.perform call) past := by
  cases call with
  | writeChunk bytes =>
      exact congrArg (fun outcome => (WriterAnswer.chunkWritten outcome.1, outcome.2))
        (writeChunk_behind writer past bytes)
  | write bytes =>
      exact congrArg
        (fun outcome => (WriterAnswer.written (outcome.1.mapError .wrapped), outcome.2))
        (writeChunk_behind writer past bytes)
  | flush =>
      exact congrArg (fun outcome => (WriterAnswer.flushed outcome.1, outcome.2))
        (flush_behind writer past)
  | close =>
      exact congrArg (fun outcome => (WriterAnswer.closed outcome.1, outcome.2))
        (close_behind writer past)

/-- A request is served alike whatever has been recorded before. -/
theorem serve_behind
    (writer : Writer σ ε)
    (past : Trace)
    (request : WriterRequest σ) :
    (writer.behind past).serve request = outcomeBehind (writer.serve request) past := by
  cases request with
  | call call =>
      exact congrArg (fun outcome => (WriterReply.answered outcome.1, outcome.2))
        (perform_behind writer past call)
  | apply options =>
      rfl
  | override overrides =>
      rfl
  | alter change =>
      rfl
  | reset sink =>
      exact congrArg (fun outcome => (WriterReply.handedBack outcome.1, outcome.2))
        (reset_behind writer past sink)
  | finish =>
      exact congrArg (fun outcome => (WriterReply.handedBack outcome.1, outcome.2))
        (finish_behind writer past)

/-- Nothing can be observed of what has been recorded before. -/
theorem observe_behind
    (writer : Writer σ ε)
    (past : Trace)
    (requests : List (WriterRequest σ)) :
    (writer.behind past).observe requests = writer.observe requests := by
  induction requests generalizing writer with
  | nil =>
      rfl
  | cons request rest ih =>
      unfold observe
      rw [serve_behind]
      exact congrArg (List.cons _) (ih (writer.serve request).2)

/-- Two writers show the same of themselves, and go on doing so whatever is requested of them. -/
structure Alike
    (first second : Writer σ ε) :
    Prop where
  view : first.view = second.view
  observe : ∀ requests, first.observe requests = second.observe requests

/-- Writers that differ in what they have recorded before are alike. -/
theorem alike_behind
    (writer : Writer σ ε)
    (first second : Trace) :
    Alike (writer.behind first) (writer.behind second) where
  view := rfl
  observe requests := by
    rw [observe_behind, observe_behind]

/-- A reset that succeeds leaves a writer just built, behind what has been recorded. -/
theorem reset_eq_behind
    {writer renewed : Writer σ (MemberEngine encoders)}
    {sink previous : σ}
    (resets : writer.reset sink = (.ok previous, renewed)) :
    renewed = ((writer.rebuilt sink).startSession []).2.behind writer.cleared.trace := by
  have same := sameOptions_cleared writer
  have rebuilt : writer.cleared.rebuilt sink = writer.rebuilt sink := by
    unfold Writer.rebuilt
    rw [same.overrides, same.staged]
  rw [reset_eq] at resets
  split at resets
  · rename_i started starts
    cases resets
    rw [← rebuilt]
    exact started_eq_behind rfl starts sink
  · cases resets

/-- A writer can be reset if another one can that is under the same options. -/
theorem reset_of_reset
    {first second renewed : Writer σ (MemberEngine encoders)}
    {sink previous : σ}
    (same : SameOptions second first)
    (resets : first.reset sink = (.ok previous, renewed)) :
    ∃ handed other, second.reset sink = (.ok handed, other) := by
  rw [reset_eq] at resets
  split at resets
  · rename_i started starts
    have options := ((sameOptions_cleared second).trans same).trans
      ⟨(sameOptions_cleared first).overrides.symm, (sameOptions_cleared first).staged.symm⟩
    obtain ⟨other, startsOther⟩ :=
      startSession_of_started options (started_of_startSession starts) []
    rw [reset_eq, startsOther]
    exact ⟨_, _, rfl⟩
  · cases resets

/-- Writers under the same options are alike when they have been reset. -/
theorem alike_of_reset
    {first second renewed : Writer σ (MemberEngine encoders)}
    {sink previous : σ}
    (same : SameOptions second first)
    (resets : first.reset sink = (.ok previous, renewed)) :
    ∃ handed other,
      second.reset sink = (.ok handed, other) ∧ Alike renewed other := by
  obtain ⟨handed, other, again⟩ := reset_of_reset same resets
  have rebuilt : second.rebuilt sink = first.rebuilt sink := by
    unfold Writer.rebuilt
    rw [same.overrides, same.staged]
  refine ⟨handed, other, again, ?_⟩
  rw [reset_eq_behind resets, reset_eq_behind again, rebuilt]
  exact alike_behind _ _ _

end Writer

end MemberStream
