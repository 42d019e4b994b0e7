import MemberStream.Proofs.Engine.Answers
import MemberStream.Proofs.Writer.Slicing
import MemberStream.Proofs.Writer.Verdicts

namespace MemberStream

/-!
# Writes that are tried again

Writing a whole string through the byte-stream interface tries a write again that has
failed as interrupted.  A writer that has kept such a failure answers with it for ever.  It
comes to that through its sink only: a flush that is interrupted while the writer is being
closed is kept, although an interrupted write never is.
-/

variable {encoders : Encoders}

theorem CodecError.transportKind_ne_interrupted
    (error : CodecError) :
    error.toStreamError.transportKind ≠ .interrupted := by
  unfold toStreamError
  split <;> simp [StreamError.transportKind]

/-- With a member engine, no failure counts as interrupted that the sink has no part in. -/
theorem MemberEngine.ownFailures :
    OwnFailures (MemberEngine encoders) (fun error => error.transportKind ≠ .interrupted) where
  start engine next parameters error answer := by
    obtain ⟨cause, rfl⟩ := (codec_of_start answer).1 error rfl
    exact cause.transportKind_ne_interrupted
  compress engine next input filled capacity error answer := by
    cases (fails_of_compress answer).1 error rfl with
    | codec cause =>
        exact cause.transportKind_ne_interrupted
    | _ =>
        simp [StreamError.transportKind]
  close engine next error answer := by
    rw [(unstarted_of_close answer).1 error rfl]
    simp [StreamError.transportKind]
  engineFault text := by
    simp [StreamError.transportKind]
  bufferLimitExceeded wanted limit := by
    simp [StreamError.transportKind]

/--
The calls on a sink that can come to a failure that counts as interrupted: a flush, and a
write whose failure hides one behind a kind of its own.
-/
theorem SinkCall.interrupted_of_verdict
    {call : SinkCall}
    {error : StreamError}
    (verdict : call.verdict? = some error)
    (interrupted : error.transportKind = .interrupted) :
    (∃ cause, call = .flush (.error cause)) ∨
      ∃ bytes kind, call = .write bytes (.error (.enclosing kind error)) := by
  cases call with
  | flush answer =>
      cases answer with
      | ok =>
          cases verdict
      | error cause =>
          exact .inl ⟨cause, rfl⟩
  | write bytes answer =>
      right
      cases answer with
      | ok count =>
          cases count with
          | zero =>
              cases verdict
              cases interrupted
          | succ count =>
              cases verdict
      | error cause =>
          by_cases again : cause.kind = .interrupted
          · rw [verdict?_write_interrupted again] at verdict
            cases verdict
          · rw [verdict?_write_error again] at verdict
            cases verdict
            unfold StreamError.ofSink at interrupted ⊢
            split at interrupted
            · cases interrupted
            · rename_i open_
              rw [if_neg open_]
              cases cause with
              | enclosing kind inner =>
                  exact ⟨bytes, kind, rfl⟩
              | plain kind | worded kind text | wrapped inner =>
                  exact absurd interrupted again

/-- Whether a request writes or closes. -/
def WriterRequest.passesData
    {σ : Type} :
    WriterRequest σ → Bool
  | .call (.writeChunk _) | .call (.write _) | .call .close | .finish =>
      true
  | _ =>
      false

/-- A request that passes data writes or closes, in one of two forms. -/
theorem WriterRequest.writes_or_closes
    {σ : Type}
    {request : WriterRequest σ}
    (passes : request.passesData = true) :
    (∃ call bytes,
        (call = WriterCall.writeChunk bytes ∨ call = .write bytes) ∧ request = .call call) ∨
      request = .call .close ∨ request = .finish := by
  cases request with
  | call call =>
      cases call with
      | writeChunk bytes =>
          exact .inl ⟨_, bytes, .inl rfl, rfl⟩
      | write bytes =>
          exact .inl ⟨_, bytes, .inr rfl, rfl⟩
      | flush =>
          cases passes
      | close =>
          exact .inr (.inl rfl)
  | finish =>
      exact .inr (.inr rfl)
  | _ =>
      cases passes

namespace Writer

variable {σ ε : Type}

/-- Whether a writer has kept a failure that counts as interrupted. -/
def Interrupted
    (writer : Writer σ ε) :
    Prop :=
  ∃ error, writer.failure = some error ∧ error.transportKind = .interrupted

variable [Sink σ] [Engine ε]

section Counting

/-- A submission that succeeds has consumed all of its input. -/
theorem count_of_submit
    {writer next : Writer σ ε}
    {scope : Scope}
    {offset count : Nat}
    {input : Bytes}
    (submits : writer.submit scope offset input = (.ok count, next)) :
    count = offset + input.length ∧ next.failure = writer.failure := by
  have counts : ∀ count, (writer.submit scope offset input).1 = .ok count →
      count = offset + input.length := by
    apply submit_induction
      (motive := fun _ offset input outcome =>
        ∀ count, outcome.1 = .ok count → count = offset + input.length)
    case finish =>
      rintro writer offset count ⟨⟩
      rfl
    case advance =>
      intro writer next offset consumed input outcome more advance later count same
      have within := Submission.le_of_advance advance
      have total := later count same
      rw [List.length_drop] at total
      omega
    case halt =>
      rintro writer failed offset input error more halt count ⟨⟩
  have kept := (sameSession_submit writer scope offset input).2
  rw [submits] at counts kept
  exact ⟨counts count rfl, kept⟩

/-- A writer that has taken a buffer counts all of it, and has not failed. -/
theorem count_of_stage
    {writer next : Writer σ ε}
    {scope : Scope}
    {count : Nat}
    {bytes : Bytes}
    (unfailed : writer.failure = none)
    (stages : writer.stage scope bytes = (.ok count, next)) :
    count = bytes.length ∧ next.failure = none := by
  have flushed {flushed : Writer σ ε} (flushes : writer.flushHeld scope = (.ok (), flushed)) :
      flushed.failure = none := by
    obtain ⟨held, submits⟩ := submitted_of_flushHeld flushes
    exact (count_of_submit submits).2.trans unfailed
  have comes := stages_stage writer scope bytes
  rw [stages] at comes
  cases comes with
  | held flushes holds =>
      have still := flushed flushes
      exact ⟨rfl, still⟩
  | cut flushes _ _ whole submits =>
      have still := flushed flushes
      obtain ⟨total, kept⟩ := count_of_submit submits
      refine ⟨?_, kept.trans still⟩
      rw [← whole, List.length_append, total, Nat.zero_add]

/-- A write that succeeds has taken the whole buffer, and the writer has not failed. -/
theorem count_of_writeChunk
    {writer next : Writer σ ε}
    {count : Nat}
    {bytes : Bytes}
    (writes : writer.writeChunk bytes = (.ok count, next)) :
    count = bytes.length ∧ next.failure = none := by
  have comes := writes_writeChunk writer bytes
  rw [writes] at comes
  cases comes with
  | unready refused same =>
      cases same
  | staged readied stages =>
      exact count_of_stage readied.open.2.1 stages.symm

end Counting

/-- A write that fails has kept the reason, or nothing at all. -/
theorem failure_of_writeChunk
    {writer failed : Writer σ ε}
    {bytes : Bytes}
    {error : StreamError}
    (writes : writer.writeChunk bytes = (.error error, failed)) :
    failed.failure = none ∨ failed.failure = some error := by
  by_cases unclosed : writer.phase = .closed
  · have still := (still_of_refusing (.inl unclosed)).1 bytes
    cases kept : writer.failure with
    | none =>
        rw [writes] at still
        exact .inl ((congrArg Writer.failure still).trans kept)
    | some other =>
        rw [(refuses_of_failure kept).writeChunk bytes] at writes
        cases writes
        exact .inr kept
  · exact .inr (kept_of_writeChunk writes (.inr unclosed)).1

/-- Writing some bytes begins with a write of all of them. -/
theorem writeAll?_succ
    (writer : Writer σ ε)
    {bytes : Bytes}
    (nonempty : bytes ≠ [])
    (attempts : Nat) :
    writer.writeAll? (attempts + 1) bytes =
      match writer.write bytes with
      | (.ok 0, next) =>
          (some (.error Sink.exhausted), next)
      | (.ok count, next) =>
          next.writeAll? attempts (bytes.drop count)
      | (.error error, next) =>
          if error.kind = .interrupted then
            next.writeAll? attempts bytes
          else
            (some (.error error), next) := by
  cases bytes with
  | nil =>
      exact absurd rfl nonempty
  | cons byte rest =>
      rfl

/-- A writer that has kept an interruption is never done with some bytes. -/
theorem writeAll?_of_interrupted
    {writer : Writer σ ε}
    {bytes : Bytes}
    (interrupted : writer.Interrupted)
    (nonempty : bytes ≠ [])
    (attempts : Nat) :
    writer.writeAll? attempts bytes = (none, writer) := by
  obtain ⟨error, kept, kind⟩ := interrupted
  induction attempts with
  | zero =>
      cases bytes with
      | nil =>
          exact absurd rfl nonempty
      | cons byte rest =>
          rfl
  | succ attempts ih =>
      rw [writeAll?_succ writer nonempty, (refuses_of_failure kept).write bytes]
      exact (if_pos kind).trans ih

/--
Writing some bytes ends exactly if the first write does not leave an interruption behind.
-/
theorem writeAll?_isSome_iff
    (writer : Writer σ ε)
    {bytes : Bytes}
    (nonempty : bytes ≠ []) :
    (∃ attempts result, (writer.writeAll? attempts bytes).1 = some result) ↔
      ¬ (writer.writeChunk bytes).2.Interrupted := by
  have writes : writer.write bytes =
      ((writer.writeChunk bytes).1.mapError .wrapped, (writer.writeChunk bytes).2) :=
    rfl
  cases outcome : writer.writeChunk bytes with
  | mk result next =>
      rw [outcome] at writes
      cases result with
      | ok count =>
          obtain ⟨rfl, unfailed⟩ := count_of_writeChunk outcome
          obtain ⟨more, length⟩ :=
            Nat.exists_eq_add_one.mpr (List.length_pos_iff.mpr nonempty)
          refine iff_of_true ⟨1, .ok (), ?_⟩ ?_
          · rw [writeAll?_succ writer nonempty, writes, length]
            change (next.writeAll? 0 (bytes.drop (more + 1))).1 = _
            rw [← length, List.drop_length]
            rfl
          · simp [Interrupted, unfailed]
      | error error =>
          by_cases kind : error.transportKind = .interrupted
          · have terminal : error ≠ .alreadyClosed := by
              rintro rfl
              cases kind
            have interrupted : next.Interrupted :=
              ⟨error, (kept_of_writeChunk outcome (.inl terminal)).1, kind⟩
            refine iff_of_false ?_ (not_not_intro interrupted)
            rintro ⟨attempts, result, ends⟩
            cases attempts with
            | zero =>
                cases bytes with
                | nil =>
                    exact nonempty rfl
                | cons byte rest =>
                    cases ends
            | succ attempts =>
                have again := writeAll?_of_interrupted interrupted nonempty attempts
                rw [writeAll?_succ writer nonempty, writes] at ends
                change (ite (error.transportKind = _) _ _ : Option _ × Writer σ ε).1 = _ at ends
                rw [if_pos kind, again] at ends
                cases ends
          · refine iff_of_true ⟨1, .error (.wrapped error), ?_⟩ ?_
            · rw [writeAll?_succ writer nonempty, writes]
              exact congrArg Prod.fst (if_neg kind)
            · rintro ⟨other, kept, interrupted⟩
              rcases failure_of_writeChunk outcome with none | same
              · rw [none] at kept
                cases kept
              · rw [same] at kept
                cases kept
                exact kind interrupted

/-- Whether a write or a close fails of a call on the sink with what counts as interrupted. -/
def InterruptedBy
    (writer : Writer (WatchedSink σ) ε)
    (request : WriterRequest (WatchedSink σ)) :
    Prop :=
  request.passesData = true ∧
    ∃ call calls error,
      (writer.serve request).2.sink.calls = call :: (calls ++ writer.sink.calls) ∧
        call.verdict? = some error ∧ error.transportKind = .interrupted

/-- Whether any of some requests is interrupted so, and the writer is not reset after it. -/
def InterruptedIn
    (writer : Writer (WatchedSink σ) ε)
    (requests : List (WriterRequest (WatchedSink σ))) :
    Prop :=
  ∃ before request after,
    requests = before ++ request :: after ∧
      (∀ later, later ∈ after → later.isReset = false) ∧
      (writer.serveEach before).InterruptedBy request

/-- Some requests are interrupted in the first one, or in one of the rest. -/
theorem interruptedIn_cons
    (writer : Writer (WatchedSink σ) ε)
    (request : WriterRequest (WatchedSink σ))
    (rest : List (WriterRequest (WatchedSink σ))) :
    writer.InterruptedIn (request :: rest) ↔
      (writer.serve request).2.InterruptedIn rest ∨
        (∀ later, later ∈ rest → later.isReset = false) ∧ writer.InterruptedBy request := by
  constructor
  · rintro ⟨before, other, after, place, noReset, interrupted⟩
    cases before with
    | nil =>
        cases place
        exact .inr ⟨noReset, interrupted⟩
    | cons first before =>
        cases place
        exact .inl ⟨before, other, after, rfl, noReset, interrupted⟩
  · rintro (⟨before, other, after, rfl, noReset, interrupted⟩ | ⟨noReset, interrupted⟩)
    · exact ⟨request :: before, other, after, rfl, noReset, interrupted⟩
    · exact ⟨[], request, rest, rfl, noReset, interrupted⟩

theorem not_interruptedBy_of_sends
    {writer : Writer (WatchedSink σ) ε}
    {request : WriterRequest (WatchedSink σ)}
    (sends : SinkCall.Sends writer.sink.calls (writer.serve request).2.sink.calls none) :
    ¬ writer.InterruptedBy request := by
  rintro ⟨-, call, calls, error, newest, verdict, -⟩
  rw [newest] at sends
  cases (sends.verdict_eq _).trans verdict

/--
A write or a close that is explained leaves an interruption exactly if the sink was its
cause.
-/
theorem interrupted_of_explained
    {writer : Writer (WatchedSink σ) ε}
    {request : WriterRequest (WatchedSink σ)}
    {error? : Option StreamError}
    (passes : request.passesData = true)
    (explained :
      Explained (fun error => error.transportKind ≠ .interrupted) writer.sink.calls error?
        (writer.serve request).2) :
    (writer.serve request).2.Interrupted ↔ writer.InterruptedBy request := by
  generalize served : (writer.serve request).2 = next at explained
  cases explained with
  | fine unfailed sends =>
      rw [← served] at sends
      refine iff_of_false ?_ (not_interruptedBy_of_sends sends)
      simp [Interrupted, unfailed]
  | other kept sends covered =>
      rw [← served] at sends
      refine iff_of_false ?_ (not_interruptedBy_of_sends sends)
      rintro ⟨error, same, interrupted⟩
      rw [kept] at same
      cases same
      exact covered interrupted
  | @sink error next kept sends =>
      constructor
      · rintro ⟨other, same, interrupted⟩
        rw [kept] at same
        cases same
        obtain ⟨call, calls, newest, verdict⟩ := sends.newest
        exact ⟨passes, call, calls, error, by rw [served, newest], verdict, interrupted⟩
      · rintro ⟨-, call, calls, other, newest, verdict, interrupted⟩
        rw [served] at newest
        rw [newest] at sends
        cases (sends.verdict_eq _).trans verdict
        exact ⟨error, kept, interrupted⟩

/-- A write or a close keeps an interruption, or is interrupted itself. -/
theorem interrupted_of_passesData
    {writer : Writer (WatchedSink σ) (MemberEngine encoders)}
    {request : WriterRequest (WatchedSink σ)}
    (passes : request.passesData = true) :
    (writer.serve request).2.Interrupted ↔
      writer.InterruptedBy request ∨ writer.Interrupted := by
  have shape := WriterRequest.writes_or_closes passes
  by_cases refusing : writer.phase = .closed ∨ writer.failure ≠ none
  · obtain ⟨writes, sink, failure⟩ := still_of_refusing refusing
    have still : (writer.serve request).2.sink = writer.sink ∧
        (writer.serve request).2.failure = writer.failure := by
      rcases shape with ⟨call, bytes, either, rfl⟩ | closes
      · rw [(serve_write either writer).2, writes bytes]
        exact ⟨rfl, rfl⟩
      · rw [(serve_close closes writer).2]
        exact ⟨sink, failure⟩
    have silent : ¬ writer.InterruptedBy request := by
      apply not_interruptedBy_of_sends
      rw [still.1]
      exact .rest writer.sink.calls
    simp only [Interrupted, still.2, silent, false_or]
  · obtain ⟨unclosed, unfailed⟩ := not_or.mp refusing
    have unfailed : writer.failure = none := not_not.mp unfailed
    have unkept : ¬ writer.Interrupted := by
      simp [Interrupted, unfailed]
    have caused : (writer.serve request).2.Interrupted ↔ writer.InterruptedBy request := by
      rcases shape with ⟨call, bytes, either, rfl⟩ | closes
      · have explained := explained_writeChunk MemberEngine.ownFailures writer unfailed
          unclosed bytes
        rw [← (serve_write either writer).2] at explained
        exact interrupted_of_explained passes explained
      · have explained := explained_close MemberEngine.ownFailures writer unfailed unclosed
        rw [← (serve_close closes writer).2] at explained
        exact interrupted_of_explained passes explained
    simp only [caused, unkept, or_false]

/-- A writer has kept an interruption from before, unless it is reset, or is interrupted now. -/
theorem interrupted_serve
    (writer : Writer (WatchedSink σ) (MemberEngine encoders))
    (request : WriterRequest (WatchedSink σ)) :
    (writer.serve request).2.Interrupted ↔
      writer.InterruptedBy request ∨ request.isReset = false ∧ writer.Interrupted := by
  cases passes : request.passesData with
  | true =>
      have noReset : request.isReset = false := by
        cases request <;> first | rfl | cases passes
      simpa [noReset] using interrupted_of_passesData passes
  | false =>
      have unmoved : ¬ writer.InterruptedBy request := by
        simp [InterruptedBy, passes]
      simp only [unmoved, false_or]
      cases request with
      | call call =>
          cases call with
          | flush =>
              have kept : writer.flush.2.failure = writer.failure := by
                unfold flush
                split <;> rfl
              change writer.flush.2.Interrupted ↔ _
              simp [Interrupted, kept, WriterRequest.isReset]
          | _ =>
              cases passes
      | apply options | override overrides | alter change =>
          simp [Interrupted, serve, apply, WriterRequest.isReset]
      | reset sink =>
          refine iff_of_false ?_ (by simp [WriterRequest.isReset])
          change ¬ (writer.reset sink).2.Interrupted
          rw [reset_eq]
          split
          · rename_i started starts
            have unfailed : started.failure = none := (started_of_startSession starts).failure
            simp [Interrupted, unfailed]
          · rename_i error idle starts
            obtain ⟨engine, span, trace, answer, -⟩ := refused_of_startSession starts
            have covered := MemberEngine.ownFailures.start _ _ _ _ answer
            simpa [Interrupted, fail] using covered
      | finish =>
          cases passes

/--
A writer has kept an interruption after some requests exactly if it had before and was not
reset, or was interrupted in one of them and not reset since.
-/
theorem interrupted_serveEach
    (writer : Writer (WatchedSink σ) (MemberEngine encoders))
    (requests : List (WriterRequest (WatchedSink σ))) :
    (writer.serveEach requests).Interrupted ↔
      writer.InterruptedIn requests ∨
        (∀ request, request ∈ requests → request.isReset = false) ∧ writer.Interrupted := by
  induction requests generalizing writer with
  | nil =>
      simp [serveEach, InterruptedIn]
  | cons request rest ih =>
      have later := ih (writer.serve request).2
      rw [interrupted_serve writer request] at later
      rw [interruptedIn_cons, List.forall_mem_cons]
      change ((writer.serve request).2.serveEach rest).Interrupted ↔ _
      rw [later]
      tauto

/--
Writing a string to a writer over a member engine, at whatever point of its life, ends
unless a write or a close has been interrupted since it was built or reset, or the write
itself is.  So the failure that it has kept counts as interrupted just then.  The call on
the sink that interrupts is the flush of a close, unless it is a write whose failure hides
an interruption behind another kind.
-/
theorem writeAll_ends_iff
    {σ : Type}
    [Sink σ]
    (sink : σ)
    (overrides : Overrides)
    (requests : List (WriterRequest (WatchedSink σ))) :
    let built : Writer (WatchedSink σ) (MemberEngine encoders) :=
      { sink := { sink }, engine := {}, overrides }
    let writer := built.serveEach requests
    (writer.Interrupted ↔ built.InterruptedIn requests) ∧
      (∀ bytes,
        (∃ attempts result, (writer.writeAll? attempts bytes).1 = some result) ↔
          bytes = [] ∨ ¬ built.InterruptedIn (requests ++ [.call (.write bytes)])) ∧
      ∀ call error,
        SinkCall.verdict? call = some error →
          error.transportKind = .interrupted →
            (∃ cause, call = .flush (.error cause)) ∨
              ∃ bytes kind, call = .write bytes (.error (.enclosing kind error)) := by
  intro built writer
  have kept (requests : List (WriterRequest (WatchedSink σ))) :
      (built.serveEach requests).Interrupted ↔ built.InterruptedIn requests := by
    have unfailed : ¬ built.Interrupted := by
      simp [Interrupted, built]
    simpa [unfailed] using interrupted_serveEach built requests
  refine ⟨kept requests, ?_, fun _ _ => SinkCall.interrupted_of_verdict⟩
  intro bytes
  by_cases empty : bytes = []
  · subst empty
    exact iff_of_true ⟨0, .ok (), rfl⟩ (.inl rfl)
  · have next : (writer.writeChunk bytes).2 =
        built.serveEach (requests ++ [.call (.write bytes)]) := by
      rw [serveEach_append]
      exact (serve_write (.inr rfl) writer).2.symm
    rw [writeAll?_isSome_iff writer empty, next, kept]
    simp [empty]

/--
The law holds of a writer whose sink interrupts the flush of a close: that is kept, and a
later write of a byte never ends, although the sink has recovered.
-/
theorem writeAll_ends_iff_recovered :
    let built : Writer (WatchedSink ScriptedSink) MemberEngine :=
      { sink := { sink := { flushFailure := some (.plain .interrupted) } }, engine := {} }
    let flushed : SinkCall := .flush (.error (.plain .interrupted))
    let recovered := built.serveEach [.call .close, .alter fun _ => { sink := {} }]
    (built.serve (.call .close)).2.sink.calls =
        [flushed, .write built.effective.placeholder (.ok built.effective.placeholder.length)] ∧
      recovered.Interrupted ∧
      (¬ ∃ attempts result, (recovered.writeAll? attempts [1]).1 = some result) ∧
      ∃ cause, flushed = .flush (.error cause) := by
  intro built flushed recovered
  have calls :
      (built.serve (.call .close)).2.sink.calls =
        [flushed,
          .write built.effective.placeholder (.ok built.effective.placeholder.length)] := by
    obtain ⟨trace, closes⟩ := close_of_placed built rfl rfl
      (Sink.writeAll_of_write (by decide) rfl)
    rw [(serve_close (.inl rfl) built).2, closes, complete_eq, flushHeld_nil rfl]
    rfl
  have interrupted : built.InterruptedBy (.call .close) :=
    ⟨rfl, flushed, [.write _ _], .transport .interrupted "operation interrupted", calls, rfl, rfl⟩
  obtain ⟨kept, ends, cause⟩ :=
    writeAll_ends_iff built.sink.sink {} [.call .close, .alter fun _ => { sink := {} }]
  refine ⟨calls, kept.mpr ⟨[], _, _, rfl, by simp [WriterRequest.isReset], interrupted⟩, ?_, ?_⟩
  · intro ended
    rcases (ends [1]).mp ended with empty | free
    · cases empty
    · exact free ⟨[], _, _, rfl, by simp [WriterRequest.isReset], interrupted⟩
  · rcases cause flushed _ rfl rfl with flushes | ⟨bytes, kind, writes⟩
    · exact flushes
    · simp [flushed] at writes

end Writer

end MemberStream
