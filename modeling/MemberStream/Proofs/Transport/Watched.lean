import MemberStream.Transport.Sink

namespace MemberStream

/-!
# Watched sinks

A watched sink answers as the sink inside it and keeps every call with its answer, newest
first.  Some calls in a row have gone well but for the newest of them, or have all gone
well: no writer goes on with a sink that has failed.
-/

/-- One call on a sink and its answer. -/
inductive SinkCall
  | write (bytes : Bytes) (answer : Except TransportError Nat)
  | flush (answer : Except TransportError Unit)

namespace SinkCall

/--
The failure that a call came to: a write that takes nothing has failed, and one that is
interrupted has not, as it is tried again.
-/
def fault? : SinkCall → Option TransportError
  | .write _ (.ok 0) =>
      some Sink.exhausted
  | .write _ (.ok (_ + 1)) | .flush (.ok ()) =>
      none
  | .write _ (.error error) =>
      if error.kind = .interrupted then none else some error
  | .flush (.error error) =>
      some error

/--
The stream error that the failure of a call stands for: a sink that takes no more bytes
is a short write, unless it is only flushed.
-/
def verdict? : SinkCall → Option StreamError
  | .write bytes answer =>
      (fault? (.write bytes answer)).map (fun fault =>
        if fault.kind = .writeZero then .shortWrite else .ofTransport fault)
  | .flush answer =>
      (fault? (.flush answer)).map .ofTransport

theorem verdict?_write_interrupted
    {error : TransportError}
    (interrupted : error.kind = .interrupted)
    (bytes : Bytes) :
    (write bytes (.error error)).verdict? = none := by
  simp [verdict?, fault?, interrupted]

/-- Any other write that fails is passed on, or a short write. -/
theorem verdict?_write_error
    {error : TransportError}
    (terminal : error.kind ≠ .interrupted)
    (bytes : Bytes) :
    (write bytes (.error error)).verdict? = some (.ofSink error) := by
  simp [verdict?, fault?, terminal, StreamError.ofSink]

end SinkCall

/-- A sink together with the calls made on it, newest first. -/
structure WatchedSink (σ : Type) where
  sink : σ
  calls : List SinkCall := []

namespace WatchedSink

variable {σ : Type}

/-- Each call goes to the sink inside and is kept with its answer. -/
instance [inner : SinkCalls σ] : SinkCalls (WatchedSink σ) where
  write watched bytes :=
    let (answer, sink) := inner.write watched.sink bytes
    (answer, ⟨sink, .write bytes answer :: watched.calls⟩)
  flush watched :=
    let (answer, sink) := inner.flush watched.sink
    (answer, ⟨sink, .flush answer :: watched.calls⟩)

/-- A watched sink is interrupted only when the sink inside it is. -/
theorem interrupts_sink
    [SinkCalls σ]
    {next current : WatchedSink σ}
    (interrupted : Interrupts next current) :
    Interrupts next.sink current.sink := by
  obtain ⟨bytes, error, kind, answer⟩ := interrupted
  simp only [SinkCalls.write, Prod.mk.injEq] at answer
  obtain ⟨failed, rfl⟩ := answer
  exact ⟨bytes, error, kind, Prod.ext failed rfl⟩

instance [inner : Sink σ] : Sink (WatchedSink σ) where
  accepted_le watched next bytes count answer := by
    simp only [SinkCalls.write, Prod.mk.injEq] at answer
    obtain ⟨accepted, rfl⟩ := answer
    exact inner.accepted_le _ _ _ _ (Prod.ext accepted rfl)
  settles :=
    Subrelation.wf interrupts_sink (InvImage.wf sink inner.settles)

theorem calls_of_write
    [SinkCalls σ]
    {watched next : WatchedSink σ}
    {bytes : Bytes}
    {answer : Except TransportError Nat}
    (writes : SinkCalls.write watched bytes = (answer, next)) :
    next.calls = .write bytes answer :: watched.calls := by
  cases writes
  rfl

end WatchedSink

/--
The calls on a sink have gone on from some earlier ones: without a failure, or with one
of the newest call, and what that stands for.
-/
inductive SinkCall.Sends
    (earlier : List SinkCall) :
    List SinkCall →
    Option StreamError →
    Prop where
  | fine
      {calls : List SinkCall}
      (steady : ∀ call, call ∈ calls → call.verdict? = none) :
      Sends earlier (calls ++ earlier) none
  | failed
      {calls : List SinkCall}
      {call : SinkCall}
      {error : StreamError}
      (steady : ∀ call, call ∈ calls → call.verdict? = none)
      (verdict : call.verdict? = some error) :
      Sends earlier (call :: (calls ++ earlier)) (some error)

namespace SinkCall.Sends

theorem rest
    (earlier : List SinkCall) :
    Sends earlier earlier none :=
  @fine earlier [] (by simp)

/-- One call has failed or not. -/
theorem one
    (earlier : List SinkCall)
    (call : SinkCall) :
    Sends earlier (call :: earlier) call.verdict? := by
  cases verdict : call.verdict? with
  | none =>
      exact @fine earlier [call] (by simpa using verdict)
  | some error =>
      exact @failed earlier [] call error (by simp) verdict

/-- Calls go on from calls that have gone well. -/
theorem trans
    {earlier middle later : List SinkCall}
    {verdict : Option StreamError}
    (before : Sends earlier middle none)
    (after : Sends middle later verdict) :
    Sends earlier later verdict := by
  cases before with
  | @fine old steady =>
      cases after with
      | @fine new also =>
          rw [← List.append_assoc]
          exact .fine (List.forall_mem_append.mpr ⟨also, steady⟩)
      | @failed new call error also verdict =>
          rw [← List.append_assoc]
          exact .failed (List.forall_mem_append.mpr ⟨also, steady⟩) verdict

/-- What calls have come to is the verdict on the newest of them. -/
theorem verdict_eq
    {earlier : List SinkCall}
    (calls : List SinkCall)
    {call : SinkCall}
    {verdict : Option StreamError}
    (sends : Sends earlier (call :: (calls ++ earlier)) verdict) :
    verdict = call.verdict? := by
  generalize same : call :: (calls ++ earlier) = later at sends
  rw [← List.cons_append] at same
  cases sends with
  | fine steady =>
      obtain rfl := List.append_cancel_right same
      exact (steady call List.mem_cons_self).symm
  | failed steady verdict =>
      rw [← List.cons_append] at same
      cases List.append_cancel_right same
      exact verdict.symm

/-- A failure that some calls have come to is the verdict on the newest of them. -/
theorem newest
    {earlier later : List SinkCall}
    {error : StreamError}
    (sends : Sends earlier later (some error)) :
    ∃ call calls, later = call :: (calls ++ earlier) ∧ call.verdict? = some error := by
  cases sends with
  | failed steady verdict =>
      exact ⟨_, _, rfl, verdict⟩

end SinkCall.Sends

/-- Writing a string makes calls that go well, or fails with the verdict on the newest. -/
theorem WatchedSink.sends_writeAll
    {σ : Type}
    [Sink σ]
    (watched : WatchedSink σ)
    (bytes : Bytes) :
    SinkCall.Sends watched.calls (Sink.writeAll watched bytes).2.calls
      (match (Sink.writeAll watched bytes).1 with
        | .ok () => none
        | .error error => some (.ofSink error)) := by
  fun_induction Sink.writeAll watched bytes with
  | case1 watched =>
      exact .rest watched.calls
  | case2 watched byte rest next answer =>
      rw [calls_of_write answer]
      exact .one watched.calls (.write (byte :: rest) (.ok 0))
  | case3 watched byte rest count next answer ih =>
      have once := SinkCall.Sends.one watched.calls (.write (byte :: rest) (.ok (count + 1)))
      rw [← calls_of_write answer] at once
      exact once.trans ih
  | case4 watched byte rest error next answer interrupted ih =>
      have once := SinkCall.Sends.one watched.calls (.write (byte :: rest) (.error error))
      rw [← calls_of_write answer, SinkCall.verdict?_write_interrupted interrupted] at once
      exact once.trans ih
  | case5 watched byte rest error next answer terminal =>
      have once := SinkCall.Sends.one watched.calls (.write (byte :: rest) (.error error))
      rwa [← calls_of_write answer, SinkCall.verdict?_write_error terminal] at once

/-- A flush is one call that goes well, or fails as the sink says. -/
theorem WatchedSink.sends_flush
    {σ : Type}
    [SinkCalls σ]
    (watched : WatchedSink σ) :
    SinkCall.Sends watched.calls (SinkCalls.flush watched).2.calls
      (match (SinkCalls.flush watched).1 with
        | .ok () => none
        | .error error => some (.ofTransport error)) := by
  have calls :
      (SinkCalls.flush watched).2.calls = .flush (SinkCalls.flush watched).1 :: watched.calls :=
    rfl
  rw [calls]
  cases (SinkCalls.flush watched).1 with
  | ok =>
      exact .one watched.calls (.flush (.ok ()))
  | error error =>
      exact .one watched.calls (.flush (.error error))

end MemberStream
