import MemberStream.Proofs.Writer.Blaming

namespace MemberStream

/-!
# What a writer makes of a sink that fails

A write or a close that makes a call on the sink which fails ends with that call, and the
error that it answers and keeps is the verdict on it: a sink that takes no more bytes, of
a member or of a placeholder, is a short write, and everything else is passed on as it is.
A flush is passed on as it is even if the sink says that it takes no more bytes.
-/

/-- A sink that takes nothing of some bytes takes no more. -/
theorem Sink.writeAll_of_full
    {σ : Type}
    [Sink σ]
    {sink next : σ}
    {bytes : Bytes}
    (nonempty : bytes ≠ [])
    (full : SinkCalls.write sink bytes = (.ok 0, next)) :
    writeAll sink bytes = (.error exhausted, next) := by
  cases bytes with
  | nil =>
      exact absurd rfl nonempty
  | cons byte rest =>
      rw [writeAll]
      split <;> rename_i answer <;> rw [full] at answer <;> cases answer
      rfl

namespace Writer

variable {σ ε : Type}

/--
Whether an outcome of a writer follows the calls on its sink: no call but the newest has
failed, and if that has, the verdict on it is answered and kept.
-/
def FollowsSink
    {α : Type}
    (writer : Writer (WatchedSink σ) ε)
    (outcome : Except StreamError α × Writer (WatchedSink σ) ε) :
    Prop :=
  ∃ verdict,
    SinkCall.Sends writer.sink.calls outcome.2.sink.calls verdict ∧
      ∀ error,
        verdict = some error → outcome.1 = .error error ∧ outcome.2.failure = some error

theorem followsSink_of_silent
    {α : Type}
    {writer : Writer (WatchedSink σ) ε}
    {outcome : Except StreamError α × Writer (WatchedSink σ) ε}
    (silent : outcome.2.sink = writer.sink) :
    FollowsSink writer outcome := by
  refine ⟨none, ?_, by simp⟩
  rw [silent]
  exact .rest writer.sink.calls

/-- An outcome that leaves its failure explained follows the calls on the sink. -/
theorem followsSink_of_explained
    {α : Type}
    {origin : StreamError → Prop}
    {writer : Writer (WatchedSink σ) ε}
    {outcome : Except StreamError α × Writer (WatchedSink σ) ε}
    (explained : Explained origin writer.sink.calls (errorOf outcome.1) outcome.2) :
    FollowsSink writer outcome := by
  obtain ⟨verdict, sends, fails⟩ := explained.verdict
  refine ⟨verdict, sends, ?_⟩
  intro error same
  have answered := fails error same
  exact ⟨congrArg Prod.fst (eq_error_of_errorOf answered), explained.kept.trans answered⟩

/-- Every failure has some origin. -/
theorem ownFailures_any
    [EngineCalls ε] :
    OwnFailures ε (fun _ => True) where
  start := by simp
  compress := by simp
  close := by simp
  engineFault := by simp
  bufferLimitExceeded := by simp

variable [Sink σ] [Engine ε]

/-- A writer that has been closed, or has failed, leaves its sink and its failure alone. -/
theorem still_of_refusing
    {writer : Writer σ ε}
    (refusing : writer.phase = .closed ∨ writer.failure ≠ none) :
    (∀ bytes, (writer.writeChunk bytes).2 = writer) ∧
      writer.close.2.sink = writer.sink ∧
      writer.close.2.failure = writer.failure := by
  cases kept : writer.failure with
  | some error =>
      have refuses := refuses_of_failure kept
      refine ⟨fun bytes => by rw [refuses.writeChunk bytes], ?_⟩
      rw [refuses.close]
      split
      · exact ⟨rfl, kept⟩
      · obtain ⟨engine, sessionOpen, torn⟩ := teardown_eq writer
        rw [torn]
        exact ⟨rfl, kept⟩
  | none =>
      have phase : writer.phase = .closed := refusing.resolve_right (not_not_intro kept)
      refine ⟨fun bytes => ?_, ?_⟩
      · simp [writeChunk, ready, kept, phase]
      · simp [close, isClosed, kept, phase]

/-- A blank stream whose placeholder cannot be put out is torn down. -/
theorem close_of_unplaced
    (writer : Writer σ ε)
    {failed : Writer σ ε}
    {error : StreamError}
    (readies : writer.ready writer.scope = (.ok (), writer))
    (blank : writer.isBlank = true)
    (places : writer.writePlaceholder (writer.scope ++ ["close"]) = (.error error, failed)) :
    writer.close = failed.teardown.fail (writer.scope ++ ["close"]) error := by
  rw [close_of_ready readies, if_pos blank, places]

/-- A blank stream is completed once its sink has taken the placeholder. -/
theorem close_of_placed
    (writer : Writer σ ε)
    {active : Writer σ ε}
    {sink : σ}
    (readies : writer.ready writer.scope = (.ok (), active))
    (blank : active.isBlank = true)
    (places : Sink.writeAll active.sink active.effective.placeholder = (.ok (), sink)) :
    ∃ trace,
      writer.close =
        { active with sink := sink, trace := trace, wroteOutput := true }.complete
          (writer.scope ++ ["close"]) := by
  rw [close_of_ready readies, if_pos blank, writePlaceholder, places]
  exact ⟨_, rfl⟩

/--
Whatever a write or a close of a writer makes its sink answer, no call but the newest one
fails, and if that has failed, the verdict on it is what the write or the close answers and
what the writer keeps.
-/
theorem followsSink_of_calls
    (writer : Writer (WatchedSink σ) ε) :
    (∀ bytes, FollowsSink writer (writer.writeChunk bytes)) ∧
      FollowsSink writer writer.close := by
  by_cases refusing : writer.phase = .closed ∨ writer.failure ≠ none
  · obtain ⟨writes, closes, -⟩ := still_of_refusing refusing
    exact ⟨fun bytes => followsSink_of_silent (congrArg Writer.sink (writes bytes)),
      followsSink_of_silent closes⟩
  · obtain ⟨unclosed, unfailed⟩ := not_or.mp refusing
    have unfailed : writer.failure = none := not_not.mp unfailed
    constructor
    · intro bytes
      exact followsSink_of_explained
        (explained_writeChunk ownFailures_any writer unfailed unclosed bytes)
    · exact followsSink_of_explained (explained_close ownFailures_any writer unfailed unclosed)

/--
The law holds of a writer whose sink takes nothing of a placeholder, and of one whose sink
takes no more bytes when it is flushed: the former is a short write, the latter is not.
-/
theorem followsSink_of_calls_full :
    let refusing : Writer (WatchedSink ScriptedSink) ScriptedEngine :=
      { sink := { sink := { room := some 0 } }
        engine := { active := true, starts := 1 }
        phase := .active
        sessionOpen := true }
    let blocked : Writer (WatchedSink ScriptedSink) ScriptedEngine :=
      { sink := { sink := { flushFailure := some (.plain .writeZero) } }
        engine := { active := true, starts := 1 }
        phase := .active
        sessionOpen := true
        wroteOutput := true }
    refusing.close.2.sink.calls = [.write refusing.effective.placeholder (.ok 0)] ∧
      refusing.close.1 = .error .shortWrite ∧
      refusing.close.2.failure = some .shortWrite ∧
      blocked.close.2.sink.calls = [.flush (.error (.plain .writeZero))] ∧
      blocked.close.1 = .error (.transport .writeZero "write zero") ∧
      blocked.close.2.failure = some (.transport .writeZero "write zero") := by
  intro refusing blocked
  have placed :
      refusing.close.2.sink.calls = [.write refusing.effective.placeholder (.ok 0)] := by
    have full : Sink.writeAll refusing.sink refusing.effective.placeholder = _ :=
      Sink.writeAll_of_full (by decide) rfl
    rw [close_of_unplaced refusing rfl rfl (by rw [writePlaceholder, full]; rfl)]
    rfl
  have flushed : blocked.close.2.sink.calls = [.flush (.error (.plain .writeZero))] := by
    have completed : blocked.close = blocked.complete ["close"] :=
      rfl
    rw [completed, complete_eq, flushHeld_nil rfl]
    rfl
  obtain ⟨short, sends, shortens⟩ := (followsSink_of_calls refusing).2
  obtain ⟨whole, ends, passes⟩ := (followsSink_of_calls blocked).2
  rw [placed] at sends
  rw [flushed] at ends
  obtain ⟨answered, kept⟩ := shortens .shortWrite (sends.verdict_eq [])
  obtain ⟨passed, held⟩ := passes (.transport .writeZero "write zero")
    (ends.verdict_eq [])
  exact ⟨placed, answered, kept, flushed, passed, held⟩

end Writer

end MemberStream
