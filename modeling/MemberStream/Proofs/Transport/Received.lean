import MemberStream.Transport.Recorded

namespace MemberStream

/-!
# What a recorded sink has received

Writing a whole string adds exactly that string to what a sink has received, or
a part of it from the front if the sink fails on the way.
-/

namespace RecordedSink

variable {σ : Type}

/-- An accepted write adds the bytes that were taken. -/
theorem received_of_write_ok
    [SinkCalls σ]
    {recorded next : RecordedSink σ}
    {bytes : Bytes}
    {count : Nat}
    (answer : SinkCalls.write recorded bytes = (.ok count, next)) :
    next.received = recorded.received ++ bytes.take count := by
  simp only [SinkCalls.write] at answer
  split at answer
  · cases answer
    simp [received]
  · cases answer

/-- A failed write adds nothing. -/
theorem received_of_write_error
    [SinkCalls σ]
    {recorded next : RecordedSink σ}
    {bytes : Bytes}
    {error : TransportError}
    (answer : SinkCalls.write recorded bytes = (.error error, next)) :
    next.received = recorded.received := by
  simp only [SinkCalls.write] at answer
  split at answer
  · cases answer
  · cases answer
    rfl

@[simp]
theorem received_flush
    [SinkCalls σ]
    (recorded : RecordedSink σ) :
    (SinkCalls.flush recorded).2.received = recorded.received := by
  rfl

/-- What happens to a sink while a string is written: a part from the front arrives. -/
theorem received_writeAll
    [Sink σ]
    (recorded : RecordedSink σ)
    (bytes : Bytes) :
    ∃ part rest,
      bytes = part ++ rest ∧
        (Sink.writeAll recorded bytes).2.received = recorded.received ++ part ∧
        ((Sink.writeAll recorded bytes).1 = .ok () → rest = []) := by
  fun_induction Sink.writeAll recorded bytes with
  | case1 recorded =>
      exact ⟨[], [], rfl, by simp, fun _ => rfl⟩
  | case2 recorded byte rest next answer =>
      refine ⟨[], byte :: rest, rfl, ?_, ?_⟩
      · simpa using received_of_write_ok answer
      · intro ended
        cases ended
  | case3 recorded byte rest count next answer ih =>
      obtain ⟨part, left, shape, received, complete⟩ := ih
      refine ⟨byte :: (rest.take count ++ part), left, ?_, ?_, complete⟩
      · simp [← shape]
      · rw [received, received_of_write_ok answer]
        simp
  | case4 recorded byte rest error next answer interrupted ih =>
      obtain ⟨part, left, shape, received, complete⟩ := ih
      refine ⟨part, left, shape, ?_, complete⟩
      rw [received, received_of_write_error answer]
  | case5 recorded byte rest error next answer terminal =>
      refine ⟨[], byte :: rest, rfl, ?_, ?_⟩
      · simpa using received_of_write_error answer
      · intro ended
        cases ended

theorem received_of_writeAll_ok
    [Sink σ]
    {recorded next : RecordedSink σ}
    {bytes : Bytes}
    (written : Sink.writeAll recorded bytes = (.ok (), next)) :
    next.received = recorded.received ++ bytes := by
  obtain ⟨part, rest, shape, received, complete⟩ := received_writeAll recorded bytes
  rw [written] at received complete
  rw [received, shape, complete rfl, List.append_nil]

/-- Of a string that could not be written a part from the front has arrived. -/
theorem received_of_writeAll_error
    [Sink σ]
    {recorded next : RecordedSink σ}
    {bytes : Bytes}
    {error : TransportError}
    (failed : Sink.writeAll recorded bytes = (.error error, next)) :
    ∃ part, part <+: bytes ∧ next.received = recorded.received ++ part := by
  obtain ⟨part, rest, shape, received, -⟩ := received_writeAll recorded bytes
  rw [failed] at received
  exact ⟨part, ⟨rest, shape.symm⟩, received⟩

end RecordedSink

end MemberStream
