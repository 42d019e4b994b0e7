import MemberStream.Transport.Recorded

namespace MemberStream

/-!
# What a recorded source has handed out

As long as a source has not come to its end, every read adds the bytes that it
brought to those handed out before.
-/

namespace RecordedSource

variable {σ : Type}

/-- A source that has not come to its end yet. -/
def Unended
    (recorded : RecordedSource σ) :
    Prop :=
  ∀ read, read ∈ recorded.reads → read.ends = false

theorem Unended.reversed
    {recorded : RecordedSource σ}
    (unended : recorded.Unended) :
    ∀ read ∈ recorded.reads.reverse, (!read.ends) = true := by
  intro read member
  simp [unended read (List.mem_reverse.mp member)]

theorem upstream_of_unended
    {recorded : RecordedSource σ}
    (unended : recorded.Unended) :
    recorded.upstream = recorded.reads.reverse.flatMap SourceRead.bytes := by
  rw [upstream, ← List.append_nil recorded.reads.reverse,
    List.takeWhile_append_of_pos unended.reversed, List.takeWhile_nil]

theorem reads_of_read
    [SourceCalls σ]
    {recorded next : RecordedSource σ}
    {capacity : Nat}
    {answer : Except TransportError Bytes}
    (answered : SourceCalls.read recorded capacity = (answer, next)) :
    next.reads = ⟨capacity, answer⟩ :: recorded.reads := by
  cases answered
  rfl

/-- A read that does not come to the end leaves the source before it. -/
theorem unended_of_read
    [SourceCalls σ]
    {recorded next : RecordedSource σ}
    {capacity : Nat}
    {answer : Except TransportError Bytes}
    (unended : recorded.Unended)
    (answered : SourceCalls.read recorded capacity = (answer, next))
    (more : SourceRead.ends ⟨capacity, answer⟩ = false) :
    next.Unended := by
  intro read member
  rw [reads_of_read answered] at member
  rcases List.mem_cons.mp member with rfl | earlier
  · exact more
  · exact unended read earlier

/-- A read adds what it brought; at the end that is nothing. -/
theorem upstream_of_read
    [SourceCalls σ]
    {recorded next : RecordedSource σ}
    {capacity : Nat}
    {answer : Except TransportError Bytes}
    (unended : recorded.Unended)
    (answered : SourceCalls.read recorded capacity = (answer, next)) :
    next.upstream = recorded.upstream ++ SourceRead.bytes ⟨capacity, answer⟩ := by
  by_cases ends : SourceRead.ends ⟨capacity, answer⟩ = true
  · have nothing : SourceRead.bytes ⟨capacity, answer⟩ = [] := by
      cases answer with
      | ok bytes =>
          exact List.isEmpty_iff.mp ends
      | error error =>
          rfl
    rw [nothing, List.append_nil, upstream_of_unended unended, upstream, reads_of_read answered,
      List.reverse_cons, List.takeWhile_append_of_pos unended.reversed]
    simp [ends]
  · rw [Bool.not_eq_true] at ends
    rw [upstream_of_unended (unended_of_read unended answered ends), upstream_of_unended unended,
      reads_of_read answered]
    simp

end RecordedSource

end MemberStream
