import MemberStream.Proofs.Reader.Places

namespace MemberStream

/-!
# The slices of a reader

A read comes to its slices round after round, and each of them lies within its buffer
because the places of the reader do.  A step that reports more than its slice holds, or
nothing at all, ends the round it is made in; the read then hands out what the rounds
before have delivered, and keeps the fault.
-/

namespace Reader

variable {σ ε : Type} [EngineCalls ε]

/-- A faulty step ends an engine call; all that is left of it is the state of the engine. -/
theorem advance_of_faulty
    {reader : Reader σ ε}
    {step : Step}
    {error : StreamError}
    (result :
      (EngineCalls.decompress reader.engine reader.unread reader.outputLength).1.result =
        .ok step)
    (faulty :
      step.Faulty (reader.inputRead - reader.inputOffset) reader.outputLength
        (.corruptInput "truncated stream") error)
    (scope : Scope)
    (wanted : Nat) :
    reader.advance scope wanted =
      .failed error
        { reader with
          engine :=
            (EngineCalls.decompress reader.engine reader.unread reader.outputLength).2 } := by
  unfold advance
  generalize
    EngineCalls.decompress reader.engine reader.unread reader.outputLength = answer at result ⊢
  obtain ⟨⟨answered, bytes⟩, engine⟩ := answer
  dsimp only at result
  subst result
  dsimp only
  rcases faulty.refused with ⟨beyond, rfl⟩ | ⟨within, idle, rfl⟩
  · rw [if_pos beyond]
  · rw [within, idle]
    rfl

end Reader

namespace ReadLoop

variable {σ ε : Type} [Source σ]

/--
The slices that the next round takes: of the output buffer and of the buffer of the
caller while there are bytes in the window, and of the input buffer otherwise.
-/
def slices
    (loop : ReadLoop σ ε)
    (scope : Scope) :
    List Slice :=
  if loop.room = 0 then
    []
  else if 0 < loop.reader.outputLeft then
    let count := min loop.reader.outputLeft loop.room
    [⟨loop.reader.outputOffset, loop.reader.outputOffset + count, loop.reader.outputLength⟩,
      ⟨loop.filled, loop.filled + count, loop.buffer.length⟩]
  else
    match loop.reader.ensureInput scope with
    | (.ok (), filled) =>
        if filled.inputExhausted then
          []
        else
          [⟨filled.inputOffset, filled.inputRead, filled.inputLength⟩]
    | (.error _, _) =>
        []

/-- A read whose reader has its places right and that has filled no more than there is. -/
structure Placed
    (loop : ReadLoop σ ε) :
    Prop where
  reader : loop.reader.Placed
  filled : loop.filled ≤ loop.buffer.length

/-- Every slice that a round takes lies within its buffer. -/
theorem within_of_placed
    {loop : ReadLoop σ ε}
    (placed : loop.Placed)
    (scope : Scope) :
    ∀ slice, slice ∈ loop.slices scope → slice.Within := by
  have window := placed.reader.window
  have fits := placed.filled
  have ensured := Reader.placed_ensureInput placed.reader scope
  intro slice member
  unfold slices at member
  split at member
  · cases member
  · split at member
    · simp only [List.mem_cons, List.not_mem_nil, or_false] at member
      rcases member with rfl | rfl
      · exact ⟨Nat.le_add_right _ _, by dsimp only; omega⟩
      · refine ⟨Nat.le_add_right _ _, ?_⟩
        dsimp only [room]
        omega
    · split at member
      · rename_i filled answer
        rw [answer] at ensured
        split at member
        · cases member
        · rw [List.mem_singleton.mp member]
          exact ⟨ensured.inputOffset, ensured.inputRead⟩
      · cases member

variable [EngineCalls ε]

/-- A round that goes on keeps the places of a read right. -/
theorem placed_of_step
    {loop next : ReadLoop σ ε}
    {scope : Scope}
    (goes : loop.step scope = .inl next)
    (placed : loop.Placed) :
    next.Placed := by
  have rounds := Reader.placed_round placed.reader scope loop.room
  rcases took_or_moved_of_step goes with
    ⟨some, bytes, reader, takes, rfl⟩ | ⟨reader, moves, rfl⟩
  · rw [takes] at rounds
    obtain ⟨-, enough⟩ := Reader.length_of_took takes (Nat.pos_of_ne_zero some)
    refine ⟨rounds, ?_⟩
    rw [length_put reader placed.filled enough]
    change loop.filled + bytes.length ≤ loop.buffer.length
    unfold room at enough
    have fits := placed.filled
    omega
  · rw [moves] at rounds
    exact ⟨rounds, placed.filled⟩

/-- The places of a read are right in every state that it passes through. -/
theorem placed_of_visits
    {start last : ReadLoop σ ε}
    {scope : Scope}
    (visits : Visits scope start last)
    (placed : start.Placed) :
    last.Placed := by
  induction visits with
  | here loop =>
      exact placed
  | later goes visits ih =>
      exact ih (placed_of_step goes placed)

/-- A read comes to what it comes to from any state that it passes through. -/
theorem run_of_visits
    {start last : ReadLoop σ ε}
    {scope : Scope}
    (visits : Visits scope start last) :
    start.run scope = last.run scope := by
  induction visits with
  | here loop =>
      rfl
  | @later loop next last goes visits ih =>
      rw [← ih, run]
      split
      · rename_i same
        rw [goes] at same
        cases same
        rfl
      · rename_i same
        rw [goes] at same
        cases same

/-- A read stays in the session of the reader. -/
theorem sameSession_of_visits
    {start last : ReadLoop σ ε}
    {scope : Scope}
    (visits : Visits scope start last) :
    Reader.SameSession last.reader start.reader := by
  induction visits with
  | here loop =>
      exact .refl loop.reader
  | @later loop next last goes visits ih =>
      have rounds := Reader.sameSession_round loop.reader scope loop.room
      refine ih.trans ?_
      rcases took_or_moved_of_step goes with
        ⟨some, bytes, reader, takes, rfl⟩ | ⟨reader, moves, rfl⟩
      · rw [takes] at rounds
        exact rounds
      · rw [moves] at rounds
        exact rounds

/-- In the next round the engine makes a faulty step. -/
def Faults
    (loop : ReadLoop σ ε)
    (scope : Scope)
    (error : StreamError) :
    Prop :=
  loop.room ≠ 0 ∧
    loop.reader.outputLeft = 0 ∧
    ∃ filled step,
      loop.reader.ensureInput scope = (.ok (), filled) ∧
        filled.inputExhausted = false ∧
        (EngineCalls.decompress filled.engine filled.unread filled.outputLength).1.result =
          .ok step ∧
        step.Faulty (filled.inputRead - filled.inputOffset) filled.outputLength
          (.corruptInput "truncated stream") error

/-- A faulty step ends a round; all that is left of it is the state of the engine. -/
theorem step_of_faults
    {loop : ReadLoop σ ε}
    {scope : Scope}
    {error : StreamError}
    (faults : loop.Faults scope error) :
    ∃ last : Reader σ ε,
      loop.step scope =
          .inr (if loop.filled = 0 then .error error else .ok loop.filled,
            { loop with reader := last }) ∧
        last.failure = some error ∧
        last.phase = loop.reader.phase ∧
        last.counters = loop.reader.counters ∧
        last.crc = loop.reader.crc := by
  obtain ⟨more, empty, filled, step, ensures, unexhausted, result, faulty⟩ := faults
  have same := Reader.sameOutput_ensureInput loop.reader scope
  rw [ensures] at same
  obtain ⟨engine, rounds⟩ :
      ∃ engine,
        loop.reader.round scope loop.room = .failed error { filled with engine := engine } := by
    unfold Reader.round
    rw [empty, if_neg (Nat.lt_irrefl 0), ensures]
    dsimp only
    rw [unexhausted, if_neg Bool.false_ne_true]
    exact ⟨_, Reader.advance_of_faulty result faulty scope loop.room⟩
  refine ⟨({ filled with engine := engine } : Reader σ ε).fail scope error, ?_, rfl, same.phase,
    same.counters, same.crc⟩
  unfold ReadLoop.step
  rw [if_neg more, rounds]
  dsimp only
  split <;> rfl

end ReadLoop

namespace Reader

variable {σ ε : Type} [EngineCalls ε] [Source σ]

/-- What a faulty step leaves of a reader, and what the read that came to it answers. -/
structure StoppedAt
    (visited : ReadLoop σ ε)
    (error : StreamError)
    (outcome : Except StreamError Nat × Bytes × Reader σ ε) :
    Prop where
  /-- Bytes that were delivered before the step are handed out. -/
  answer :
    outcome.1 = if visited.filled = 0 then .error error else .ok visited.filled
  /-- Nothing of the step has reached the buffer of the caller. -/
  buffer : outcome.2.1 = visited.buffer
  /-- The fault is kept. -/
  refuses : outcome.2.2.Refuses error
  close : outcome.2.2.close.1 = .error error
  counters : outcome.2.2.counters = visited.reader.counters
  crc : outcome.2.2.crc = visited.reader.crc

/-- A read whose rounds come to a faulty step stops there. -/
theorem stoppedAt_of_faults
    {reader active : Reader σ ε}
    {buffer : Bytes}
    {visited : ReadLoop σ ε}
    {error : StreamError}
    (readies : reader.ready reader.scope = (.ok (), active))
    (visits : ReadLoop.Visits (reader.scope ++ ["read"]) { reader := active, buffer } visited)
    (faults : visited.Faults (reader.scope ++ ["read"]) error) :
    StoppedAt visited error (reader.readInto buffer) := by
  obtain ⟨last, stops, failure, phase, counters, crc⟩ := ReadLoop.step_of_faults faults
  have active : last.phase = .active :=
    (phase.trans (ReadLoop.sameSession_of_visits visits).phase).trans
      (readied_of_ready readies).open.1
  have closes : last.close.1 = .error error := by
    have frozen : Frozen last error last :=
      ⟨failure, .inl rfl⟩
    rw [(frozen_close (by simp [active]) frozen).1, verdict, if_pos active]
  have reads :
      reader.readInto buffer =
        (if visited.filled = 0 then .error error else .ok visited.filled,
          visited.buffer, last) := by
    unfold readInto
    rw [readies]
    dsimp only
    rw [ReadLoop.run_of_visits visits, ReadLoop.run]
    split
    · rename_i goes
      rw [stops] at goes
      cases goes
    · rename_i same
      rw [stops] at same
      cases same
      rfl
  rw [reads]
  exact ⟨rfl, rfl, refuses_of_failure failure, closes, counters, crc⟩

end Reader

end MemberStream
