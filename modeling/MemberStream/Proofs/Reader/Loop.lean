import MemberStream.Stream.Reader

namespace MemberStream

/-!
# Reading into a buffer

A caller hands a read a buffer, and the read fills it from the front, round by
round.  `ReadLoop` is the state between two rounds, with the buffer as it is by
then.  `readInto_eq` says what this comes to: the buffer starts with the bytes
that `Reader.readChunk` delivers and is otherwise left alone.
-/

/-- A read between two rounds. -/
structure ReadLoop (σ ε : Type) where
  reader : Reader σ ε
  /-- The caller's buffer. -/
  buffer : Bytes
  /-- How many bytes of the buffer have been filled. -/
  filled : Nat := 0

namespace ReadLoop

variable {σ ε : Type}

/-- How many bytes of the buffer are still to be filled. -/
def room
    (loop : ReadLoop σ ε) :
    Nat :=
  loop.buffer.length - loop.filled

/-- Put bytes behind those that fill the buffer. -/
def put
    (loop : ReadLoop σ ε)
    (bytes : Bytes)
    (next : Reader σ ε) :
    ReadLoop σ ε where
  reader :=
    next
  buffer :=
    loop.buffer.take loop.filled ++ bytes ++ loop.buffer.drop (loop.filled + bytes.length)
  filled :=
    loop.filled + bytes.length

/-- One round: the loop goes on, or it stops with a result. -/
def step
    [EngineCalls ε]
    [Source σ]
    (loop : ReadLoop σ ε)
    (scope : Scope) :
    ReadLoop σ ε ⊕ Except StreamError Nat × ReadLoop σ ε :=
  if loop.room = 0 then
    .inr (.ok loop.filled, loop)
  else
    match loop.reader.round scope loop.room with
    | .took bytes next =>
        .inl (loop.put bytes next)
    | .moved next =>
        .inl { loop with reader := next }
    | .ended last =>
        .inr (.ok loop.filled, { loop with reader := last })
    | .failed error last =>
        let stopped := { loop with reader := last.fail scope error }
        if loop.filled = 0 then
          .inr (.error error, stopped)
        else
          .inr (.ok loop.filled, stopped)

theorem length_put
    {loop : ReadLoop σ ε}
    {bytes : Bytes}
    (next : Reader σ ε)
    (fits : loop.filled ≤ loop.buffer.length)
    (enough : bytes.length ≤ loop.room) :
    (loop.put bytes next).buffer.length = loop.buffer.length := by
  unfold room at enough
  simp only [put, List.length_append, List.length_take, List.length_drop]
  omega

/-- What fills a buffer after bytes have been put into it. -/
theorem take_put
    {loop : ReadLoop σ ε}
    (bytes : Bytes)
    (next : Reader σ ε)
    (fits : loop.filled ≤ loop.buffer.length) :
    (loop.put bytes next).buffer.take (loop.put bytes next).filled =
      loop.buffer.take loop.filled ++ bytes := by
  have length : (loop.buffer.take loop.filled ++ bytes).length = loop.filled + bytes.length := by
    simp [Nat.min_eq_left fits]
  simp only [put]
  rw [← length, List.take_left]

/-- Bytes that are put into a buffer leave alone what is behind them. -/
theorem drop_put
    {loop : ReadLoop σ ε}
    (bytes : Bytes)
    (next : Reader σ ε)
    (fits : loop.filled ≤ loop.buffer.length) :
    (loop.put bytes next).buffer.drop (loop.put bytes next).filled =
      (loop.buffer.drop loop.filled).drop bytes.length := by
  have length : (loop.buffer.take loop.filled ++ bytes).length = loop.filled + bytes.length := by
    simp [Nat.min_eq_left fits]
  simp only [put]
  rw [List.drop_drop, ← length, List.drop_left]

/-- Bytes that are put into a buffer use up its room. -/
theorem room_put
    {loop : ReadLoop σ ε}
    {bytes : Bytes}
    (next : Reader σ ε)
    (fits : loop.filled ≤ loop.buffer.length)
    (enough : bytes.length ≤ loop.room) :
    (loop.put bytes next).room = loop.room - bytes.length := by
  have length := length_put next fits enough
  unfold room
  rw [length]
  change _ - (loop.filled + bytes.length) = _
  omega

/-- A round that goes on has taken bytes out of the window, or moved the stream on. -/
theorem took_or_moved_of_step
    [EngineCalls ε]
    [Source σ]
    {loop next : ReadLoop σ ε}
    {scope : Scope}
    (goes : loop.step scope = .inl next) :
    (loop.room ≠ 0 ∧
      ∃ bytes reader,
        loop.reader.round scope loop.room = .took bytes reader ∧ next = loop.put bytes reader) ∨
      ∃ reader,
        loop.reader.round scope loop.room = .moved reader ∧
          next = { loop with reader := reader } := by
  unfold step at goes
  split at goes
  · cases goes
  · rename_i some
    split at goes
    · rename_i bytes reader takes
      cases goes
      exact .inl ⟨some, bytes, reader, takes, rfl⟩
    · rename_i reader moves
      cases goes
      exact .inr ⟨reader, moves, rfl⟩
    · cases goes
    · dsimp only at goes
      split at goes
      · cases goes
      · cases goes

/-- A round that goes on uses up room, or it leaves less of the stream. -/
theorem room_of_step
    [EngineCalls ε]
    [Source σ]
    {loop next : ReadLoop σ ε}
    {scope : Scope}
    (goes : loop.step scope = .inl next) :
    Prod.Lex (· < ·) Reader.Shrinks (next.room, next.reader.remaining)
      (loop.room, loop.reader.remaining) := by
  rcases took_or_moved_of_step goes with ⟨some, bytes, reader, takes, rfl⟩ | ⟨reader, moves, rfl⟩
  · obtain ⟨more, enough⟩ := Reader.length_of_took takes (Nat.pos_of_ne_zero some)
    have fits : loop.filled ≤ loop.buffer.length := by
      unfold room at some
      omega
    rw [room_put reader fits enough]
    apply Prod.Lex.left
    omega
  · apply Prod.Lex.right
    exact Reader.remaining_of_moved moves

/-- Go on round by round until the loop stops. -/
def run
    [EngineCalls ε]
    [Source σ]
    (loop : ReadLoop σ ε)
    (scope : Scope) :
    Except StreamError Nat × ReadLoop σ ε :=
  match _step : loop.step scope with
  | .inl next =>
      next.run scope
  | .inr outcome =>
      outcome
termination_by (loop.room, loop.reader.remaining)
decreasing_by
  exact room_of_step _step

/-- The states that a loop passes through. -/
inductive Visits
    [EngineCalls ε]
    [Source σ]
    (scope : Scope) :
    ReadLoop σ ε →
    ReadLoop σ ε →
    Prop where
  | here
      (loop : ReadLoop σ ε) :
      Visits scope loop loop
  | later
      {loop next last : ReadLoop σ ε}
      (goes : loop.step scope = .inl next)
      (visits : Visits scope next last) :
      Visits scope loop last

end ReadLoop

namespace Reader

variable {σ ε : Type}

theorem room_of_content
    {loop : ReadLoop σ ε}
    {buffer delivered : Bytes}
    (content : loop.buffer = delivered.reverse ++ buffer.drop delivered.length)
    (filled : loop.filled = delivered.length)
    (fits : delivered.length ≤ buffer.length) :
    loop.room = buffer.length - delivered.length := by
  rw [ReadLoop.room, content, filled, List.length_append, List.length_reverse, List.length_drop]
  omega

variable [EngineCalls ε] [Source σ]

/-- Read into a buffer: the result, the buffer afterwards and the stream. -/
def readInto
    (reader : Reader σ ε)
    (buffer : Bytes) :
    Except StreamError Nat × Bytes × Reader σ ε :=
  match reader.ready reader.scope with
  | (.error error, idle) =>
      (.error error, buffer, idle)
  | (.ok (), active) =>
      let (result, last) :=
        ReadLoop.run { reader := active, buffer := buffer } (reader.scope ++ ["read"])
      (result, last.buffer, last.reader)

/-- What a read comes to for the caller of a buffer. -/
def intoBuffer
    (buffer : Bytes) :
    Except StreamError Bytes × Reader σ ε →
    Except StreamError Nat × Bytes × Reader σ ε
  | (.ok bytes, next) =>
      (.ok bytes.length, bytes ++ buffer.drop bytes.length, next)
  | (.error error, next) =>
      (.error error, buffer, next)

omit [EngineCalls ε] [Source σ] in
@[simp] theorem failAfter_reader
    (reader : Reader σ ε)
    (scope : Scope)
    (delivered : Bytes)
    (error : StreamError) :
    (reader.failAfter scope delivered error).2 = reader.fail scope error := by
  unfold failAfter
  dsimp only
  split <;> rfl

theorem deliver_zero
    (reader : Reader σ ε)
    (scope : Scope)
    (delivered : Bytes) :
    reader.deliver scope 0 delivered = (.ok delivered.reverse, reader) := by
  unfold deliver
  rfl

/-- What a delivery does when it wants more: one round, and then what the round calls for. -/
theorem deliver_of_pos
    (reader : Reader σ ε)
    (scope : Scope)
    {wanted : Nat}
    (delivered : Bytes)
    (some : wanted ≠ 0) :
    reader.deliver scope wanted delivered =
      match reader.round scope wanted with
      | .took bytes next =>
          next.deliver scope (wanted - bytes.length) (bytes.reverse ++ delivered)
      | .moved next =>
          next.deliver scope wanted delivered
      | .ended last =>
          (.ok delivered.reverse, last)
      | .failed error last =>
          last.failAfter scope delivered error := by
  rw [deliver, dif_neg some]
  split <;> rename_i same <;> rw [same]

/-- A loop fills a buffer with what `deliver` delivers, behind the bytes delivered before. -/
theorem run_eq_deliver
    (loop : ReadLoop σ ε)
    (scope : Scope)
    (buffer delivered : Bytes)
    (content : loop.buffer = delivered.reverse ++ buffer.drop delivered.length)
    (filled : loop.filled = delivered.length)
    (fits : delivered.length ≤ buffer.length) :
    ((loop.run scope).1, (loop.run scope).2.buffer, (loop.run scope).2.reader) =
      intoBuffer buffer
        (loop.reader.deliver scope (buffer.length - delivered.length) delivered) := by
  -- The induction is over rounds: a round that takes bytes moves them from the buffer's
  -- untouched end to the bytes delivered, and all others leave the buffer alone.
  fun_induction ReadLoop.run loop scope generalizing delivered with
  | case1 loop next goes ih =>
      have room := room_of_content content filled fits
      unfold ReadLoop.step at goes
      split at goes
      · cases goes
      · rename_i some
        rw [room] at some
        rw [deliver_of_pos _ _ _ some, ← room]
        split at goes
        · rename_i bytes reader takes
          cases goes
          obtain ⟨-, enough⟩ := length_of_took takes (by omega)
          have length : (bytes.reverse ++ delivered).length = delivered.length + bytes.length := by
            rw [List.length_append, List.length_reverse, Nat.add_comm]
          have same := ih (bytes.reverse ++ delivered) ?_ ?_ ?_
          · rw [same, length, room, Nat.sub_sub]
            rfl
          · have past :
                delivered.length + bytes.length = delivered.reverse.length + bytes.length := by
              rw [List.length_reverse]
            simp only [ReadLoop.put, content, filled, length, past, List.drop_length_add_append,
              List.drop_drop]
            simp
          · simp only [ReadLoop.put, filled, length]
          · omega
        · rename_i reader moves
          cases goes
          have same := ih delivered content filled fits
          rw [same, room]
        · cases goes
        · dsimp only at goes
          split at goes
          · cases goes
          · cases goes
  | case2 loop outcome stops =>
      have room := room_of_content content filled fits
      have front : intoBuffer (σ := σ) (ε := ε) buffer (.ok delivered.reverse, outcome.2.reader) =
          (.ok loop.filled, loop.buffer, outcome.2.reader) := by
        simp only [intoBuffer, content, filled, List.length_reverse]
      unfold ReadLoop.step at stops
      split at stops
      · rename_i none
        cases stops
        rw [← room, none, deliver_zero, front]
      · rename_i some
        rw [room] at some
        rw [deliver_of_pos _ _ _ some, ← room]
        split at stops
        · cases stops
        · cases stops
        · rename_i last ends
          cases stops
          exact front.symm
        · rename_i error last fails
          dsimp only at stops
          split at stops
          · rename_i nothing
            cases stops
            rw [nothing] at filled
            have delivered := List.length_eq_zero_iff.mp filled.symm
            subst delivered
            simp [failAfter, intoBuffer, content]
          · rename_i something
            cases stops
            rw [filled] at something
            have nonempty : delivered.isEmpty = false := by
              simpa using something
            rw [failAfter, nonempty, ← front]
            rfl

/-- Reading into a buffer puts the bytes of a chunk at its front and leaves the rest alone. -/
theorem readInto_eq
    (reader : Reader σ ε)
    (buffer : Bytes) :
    reader.readInto buffer = intoBuffer buffer (reader.readChunk buffer.length) := by
  unfold readInto readChunk
  dsimp only
  cases readies : reader.ready reader.scope with
  | mk result active =>
      cases result with
      | error error =>
          rfl
      | ok =>
          exact run_eq_deliver ⟨active, buffer, 0⟩ _ buffer [] rfl rfl (Nat.zero_le _)

end Reader

end MemberStream
