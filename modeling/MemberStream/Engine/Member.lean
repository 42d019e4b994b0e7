import MemberStream.Codec.Member
import MemberStream.Engine.Basic

namespace MemberStream

/-!
# Member engines

A member engine works one member per call.  A compress call takes at most one
chunk of the input and writes it as a member; a decompress call reads the member
at the front of the input.  A member that does not fit the output slice is
parked, and the next call of the same direction with as much input hands it out
instead of working again.  The engine works with the encoders that it is made
over.
-/

/-- A member or its content that did not fit the output slice. -/
structure ParkedMember where
  direction : Direction
  inputLength : Nat
  consumed : Nat
  bytes : Bytes
  deriving Repr, DecidableEq

/-- An engine that works one member per call, with the encoders of this library or others. -/
structure MemberEngine (encoders : Encoders := .own) where
  /-- The parameters of the running session. -/
  session : Option ParameterSet := none
  last : Bool := false
  parked : Option ParkedMember := none
  deriving Repr, DecidableEq

namespace Direction

/-- Whether a session of this direction passes data the given way. -/
def allows : Direction → Direction → Bool
  | session, .compress =>
      session.allowsCompress
  | session, .decompress =>
      session.allowsDecompress
  | session, .both =>
      session.allowsCompress && session.allowsDecompress

end Direction

namespace MemberEngine

variable {encoders : Encoders}

/-- Whether a session is running. -/
def isActive
    (engine : MemberEngine encoders) :
    Bool :=
  engine.session.isSome

/-- Start a session, unless the codec refuses the level. -/
def startSession
    (engine : MemberEngine encoders)
    (parameters : ParameterSet) :
    Except StreamError Unit × MemberEngine encoders :=
  match parameters.algorithm.checkLevel parameters.level with
  | .error error =>
      (.error error.toStreamError, engine)
  | .ok () =>
      (.ok (), { session := some parameters })

/-- Close the running session. -/
def closeSession
    (engine : MemberEngine encoders) :
    Except StreamError Unit × MemberEngine encoders :=
  if engine.isActive then
    (.ok (), {})
  else
    (.error .notYetStarted, engine)

/-- The parameters that a data call works under. -/
def permit
    (engine : MemberEngine encoders)
    (direction : Direction)
    (input : Bytes) :
    Except StreamError ParameterSet :=
  match engine.session with
  | none =>
      .error .notYetStarted
  | some parameters =>
      if !parameters.direction.allows direction then
        .error (.invalidParameter .incompatibleDirection)
      else if input.isEmpty then
        .error .emptyBuffer
      else
        .ok parameters

/-- What has been parked for a call of the given direction with as much input. -/
def parkedFor?
    (engine : MemberEngine encoders)
    (direction : Direction)
    (inputLength : Nat) :
    Option ParkedMember :=
  engine.parked.filter
    (fun parked => parked.direction == direction && parked.inputLength == inputLength)

/-- The member of the first chunk of the input. -/
def encodeFront
    (encoders : Encoders)
    (parameters : ParameterSet)
    (input : Bytes) :
    Except StreamError ParkedMember :=
  let chunk := input.take parameters.chunkLength
  match parameters.encodeMember encoders chunk with
  | .ok member =>
      .ok ⟨.compress, input.length, chunk.length, member⟩
  | .error error =>
      .error error.toStreamError

/-- The content of the member at the front of the input. -/
def decodeFront
    (parameters : ParameterSet)
    (input : Bytes) :
    Except StreamError ParkedMember :=
  match parameters.decodeMember input with
  | .ok (consumed, content) =>
      .ok ⟨.decompress, input.length, consumed, content⟩
  | .error error =>
      .error error.toStreamError

/-- Hand out what a call produced, or park it if the output slice is too short. -/
def deliver
    (engine : MemberEngine encoders)
    (produced : ParkedMember)
    (capacity : Nat) :
    Reply × MemberEngine encoders :=
  let count := produced.bytes.length
  if capacity < count then
    ({ result := .error .insufficientBuffer }, { engine with parked := some produced })
  else
    ({ result := .ok ⟨produced.consumed, count⟩
       filled := produced.bytes }, { engine with parked := none })

/-- Answer a data call with what has been parked for it or with new work. -/
def call
    (engine : MemberEngine encoders)
    (direction : Direction)
    (work : ParameterSet → Bytes → Except StreamError ParkedMember)
    (input : Bytes)
    (capacity : Nat) :
    Reply × MemberEngine encoders :=
  match engine.permit direction input with
  | .error error =>
      ({ result := .error error }, engine)
  | .ok parameters =>
      match engine.parkedFor? direction input.length with
      | some parked =>
          engine.deliver parked capacity
      | none =>
          match work parameters input with
          | .ok produced =>
              engine.deliver produced capacity
          | .error error =>
              ({ result := .error error }, { engine with parked := none })

instance : EngineCalls (MemberEngine encoders) where
  start :=
    startSession
  compress engine :=
    engine.call .compress (encodeFront encoders)
  decompress engine :=
    engine.call .decompress decodeFront
  setLast engine last :=
    { engine with last := last }
  close :=
    closeSession

/-- How many members are parked. -/
def parkedCount
    (engine : MemberEngine encoders) :
    Nat :=
  engine.parked.isSome.toNat

/-- New work consumes at least one byte of an input that is not empty. -/
theorem encodeFront_consumes
    {parameters : ParameterSet}
    {input : Bytes}
    {produced : ParkedMember}
    (nonempty : input ≠ [])
    (encoded : encodeFront encoders parameters input = .ok produced) :
    0 < produced.consumed := by
  have chunk := parameters.chunkLength_pos
  have input := List.length_pos_iff.mpr nonempty
  unfold encodeFront at encoded
  dsimp only at encoded
  split at encoded
  · cases encoded
    simp only [List.length_take]
    omega
  · cases encoded

/-- A permitted input is not empty. -/
theorem nonempty_of_permit
    {engine : MemberEngine encoders}
    {direction : Direction}
    {input : Bytes}
    {parameters : ParameterSet}
    (permitted : engine.permit direction input = .ok parameters) :
    input ≠ [] := by
  rintro rfl
  unfold permit at permitted
  split at permitted
  · cases permitted
  · split at permitted
    · cases permitted
    · simp at permitted

/-- A delivery answers with the counts of what it hands out, and parks nothing. -/
theorem deliver_ok
    {engine next : MemberEngine encoders}
    {produced : ParkedMember}
    {capacity : Nat}
    {step : Step}
    {filled : Bytes}
    (answer : engine.deliver produced capacity = (⟨.ok step, filled⟩, next)) :
    step.consumed = produced.consumed ∧ next.parked = none := by
  unfold deliver at answer
  dsimp only at answer
  split at answer
  · cases answer
  · cases answer
    exact ⟨rfl, rfl⟩

/-- Only a parked member makes an engine stall, and it is handed out then. -/
theorem parked_of_stalls
    {next current : MemberEngine encoders}
    (stalled : Stalls next current) :
    next.parkedCount < current.parkedCount := by
  obtain ⟨ready, input, capacity, produced, filled, origin, positive, answer⟩ := stalled
  have same : ready.parked = current.parked := by
    rcases origin with rfl | rfl
    · rfl
    · rfl
  change ready.call .compress (encodeFront encoders) input capacity = _ at answer
  unfold call at answer
  split at answer
  · cases answer
  · rename_i parameters permitted
    split at answer
    · rename_i parked found
      obtain ⟨-, handedOut⟩ := deliver_ok answer
      have some : ready.parked = some parked := by
        simp only [parkedFor?, Option.filter_eq_some_iff] at found
        exact found.1
      rw [parkedCount, parkedCount, handedOut, ← same, some]
      exact Nat.zero_lt_one
    · split at answer
      · rename_i work encoded
        obtain ⟨consumed, -⟩ := deliver_ok answer
        have worked := encodeFront_consumes (nonempty_of_permit permitted) encoded
        rw [← consumed] at worked
        exact absurd worked (Nat.lt_irrefl 0)
      · cases answer

instance : Engine (MemberEngine encoders) where
  settles :=
    Subrelation.wf parked_of_stalls (InvImage.wf parkedCount Nat.lt_wfRel.wf)

end MemberEngine

end MemberStream
