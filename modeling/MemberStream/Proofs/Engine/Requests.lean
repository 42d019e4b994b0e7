import MemberStream.Engine.Member
import MemberStream.Engine.Recorded
import MemberStream.Proofs.Codec.Boundary

namespace MemberStream

/-!
# Requests to an engine

An engine is driven by requests, and a recorded engine keeps each of them with
its answer.  What a member engine has parked for a decompress call comes from an
input as long as that of the call which takes it out; so every such call that
succeeds consumes something, and no more than it was offered.
-/

variable {encoders : Encoders}

/-- A call on an engine. -/
inductive EngineRequest
  | start (parameters : ParameterSet)
  | compress (input : Bytes) (capacity : Nat)
  | decompress (input : Bytes) (capacity : Nat)
  | setLast (last : Bool)
  | close
  deriving Repr, DecidableEq

namespace RecordedEngine

variable {ε : Type} [EngineCalls ε]

/-- The engine after a request, which is recorded with its answer. -/
def request
    (recorded : RecordedEngine ε) :
    EngineRequest →
    RecordedEngine ε
  | .start parameters =>
      (EngineCalls.start recorded parameters).2
  | .compress input capacity =>
      (EngineCalls.compress recorded input capacity).2
  | .decompress input capacity =>
      (EngineCalls.decompress recorded input capacity).2
  | .setLast last =>
      EngineCalls.setLast recorded last
  | .close =>
      (EngineCalls.close recorded).2

/-- The engine after some requests, one after the other. -/
def requestEach
    (recorded : RecordedEngine ε)
    (requests : List EngineRequest) :
    RecordedEngine ε :=
  requests.foldl request recorded

end RecordedEngine

namespace MemberEngine

/-- Everything that a data call can come to. -/
inductive Called
    (engine : MemberEngine encoders)
    (direction : Direction)
    (work : ParameterSet → Bytes → Except StreamError ParkedMember)
    (input : Bytes)
    (capacity : Nat) :
    Reply × MemberEngine encoders →
    Prop where
  /-- The call is not permitted, and changes nothing. -/
  | refused
      {error : StreamError}
      (forbidden : engine.permit direction input = .error error) :
      Called engine direction work input capacity (⟨.error error, []⟩, engine)
  /-- What has been parked for the call is delivered. -/
  | resumed
      {parameters : ParameterSet}
      {parked : ParkedMember}
      (permitted : engine.permit direction input = .ok parameters)
      (found : engine.parkedFor? direction input.length = some parked) :
      Called engine direction work input capacity (engine.deliver parked capacity)
  /-- New work is delivered. -/
  | worked
      {parameters : ParameterSet}
      {produced : ParkedMember}
      (permitted : engine.permit direction input = .ok parameters)
      (missing : engine.parkedFor? direction input.length = none)
      (works : work parameters input = .ok produced) :
      Called engine direction work input capacity (engine.deliver produced capacity)
  | failed
      {parameters : ParameterSet}
      {error : StreamError}
      (permitted : engine.permit direction input = .ok parameters)
      (missing : engine.parkedFor? direction input.length = none)
      (fails : work parameters input = .error error) :
      Called engine direction work input capacity
        (⟨.error error, []⟩, { engine with parked := none })

/-- A data call comes to one of the cases. -/
theorem call_cases
    (engine : MemberEngine encoders)
    (direction : Direction)
    (work : ParameterSet → Bytes → Except StreamError ParkedMember)
    (input : Bytes)
    (capacity : Nat) :
    Called engine direction work input capacity (engine.call direction work input capacity) := by
  unfold call
  cases permission : engine.permit direction input with
  | error error =>
      exact .refused permission
  | ok parameters =>
      dsimp only
      cases found : engine.parkedFor? direction input.length with
      | some parked =>
          exact .resumed permission found
      | none =>
          dsimp only
          cases works : work parameters input with
          | ok produced =>
              exact .worked permission found works
          | error error =>
              exact .failed permission found works

/-- What is parked for a call has the direction of the call and comes from an input as long. -/
theorem eq_of_parkedFor?
    {engine : MemberEngine encoders}
    {direction : Direction}
    {inputLength : Nat}
    {parked : ParkedMember}
    (found : engine.parkedFor? direction inputLength = some parked) :
    engine.parked = some parked ∧ parked.direction = direction ∧
      parked.inputLength = inputLength := by
  simpa only [parkedFor?, Option.filter_eq_some_iff, Bool.and_eq_true, beq_iff_eq] using found

/-- After a delivery an engine has parked nothing, or what it could not hand out. -/
theorem parked_of_deliver
    {engine : MemberEngine encoders}
    {produced parked : ParkedMember}
    {capacity : Nat}
    (left : (engine.deliver produced capacity).2.parked = some parked) :
    parked = produced := by
  unfold deliver at left
  dsimp only at left
  split at left
  · cases left
    rfl
  · cases left

/-- A delivery that succeeds reports what was consumed and fits the output slice. -/
theorem step_of_deliver
    {engine : MemberEngine encoders}
    {produced : ParkedMember}
    {capacity : Nat}
    {step : Step}
    (handedOut : (engine.deliver produced capacity).1.result = .ok step) :
    step = ⟨produced.consumed, produced.bytes.length⟩ ∧ step.produced ≤ capacity := by
  unfold deliver at handedOut
  dsimp only at handedOut
  split at handedOut
  · cases handedOut
  · rename_i fits
    cases handedOut
    exact ⟨rfl, Nat.le_of_not_lt fits⟩

end MemberEngine

/-- Whether a member takes up some of its input, and no more than there is, if it was decoded. -/
def ParkedMember.Within
    (parked : ParkedMember) :
    Prop :=
  parked.direction = .decompress →
    1 ≤ parked.consumed ∧ parked.consumed ≤ parked.inputLength

/-- Whether a step consumed something, and stays within what it was offered. -/
def Step.Within
    (step : Step)
    (available capacity : Nat) :
    Prop :=
  1 ≤ step.consumed ∧ step.consumed ≤ available ∧ step.produced ≤ capacity

namespace MemberEngine

/-- Whether what an engine has parked lies within its input. -/
def KeepsWithin
    (engine : MemberEngine encoders) :
    Prop :=
  ∀ parked, engine.parked = some parked → parked.Within

/-- What is decoded takes up some of its input, and no more than there is. -/
theorem bounds_of_decodeFront
    {parameters : ParameterSet}
    {input : Bytes}
    {produced : ParkedMember}
    (decoded : decodeFront parameters input = .ok produced) :
    produced.inputLength = input.length ∧
      1 ≤ produced.consumed ∧ produced.consumed ≤ input.length := by
  unfold decodeFront at decoded
  split at decoded
  · rename_i front
    cases decoded
    exact ⟨rfl, ParameterSet.decodeMember_bounds front⟩
  · cases decoded

/-- What is decoded lies within its input. -/
theorem within_of_decodeFront
    {parameters : ParameterSet}
    {input : Bytes}
    {produced : ParkedMember}
    (decoded : decodeFront parameters input = .ok produced) :
    produced.Within := by
  obtain ⟨length, bounds⟩ := bounds_of_decodeFront decoded
  intro _
  rwa [length]

/-- What is encoded has not been decoded. -/
theorem within_of_encodeFront
    {parameters : ParameterSet}
    {input : Bytes}
    {produced : ParkedMember}
    (encoded : encodeFront encoders parameters input = .ok produced) :
    produced.Within := by
  unfold encodeFront at encoded
  dsimp only at encoded
  split at encoded
  · cases encoded
    exact nofun
  · cases encoded

/-- A data call keeps what is parked within its input if its work does. -/
theorem keepsWithin_of_call
    {engine : MemberEngine encoders}
    {direction : Direction}
    {work : ParameterSet → Bytes → Except StreamError ParkedMember}
    {input : Bytes}
    (keeps : engine.KeepsWithin)
    (within :
      ∀ {parameters produced}, work parameters input = .ok produced → produced.Within)
    (capacity : Nat) :
    (engine.call direction work input capacity).2.KeepsWithin := by
  have called := engine.call_cases direction work input capacity
  generalize engine.call direction work input capacity = answer at called
  cases called with
  | refused forbidden =>
      exact keeps
  | resumed permitted found =>
      intro parked left
      rw [parked_of_deliver left]
      exact keeps _ (eq_of_parkedFor? found).1
  | worked permitted missing works =>
      intro parked left
      rw [parked_of_deliver left]
      exact within works
  | failed permitted missing fails =>
      exact nofun

/-- A decompress call that succeeds stays within what it was offered. -/
theorem within_of_decompress
    {engine : MemberEngine encoders}
    {input : Bytes}
    {capacity : Nat}
    {step : Step}
    (keeps : engine.KeepsWithin)
    (succeeds : (engine.call .decompress decodeFront input capacity).1.result = .ok step) :
    step.Within input.length capacity := by
  have called := engine.call_cases .decompress decodeFront input capacity
  generalize engine.call .decompress decodeFront input capacity = answer at called succeeds
  cases called with
  | refused forbidden =>
      cases succeeds
  | resumed permitted found =>
      obtain ⟨rfl, fits⟩ := step_of_deliver succeeds
      obtain ⟨parked, direction, length⟩ := eq_of_parkedFor? found
      obtain ⟨positive, inside⟩ := keeps _ parked direction
      exact ⟨positive, length ▸ inside, fits⟩
  | worked permitted missing works =>
      obtain ⟨rfl, fits⟩ := step_of_deliver succeeds
      obtain ⟨-, positive, inside⟩ := bounds_of_decodeFront works
      exact ⟨positive, inside, fits⟩
  | failed permitted missing fails =>
      cases succeeds

end MemberEngine

namespace RecordedEngine

/-- A recorded engine whose decompress calls stayed within what they were offered, and will. -/
structure StaysWithin
    (recorded : RecordedEngine (MemberEngine encoders)) :
    Prop where
  keeps :
    recorded.engine.KeepsWithin
  decompressed :
    ∀ (input : Bytes) (capacity : Nat) (reply : Reply) (step : Step),
      .decompress input capacity reply ∈ recorded.calls →
        reply.result = .ok step →
          step.Within input.length capacity

/-- A request leaves every decompress call within what it was offered. -/
theorem staysWithin_of_request
    {recorded : RecordedEngine (MemberEngine encoders)}
    (stays : recorded.StaysWithin)
    (request : EngineRequest) :
    (recorded.request request).StaysWithin := by
  have before {call : EngineCall}
      (other : ∀ input capacity reply, call ≠ .decompress input capacity reply)
      (input : Bytes)
      (capacity : Nat)
      (reply : Reply)
      (step : Step)
      (called : .decompress input capacity reply ∈ call :: recorded.calls)
      (succeeds : reply.result = .ok step) :
      step.Within input.length capacity := by
    rcases List.mem_cons.mp called with same | earlier
    · exact absurd same.symm (other input capacity reply)
    · exact stays.decompressed input capacity reply step earlier succeeds
  cases request with
  | start parameters =>
      refine ⟨?_, before (fun _ _ _ => nofun)⟩
      change (MemberEngine.startSession recorded.engine parameters).2.KeepsWithin
      unfold MemberEngine.startSession
      split
      · exact stays.keeps
      · exact nofun
  | compress input capacity =>
      exact
        ⟨MemberEngine.keepsWithin_of_call stays.keeps MemberEngine.within_of_encodeFront capacity,
          before (fun _ _ _ => nofun)⟩
  | decompress input capacity =>
      refine
        ⟨MemberEngine.keepsWithin_of_call stays.keeps MemberEngine.within_of_decodeFront capacity,
          ?_⟩
      intro offered room reply step called succeeds
      rcases List.mem_cons.mp called with same | earlier
      · cases same
        exact MemberEngine.within_of_decompress stays.keeps succeeds
      · exact stays.decompressed offered room reply step earlier succeeds
  | setLast last =>
      exact ⟨stays.keeps, before (fun _ _ _ => nofun)⟩
  | close =>
      refine ⟨?_, before (fun _ _ _ => nofun)⟩
      change (MemberEngine.closeSession recorded.engine).2.KeepsWithin
      unfold MemberEngine.closeSession
      split
      · exact nofun
      · exact stays.keeps

/-- So do any number of requests. -/
theorem staysWithin_of_requestEach
    {recorded : RecordedEngine (MemberEngine encoders)}
    (stays : recorded.StaysWithin)
    (requests : List EngineRequest) :
    (recorded.requestEach requests).StaysWithin := by
  induction requests generalizing recorded with
  | nil =>
      exact stays
  | cons request requests ih =>
      exact ih (staysWithin_of_request stays request)

/-- An engine that has just been made stays within what it is offered. -/
theorem staysWithin_of_new :
    ({ engine := {} } : RecordedEngine (MemberEngine encoders)).StaysWithin where
  keeps := by
    intro parked none
    cases none
  decompressed := by
    intro input capacity reply step called
    cases called

/--
Every member that a codec reads ends where the codec says, whatever is behind it, and is
corrupt with one of its bytes missing.  So after any requests to a new engine every
decompress call that succeeded consumed something, and no more than it was offered.
-/
theorem boundary_and_within :
    (∀ (parameters : ParameterSet) (input content : Bytes) (length : Nat),
      parameters.decodeMember input = .ok (length, content) →
        Boundary CodecError.Corrupts parameters.decodeMember input length content) ∧
    ∀ (encoders : Encoders) (requests : List EngineRequest) (input : Bytes) (capacity : Nat)
      (reply : Reply) (step : Step),
      .decompress input capacity reply ∈
          (requestEach { engine := ({} : MemberEngine encoders) } requests).calls →
        reply.result = .ok step →
          step.Within input.length capacity := by
  refine ⟨?_, ?_⟩
  · intro parameters input content length decoded
    exact ParameterSet.boundary_of_decodeMember decoded
  · intro encoders requests
    exact (staysWithin_of_requestEach staysWithin_of_new requests).decompressed

/-- A gzip member of one byte with an extra field in its header, and one more byte behind it. -/
def extraMember : Bytes :=
  [0x1f, 0x8b, 0x08, 0x04, 0, 0, 0, 0, 0, 0xff, 2, 0, 0x61, 0x62, 0x01, 0x01, 0, 0xfe, 0xff, 0x78,
    0x83, 0x16, 0xdc, 0x8c, 1, 0, 0, 0, 0x1f]

/-- The member ends before the byte behind it. -/
theorem decodeMember_extraMember :
    ({ deflateFormat := .gzip } : ParameterSet).decodeMember extraMember = .ok (28, [0x78]) := by
  have head : Deflate.gzipHead (.ofBytes extraMember) =
      .done (extraMember.take 14) (.behind [] (extraMember.drop 14)) :=
    rfl
  have body : Deflate.body (.behind [] (extraMember.drop 14)) =
      .done #[0x78] (.behind [] (extraMember.drop 20)) := by
    unfold Deflate.body Deflate.blocks
    exact Decoder.iterate_stop rfl
  have read : Deflate.gzipMember.run (.ofBytes extraMember) =
      .done [0x78] (.behind [] (extraMember.drop 28)) := by
    change Deflate.gzipMember (.ofBytes extraMember) = _
    rw [Deflate.gzipMember, Decoder.bind_done head, Decoder.bind_done body]
    rfl
  change (Deflate.decodeGzip extraMember).mapError _ = _
  rw [Deflate.decodeGzip, if_neg (by decide), read]
  rfl

/-- The law holds of a member with an extra field, and of the call that takes its content out. -/
theorem boundary_and_within_extra :
    let parameters : ParameterSet := { deflateFormat := .gzip }
    let requests : List EngineRequest :=
      [.start parameters, .decompress extraMember 0, .decompress extraMember 4]
    Boundary CodecError.Corrupts parameters.decodeMember extraMember 28 [0x78] ∧
      .decompress extraMember 4 ⟨.ok ⟨28, 1⟩, [0x78]⟩ ∈
        (requestEach { engine := ({} : MemberEngine) } requests).calls ∧
      Step.Within ⟨28, 1⟩ extraMember.length 4 := by
  intro parameters requests
  have front : MemberEngine.decodeFront parameters extraMember =
      .ok ⟨.decompress, 29, 28, [0x78]⟩ := by
    rw [MemberEngine.decodeFront, decodeMember_extraMember]
    rfl
  have parked :
      ({ session := some parameters } : MemberEngine).call .decompress MemberEngine.decodeFront
          extraMember 0 =
        (⟨.error .insufficientBuffer, []⟩,
          { session := some parameters, parked := some ⟨.decompress, 29, 28, [0x78]⟩ }) := by
    have permitted :
        ({ session := some parameters } : MemberEngine).permit .decompress extraMember =
          .ok parameters :=
      rfl
    rw [MemberEngine.call, permitted]
    dsimp only [MemberEngine.parkedFor?, Option.filter]
    rw [front]
    rfl
  have called :
      .decompress extraMember 4 ⟨.ok ⟨28, 1⟩, [0x78]⟩ ∈
        (requestEach { engine := ({} : MemberEngine) } requests).calls := by
    change _ ∈ EngineCall.decompress extraMember 4
      ((({ session := some parameters } : MemberEngine).call .decompress MemberEngine.decodeFront
        extraMember 0).2.call .decompress MemberEngine.decodeFront extraMember 4).1 :: _
    rw [parked]
    exact List.mem_cons_self
  exact
    ⟨boundary_and_within.1 parameters extraMember [0x78] 28 decodeMember_extraMember, called,
      boundary_and_within.2 .own requests extraMember 4 _ ⟨28, 1⟩ called rfl⟩

end RecordedEngine

end MemberStream
