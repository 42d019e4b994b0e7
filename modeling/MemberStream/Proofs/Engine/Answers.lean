import MemberStream.Proofs.Engine.Member
import MemberStream.Proofs.Engine.Operating
import MemberStream.Proofs.Parameter.Staged

namespace MemberStream

/-!
# What a member engine answers

A member engine fails for one of five reasons.  One of them is a session whose
direction does not allow the call, and no stream ever comes to that: the
direction that it stages, and so the one that it starts sessions with, always allows its
calls.
-/

variable {encoders : Encoders}

/-- The error that an engine has answered a call with. -/
def EngineCall.error? : EngineCall → Option StreamError
  | .start _ (.error error) | .close (.error error)
  | .compress _ _ ⟨.error error, _⟩ | .decompress _ _ ⟨.error error, _⟩ =>
      some error
  | _ =>
      none

namespace EngineCall

variable
  {parameters : ParameterSet}
  {input : Bytes}
  {capacity : Nat}
  {reply : Reply}
  {result : Except StreamError Unit}
  {error : StreamError}

@[simp]
theorem error?_start :
    (start parameters result).error? = some error ↔ result = .error error := by
  cases result <;> simp [error?]

@[simp]
theorem error?_compress :
    (compress input capacity reply).error? = some error ↔ reply.result = .error error := by
  obtain ⟨result, filled⟩ := reply
  cases result <;> simp [error?]

@[simp]
theorem error?_decompress :
    (decompress input capacity reply).error? = some error ↔ reply.result = .error error := by
  obtain ⟨result, filled⟩ := reply
  cases result <;> simp [error?]

@[simp]
theorem error?_close :
    (close result).error? = some error ↔ result = .error error := by
  cases result <;> simp [error?]

end EngineCall

namespace MemberEngine

/-- Why a member engine can fail in a data call. -/
inductive Fails
    (engine : MemberEngine encoders)
    (direction : Direction) :
    StreamError →
    Prop where
  | unstarted
      (none : engine.session = none) :
      Fails engine direction .notYetStarted
  | misdirected
      {parameters : ParameterSet}
      (session : engine.session = some parameters)
      (disallowed : parameters.direction.allows direction = false) :
      Fails engine direction (.invalidParameter .incompatibleDirection)
  | empty :
      Fails engine direction .emptyBuffer
  | full :
      Fails engine direction .insufficientBuffer
  | codec
      (error : CodecError) :
      Fails engine direction error.toStreamError

/-- A data call that is not permitted fails for one of the reasons. -/
theorem fails_of_permit
    {engine : MemberEngine encoders}
    {direction : Direction}
    {input : Bytes}
    {error : StreamError}
    (refused : engine.permit direction input = .error error) :
    engine.Fails direction error := by
  unfold permit at refused
  split at refused
  · rename_i none
    cases refused
    exact .unstarted none
  · rename_i parameters session
    split at refused
    · rename_i disallowed
      cases refused
      exact .misdirected session (by simpa using disallowed)
    · split at refused
      · cases refused
        exact .empty
      · cases refused

/--
A data call fails for one of the reasons, if new work fails of its codec, and keeps the
session.
-/
theorem fails_of_call
    {engine next : MemberEngine encoders}
    {direction : Direction}
    {work : ParameterSet → Bytes → Except StreamError ParkedMember}
    {input : Bytes}
    {capacity : Nat}
    {reply : Reply}
    (works :
      ∀ parameters error,
        work parameters input = .error error → ∃ cause : CodecError, error = cause.toStreamError)
    (answer : engine.call direction work input capacity = (reply, next)) :
    (∀ error, reply.result = .error error → engine.Fails direction error) ∧
      next.session = engine.session := by
  have delivers {produced : ParkedMember}
      (answer : engine.deliver produced capacity = (reply, next)) :
      (∀ error, reply.result = .error error → engine.Fails direction error) ∧
        next.session = engine.session := by
    unfold deliver at answer
    dsimp only at answer
    split at answer
    · cases answer
      refine ⟨?_, rfl⟩
      rintro error ⟨⟩
      exact .full
    · cases answer
      exact ⟨by simp, rfl⟩
  unfold call at answer
  split at answer
  · rename_i refused
    cases answer
    refine ⟨?_, rfl⟩
    rintro error ⟨⟩
    exact fails_of_permit refused
  · split at answer
    · exact delivers answer
    · split at answer
      · exact delivers answer
      · rename_i parameters _ _ _ failed
        cases answer
        obtain ⟨cause, rfl⟩ := works _ _ failed
        refine ⟨?_, rfl⟩
        rintro error ⟨⟩
        exact .codec cause

/-- Encoding fails of the codec only. -/
theorem codec_of_encodeFront
    {parameters : ParameterSet}
    {input : Bytes}
    {error : StreamError}
    (failed : encodeFront encoders parameters input = .error error) :
    ∃ cause : CodecError, error = cause.toStreamError := by
  unfold encodeFront at failed
  dsimp only at failed
  split at failed
  · cases failed
  · cases failed
    exact ⟨_, rfl⟩

/-- Decoding fails of the codec only. -/
theorem codec_of_decodeFront
    {parameters : ParameterSet}
    {input : Bytes}
    {error : StreamError}
    (failed : decodeFront parameters input = .error error) :
    ∃ cause : CodecError, error = cause.toStreamError := by
  unfold decodeFront at failed
  split at failed
  · cases failed
  · cases failed
    exact ⟨_, rfl⟩

theorem fails_of_compress
    {engine next : MemberEngine encoders}
    {input : Bytes}
    {capacity : Nat}
    {reply : Reply}
    (answer : EngineCalls.compress engine input capacity = (reply, next)) :
    (∀ error, reply.result = .error error → engine.Fails .compress error) ∧
      next.session = engine.session :=
  fails_of_call (fun _ _ failed => codec_of_encodeFront failed) answer

theorem fails_of_decompress
    {engine next : MemberEngine encoders}
    {input : Bytes}
    {capacity : Nat}
    {reply : Reply}
    (answer : EngineCalls.decompress engine input capacity = (reply, next)) :
    (∀ error, reply.result = .error error → engine.Fails .decompress error) ∧
      next.session = engine.session :=
  fails_of_call (fun _ _ failed => codec_of_decodeFront failed) answer

/-- A start fails of the level that the codec refuses, and leaves the session before in place. -/
theorem codec_of_start
    {engine next : MemberEngine encoders}
    {parameters : ParameterSet}
    {result : Except StreamError Unit}
    (answer : EngineCalls.start engine parameters = (result, next)) :
    (∀ error, result = .error error → ∃ cause : CodecError, error = cause.toStreamError) ∧
      (next.session = engine.session ∨ next.session = some parameters) := by
  change engine.startSession parameters = _ at answer
  unfold startSession at answer
  split at answer
  · rename_i cause refused
    cases answer
    refine ⟨?_, .inl rfl⟩
    rintro error ⟨⟩
    exact ⟨cause, rfl⟩
  · cases answer
    exact ⟨by simp, .inr rfl⟩

/-- A close fails without a session only, and leaves none. -/
theorem unstarted_of_close
    {engine next : MemberEngine encoders}
    {result : Except StreamError Unit}
    (answer : EngineCalls.close engine = (result, next)) :
    (∀ error, result = .error error → error = .notYetStarted) ∧ next.session = none := by
  change engine.closeSession = _ at answer
  unfold closeSession isActive at answer
  split at answer
  · cases answer
    exact ⟨by simp, rfl⟩
  · rename_i inactive
    cases answer
    refine ⟨?_, by simpa using inactive⟩
    rintro error ⟨⟩
    rfl

end MemberEngine

theorem CodecError.toStreamError_ne_incompatibleDirection
    (error : CodecError) :
    error.toStreamError ≠ .invalidParameter .incompatibleDirection := by
  unfold toStreamError
  split <;> simp

namespace TargetRole

/-- A member engine whose session, if there is one, has a direction that a role can work in. -/
def Serves
    (role : TargetRole)
    (engine : MemberEngine encoders) :
    Prop :=
  ∀ parameters, engine.session = some parameters → role.directed parameters = true

/-- Starting with a direction that the role can work in leaves the engine at its service. -/
theorem serves_of_start
    {role : TargetRole}
    {engine next : MemberEngine encoders}
    {parameters : ParameterSet}
    {result : Except StreamError Unit}
    (serves : role.Serves engine)
    (directed : role.directed parameters = true)
    (answer : EngineCalls.start engine parameters = (result, next)) :
    role.Serves next := by
  intro running session
  rcases (MemberEngine.codec_of_start answer).2 with same | started
  · exact serves running (same.symm.trans session)
  · rw [started] at session
    cases session
    exact directed

/-- An engine that serves a role does not fail of its direction. -/
theorem not_misdirected
    {role : TargetRole}
    {engine : MemberEngine encoders}
    {direction : Direction}
    {error : StreamError}
    (serves : role.Serves engine)
    (way : ∀ parameters, role.directed parameters = true →
      parameters.direction.allows direction = true)
    (fails : engine.Fails direction error) :
    error ≠ .invalidParameter .incompatibleDirection := by
  cases fails with
  | misdirected session disallowed =>
      rw [way _ (serves _ session)] at disallowed
      cases disallowed
  | codec error =>
      exact error.toStreamError_ne_incompatibleDirection
  | _ =>
      exact nofun

end TargetRole

/-- A recorded member engine that serves a role and has never failed of its direction. -/
structure RecordedEngine.AtService
    (role : TargetRole)
    (recorded : RecordedEngine (MemberEngine encoders)) :
    Prop where
  serves : role.Serves recorded.engine
  directed :
    ∀ call, call ∈ recorded.calls →
      call.error? ≠ some (.invalidParameter .incompatibleDirection)

namespace RecordedEngine.AtService

variable {role : TargetRole}

/-- One more call that does not fail of the direction leaves the engine at service. -/
theorem add
    {recorded next : RecordedEngine (MemberEngine encoders)}
    {call : EngineCall}
    (atService : recorded.AtService role)
    (serves : role.Serves next.engine)
    (calls : next.calls = call :: recorded.calls)
    (fine : call.error? ≠ some (.invalidParameter .incompatibleDirection)) :
    next.AtService role where
  serves := serves
  directed := by
    rw [calls]
    exact List.forall_mem_cons.mpr ⟨fine, atService.directed⟩

/-- A start with a direction that the role can work in leaves the engine at service. -/
theorem start
    {recorded next : RecordedEngine (MemberEngine encoders)}
    {parameters : ParameterSet}
    {result : Except StreamError Unit}
    (atService : recorded.AtService role)
    (directed : role.directed parameters = true)
    (answer : EngineCalls.start recorded parameters = (result, next)) :
    next.AtService role := by
  cases answer
  have starts : EngineCalls.start recorded.engine parameters = _ :=
    rfl
  have fails := (MemberEngine.codec_of_start starts).1
  refine atService.add (TargetRole.serves_of_start atService.serves directed rfl) rfl ?_
  intro misdirected
  obtain ⟨cause, same⟩ := fails _ (EngineCall.error?_start.mp misdirected)
  exact cause.toStreamError_ne_incompatibleDirection same.symm

/-- A data call that keeps the session leaves the engine at service, if it does not fail of it. -/
theorem data
    {recorded next : RecordedEngine (MemberEngine encoders)}
    {call : EngineCall}
    (direction : Direction)
    (atService : recorded.AtService role)
    (way :
      ∀ parameters : ParameterSet,
        role.directed parameters = true → parameters.direction.allows direction = true)
    (calls : next.calls = call :: recorded.calls)
    (session : next.engine.session = recorded.engine.session)
    (fails : ∀ error, call.error? = some error → recorded.engine.Fails direction error) :
    next.AtService role := by
  refine atService.add ?_ calls ?_
  · intro parameters running
    exact atService.serves parameters (session.symm.trans running)
  · intro misdirected
    exact TargetRole.not_misdirected atService.serves way (fails _ misdirected) rfl

/-- A compress call of a writer leaves the engine at service. -/
theorem compress
    {recorded next : RecordedEngine (MemberEngine encoders)}
    {input : Bytes}
    {capacity : Nat}
    {reply : Reply}
    (atService : recorded.AtService .writer)
    (answer : EngineCalls.compress recorded input capacity = (reply, next)) :
    next.AtService .writer := by
  cases answer
  have answers : EngineCalls.compress recorded.engine input capacity = _ :=
    rfl
  obtain ⟨fails, session⟩ := MemberEngine.fails_of_compress answers
  exact atService.data .compress (fun _ allowed => allowed) rfl session
    (fun error failed => fails error (EngineCall.error?_compress.mp failed))

/-- A decompress call of a reader leaves the engine at service. -/
theorem decompress
    {recorded next : RecordedEngine (MemberEngine encoders)}
    {input : Bytes}
    {capacity : Nat}
    {reply : Reply}
    (atService : recorded.AtService .reader)
    (answer : EngineCalls.decompress recorded input capacity = (reply, next)) :
    next.AtService .reader := by
  cases answer
  have answers : EngineCalls.decompress recorded.engine input capacity = _ :=
    rfl
  obtain ⟨fails, session⟩ := MemberEngine.fails_of_decompress answers
  exact atService.data .decompress (fun _ allowed => allowed) rfl session
    (fun error failed => fails error (EngineCall.error?_decompress.mp failed))

/-- A close leaves the engine at service. -/
theorem close
    {recorded next : RecordedEngine (MemberEngine encoders)}
    {result : Except StreamError Unit}
    (atService : recorded.AtService role)
    (answer : EngineCalls.close recorded = (result, next)) :
    next.AtService role := by
  cases answer
  have closes : EngineCalls.close recorded.engine = _ :=
    rfl
  obtain ⟨fails, session⟩ := MemberEngine.unstarted_of_close closes
  refine atService.add ?_ rfl ?_
  · intro parameters running
    exact nomatch session.symm.trans running
  · intro misdirected
    exact nomatch fails _ (EngineCall.error?_close.mp misdirected)

/-- A stream that starts with a direction it can work in leaves its engine at service. -/
theorem of_operated
    {recorded next : RecordedEngine (MemberEngine encoders)}
    {parameters : ParameterSet}
    (atService : recorded.AtService role)
    (directed : role.directed parameters = true)
    (operated : Operated role parameters recorded next) :
    next.AtService role := by
  induction operated with
  | rest =>
      exact atService
  | start _ answer ih =>
      exact ih.start directed answer
  | compress writer _ answer ih =>
      subst writer
      exact ih.compress answer
  | decompress reader _ answer ih =>
      subst reader
      exact ih.decompress answer
  | setLast last _ ih =>
      exact ih.add ih.serves rfl (by simp [EngineCall.error?])
  | close _ answer ih =>
      exact ih.close answer

end RecordedEngine.AtService

end MemberStream
