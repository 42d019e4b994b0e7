import MemberStream.Proofs.Engine.Record
import MemberStream.Stream.Phase

namespace MemberStream

/-!
# Session discipline

A session of an engine is open from a start that the engine accepts up to the
next close, whatever the engine answers to that.  Calls on an engine are
disciplined if a session was open at every data call, mark and close, and none at
any start.

A stream remembers whether its session is open, beside its phase and the failure it
keeps.  `SessionState.Disciplined` says how the three hang together with the calls
between two requests, for writers and readers alike.
-/

namespace EngineCall

/-- Whether a call starts a session. -/
def isStart : EngineCall → Bool
  | .start _ _ =>
      true
  | _ =>
      false

/-- Whether a call closes a session. -/
def isClose : EngineCall → Bool
  | .close _ =>
      true
  | _ =>
      false

/-- Whether a session is open after some calls, given newest first. -/
def leaveOpen : List EngineCall → Bool
  | [] =>
      false
  | .start _ (.ok ()) :: _ =>
      true
  | .close _ :: _ =>
      false
  | _ :: earlier =>
      leaveOpen earlier

/-- Whether each of some calls, given newest first, was made when it may be made. -/
def Disciplined : List EngineCall → Prop
  | [] =>
      True
  | call :: earlier =>
      leaveOpen earlier = !call.isStart ∧ Disciplined earlier

/-- A call that neither starts nor closes a session leaves open what was open before. -/
theorem leaveOpen_cons
    {call : EngineCall}
    (noStart : call.isStart = false)
    (noClose : call.isClose = false)
    (earlier : List EngineCall) :
    leaveOpen (call :: earlier) = leaveOpen earlier := by
  cases call with
  | start parameters result =>
      cases noStart
  | close result =>
      cases noClose
  | compress input capacity reply =>
      rfl
  | decompress input capacity reply =>
      rfl
  | setLast last =>
      rfl

/-- What has been disciplined was so at any time before. -/
theorem Disciplined.of_append
    {later earlier : List EngineCall}
    (disciplined : Disciplined (later ++ earlier)) :
    Disciplined earlier := by
  induction later with
  | nil =>
      exact disciplined
  | cons call rest ih =>
      exact ih disciplined.2

/-- Without a start, every close takes away a session that was open. -/
theorem countP_isClose_of_disciplined
    {later earlier : List EngineCall}
    (disciplined : Disciplined (later ++ earlier))
    (noStart : ∀ call, call ∈ later → call.isStart = false) :
    later.countP isClose + (leaveOpen (later ++ earlier)).toNat = (leaveOpen earlier).toNat := by
  induction later with
  | nil =>
      exact Nat.zero_add _
  | cons call rest ih =>
      have before := ih disciplined.2
        (fun other member => noStart other (List.mem_cons_of_mem call member))
      have started := noStart call List.mem_cons_self
      cases closes : call.isClose with
      | false =>
          rw [List.countP_cons_of_neg (by simp [closes]), List.cons_append,
            leaveOpen_cons started closes]
          exact before
      | true =>
          have opened : leaveOpen (rest ++ earlier) = true :=
            disciplined.1.trans (congrArg Bool.not started)
          have closed : leaveOpen (call :: (rest ++ earlier)) = false := by
            cases call with
            | close result =>
                rfl
            | _ =>
                cases closes
          rw [List.countP_cons_of_pos closes, List.cons_append, closed, ← before, opened]
          rfl

/-- A session is closed at most once before the next start. -/
theorem countP_isClose_le_one
    {later earlier : List EngineCall}
    (disciplined : Disciplined (later ++ earlier))
    (noStart : ∀ call, call ∈ later → call.isStart = false) :
    later.countP isClose ≤ 1 := by
  have closes := countP_isClose_of_disciplined disciplined noStart
  have atMost := Bool.toNat_le (leaveOpen earlier)
  omega

/-- Whether every session was closed at most once before the next start. -/
def ClosedOnce
    (calls : List EngineCall) :
    Prop :=
  ∀ (after later earlier : List EngineCall) (parameters : ParameterSet),
    calls = after ++ later ++ .start parameters (.ok ()) :: earlier →
      (∀ call, call ∈ later → call.isStart = false) →
        later.countP isClose ≤ 1

/-- With discipline, every session is closed at most once. -/
theorem Disciplined.closedOnce
    {calls : List EngineCall}
    (disciplined : Disciplined calls) :
    ClosedOnce calls := by
  intro after later earlier parameters parts noStart
  rw [parts, List.append_assoc] at disciplined
  exact countP_isClose_le_one disciplined.of_append noStart

end EngineCall

namespace RecordedEngine

variable {ε : Type}

/-- An engine that has been called with discipline, and whether it has a session open. -/
structure Disciplined
    (recorded : RecordedEngine ε)
    (inSession : Bool) :
    Prop where
  calls : EngineCall.Disciplined recorded.calls
  leaveOpen : EngineCall.leaveOpen recorded.calls = inSession

/-- An engine that has not been called has no session open. -/
theorem disciplined_of_calls_nil
    {recorded : RecordedEngine ε}
    (none : recorded.calls = []) :
    recorded.Disciplined false where
  calls := by
    rw [none]
    trivial
  leaveOpen := by
    rw [none]
    rfl

/-- A call that is made in a session, and does not close it, keeps to it. -/
theorem disciplined_of_call
    {recorded next : RecordedEngine ε}
    {call : EngineCall}
    (inside : recorded.Disciplined true)
    (calls : next.calls = call :: recorded.calls)
    (noStart : call.isStart = false)
    (noClose : call.isClose = false) :
    next.Disciplined true where
  calls := by
    rw [calls]
    exact ⟨by rw [inside.leaveOpen, noStart]; rfl, inside.calls⟩
  leaveOpen := by
    rw [calls, EngineCall.leaveOpen_cons noStart noClose, inside.leaveOpen]

variable [EngineCalls ε]

/-- Only a start that is accepted opens a session. -/
theorem disciplined_of_start
    {recorded next : RecordedEngine ε}
    {parameters : ParameterSet}
    {result : Except StreamError Unit}
    (outside : recorded.Disciplined false)
    (answer : EngineCalls.start recorded parameters = (result, next)) :
    next.Disciplined result.isOk := by
  have calls := calls_of_start answer
  refine ⟨?_, ?_⟩
  · rw [calls]
    exact ⟨outside.leaveOpen, outside.calls⟩
  · rw [calls]
    cases result with
    | ok =>
        rfl
    | error error =>
        exact outside.leaveOpen

theorem disciplined_of_compress
    {recorded next : RecordedEngine ε}
    {input : Bytes}
    {capacity : Nat}
    {reply : Reply}
    (inside : recorded.Disciplined true)
    (answer : EngineCalls.compress recorded input capacity = (reply, next)) :
    next.Disciplined true :=
  disciplined_of_call inside (calls_of_compress answer) rfl rfl

theorem disciplined_of_decompress
    {recorded next : RecordedEngine ε}
    {input : Bytes}
    {capacity : Nat}
    {reply : Reply}
    (inside : recorded.Disciplined true)
    (answer : EngineCalls.decompress recorded input capacity = (reply, next)) :
    next.Disciplined true :=
  disciplined_of_call inside (calls_of_decompress answer) rfl rfl

theorem disciplined_setLast
    {recorded : RecordedEngine ε}
    (inside : recorded.Disciplined true)
    (last : Bool) :
    (EngineCalls.setLast recorded last).Disciplined true := by
  have calls : (EngineCalls.setLast recorded last).calls = .setLast last :: recorded.calls :=
    rfl
  exact disciplined_of_call inside calls rfl rfl

/-- A close ends the session, whatever the engine answers. -/
theorem disciplined_of_close
    {recorded next : RecordedEngine ε}
    {result : Except StreamError Unit}
    (inside : recorded.Disciplined true)
    (answer : EngineCalls.close recorded = (result, next)) :
    next.Disciplined false := by
  have calls := calls_of_close answer
  refine ⟨?_, ?_⟩
  · rw [calls]
    exact ⟨inside.leaveOpen, inside.calls⟩
  · rw [calls]
    rfl

end RecordedEngine

/-- What a stream remembers of its session, and the engine that it has called. -/
structure SessionState (ε : Type) where
  engine : RecordedEngine ε
  sessionOpen : Bool
  phase : Phase
  failure : Option StreamError

namespace SessionState

variable {ε : Type}

/-- A stream whose session is open, in a given phase. -/
structure InSession
    (state : SessionState ε)
    (phase : Phase) :
    Prop where
  engine : state.engine.Disciplined true
  sessionOpen : state.sessionOpen = true
  phase : state.phase = phase

/-- A stream that has no session, and opens none before it is reset. -/
structure Quiet
    (state : SessionState ε) :
    Prop where
  engine : state.engine.Disciplined false
  sessionOpen : state.sessionOpen = false
  refuses : state.phase = .closed ∨ state.failure ≠ none

/-- A stream between two requests that knows whether the session of its engine is open. -/
structure Disciplined
    (state : SessionState ε) :
    Prop where
  engine : state.engine.Disciplined state.sessionOpen
  active : state.phase = .active → state.failure = none → state.sessionOpen = true
  inactive : state.phase ≠ .active → state.sessionOpen = false

variable {state : SessionState ε}

theorem InSession.known
    {phase : Phase}
    (inside : state.InSession phase) :
    state.engine.Disciplined state.sessionOpen := by
  rw [inside.sessionOpen]
  exact inside.engine

theorem InSession.disciplined
    (inside : state.InSession .active) :
    state.Disciplined where
  engine := inside.known
  active := fun _ _ => inside.sessionOpen
  inactive := fun inactive => absurd inside.phase inactive

/-- A stream whose session has ended is disciplined. -/
theorem Quiet.disciplined
    (quiet : state.Quiet) :
    state.Disciplined where
  engine := by
    rw [quiet.sessionOpen]
    exact quiet.engine
  active phase unfailed := by
    rcases quiet.refuses with closed | failed
    · rw [phase] at closed
      cases closed
    · exact absurd unfailed failed
  inactive := fun _ => quiet.sessionOpen

/-- A stream that has just been built is disciplined. -/
theorem disciplined_of_built
    (engine : ε) :
    Disciplined ⟨{ engine }, false, .idle, none⟩ where
  engine := RecordedEngine.disciplined_of_calls_nil rfl
  active := nofun
  inactive := fun _ => rfl

/-- The session of an active stream that has not failed is open. -/
theorem Disciplined.inSession
    (disciplined : state.Disciplined)
    (unfailed : state.failure = none)
    (phase : state.phase = .active) :
    state.InSession .active := by
  have sessionOpen := disciplined.active phase unfailed
  have engine := disciplined.engine
  rw [sessionOpen] at engine
  exact ⟨engine, sessionOpen, phase⟩

/-- Outside of the active phase no session is open. -/
theorem Disciplined.outside
    (disciplined : state.Disciplined)
    (phase : state.phase ≠ .active) :
    state.engine.Disciplined false ∧ state.sessionOpen = false := by
  have sessionOpen := disciplined.inactive phase
  have engine := disciplined.engine
  rw [sessionOpen] at engine
  exact ⟨engine, sessionOpen⟩

theorem Disciplined.quiet
    (disciplined : state.Disciplined)
    (closed : state.phase = .closed) :
    state.Quiet := by
  obtain ⟨engine, sessionOpen⟩ := disciplined.outside (by simp [closed])
  exact ⟨engine, sessionOpen, .inl closed⟩

variable [EngineCalls ε]

/-- The state after the session has been torn down. -/
def teardown
    (state : SessionState ε) :
    SessionState ε :=
  if state.sessionOpen then
    { state with engine := (EngineCalls.close state.engine).2, sessionOpen := false }
  else
    state

/-- Tearing down leaves no session open. -/
theorem disciplined_teardown
    (known : state.engine.Disciplined state.sessionOpen) :
    state.teardown.engine.Disciplined false ∧
      state.teardown.sessionOpen = false ∧
      state.teardown.phase = state.phase ∧
      state.teardown.failure = state.failure := by
  unfold teardown
  split
  · rename_i inside
    rw [inside] at known
    exact ⟨RecordedEngine.disciplined_of_close known rfl, rfl, rfl, rfl⟩
  · rename_i outside
    rw [Bool.not_eq_true] at outside
    rw [outside] at known
    exact ⟨known, outside, rfl, rfl⟩

/-- Tearing down ends the session of a stream that refuses data. -/
theorem quiet_teardown
    (known : state.engine.Disciplined state.sessionOpen)
    (refuses : state.phase = .closed ∨ state.failure ≠ none) :
    state.teardown.Quiet := by
  obtain ⟨closed, sessionOpen, phase, failure⟩ := disciplined_teardown known
  exact ⟨closed, sessionOpen, by rwa [phase, failure]⟩

theorem InSession.quiet_of_close
    {phase : Phase}
    {next : RecordedEngine ε}
    {result : Except StreamError Unit}
    (inside : state.InSession phase)
    (answer : EngineCalls.close state.engine = (result, next))
    (failure : Option StreamError) :
    Quiet ⟨next, false, .closed, failure⟩ where
  engine := RecordedEngine.disciplined_of_close inside.engine answer
  sessionOpen := rfl
  refuses := .inl rfl

theorem quiet_of_start
    {recorded next : RecordedEngine ε}
    {parameters : ParameterSet}
    {error : StreamError}
    (outside : recorded.Disciplined false)
    (answer : EngineCalls.start recorded parameters = (.error error, next))
    (phase : Phase) :
    Quiet ⟨next, false, phase, some error⟩ where
  engine := RecordedEngine.disciplined_of_start outside answer
  sessionOpen := rfl
  refuses := .inr (by simp)

end SessionState

end MemberStream
