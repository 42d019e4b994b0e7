import MemberStream.Engine.Member
import MemberStream.Proofs.Parameter.Overriding

namespace MemberStream

/-!
# Engines that ignore the debug level

An engine is started with a whole parameter set, of which the debug level is meant for
the stream.  An engine ignores the level if none of its answers tells which level it was
started with.  What it keeps to itself may differ: a member engine stores the whole set,
and ignores the level all the same.
-/

variable {encoders : Encoders}

/-- Two calls answer alike and leave related states. -/
structure Together
    {α β γ : Type}
    (related : β → γ → Prop)
    (first : α × β)
    (second : α × γ) :
    Prop where
  answer : first.1 = second.1
  state : related first.2 second.2

/-- Calls that go together have one answer and two related states. -/
theorem Together.split
    {α β γ : Type}
    {related : β → γ → Prop}
    {first : α × β}
    {second : α × γ}
    (together : Together related first second) :
    ∃ answer one other, first = (answer, one) ∧ second = (answer, other) ∧ related one other :=
  ⟨first.1, first.2, second.2, rfl, Prod.ext together.answer.symm rfl, together.state⟩

theorem Together.answers
    {α β γ : Type}
    {related : β → γ → Prop}
    {first : α × β}
    {answer : α}
    {other : γ}
    (together : Together related first (answer, other)) :
    ∃ one, first = (answer, one) ∧ related one other :=
  ⟨first.2, Prod.ext together.answer rfl, together.state⟩

section Engines

variable {ε : Type} [EngineCalls ε]

/-- Related engines answer alike, and stay related, at whatever debug levels they are started. -/
structure LevelBlind
    (same : ε → ε → Prop) :
    Prop where
  start :
    ∀ {first second : ε},
      same first second →
        ∀ (parameters : ParameterSet) (lower upper : DebugLevel),
          Together same
            (EngineCalls.start first (parameters.atLevel lower))
            (EngineCalls.start second (parameters.atLevel upper))
  compress :
    ∀ {first second : ε},
      same first second →
        ∀ (input : Bytes) (capacity : Nat),
          Together same
            (EngineCalls.compress first input capacity)
            (EngineCalls.compress second input capacity)
  decompress :
    ∀ {first second : ε},
      same first second →
        ∀ (input : Bytes) (capacity : Nat),
          Together same
            (EngineCalls.decompress first input capacity)
            (EngineCalls.decompress second input capacity)
  setLast :
    ∀ {first second : ε},
      same first second →
        ∀ last : Bool, same (EngineCalls.setLast first last) (EngineCalls.setLast second last)
  close :
    ∀ {first second : ε},
      same first second →
        Together same (EngineCalls.close first) (EngineCalls.close second)

/-- An engine ignores the debug level if it cannot be told apart from itself at another level. -/
def IgnoresLevel
    (engine : ε) :
    Prop :=
  ∃ same : ε → ε → Prop, LevelBlind same ∧ same engine engine

end Engines

namespace MemberEngine

/-- The same member engine, with its session at a debug level. -/
def atLevel
    (engine : MemberEngine encoders)
    (level : DebugLevel) :
    MemberEngine encoders :=
  { engine with session := engine.session.map (·.atLevel level) }

/-- Member engines that differ in the debug level of their sessions only. -/
def SameButLevel
    (first second : MemberEngine encoders) :
    Prop :=
  first.atLevel .none = second.atLevel .none

variable
  {first second : MemberEngine encoders}
  (engine : MemberEngine encoders)
  (level : DebugLevel)

/-- What has been produced is delivered at a debug level as at any other. -/
theorem deliver_atLevel
    (produced : ParkedMember)
    (capacity : Nat) :
    (engine.atLevel level).deliver produced capacity =
      ((engine.deliver produced capacity).1,
        (engine.deliver produced capacity).2.atLevel level) := by
  unfold deliver
  dsimp only
  split
  · rfl
  · rfl

/-- A call is permitted at a debug level as at any other. -/
theorem permit_atLevel
    (direction : Direction)
    (input : Bytes) :
    (engine.atLevel level).permit direction input =
      (engine.permit direction input).map (·.atLevel level) := by
  unfold permit atLevel
  cases engine.session with
  | none =>
      rfl
  | some parameters =>
      dsimp only [Option.map_some, ParameterSet.atLevel]
      split
      · rfl
      · split
        · rfl
        · rfl

/-- A data call is answered at a debug level as at any other, if its work does not read it. -/
theorem call_atLevel
    {work : ParameterSet → Bytes → Except StreamError ParkedMember}
    (blind : ∀ parameters input, work (parameters.atLevel level) input = work parameters input)
    (direction : Direction)
    (input : Bytes)
    (capacity : Nat) :
    (engine.atLevel level).call direction work input capacity =
      ((engine.call direction work input capacity).1,
        (engine.call direction work input capacity).2.atLevel level) := by
  have parked : (engine.atLevel level).parkedFor? direction input.length =
      engine.parkedFor? direction input.length :=
    rfl
  unfold call
  rw [permit_atLevel, parked]
  cases engine.permit direction input with
  | error error =>
      rfl
  | ok parameters =>
      dsimp only [Except.map]
      cases engine.parkedFor? direction input.length with
      | some parked =>
          exact deliver_atLevel engine level parked capacity
      | none =>
          dsimp only
          rw [blind]
          cases work parameters input with
          | ok produced =>
              exact deliver_atLevel engine level produced capacity
          | error error =>
              rfl

/-- A session starts at one debug level as at another. -/
theorem startSession_alike
    (same : SameButLevel first second)
    (parameters : ParameterSet)
    (lower upper : DebugLevel) :
    Together SameButLevel
      (first.startSession (parameters.atLevel lower))
      (second.startSession (parameters.atLevel upper)) := by
  unfold startSession
  dsimp only [ParameterSet.atLevel]
  cases parameters.algorithm.checkLevel parameters.level with
  | error error =>
      exact ⟨rfl, same⟩
  | ok =>
      exact ⟨rfl, rfl⟩

theorem call_alike
    {work : ParameterSet → Bytes → Except StreamError ParkedMember}
    (same : SameButLevel first second)
    (blind : ∀ parameters input, work (parameters.atLevel .none) input = work parameters input)
    (direction : Direction)
    (input : Bytes)
    (capacity : Nat) :
    Together SameButLevel
      (first.call direction work input capacity)
      (second.call direction work input capacity) := by
  have both := call_atLevel first .none blind direction input capacity
  rw [same, call_atLevel second .none blind direction input capacity] at both
  exact ⟨(congrArg Prod.fst both).symm, (congrArg Prod.snd both).symm⟩

/-- Sessions are closed alike by engines that differ in their debug level only. -/
theorem closeSession_alike
    (same : SameButLevel first second) :
    Together SameButLevel first.closeSession second.closeSession := by
  have active : first.isActive = second.isActive := by
    have sessions := congrArg (fun engine => engine.session.isSome) same
    simpa only [atLevel, isActive, Option.isSome_map] using sessions
  unfold closeSession
  rw [active]
  split
  · exact ⟨rfl, rfl⟩
  · exact ⟨rfl, same⟩

/-- Input is marked alike for engines that differ in their debug level only. -/
theorem setLast_alike
    (same : SameButLevel first second)
    (last : Bool) :
    ({ first with last := last } : MemberEngine encoders).SameButLevel
      { second with last := last } := by
  let mark (engine : MemberEngine encoders) : MemberEngine encoders :=
    { engine with last := last }
  exact congrArg mark same

/-- A member engine ignores the debug level, in whatever state it is. -/
theorem ignoresLevel :
    IgnoresLevel engine := by
  refine ⟨SameButLevel, ?_, rfl⟩
  exact {
    start := startSession_alike
    compress := fun same => call_alike same (fun _ _ => rfl) .compress
    decompress := fun same => call_alike same (fun _ _ => rfl) .decompress
    setLast := setLast_alike
    close := closeSession_alike }

end MemberEngine

end MemberStream
