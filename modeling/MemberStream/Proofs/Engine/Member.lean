import MemberStream.Engine.Member
import MemberStream.Stream.Growth

namespace MemberStream

/-!
# Calls of a member engine

A call that is repeated with the same input finds what the last one parked, which
is what it would produce itself.  So the answer of a call is that of new work,
whether or not something is parked.
-/

variable {encoders : Encoders}

namespace CodecError

/-- No codec error means that a buffer is too small. -/
theorem toStreamError_ne_insufficientBuffer
    (error : CodecError) :
    error.toStreamError ≠ .insufficientBuffer := by
  unfold toStreamError
  split
  · exact nofun
  · exact nofun
  · exact nofun
  · exact nofun
  · exact nofun
  · exact nofun

end CodecError

namespace GrowthPolicy

theorem initialLength_le
    {policy : GrowthPolicy}
    {limit : Nat}
    (ceiling : policy.limit = some limit)
    (configured : Nat) :
    policy.initialLength configured ≤ limit := by
  rw [initialLength, ceiling]
  exact Nat.min_le_right _ _

end GrowthPolicy

namespace ParameterSet

/-- The longest member that an output buffer has room for, however far it grows. -/
def ceiling
    (parameters : ParameterSet) :
    Nat :=
  min (parameters.maxBufferLength.getD maxLength) maxLength

theorem ceiling_of_limited
    {parameters : ParameterSet}
    {limit : Nat}
    (limited : parameters.maxBufferLength = some limit)
    (word : limit ≤ maxLength) :
    parameters.ceiling = limit := by
  rw [ceiling, limited, Option.getD_some, Nat.min_eq_left word]

end ParameterSet

namespace GrowthPolicy

/-- Everything that a request for more room can come to. -/
inductive Grown
    (policy : GrowthPolicy)
    (current : Nat) :
    Except StreamError Nat × GrowthPolicy →
    Prop where
  /-- There is more room, unless the buffer is as long as a machine word can say. -/
  | enlarged
      {length : Nat}
      {next : GrowthPolicy}
      (limit : next.limit = policy.limit)
      (increment : 0 < next.increment)
      (within : ∀ limit, policy.limit = some limit → length ≤ limit)
      (larger : current < maxLength → current < length) :
      Grown policy current (.ok length, next)
  /-- The buffer is at its ceiling. -/
  | refused
      {wanted limit : Nat}
      {next : GrowthPolicy}
      (ceiling : policy.limit = some limit)
      (reached : limit ≤ current)
      (word : limit < maxLength) :
      Grown policy current (.error (.bufferLimitExceeded wanted limit), next)

/-- A wanted length is longer than the current one, as far as a machine word can say. -/
theorem lt_wantedOutputLength
    {policy : GrowthPolicy}
    (positive : 0 < policy.increment)
    (remaining : Nat)
    {current : Nat}
    (below : current < maxLength) :
    current < policy.wantedOutputLength remaining current := by
  unfold wantedOutputLength saturatingAdd
  dsimp only
  split
  · omega
  · omega

/-- A request for more room comes to one of the cases. -/
theorem nextOutputLength_cases
    {policy : GrowthPolicy}
    (positive : 0 < policy.increment)
    (remaining current : Nat) :
    policy.Grown current (policy.nextOutputLength remaining current) := by
  have doubled : 0 < policy.double.increment := by
    simp only [double, saturatingDouble, maxLength]
    omega
  have larger := @lt_wantedOutputLength policy.double doubled remaining current
  have clamped :=
    policy.double.clamp_cases (policy.double.wantedOutputLength remaining current) current
  unfold nextOutputLength
  dsimp only
  generalize policy.double.clamp _ current = outcome at clamped ⊢
  cases clamped with
  | granted within =>
      exact .enlarged rfl doubled within larger
  | capped ceiling beyond below =>
      refine .enlarged rfl doubled (fun other same => ?_) (fun _ => below)
      rw [show policy.double.limit = some other from same] at ceiling
      cases ceiling
      exact Nat.le_refl _
  | refused ceiling beyond reached =>
      exact .refused ceiling reached (Nat.lt_of_lt_of_le beyond (wantedOutputLength_le _ _ _))

/-- Without a ceiling an output buffer grows strictly, and can go on growing. -/
theorem nextOutputLength_of_unlimited
    {policy : GrowthPolicy}
    (unlimited : policy.limit = none)
    (positive : 0 < policy.increment)
    (remaining : Nat)
    {current : Nat}
    (below : current < maxLength) :
    ∃ length next,
      policy.nextOutputLength remaining current = (.ok length, next) ∧
        current < length ∧ next.limit = none ∧ 0 < next.increment := by
  have grown := nextOutputLength_cases positive remaining current
  generalize policy.nextOutputLength remaining current = outcome at grown ⊢
  cases grown with
  | enlarged limit increment within larger =>
      exact ⟨_, _, rfl, larger below, limit.trans unlimited, increment⟩
  | refused ceiling reached word =>
      rw [unlimited] at ceiling
      cases ceiling

end GrowthPolicy

namespace MemberEngine

theorem start_of_checkLevel
    (engine : MemberEngine encoders)
    {parameters : ParameterSet}
    (level : parameters.algorithm.checkLevel parameters.level = .ok ()) :
    EngineCalls.start engine parameters =
      (.ok (), ({ session := some parameters } : MemberEngine encoders)) := by
  change engine.startSession parameters = _
  rw [startSession, level]

/-- A session that has started has a level that its codec accepts, and nothing parked. -/
theorem of_start
    {engine started : MemberEngine encoders}
    {parameters : ParameterSet}
    (starts : EngineCalls.start engine parameters = (.ok (), started)) :
    parameters.algorithm.checkLevel parameters.level = .ok () ∧
      started = { session := some parameters } := by
  change engine.startSession parameters = _ at starts
  unfold startSession at starts
  split at starts
  · cases starts
  · rename_i level
    cases starts
    exact ⟨level, rfl⟩

/-- What a call of an engine comes to: new work, handed out or parked. -/
def fresh
    (engine : MemberEngine encoders)
    (work : Except StreamError ParkedMember)
    (capacity : Nat) :
    Reply × MemberEngine encoders :=
  match work with
  | .ok produced =>
      engine.deliver produced capacity
  | .error error =>
      ({ result := .error error }, { engine with parked := none })

/-- A permitted call comes to new work if what is parked for it is what that would produce. -/
theorem call_eq_fresh_of_permit
    {engine : MemberEngine encoders}
    {direction : Direction}
    {work : ParameterSet → Bytes → Except StreamError ParkedMember}
    {parameters : ParameterSet}
    {input : Bytes}
    (permitted : engine.permit direction input = .ok parameters)
    (same :
      ∀ parked, engine.parkedFor? direction input.length = some parked →
        work parameters input = .ok parked)
    (capacity : Nat) :
    engine.call direction work input capacity =
      engine.fresh (work parameters input) capacity := by
  unfold call
  rw [permitted]
  dsimp only
  cases found : engine.parkedFor? direction input.length with
  | none =>
      rfl
  | some parked =>
      rw [same parked found]
      rfl

/-- A call comes to new work if what is parked is what new work would produce. -/
theorem call_eq_fresh
    {engine : MemberEngine encoders}
    {direction : Direction}
    {work : ParameterSet → Bytes → Except StreamError ParkedMember}
    {parameters : ParameterSet}
    {input : Bytes}
    (session : engine.session = some parameters)
    (allowed : parameters.direction.allows direction = true)
    (nonempty : input ≠ [])
    (same : ∀ parked, engine.parked = some parked → work parameters input = .ok parked)
    (capacity : Nat) :
    engine.call direction work input capacity =
      engine.fresh (work parameters input) capacity := by
  have permitted : engine.permit direction input = .ok parameters := by
    simp [permit, session, allowed, nonempty]
  refine call_eq_fresh_of_permit permitted ?_ capacity
  intro parked found
  simp only [parkedFor?, Option.filter_eq_some_iff] at found
  exact same parked found.1

/-- Everything that new work can come to. -/
inductive Fresh
    (engine : MemberEngine encoders)
    (work : Except StreamError ParkedMember)
    (capacity : Nat) :
    Reply × MemberEngine encoders →
    Prop where
  /-- It is handed out. -/
  | handed
      {produced : ParkedMember}
      (works : work = .ok produced)
      (fits : produced.bytes.length ≤ capacity) :
      Fresh engine work capacity
        (⟨.ok ⟨produced.consumed, produced.bytes.length⟩, produced.bytes⟩,
          { engine with parked := none })
  /-- It does not fit and is parked. -/
  | parked
      {produced : ParkedMember}
      (works : work = .ok produced)
      (beyond : capacity < produced.bytes.length) :
      Fresh engine work capacity
        (⟨.error .insufficientBuffer, []⟩, { engine with parked := some produced })
  | failed
      {error : StreamError}
      (fails : work = .error error) :
      Fresh engine work capacity (⟨.error error, []⟩, { engine with parked := none })

/-- New work comes to one of the cases. -/
theorem fresh_cases
    (engine : MemberEngine encoders)
    (work : Except StreamError ParkedMember)
    (capacity : Nat) :
    Fresh engine work capacity (engine.fresh work capacity) := by
  cases work with
  | error error =>
      exact .failed rfl
  | ok produced =>
      change Fresh _ _ _ (engine.deliver produced capacity)
      unfold deliver
      dsimp only
      split
      · rename_i beyond
        exact .parked rfl beyond
      · rename_i fits
        exact .handed rfl (Nat.le_of_not_lt fits)

/-- A session that starts leaves nothing of what was in the engine before it. -/
theorem start_of_start
    {engine next : MemberEngine encoders}
    {parameters : ParameterSet}
    (starts : EngineCalls.start engine parameters = (.ok (), next))
    (other : MemberEngine encoders) :
    EngineCalls.start other parameters = (.ok (), next) := by
  change engine.startSession parameters = _ at starts
  change other.startSession parameters = _
  unfold startSession at starts ⊢
  split at starts
  · cases starts
  · exact starts

end MemberEngine

end MemberStream
