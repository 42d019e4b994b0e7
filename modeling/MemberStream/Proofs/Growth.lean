import MemberStream.Proofs.Engine.Attempts
import MemberStream.Proofs.Engine.Member

namespace MemberStream

/-!
# How an output buffer grows

Whenever the engine finds the output buffer too short, the increment doubles, and the
buffer comes to at least that length, unless its ceiling is in the way.  So as many
attempts fall short as doublings are needed to reach the ceiling, or a length that the
engine is content with; one may fall short where none are needed, for it is only then
that the increment counts.
-/

namespace GrowthPolicy

/-- A wanted length is no shorter than the increment, as far as a machine word can say. -/
theorem le_wantedOutputLength
    (policy : GrowthPolicy)
    (remaining current : Nat) :
    min policy.increment maxLength ≤ policy.wantedOutputLength remaining current := by
  unfold wantedOutputLength saturatingAdd
  dsimp only
  split <;> omega

/-- A request for more room doubles the increment, whatever comes of it. -/
theorem eq_double_of_nextOutputLength
    {policy next : GrowthPolicy}
    {remaining current : Nat}
    {result : Except StreamError Nat}
    (answer : policy.nextOutputLength remaining current = (result, next)) :
    next = policy.double :=
  (congrArg Prod.snd answer).symm

/-- An enlarged output buffer is as long as the doubled increment, or at its ceiling. -/
theorem increment_le_of_nextOutputLength
    {policy next : GrowthPolicy}
    {remaining current length : Nat}
    (grown : policy.nextOutputLength remaining current = (.ok length, next)) :
    min next.increment maxLength ≤ length ∨ policy.limit = some length := by
  simp only [nextOutputLength, Prod.mk.injEq] at grown
  obtain ⟨clamped, rfl⟩ := grown
  rcases eq_or_lt_of_clamp clamped with rfl | ⟨ceiling, -⟩
  · exact .inl (le_wantedOutputLength _ remaining current)
  · exact .inr ceiling

end GrowthPolicy

/-- How many of some attempts fell short. -/
def shortages
    (attempts : List Attempt) :
    Nat :=
  attempts.countP Attempt.short

/-- The increment that a session starts with. -/
def ParameterSet.firstIncrement
    (parameters : ParameterSet) :
    Nat :=
  max parameters.bufferGrowth 1

/-- The increment after some shortages: it doubles at each, as far as a machine word can say. -/
def ParameterSet.incrementAfter
    (parameters : ParameterSet)
    (shortages : Nat) :
    Nat :=
  if shortages = 0 then
    parameters.firstIncrement
  else
    min (parameters.firstIncrement * 2 ^ shortages) maxLength

/-- The increment doubles at a shortage. -/
theorem ParameterSet.saturatingDouble_incrementAfter
    (parameters : ParameterSet)
    (shortages : Nat) :
    saturatingDouble (parameters.incrementAfter shortages) =
      parameters.incrementAfter (shortages + 1) := by
  unfold incrementAfter saturatingDouble
  rw [if_neg (Nat.succ_ne_zero _), Nat.pow_succ, ← Nat.mul_assoc]
  split
  · rename_i none
    rw [none, Nat.pow_zero, Nat.mul_one, Nat.mul_comm]
  · omega

/-- The increment is what doubling makes of the first one, if a machine word can say that. -/
theorem ParameterSet.incrementAfter_of_le
    {parameters : ParameterSet}
    (measured : parameters.firstIncrement ≤ maxLength)
    (shortages : Nat) :
    parameters.incrementAfter shortages =
      min (parameters.firstIncrement * 2 ^ shortages) maxLength := by
  unfold incrementAfter
  split
  · rename_i none
    rw [none, Nat.pow_zero, Nat.mul_one, Nat.min_eq_left measured]
  · rfl

/-- An attempt that falls short is one more shortage. -/
theorem shortages_cons_short
    (length : Nat)
    (attempts : List Attempt) :
    shortages (⟨length, true⟩ :: attempts) = shortages attempts + 1 :=
  List.countP_cons_of_pos rfl

/--
Whether an output buffer has come to some length over some attempts, newest first, by
growing strictly after each that fell short, and never otherwise.
-/
def Enlarges : Nat → List Attempt → Prop
  | _, [] =>
      True
  | length, attempt :: earlier =>
      (if attempt.short then attempt.capacity < length else attempt.capacity = length) ∧
        Enlarges attempt.capacity earlier

/-- An output buffer never shrinks, and is longer than it was when it fell short. -/
theorem Enlarges.le
    {length : Nat}
    {attempts : List Attempt}
    (enlarges : Enlarges length attempts) :
    ∀ attempt ∈ attempts,
      attempt.capacity ≤ length ∧ (attempt.short = true → attempt.capacity < length) := by
  induction attempts generalizing length with
  | nil =>
      exact nofun
  | cons attempt earlier ih =>
      obtain ⟨grows, before⟩ := enlarges
      intro other member
      rcases List.mem_cons.mp member with rfl | member
      · split at grows
        · exact ⟨Nat.le_of_lt grows, fun _ => grows⟩
        · rename_i content
          exact ⟨Nat.le_of_eq grows, fun short => absurd short content⟩
      · obtain ⟨most, short⟩ := ih before other member
        have later : attempt.capacity ≤ length := by
          split at grows <;> omega
        exact ⟨Nat.le_trans most later, fun fell => Nat.lt_of_lt_of_le (short fell) later⟩

/--
What an output buffer has come to over the attempts of a session, newest first, if it was
enlarged whenever one of them fell short.
-/
inductive Enlarged
    (parameters : ParameterSet) :
    List Attempt →
    GrowthPolicy →
    Nat →
    Prop where
  | start :
      Enlarged parameters []
        (.start parameters.bufferGrowth parameters.maxBufferLength)
        ((GrowthPolicy.start parameters.bufferGrowth parameters.maxBufferLength).initialLength
          parameters.outputBufferLength)
  | served
      {attempts : List Attempt}
      {growth : GrowthPolicy}
      {length : Nat}
      (before : Enlarged parameters attempts growth length) :
      Enlarged parameters (⟨length, false⟩ :: attempts) growth length
  | grown
      {attempts : List Attempt}
      {growth next : GrowthPolicy}
      {length larger remaining : Nat}
      (before : Enlarged parameters attempts growth length)
      (grows : growth.nextOutputLength remaining length = (.ok larger, next))
      (more : length < larger) :
      Enlarged parameters (⟨length, true⟩ :: attempts) next larger

namespace Enlarged

variable
  {parameters : ParameterSet}
  {attempts : List Attempt}
  {growth : GrowthPolicy}
  {length : Nat}

/-- The ceiling of an output buffer is that of the parameters. -/
theorem limit
    (enlarged : Enlarged parameters attempts growth length) :
    growth.limit = parameters.maxBufferLength := by
  induction enlarged with
  | start =>
      rfl
  | served before ih =>
      exact ih
  | grown before grows more ih =>
      rw [GrowthPolicy.eq_double_of_nextOutputLength grows]
      exact ih

/-- The increment has doubled at every shortage, as far as a machine word can say. -/
theorem increment
    (enlarged : Enlarged parameters attempts growth length) :
    growth.increment = parameters.incrementAfter (shortages attempts) := by
  induction enlarged with
  | start =>
      rfl
  | served before ih =>
      exact ih
  | grown before grows more ih =>
      rw [GrowthPolicy.eq_double_of_nextOutputLength grows, shortages_cons_short]
      exact (congrArg saturatingDouble ih).trans (parameters.saturatingDouble_incrementAfter _)

/-- The increment is positive. -/
theorem increment_pos
    (enlarged : Enlarged parameters attempts growth length) :
    0 < growth.increment := by
  have positive : 0 < parameters.firstIncrement :=
    Nat.lt_of_lt_of_le Nat.one_pos (Nat.le_max_right _ _)
  rw [enlarged.increment, ParameterSet.incrementAfter]
  split
  · exact positive
  · exact Nat.lt_min.mpr ⟨Nat.mul_pos positive (Nat.two_pow_pos _), by decide⟩

/-- The buffer has grown strictly at every shortage. -/
theorem enlarges
    (enlarged : Enlarged parameters attempts growth length) :
    Enlarges length attempts := by
  induction enlarged with
  | start =>
      exact trivial
  | served before ih =>
      exact ⟨rfl, ih⟩
  | grown before grows more ih =>
      exact ⟨more, ih⟩

/-- The buffer is within its ceiling. -/
theorem within
    (enlarged : Enlarged parameters attempts growth length) :
    ∀ limit, parameters.maxBufferLength = some limit → length ≤ limit := by
  induction enlarged with
  | start =>
      intro limit limited
      exact GrowthPolicy.initialLength_le limited _
  | served before ih =>
      exact ih
  | @grown attempts growth next length larger remaining before grows more ih =>
      have cases := GrowthPolicy.nextOutputLength_cases before.increment_pos remaining length
      rw [grows] at cases
      intro limit limited
      cases cases with
      | enlarged same increment within strictly =>
          exact within limit (before.limit.trans limited)

/-- The length of the buffer fits in a machine word, if the parameters say so. -/
theorem le_maxLength
    (enlarged : Enlarged parameters attempts growth length)
    (measured : parameters.outputBufferLength ≤ maxLength) :
    length ≤ maxLength := by
  induction enlarged with
  | start =>
      unfold GrowthPolicy.initialLength
      split
      · exact Nat.le_trans (Nat.min_le_left _ _) measured
      · exact measured
  | served before ih =>
      exact ih
  | grown before grows more ih =>
      exact GrowthPolicy.nextOutputLength_le grows

/-- Once an attempt has fallen short, the buffer is as long as the increment, or at its ceiling. -/
theorem reaches
    (enlarged : Enlarged parameters attempts growth length)
    (short : 0 < shortages attempts) :
    min (parameters.firstIncrement * 2 ^ shortages attempts) maxLength ≤ length ∨
      parameters.maxBufferLength = some length := by
  induction enlarged with
  | start =>
      cases short
  | served before ih =>
      exact ih short
  | grown before grows more ih =>
      have after := (Enlarged.grown before grows more).increment
      rw [ParameterSet.incrementAfter, if_neg (Nat.pos_iff_ne_zero.mp short)] at after
      rcases GrowthPolicy.increment_le_of_nextOutputLength grows with longer | ceiling
      · rw [after, Nat.min_assoc, Nat.min_self] at longer
        exact .inl longer
      · exact .inr (before.limit.symm.trans ceiling)

/--
No more attempts fall short than doublings are needed for the increment to be enough, but
for one: while the buffer is not at its ceiling, it is as long as the increment.
-/
theorem shortages_le
    (enlarged : Enlarged parameters attempts growth length)
    {enough doublings : Nat}
    (content : ∀ attempt ∈ attempts, attempt.short = true → attempt.capacity < enough)
    (measured : enough ≤ maxLength)
    (doubled : enough ≤ parameters.firstIncrement * 2 ^ doublings) :
    shortages attempts ≤ max doublings 1 := by
  induction enlarged with
  | start =>
      exact Nat.zero_le _
  | served before ih =>
      exact ih (fun attempt member => content attempt (List.mem_cons_of_mem _ member))
  | @grown attempts growth next length larger remaining before grows more ih =>
      have most := ih (fun attempt member => content attempt (List.mem_cons_of_mem _ member))
      have fell : length < enough := content _ List.mem_cons_self rfl
      have counted := shortages_cons_short length attempts
      have fewer : shortages attempts ≠ max doublings 1 := by
        intro all
        rcases before.reaches (by omega) with longer | ceiling
        · have power : 2 ^ doublings ≤ 2 ^ shortages attempts :=
            Nat.pow_le_pow_right Nat.two_pos (by omega)
          have product := Nat.mul_le_mul_left parameters.firstIncrement power
          omega
        · have within := (Enlarged.grown before grows more).within length ceiling
          omega
      omega

end Enlarged

/--
What an output buffer has come to over the attempts of a session, newest first, and the
failure that the stream keeps.  A newest attempt that fell short without an enlargement
is the one that failed the stream.
-/
inductive Grows
    (parameters : ParameterSet) :
    List Attempt →
    GrowthPolicy →
    Nat →
    Option StreamError →
    Prop where
  | enlarged
      {attempts : List Attempt}
      {growth : GrowthPolicy}
      {length : Nat}
      {failure : Option StreamError}
      (enlarged : Enlarged parameters attempts growth length) :
      Grows parameters attempts growth length failure
  | refused
      {attempts : List Attempt}
      {growth next : GrowthPolicy}
      {length remaining : Nat}
      {error : StreamError}
      (before : Enlarged parameters attempts growth length)
      (refuses : growth.nextOutputLength remaining length = (.error error, next)) :
      Grows parameters (⟨length, true⟩ :: attempts) next length (some error)
  | saturated
      {attempts : List Attempt}
      {growth next : GrowthPolicy}
      {length wanted remaining : Nat}
      (before : Enlarged parameters attempts growth length)
      (grows : growth.nextOutputLength remaining length = (.ok wanted, next))
      (stuck : ¬ length < wanted) :
      Grows parameters (⟨length, true⟩ :: attempts) next length
        (some (.bufferLimitExceeded wanted maxLength))

/-- While a stream has not failed, its output buffer was enlarged at every shortage. -/
theorem Grows.enlarged_of_unfailed
    {parameters : ParameterSet}
    {attempts : List Attempt}
    {growth : GrowthPolicy}
    {length : Nat}
    {failure : Option StreamError}
    (grows : Grows parameters attempts growth length failure)
    (unfailed : failure = none) :
    Enlarged parameters attempts growth length := by
  cases grows with
  | enlarged enlarged =>
      exact enlarged
  | refused before refuses | saturated before grows stuck =>
      cases unfailed

/--
How far the output buffer of a session may grow.  Under a ceiling it is enlarged at most as
often as the increment must double to exceed the ceiling, but once if that is never, and the
next shortage fails the stream.  Without one, the same holds of a length that the engine is
always content with.
-/
structure GrowsWithin
    (parameters : ParameterSet)
    (attempts : List Attempt)
    (growth : GrowthPolicy)
    (length : Nat)
    (failure : Option StreamError) :
    Prop where
  limited :
    ∀ limit doublings,
      parameters.maxBufferLength = some limit →
        limit < maxLength →
          limit < parameters.firstIncrement * 2 ^ doublings →
            length ≤ limit ∧
              (Enlarges length attempts ∧ shortages attempts ≤ max doublings 1 ∨
                ∃ earlier wanted,
                  attempts = ⟨limit, true⟩ :: earlier ∧
                    length = limit ∧
                    Enlarges limit earlier ∧
                    shortages earlier ≤ max doublings 1 ∧
                    failure = some (.bufferLimitExceeded wanted limit))
  unlimited :
    parameters.maxBufferLength = none →
      ∀ enough doublings,
        enough < maxLength →
          enough ≤ parameters.firstIncrement * 2 ^ doublings →
            (∀ attempt ∈ attempts, attempt.short = true → attempt.capacity < enough) →
              Enlarges length attempts ∧ shortages attempts ≤ max doublings 1
  /-- The increment saturates. -/
  increment :
    parameters.firstIncrement ≤ maxLength →
      growth.increment = min (parameters.firstIncrement * 2 ^ shortages attempts) maxLength
  /-- The length of the buffer saturates. -/
  length : parameters.outputBufferLength ≤ maxLength → length ≤ maxLength

/-- Neither an output buffer nor what it was at any attempt is longer than the ceiling. -/
theorem Grows.le_limit
    {parameters : ParameterSet}
    {attempts : List Attempt}
    {growth : GrowthPolicy}
    {length limit : Nat}
    {failure : Option StreamError}
    (grows : Grows parameters attempts growth length failure)
    (limited : parameters.maxBufferLength = some limit) :
    length ≤ limit ∧ ∀ attempt ∈ attempts, attempt.capacity ≤ limit := by
  have capped {attempts : List Attempt} {growth : GrowthPolicy} {length : Nat}
      (enlarged : Enlarged parameters attempts growth length) :
      length ≤ limit ∧ ∀ attempt ∈ attempts, attempt.capacity ≤ limit := by
    have within := enlarged.within limit limited
    exact ⟨within, fun attempt member =>
      Nat.le_trans (enlarged.enlarges.le attempt member).1 within⟩
  cases grows with
  | enlarged enlarged =>
      exact capped enlarged
  | refused before refuses | saturated before grows stuck =>
      obtain ⟨within, earlier⟩ := capped before
      refine ⟨within, ?_⟩
      intro attempt member
      rcases List.mem_cons.mp member with rfl | member
      · exact within
      · exact earlier attempt member

/-- Under a ceiling, as many attempts fall short as the increment must double to exceed it. -/
theorem Enlarged.shortages_le_of_limit
    {parameters : ParameterSet}
    {attempts : List Attempt}
    {growth : GrowthPolicy}
    {length limit doublings : Nat}
    (enlarged : Enlarged parameters attempts growth length)
    (limited : parameters.maxBufferLength = some limit)
    (measured : limit < maxLength)
    (doubled : limit < parameters.firstIncrement * 2 ^ doublings) :
    shortages attempts ≤ max doublings 1 := by
  have content : ∀ attempt ∈ attempts, attempt.short = true → attempt.capacity < limit := by
    intro attempt member short
    exact Nat.lt_of_lt_of_le ((enlarged.enlarges.le attempt member).2 short)
      (enlarged.within limit limited)
  exact enlarged.shortages_le content (Nat.le_of_lt measured) (Nat.le_of_lt doubled)

/-- The increment doubles at the next shortage, whatever comes of it. -/
theorem Enlarged.increment_of_short
    {parameters : ParameterSet}
    {attempts : List Attempt}
    {growth next : GrowthPolicy}
    {length remaining : Nat}
    {result : Except StreamError Nat}
    (enlarged : Enlarged parameters attempts growth length)
    (answer : growth.nextOutputLength remaining length = (result, next)) :
    next.increment = parameters.incrementAfter (shortages (⟨length, true⟩ :: attempts)) := by
  rw [GrowthPolicy.eq_double_of_nextOutputLength answer, shortages_cons_short]
  exact (congrArg saturatingDouble enlarged.increment).trans
    (parameters.saturatingDouble_incrementAfter _)

/-- An output buffer that grows at every shortage, or fails the stream, grows within bounds. -/
theorem Grows.within
    {parameters : ParameterSet}
    {attempts : List Attempt}
    {growth : GrowthPolicy}
    {length : Nat}
    {failure : Option StreamError}
    (grows : Grows parameters attempts growth length failure) :
    GrowsWithin parameters attempts growth length failure := by
  cases grows with
  | enlarged enlarged =>
      refine ⟨?_, ?_, ?_, enlarged.le_maxLength⟩
      · intro limit doublings limited below doubled
        exact ⟨enlarged.within limit limited,
          .inl ⟨enlarged.enlarges, enlarged.shortages_le_of_limit limited below doubled⟩⟩
      · intro unlimited enough doublings below doubled content
        exact ⟨enlarged.enlarges,
          enlarged.shortages_le content (Nat.le_of_lt below) doubled⟩
      · intro measured
        rw [enlarged.increment, ParameterSet.incrementAfter_of_le measured]
  | @refused earlier growth next length remaining error before refuses =>
      have increment := before.increment_of_short refuses
      have cases := GrowthPolicy.nextOutputLength_cases before.increment_pos remaining length
      rw [refuses] at cases
      cases cases with
      | @refused wanted ceiling next bounded reached word =>
          rw [before.limit] at bounded
          refine ⟨?_, ?_, ?_, before.le_maxLength⟩
          · intro limit doublings limited below doubled
            rw [bounded] at limited
            cases limited
            have most := before.within ceiling bounded
            have same : length = ceiling := Nat.le_antisymm most reached
            subst same
            exact ⟨most,
              .inr ⟨earlier, wanted, rfl, rfl, before.enlarges,
                before.shortages_le_of_limit bounded below doubled, rfl⟩⟩
          · intro unlimited
            rw [bounded] at unlimited
            cases unlimited
          · intro measured
            rw [increment, ParameterSet.incrementAfter_of_le measured]
  | @saturated earlier growth next length wanted remaining before grows stuck =>
      have increment := before.increment_of_short grows
      have cases := GrowthPolicy.nextOutputLength_cases before.increment_pos remaining length
      rw [grows] at cases
      cases cases with
      | enlarged same positive within larger =>
          have full : maxLength ≤ length := Nat.le_of_not_lt fun below => stuck (larger below)
          refine ⟨?_, ?_, ?_, before.le_maxLength⟩
          · intro limit doublings limited below doubled
            have most := before.within limit limited
            omega
          · intro unlimited enough doublings below doubled content
            have fell : length < enough := content _ List.mem_cons_self rfl
            omega
          · intro measured
            rw [increment, ParameterSet.incrementAfter_of_le measured]

/-- What a stream keeps of its output buffer, beside what its engine has made of it. -/
structure OutputBuffer where
  /-- The parameters of the newest start, if the engine accepted it. -/
  inForce : Option ParameterSet
  attempts : List Attempt
  growth : GrowthPolicy
  length : Nat
  failure : Option StreamError

namespace OutputBuffer

/-- The output buffer of a session that has just started. -/
def started
    (parameters : ParameterSet)
    (failure : Option StreamError) :
    OutputBuffer where
  inForce := some parameters
  attempts := []
  growth := .start parameters.bufferGrowth parameters.maxBufferLength
  length :=
    (GrowthPolicy.start parameters.bufferGrowth parameters.maxBufferLength).initialLength
      parameters.outputBufferLength
  failure := failure

/-- Whether an output buffer has grown as the session in force has it. -/
def Grows
    (buffer : OutputBuffer) :
    Prop :=
  ∀ parameters,
    buffer.inForce = some parameters →
      MemberStream.Grows parameters buffer.attempts buffer.growth buffer.length buffer.failure

/-- Everything that a data call can come to for the output buffer of a stream. -/
inductive Attempted
    (buffer : OutputBuffer) :
    OutputBuffer →
    Prop where
  /-- The engine was content with the buffer, whatever else it said. -/
  | served
      (failure : Option StreamError) :
      Attempted buffer
        { buffer with
          attempts := ⟨buffer.length, false⟩ :: buffer.attempts
          failure := failure }
  | grown
      {larger remaining : Nat}
      {next : GrowthPolicy}
      (grows : buffer.growth.nextOutputLength remaining buffer.length = (.ok larger, next))
      (more : buffer.length < larger) :
      Attempted buffer
        { buffer with
          attempts := ⟨buffer.length, true⟩ :: buffer.attempts
          growth := next
          length := larger }
  | refused
      {remaining : Nat}
      {error : StreamError}
      {next : GrowthPolicy}
      (refuses : buffer.growth.nextOutputLength remaining buffer.length = (.error error, next)) :
      Attempted buffer
        { buffer with
          attempts := ⟨buffer.length, true⟩ :: buffer.attempts
          growth := next
          failure := some error }
  | saturated
      {wanted remaining : Nat}
      {next : GrowthPolicy}
      (grows : buffer.growth.nextOutputLength remaining buffer.length = (.ok wanted, next))
      (stuck : ¬ buffer.length < wanted) :
      Attempted buffer
        { buffer with
          attempts := ⟨buffer.length, true⟩ :: buffer.attempts
          growth := next
          failure := some (.bufferLimitExceeded wanted maxLength) }

variable {buffer next : OutputBuffer}

theorem grows_started
    (parameters : ParameterSet)
    (failure : Option StreamError) :
    (started parameters failure).Grows := by
  intro given inForce
  cases inForce
  exact .enlarged .start

theorem grows_of_none
    (none : buffer.inForce = none) :
    buffer.Grows := by
  intro parameters inForce
  rw [none] at inForce
  cases inForce

/-- A stream that has not failed may fail for other reasons than its output buffer. -/
theorem Grows.fail
    (grows : buffer.Grows)
    (unfailed : buffer.failure = none)
    (failure : Option StreamError) :
    Grows { buffer with failure := failure } := by
  intro parameters inForce
  exact .enlarged ((grows parameters inForce).enlarged_of_unfailed unfailed)

/-- A data call of a stream that has not failed has the output buffer grow as it should. -/
theorem Grows.attempted
    (grows : buffer.Grows)
    (unfailed : buffer.failure = none)
    (attempted : buffer.Attempted next) :
    next.Grows := by
  have enlarged {parameters : ParameterSet} (inForce : buffer.inForce = some parameters) :=
    (grows parameters inForce).enlarged_of_unfailed unfailed
  intro parameters inForce
  cases attempted with
  | served failure =>
      exact .enlarged (.served (enlarged inForce))
  | grown grows more =>
      exact .enlarged (.grown (enlarged inForce) grows more)
  | refused refuses =>
      exact .refused (enlarged inForce) refuses
  | saturated grows stuck =>
      exact .saturated (enlarged inForce) grows stuck

end OutputBuffer

end MemberStream
