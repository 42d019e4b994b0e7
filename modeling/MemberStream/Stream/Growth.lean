import MemberStream.Error.Basic

namespace MemberStream

/-!
# Buffer growth

When an engine finds its output slice too small, the growth increment doubles
and the new length is the outstanding work plus the increment; an input buffer
doubles when it is full.  An optional ceiling clamps a request once; a request
beyond a buffer that is already at the ceiling is refused.  Lengths saturate at
the largest machine word.
-/

/-- The largest length a machine word can hold. -/
def maxLength : Nat :=
  2 ^ (64 : Nat) - 1

/-- A sum of lengths that stops at the largest machine word. -/
def saturatingAdd
    (first second : Nat) :
    Nat :=
  min (first + second) maxLength

/-- Twice a length, stopping at the largest machine word. -/
def saturatingDouble
    (length : Nat) :
    Nat :=
  min (2 * length) maxLength

/-- How the buffers of one session grow. -/
structure GrowthPolicy where
  increment : Nat
  limit : Option Nat
  deriving Repr, DecidableEq

namespace GrowthPolicy

/-- A policy with a positive increment. -/
def start
    (increment : Nat)
    (limit : Option Nat) :
    GrowthPolicy where
  increment :=
    max increment 1
  limit :=
    limit

/-- The first length of a buffer, clamped to the ceiling. -/
def initialLength
    (policy : GrowthPolicy)
    (configured : Nat) :
    Nat :=
  match policy.limit with
  | some limit =>
      min configured limit
  | none =>
      configured

/-- Clamp a wanted length to the ceiling, unless the buffer is already there. -/
def clamp
    (policy : GrowthPolicy)
    (wanted current : Nat) :
    Except StreamError Nat :=
  match policy.limit with
  | some limit =>
      if limit < wanted then
        if current < limit then
          .ok limit
        else
          .error (.bufferLimitExceeded wanted limit)
      else
        .ok wanted
  | none =>
      .ok wanted

/-- The policy with its increment doubled. -/
def double
    (policy : GrowthPolicy) :
    GrowthPolicy :=
  { policy with increment := saturatingDouble policy.increment }

/--
The length an output buffer should have, before the ceiling: the outstanding
work plus the increment, or the current length plus the increment when that is
no enlargement.
-/
def wantedOutputLength
    (policy : GrowthPolicy)
    (remaining current : Nat) :
    Nat :=
  let wanted := saturatingAdd remaining policy.increment
  if wanted ≤ current then
    saturatingAdd current policy.increment
  else
    wanted

/--
The new length of an output buffer that the engine found too small while
`remaining` bytes of work are outstanding.  The increment doubles first.
-/
def nextOutputLength
    (policy : GrowthPolicy)
    (remaining current : Nat) :
    Except StreamError Nat × GrowthPolicy :=
  let policy := policy.double
  (policy.clamp (policy.wantedOutputLength remaining current) current, policy)

/-- The new length of an input buffer that is full. -/
def nextInputLength
    (policy : GrowthPolicy)
    (current : Nat) :
    Except StreamError Nat :=
  policy.clamp (max (saturatingDouble current) 1) current

/-- Everything that clamping a wanted length can come to. -/
inductive Clamped
    (policy : GrowthPolicy)
    (wanted current : Nat) :
    Except StreamError Nat →
    Prop where
  /-- The wanted length is within the ceiling, if there is one. -/
  | granted
      (within : ∀ limit, policy.limit = some limit → wanted ≤ limit) :
      Clamped policy wanted current (.ok wanted)
  /-- The wanted length is beyond the ceiling, which the buffer has yet to reach. -/
  | capped
      {limit : Nat}
      (ceiling : policy.limit = some limit)
      (beyond : limit < wanted)
      (below : current < limit) :
      Clamped policy wanted current (.ok limit)
  /-- The wanted length is beyond the ceiling, and the buffer is there. -/
  | refused
      {limit : Nat}
      (ceiling : policy.limit = some limit)
      (beyond : limit < wanted)
      (reached : limit ≤ current) :
      Clamped policy wanted current (.error (.bufferLimitExceeded wanted limit))

/-- Clamping a wanted length comes to one of the cases. -/
theorem clamp_cases
    (policy : GrowthPolicy)
    (wanted current : Nat) :
    policy.Clamped wanted current (policy.clamp wanted current) := by
  unfold clamp
  split
  · rename_i limit ceiling
    split
    · rename_i beyond
      split
      · rename_i below
        exact .capped ceiling beyond below
      · rename_i reached
        exact .refused ceiling beyond (Nat.le_of_not_lt reached)
    · rename_i within
      refine .granted (fun other same => ?_)
      rw [ceiling] at same
      cases same
      exact Nat.le_of_not_lt within
  · rename_i unlimited
    refine .granted (fun limit same => ?_)
    rw [unlimited] at same
    cases same

/-- A clamped length is at most the wanted one. -/
theorem le_of_clamp
    {policy : GrowthPolicy}
    {wanted current length : Nat}
    (clamped : policy.clamp wanted current = .ok length) :
    length ≤ wanted := by
  have outcome := policy.clamp_cases wanted current
  rw [clamped] at outcome
  cases outcome with
  | granted within =>
      exact Nat.le_refl _
  | capped ceiling beyond below =>
      exact Nat.le_of_lt beyond

/-- A clamped length is the wanted one, or that of the ceiling and longer than the buffer is. -/
theorem eq_or_lt_of_clamp
    {policy : GrowthPolicy}
    {wanted current length : Nat}
    (clamped : policy.clamp wanted current = .ok length) :
    length = wanted ∨ policy.limit = some length ∧ current < length := by
  have outcome := policy.clamp_cases wanted current
  rw [clamped] at outcome
  cases outcome with
  | granted within =>
      exact .inl rfl
  | capped ceiling beyond below =>
      exact .inr ⟨ceiling, below⟩

/-- A clamped length is within the ceiling. -/
theorem le_limit_of_clamp
    {policy : GrowthPolicy}
    {wanted current length limit : Nat}
    (clamped : policy.clamp wanted current = .ok length)
    (limited : policy.limit = some limit) :
    length ≤ limit := by
  have outcome := policy.clamp_cases wanted current
  rw [clamped] at outcome
  cases outcome with
  | granted within =>
      exact within limit limited
  | capped ceiling beyond below =>
      rw [limited] at ceiling
      cases ceiling
      exact Nat.le_refl _

/-- A wanted output length fits in a machine word. -/
theorem wantedOutputLength_le
    (policy : GrowthPolicy)
    (remaining current : Nat) :
    policy.wantedOutputLength remaining current ≤ maxLength := by
  unfold wantedOutputLength saturatingAdd
  dsimp only
  by_cases small : min (remaining + policy.increment) maxLength ≤ current
  · rw [if_pos small]
    exact Nat.min_le_right _ _
  · rw [if_neg small]
    exact Nat.min_le_right _ _

/-- A new output buffer fits in a machine word. -/
theorem nextOutputLength_le
    {policy next : GrowthPolicy}
    {remaining current length : Nat}
    (grown : policy.nextOutputLength remaining current = (.ok length, next)) :
    length ≤ maxLength := by
  simp only [nextOutputLength, Prod.mk.injEq] at grown
  exact Nat.le_trans (le_of_clamp grown.1) (wantedOutputLength_le _ _ _)

/-- A new input buffer fits in a machine word. -/
theorem nextInputLength_le
    {policy : GrowthPolicy}
    {current length : Nat}
    (grown : policy.nextInputLength current = .ok length) :
    length ≤ maxLength := by
  refine Nat.le_trans (le_of_clamp grown) ?_
  simp only [saturatingDouble, maxLength]
  omega

end GrowthPolicy

end MemberStream
