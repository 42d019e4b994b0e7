import MemberStream.Proofs.Parameter.Settings
import MemberStream.Proofs.Parameter.Staged

namespace MemberStream

/-!
# Which options a role takes

What a role takes is told here field by field and value by value, without the checks
that a batch goes through: a value has to be in the domain of its field, the role has to
take options for that field at all, and a stream has to be left a direction that it can
work in.  A batch stages what comes before the first option that is none of these.  So
whatever batches are applied, every field keeps to its domain, and a field that the role
does not take keeps its default.
-/

/-- Whether the value of an option is in the domain of its field. -/
def StreamOption.InDomain : StreamOption → Prop
  | .compressionLevel level =>
      0 < level
  | .outputBufferLength length | .inputBufferLength length | .bufferGrowth length
  | .maxBufferLength length =>
      minBufferLength ≤ length
  | .bounceBufferLength length =>
      minBounceBufferLength ≤ length
  | _ =>
      True

namespace TargetRole

/-- Whether a role takes options for a field. -/
def takes
    (role : TargetRole) :
    ParameterField → Bool
  | .level | .huffmanHeader =>
      role != .reader
  | .inputBufferMode | .bounceBufferLength =>
      role == .writer
  | .outputBufferLength | .bufferGrowth | .maxBufferLength =>
      role != .session
  | .inputBufferLength =>
      role == .reader
  | _ =>
      true

/-- Whether a role takes an option, if its value is in the domain. -/
structure Accepts
    (role : TargetRole)
    (option : StreamOption) :
    Prop where
  takes : role.takes option.field = true
  compresses : role = .writer → option ≠ .direction .decompress
  decompresses : role = .reader → option ≠ .direction .compress

/-- What stops a batch for a role at an option: a value out of its domain before anything else. -/
inductive Objects
    (role : TargetRole) :
    StreamOption →
    ParameterError →
    Prop where
  | compressionLevel
      {level : Int32}
      (outside : level ≤ 0) :
      Objects role (.compressionLevel level) .compressionLevel
  | outputBufferLength
      {length : Nat}
      (short : length < minBufferLength) :
      Objects role (.outputBufferLength length) .outputBufferLength
  | inputBufferLength
      {length : Nat}
      (short : length < minBufferLength) :
      Objects role (.inputBufferLength length) .inputBufferLength
  | bufferGrowth
      {increment : Nat}
      (small : increment < minBufferLength) :
      Objects role (.bufferGrowth increment) .bufferGrowth
  | bounceBufferLength
      {length : Nat}
      (short : length < minBounceBufferLength) :
      Objects role (.bounceBufferLength length) .bounceBufferLength
  | maxBufferLength
      {length : Nat}
      (short : length < minBufferLength) :
      Objects role (.maxBufferLength length) .maxBufferLength
  | invalidTarget
      {option : StreamOption}
      (inside : option.InDomain)
      (untaken : role.takes option.field = false) :
      Objects role option .invalidTarget
  | decompressing
      (writer : role = .writer) :
      Objects role (.direction .decompress) .incompatibleDirection
  | compressing
      (reader : role = .reader) :
      Objects role (.direction .compress) .incompatibleDirection

/-- The values of a field that a role may come to have staged. -/
def Admits
    (role : TargetRole) :
    (field : ParameterField) →
    field.Value →
    Prop
  | .level, (level : UInt32) =>
      1 ≤ level.toNat ∧ level.toNat ≤ 2 ^ (31 : Nat) - 1
  | .outputBufferLength, (length : Nat) | .inputBufferLength, (length : Nat)
  | .bufferGrowth, (length : Nat) =>
      minBufferLength ≤ length
  | .bounceBufferLength, (length : Nat) =>
      minBounceBufferLength ≤ length
  | .maxBufferLength, (limit : Option Nat) =>
      ∀ length, limit = some length → minBufferLength ≤ length
  | .direction, (direction : Direction) =>
      (role = .writer → direction ≠ .decompress) ∧ (role = .reader → direction ≠ .compress)
  | _, _ =>
      True

/-- A role accepts the options of the families it is capable of. -/
theorem mem_capabilities_iff
    (role : TargetRole)
    (option : StreamOption) :
    option.capability ∈ role.capabilities ↔ role.takes option.field = true := by
  cases role <;> cases option <;>
    simp [StreamOption.capability, capabilities, takes, StreamOption.field]

end TargetRole

namespace StreamOption

/-- Validation lets exactly the values of the domain pass. -/
theorem validate_eq_ok_iff
    (option : StreamOption) :
    option.validate = .ok () ↔ option.InDomain := by
  cases option <;> simp [validate, InDomain]

/-- A role that accepts an option has nothing against it. -/
theorem checkRole_eq_ok_iff
    (option : StreamOption)
    (role : TargetRole) :
    option.checkRole role = .ok () ↔ role.Accepts option := by
  by_cases taken : option.capability ∈ role.capabilities
  · have takes := (role.mem_capabilities_iff option).mp taken
    simp only [checkRole, if_pos taken]
    constructor
    · intro passes
      refine ⟨takes, ?_, ?_⟩
      · rintro rfl rfl
        cases passes
      · rintro rfl rfl
        cases passes
    · intro accepts
      split
      · exact absurd rfl (accepts.compresses rfl)
      · exact absurd rfl (accepts.decompresses rfl)
      · rfl
  · simp only [checkRole, if_neg taken, reduceCtorEq, false_iff]
    intro accepts
    exact taken ((role.mem_capabilities_iff option).mpr accepts.takes)

/-- A check passes exactly the options in their domain that the role accepts. -/
theorem check_eq_ok_iff
    (option : StreamOption)
    (role : TargetRole) :
    option.check role = .ok () ↔ option.InDomain ∧ role.Accepts option := by
  rw [← validate_eq_ok_iff, ← checkRole_eq_ok_iff]
  cases validated : option.validate <;> simp [check, validated]

/-- A value that validation refuses is objected to, whatever the role. -/
theorem objects_of_validate
    {option : StreamOption}
    {cause : ParameterError}
    (role : TargetRole)
    (refused : option.validate = .error cause) :
    role.Objects option cause := by
  cases option with
  | compressionLevel level | outputBufferLength length | inputBufferLength length
  | bufferGrowth length | bounceBufferLength length | maxBufferLength length =>
      simp only [validate] at refused
      split at refused
      · rename_i outside
        cases refused
        constructor
        exact outside
      · cases refused
  | _ =>
      cases refused

/-- What the check of the role refuses is objected to, if the value is in its domain. -/
theorem objects_of_checkRole
    {option : StreamOption}
    {role : TargetRole}
    {cause : ParameterError}
    (inside : option.InDomain)
    (refused : option.checkRole role = .error cause) :
    role.Objects option cause := by
  by_cases taken : option.capability ∈ role.capabilities
  · simp only [checkRole, if_pos taken] at refused
    split at refused
    · cases refused
      exact .decompressing rfl
    · cases refused
      exact .compressing rfl
    · cases refused
  · simp only [checkRole, if_neg taken, Except.error.injEq] at refused
    subst refused
    apply TargetRole.Objects.invalidTarget inside
    simpa [role.mem_capabilities_iff option] using taken

/-- A check fails of what the role objects to. -/
theorem objects_of_check
    {option : StreamOption}
    {role : TargetRole}
    {cause : ParameterError}
    (refused : option.check role = .error cause) :
    role.Objects option cause := by
  simp only [check] at refused
  split at refused
  · rename_i validated
    exact objects_of_checkRole ((validate_eq_ok_iff option).mp validated) refused
  · rename_i validated
    cases refused
    exact objects_of_validate role validated

/-- A check fails of exactly what the role objects to. -/
theorem check_eq_error_iff
    (option : StreamOption)
    (role : TargetRole)
    (cause : ParameterError) :
    option.check role = .error cause ↔ role.Objects option cause := by
  constructor
  · exact objects_of_check
  · intro objects
    cases objects with
    | compressionLevel outside | outputBufferLength outside | inputBufferLength outside
    | bufferGrowth outside | bounceBufferLength outside | maxBufferLength outside =>
        simp [check, validate, outside]
    | invalidTarget inside untaken =>
        have refused : option.capability ∉ role.capabilities := by
          simp [role.mem_capabilities_iff option, untaken]
        simp only [check, (validate_eq_ok_iff option).mpr inside, checkRole, if_neg refused]
    | decompressing role | compressing role =>
        subst role
        rfl

/-- What an option that a role takes sets its field to is among the values of that field. -/
theorem admits_value
    {option : StreamOption}
    {role : TargetRole}
    (inside : option.InDomain)
    (accepts : role.Accepts option) :
    role.Admits option.field option.value := by
  cases option with
  | compressionLevel level =>
      have positive : 0 < level.toInt := Int32.lt_iff_toInt_lt.mp inside
      have upper := level.toInt_lt
      have small : level.toInt.toNat < UInt32.size := by
        change level.toInt.toNat < 2 ^ 32
        omega
      have staged : (UInt32.ofNat level.toNatClampNeg).toNat = level.toInt.toNat :=
        UInt32.toNat_ofNat_of_lt' small
      change 1 ≤ (UInt32.ofNat level.toNatClampNeg).toNat ∧
        (UInt32.ofNat level.toNatClampNeg).toNat ≤ 2 ^ 31 - 1
      omega
  | direction value =>
      refine ⟨fun writer same => ?_, fun reader same => ?_⟩
      · exact accepts.compresses writer (congrArg StreamOption.direction same)
      · exact accepts.decompresses reader (congrArg StreamOption.direction same)
  | outputBufferLength length | inputBufferLength length | bufferGrowth length
  | bounceBufferLength length =>
      exact inside
  | maxBufferLength limit =>
      intro length same
      cases same
      exact inside
  | _ =>
      trivial

end StreamOption

end MemberStream
