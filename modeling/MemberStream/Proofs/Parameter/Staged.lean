import MemberStream.Parameter.Option

namespace MemberStream

/-!
# Parameter sets that options leave staged

A role keeps a direction that it can work in, whatever options are applied.
-/

/-- The parameter set that some batches of options leave staged. -/
def stagedBy
    (role : TargetRole)
    (batches : List (List StreamOption)) :
    ParameterSet :=
  batches.foldl (fun parameters options => (applyOptions role false options parameters).2) {}

namespace TargetRole

/-- The direction that a role cannot do without. -/
def directed
    (role : TargetRole)
    (parameters : ParameterSet) :
    Bool :=
  match role with
  | .writer =>
      parameters.direction.allowsCompress
  | .reader =>
      parameters.direction.allowsDecompress
  | .session =>
      true

end TargetRole

/-- An option that a role takes leaves the role able to work. -/
theorem directed_of_stage
    {role : TargetRole}
    {option : StreamOption}
    {parameters : ParameterSet}
    (taken : option.check role = .ok ())
    (directed : role.directed parameters = true) :
    role.directed (option.stage parameters) = true := by
  cases option with
  | direction value =>
      cases role with
      | writer =>
          cases value with
          | compress =>
              rfl
          | decompress =>
              cases taken
          | both =>
              rfl
      | reader =>
          cases value with
          | compress =>
              cases taken
          | decompress =>
              rfl
          | both =>
              rfl
      | session =>
          rfl
  | _ =>
      exact directed

/-- A batch leaves a role able to work, even if it is refused. -/
theorem directed_of_stageOptions
    {role : TargetRole}
    {options : List StreamOption}
    {parameters : ParameterSet}
    (directed : role.directed parameters = true) :
    role.directed (stageOptions role options parameters).2 = true := by
  induction options generalizing parameters with
  | nil =>
      exact directed
  | cons option rest ih =>
      unfold stageOptions
      split
      · rename_i taken
        exact ih (directed_of_stage taken directed)
      · exact directed

/-- Whatever options are applied, a role is able to work. -/
theorem directed_stagedBy
    (role : TargetRole)
    (batches : List (List StreamOption)) :
    role.directed (stagedBy role batches) = true := by
  have kept
      (parameters : ParameterSet)
      (directed : role.directed parameters = true) :
      role.directed
        (batches.foldl
          (fun parameters options => (applyOptions role false options parameters).2)
          parameters) = true := by
    induction batches generalizing parameters with
    | nil =>
        exact directed
    | cons options batches ih =>
        exact ih _ (directed_of_stageOptions directed)
  apply kept
  cases role with
  | writer =>
      rfl
  | reader =>
      rfl
  | session =>
      rfl

end MemberStream
