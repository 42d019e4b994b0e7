import MemberStream.Parameter.Option

namespace MemberStream

/-!
# Overriding the debug level

As long as no option sets the debug level, a session takes it from the overrides, and
nothing else of its parameters depends on it.
-/

/-- A batch of options leaves the debug level alone. -/
def LeavesLevel
    (options : List StreamOption) :
    Prop :=
  ∀ level, .debugLevel level ∉ options

namespace ParameterSet

/-- The same parameters at a debug level. -/
def atLevel
    (parameters : ParameterSet)
    (level : DebugLevel) :
    ParameterSet :=
  { parameters with debugLevel := level }

/-- An override of a debug level that no option has set puts a session at that level. -/
theorem resolve_override
    {staged : ParameterSet}
    (unset : staged.explicit.debugLevel = false)
    (overrides : Overrides)
    (level : DebugLevel) :
    staged.resolve { overrides with debugLevel := some level } =
      (staged.resolve overrides).atLevel level := by
  simp only [resolve, atLevel, unset, Bool.false_eq_true, if_false, Option.getD_some]

end ParameterSet

/-- A batch that leaves the debug level alone does not set it. -/
theorem stageOptions_unset
    {role : TargetRole}
    {options : List StreamOption}
    {staged : ParameterSet}
    (leaves : LeavesLevel options)
    (unset : staged.explicit.debugLevel = false) :
    (stageOptions role options staged).2.explicit.debugLevel = false := by
  induction options generalizing staged with
  | nil =>
      exact unset
  | cons option rest later =>
      unfold stageOptions
      split
      · apply later
        · intro level member
          exact leaves level (List.mem_cons_of_mem option member)
        · cases option with
          | debugLevel level =>
              exact absurd List.mem_cons_self (leaves level)
          | _ =>
              exact unset
      · exact unset

/-- Applying options that leave the debug level alone does not set it. -/
theorem applyOptions_unset
    {role : TargetRole}
    {started : Bool}
    {options : List StreamOption}
    {staged : ParameterSet}
    (leaves : LeavesLevel options)
    (unset : staged.explicit.debugLevel = false) :
    (applyOptions role started options staged).2.explicit.debugLevel = false := by
  unfold applyOptions
  split
  · exact unset
  · exact stageOptions_unset leaves unset

end MemberStream
