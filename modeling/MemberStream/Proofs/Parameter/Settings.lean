import MemberStream.Parameter.Option

namespace MemberStream

/-!
# Settings

Every option sets one field of a parameter set.  So a staged set shows in each field
the value of the last option for that field, and the default where there was none; and
what a session is started with shows an override only where no option has set the
field.
-/

/-- A field of a parameter set that an option can set. -/
inductive ParameterField
  | algorithm
  | level
  | direction
  | deflateFormat
  | outputBufferLength
  | inputBufferLength
  | bufferGrowth
  | bounceBufferLength
  | inputBufferMode
  | maxBufferLength
  | debugLevel
  | huffmanHeader
  | pollingMode
  | softwareBackup
  | sensitive
  | maxForks
  | hardwareBufferSize
  | streamBufferSize
  | softwareSwitchThreshold
  | requestCountThreshold
  | waitCountThreshold
  deriving Repr, DecidableEq

namespace ParameterField

/-- The type of the values that a field holds. -/
def Value : ParameterField → Type
  | .algorithm =>
      Algorithm
  | .direction =>
      Direction
  | .deflateFormat =>
      DeflateFormat
  | .inputBufferMode =>
      InputBufferMode
  | .debugLevel =>
      DebugLevel
  | .huffmanHeader =>
      HuffmanHeader
  | .pollingMode =>
      PollingMode
  | .outputBufferLength | .inputBufferLength | .bufferGrowth | .bounceBufferLength =>
      Nat
  | .maxBufferLength =>
      Option Nat
  | .softwareBackup | .sensitive =>
      Bool
  | .level | .maxForks | .hardwareBufferSize | .streamBufferSize | .softwareSwitchThreshold
  | .requestCountThreshold | .waitCountThreshold =>
      UInt32

/-- Whether an override may fill a field that no option has set. -/
def isOverridable : ParameterField → Bool
  | .algorithm | .level | .debugLevel =>
      true
  | _ =>
      false

end ParameterField

namespace ParameterSet

/-- What a parameter set holds in a field. -/
def value
    (parameters : ParameterSet) :
    (field : ParameterField) →
    field.Value
  | .algorithm =>
      parameters.algorithm
  | .level =>
      parameters.level
  | .direction =>
      parameters.direction
  | .deflateFormat =>
      parameters.deflateFormat
  | .outputBufferLength =>
      parameters.outputBufferLength
  | .inputBufferLength =>
      parameters.inputBufferLength
  | .bufferGrowth =>
      parameters.bufferGrowth
  | .bounceBufferLength =>
      parameters.bounceBufferLength
  | .inputBufferMode =>
      parameters.inputBufferMode
  | .maxBufferLength =>
      parameters.maxBufferLength
  | .debugLevel =>
      parameters.debugLevel
  | .huffmanHeader =>
      parameters.huffmanHeader
  | .pollingMode =>
      parameters.pollingMode
  | .softwareBackup =>
      parameters.softwareBackup
  | .sensitive =>
      parameters.sensitive
  | .maxForks =>
      parameters.maxForks
  | .hardwareBufferSize =>
      parameters.hardwareBufferSize
  | .streamBufferSize =>
      parameters.streamBufferSize
  | .softwareSwitchThreshold =>
      parameters.softwareSwitchThreshold
  | .requestCountThreshold =>
      parameters.requestCountThreshold
  | .waitCountThreshold =>
      parameters.waitCountThreshold

/-- Whether a parameter set remembers that an option has set a field. -/
def isExplicit
    (parameters : ParameterSet) :
    ParameterField → Bool
  | .algorithm =>
      parameters.explicit.algorithm
  | .level =>
      parameters.explicit.level
  | .debugLevel =>
      parameters.explicit.debugLevel
  | _ =>
      false

end ParameterSet

/-- What some overrides hold for a field. -/
def Overrides.value?
    (overrides : Overrides) :
    (field : ParameterField) →
    Option field.Value
  | .algorithm =>
      overrides.algorithm
  | .level =>
      overrides.level
  | .debugLevel =>
      overrides.debugLevel
  | _ =>
      none

namespace StreamOption

/-- The field that an option sets. -/
def field : StreamOption → ParameterField
  | .compressionLevel _ =>
      .level
  | .algorithm _ =>
      .algorithm
  | .deflateFormat _ =>
      .deflateFormat
  | .direction _ =>
      .direction
  | .inputBufferMode _ =>
      .inputBufferMode
  | .pollingMode _ =>
      .pollingMode
  | .huffmanHeader _ =>
      .huffmanHeader
  | .debugLevel _ =>
      .debugLevel
  | .outputBufferLength _ =>
      .outputBufferLength
  | .inputBufferLength _ =>
      .inputBufferLength
  | .bufferGrowth _ =>
      .bufferGrowth
  | .bounceBufferLength _ =>
      .bounceBufferLength
  | .maxBufferLength _ =>
      .maxBufferLength
  | .softwareBackup _ =>
      .softwareBackup
  | .sensitive _ =>
      .sensitive
  | .maxForks _ =>
      .maxForks
  | .hardwareBufferSize _ =>
      .hardwareBufferSize
  | .streamBufferSize _ =>
      .streamBufferSize
  | .softwareSwitchThreshold _ =>
      .softwareSwitchThreshold
  | .requestCountThreshold _ =>
      .requestCountThreshold
  | .waitCountThreshold _ =>
      .waitCountThreshold

/-- The value that an option sets its field to. -/
def value : (option : StreamOption) → option.field.Value
  | .compressionLevel level =>
      UInt32.ofNat level.toNatClampNeg
  | .algorithm value =>
      value
  | .deflateFormat format =>
      format
  | .direction value =>
      value
  | .inputBufferMode mode =>
      mode
  | .pollingMode mode =>
      mode
  | .huffmanHeader header =>
      header
  | .debugLevel level =>
      level
  | .outputBufferLength length =>
      length
  | .inputBufferLength length =>
      length
  | .bufferGrowth increment =>
      increment
  | .bounceBufferLength length =>
      length
  | .maxBufferLength length =>
      some length
  | .softwareBackup enabled =>
      enabled
  | .sensitive enabled =>
      enabled
  | .maxForks count =>
      count
  | .hardwareBufferSize size =>
      size
  | .streamBufferSize size =>
      size
  | .softwareSwitchThreshold threshold =>
      threshold
  | .requestCountThreshold threshold =>
      threshold
  | .waitCountThreshold threshold =>
      threshold

/-- The value that an option sets a field to, if that is the field it sets. -/
def value?
    (option : StreamOption)
    (field : ParameterField) :
    Option field.Value :=
  if same : option.field = field then
    some (same ▸ option.value)
  else
    none

theorem value?_field
    (option : StreamOption) :
    option.value? option.field = some option.value := by
  unfold value?
  rw [dif_pos rfl]

theorem value?_of_ne
    {option : StreamOption}
    {field : ParameterField}
    (other : option.field ≠ field) :
    option.value? field = none := by
  unfold value?
  rw [dif_neg other]

/-- A field shows the value of an option that has just set it, and what it held before otherwise. -/
theorem value_stage
    (option : StreamOption)
    (parameters : ParameterSet)
    (field : ParameterField) :
    (option.stage parameters).value field =
      (option.value? field).getD (parameters.value field) := by
  by_cases same : option.field = field
  · subst same
    rw [value?_field]
    cases option <;> rfl
  · rw [value?_of_ne same]
    cases option <;> cases field <;> first | rfl | exact absurd rfl same

/-- What is remembered as set is so when an option has set it, or one before. -/
theorem isExplicit_stage
    (option : StreamOption)
    (parameters : ParameterSet)
    (field : ParameterField) :
    (option.stage parameters).isExplicit field =
      (field.isOverridable && (option.value? field).isSome || parameters.isExplicit field) := by
  by_cases same : option.field = field
  · subst same
    rw [value?_field]
    cases option <;> rfl
  · rw [value?_of_ne same]
    cases option <;> cases field <;>
      first | exact absurd rfl same | simp [ParameterSet.isExplicit, stage]

end StreamOption

/-- The value that the last of some options for a field sets it to. -/
def lastValue?
    (options : List StreamOption)
    (field : ParameterField) :
    Option field.Value :=
  (options.filterMap (·.value? field)).getLast?

/-- An option decides its own field if no later one does. -/
theorem lastValue?_cons
    (option : StreamOption)
    (options : List StreamOption)
    (field : ParameterField) :
    lastValue? (option :: options) field =
      (lastValue? options field).or (option.value? field) := by
  unfold lastValue?
  rw [List.filterMap_cons]
  cases option.value? field with
  | none =>
      rw [Option.or_none]
  | some found =>
      dsimp only
      rw [List.getLast?_cons]
      cases (options.filterMap (·.value? field)).getLast? <;> rfl

namespace ParameterSet

/-- A parameter set after some options have been staged, one after the other. -/
def stageEach
    (parameters : ParameterSet)
    (options : List StreamOption) :
    ParameterSet :=
  options.foldl (fun parameters option => option.stage parameters) parameters

theorem stageEach_append
    (parameters : ParameterSet)
    (first second : List StreamOption) :
    parameters.stageEach (first ++ second) = (parameters.stageEach first).stageEach second :=
  List.foldl_append

/-- A field shows the last value that was staged for it, or what it held before. -/
theorem value_stageEach
    (parameters : ParameterSet)
    (options : List StreamOption)
    (field : ParameterField) :
    (parameters.stageEach options).value field =
      (lastValue? options field).getD (parameters.value field) := by
  induction options generalizing parameters with
  | nil =>
      rfl
  | cons option rest ih =>
      rw [lastValue?_cons]
      refine (ih (option.stage parameters)).trans ?_
      rw [StreamOption.value_stage]
      cases lastValue? rest field <;> rfl

/-- A field that overrides may fill is remembered as set if an option has set it. -/
theorem isExplicit_stageEach
    (parameters : ParameterSet)
    (options : List StreamOption)
    (field : ParameterField) :
    (parameters.stageEach options).isExplicit field =
      (field.isOverridable && (lastValue? options field).isSome ||
        parameters.isExplicit field) := by
  induction options generalizing parameters with
  | nil =>
      cases field <;> rfl
  | cons option rest ih =>
      rw [lastValue?_cons]
      refine (ih (option.stage parameters)).trans ?_
      rw [StreamOption.isExplicit_stage]
      cases field.isOverridable <;> cases lastValue? rest field <;>
        cases option.value? field <;> rfl

/-- The parameter set that some options leave staged where nothing was staged before. -/
def staging
    (options : List StreamOption) :
    ParameterSet :=
  stageEach {} options

/-- A staged field shows the last value that was staged for it, or its default. -/
theorem value_staging
    (options : List StreamOption)
    (field : ParameterField) :
    (staging options).value field =
      (lastValue? options field).getD (({} : ParameterSet).value field) :=
  value_stageEach {} options field

/-- Resolving fills a field from the overrides if no option has set it. -/
theorem value_resolve
    (staged : ParameterSet)
    (overrides : Overrides)
    (field : ParameterField) :
    (staged.resolve overrides).value field =
      if staged.isExplicit field then
        staged.value field
      else
        (overrides.value? field).getD (staged.value field) := by
  cases field <;> rfl

/-- The last option for a field comes first, then an override, then the default. -/
theorem value_resolve_staging
    (options : List StreamOption)
    (overrides : Overrides)
    (field : ParameterField) :
    ((staging options).resolve overrides).value field =
      ((lastValue? options field).or (overrides.value? field)).getD
        (({} : ParameterSet).value field) := by
  have blank : ({} : ParameterSet).isExplicit field = false := by
    cases field <;> rfl
  have plain (none : field.isOverridable = false) : overrides.value? field = .none := by
    cases field <;> first | rfl | cases none
  rw [value_resolve, value_staging, staging, isExplicit_stageEach, blank, Bool.or_false]
  cases overridable : field.isOverridable with
  | false =>
      rw [plain overridable]
      cases lastValue? options field <;> rfl
  | true =>
      cases lastValue? options field <;> rfl

end ParameterSet

/-- The options of a batch that a role takes: those before its first objection. -/
def accepted
    (role : TargetRole)
    (options : List StreamOption) :
    List StreamOption :=
  options.takeWhile (fun option => (option.check role).isOk)

/-- A batch stages the options that the role takes, even if it is stopped on the way. -/
theorem stageOptions_snd
    (role : TargetRole)
    (options : List StreamOption)
    (parameters : ParameterSet) :
    (stageOptions role options parameters).2 =
      parameters.stageEach (accepted role options) := by
  induction options generalizing parameters with
  | nil =>
      rfl
  | cons option rest ih =>
      unfold stageOptions accepted
      cases taken : option.check role with
      | ok =>
          rw [List.takeWhile_cons_of_pos (by rw [taken]; rfl)]
          exact ih _
      | error cause =>
          rw [List.takeWhile_cons_of_neg (by rw [taken]; exact Bool.false_ne_true)]
          rfl

/-- A batch is staged behind the options before it. -/
theorem stageOptions_staging
    (role : TargetRole)
    (batch options : List StreamOption) :
    (stageOptions role batch (.staging options)).2 = .staging (options ++ accepted role batch) := by
  rw [stageOptions_snd, ParameterSet.staging, ParameterSet.staging,
    ParameterSet.stageEach_append]

end MemberStream
