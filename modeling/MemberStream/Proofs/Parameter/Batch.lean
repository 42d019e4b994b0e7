import Mathlib.Data.List.TakeWhile
import MemberStream.Proofs.Parameter.Acceptance
import MemberStream.Stream.Reader
import MemberStream.Stream.Writer

namespace MemberStream

/-!
# Batches of options

A target is whatever options are applied to: a writer, a reader or bare session
parameters.  What a batch comes to is told for all of them at once, by the place of the
first option that the role of the target does not take.
-/

/-- What applying a batch to a staged set of a role comes to. -/
inductive BatchOutcome
    (role : TargetRole)
    (options : List StreamOption)
    (staged : ParameterSet) :
    Except StreamError Unit × ParameterSet →
    Prop where
  /-- Every option is taken. -/
  | taken
      (fine : ∀ option, option ∈ options → option.InDomain ∧ role.Accepts option) :
      BatchOutcome role options staged (.ok (), staged.stageEach options)
  /-- The options before the first one that the role objects to are taken. -/
  | stopped
      {before after : List StreamOption}
      {option : StreamOption}
      {cause : ParameterError}
      (place : options = before ++ option :: after)
      (fine : ∀ earlier, earlier ∈ before → earlier.InDomain ∧ role.Accepts earlier)
      (objects : role.Objects option cause) :
      BatchOutcome role options staged
        (.error (.invalidParameter cause), staged.stageEach before)

/-- A batch comes to an outcome behind an option that is taken. -/
theorem BatchOutcome.cons
    {role : TargetRole}
    {options : List StreamOption}
    {option : StreamOption}
    {staged : ParameterSet}
    {outcome : Except StreamError Unit × ParameterSet}
    (fine : option.InDomain ∧ role.Accepts option)
    (rest : BatchOutcome role options (option.stage staged) outcome) :
    BatchOutcome role (option :: options) staged outcome := by
  cases rest with
  | taken later =>
      have taken : BatchOutcome role (option :: options) staged _ :=
        .taken (List.forall_mem_cons.mpr ⟨fine, later⟩)
      exact taken
  | @stopped before after offender cause place later objects =>
      have place : option :: options = (option :: before) ++ offender :: after := by
        simp [place]
      have stopped : BatchOutcome role (option :: options) staged _ :=
        .stopped place (List.forall_mem_cons.mpr ⟨fine, later⟩) objects
      exact stopped

/-- Staging a batch comes to one of the outcomes. -/
theorem batchOutcome_stageOptions
    (role : TargetRole)
    (options : List StreamOption)
    (staged : ParameterSet) :
    BatchOutcome role options staged (stageOptions role options staged) := by
  induction options generalizing staged with
  | nil =>
      exact .taken (by simp)
  | cons option rest ih =>
      unfold stageOptions
      split
      · rename_i passes
        exact .cons ((option.check_eq_ok_iff role).mp passes) (ih (option.stage staged))
      · rename_i cause refused
        have place : option :: rest = [] ++ option :: rest :=
          rfl
        exact .stopped place (by simp) ((option.check_eq_error_iff role cause).mp refused)

/-- A batch succeeds exactly if the role takes all of its options. -/
theorem stageOptions_eq_ok_iff
    (role : TargetRole)
    (options : List StreamOption)
    (staged : ParameterSet) :
    (stageOptions role options staged).1 = .ok () ↔
      ∀ option, option ∈ options → option.InDomain ∧ role.Accepts option := by
  have outcome := batchOutcome_stageOptions role options staged
  generalize stageOptions role options staged = result at outcome
  cases outcome with
  | taken fine =>
      simpa using fine
  | @stopped before after option cause place fine objects =>
      simp only [reduceCtorEq, false_iff]
      intro all
      have passes := (option.check_eq_ok_iff role).mpr (all option (by simp [place]))
      rw [(option.check_eq_error_iff role cause).mpr objects] at passes
      cases passes

/-- A batch stages its second part where its first part has succeeded. -/
theorem stageOptions_append
    (role : TargetRole)
    (before after : List StreamOption)
    (staged : ParameterSet) :
    stageOptions role (before ++ after) staged =
      match stageOptions role before staged with
      | (.ok (), next) => stageOptions role after next
      | (.error error, next) => (.error error, next) := by
  induction before generalizing staged with
  | nil =>
      rfl
  | cons option rest ih =>
      cases passes : option.check role with
      | ok =>
          simpa only [List.cons_append, stageOptions, passes] using ih (option.stage staged)
      | error cause =>
          simp only [List.cons_append, stageOptions, passes]

/-- The options of a batch that a role takes are in their domain and accepted. -/
theorem fine_of_accepted
    {role : TargetRole}
    {options : List StreamOption}
    {option : StreamOption}
    (taken : option ∈ accepted role options) :
    option.InDomain ∧ role.Accepts option := by
  have passes := List.mem_takeWhile_imp taken
  apply (option.check_eq_ok_iff role).mp
  cases checked : option.check role with
  | ok =>
      rfl
  | error cause =>
      simp [checked, Except.isOk, Except.toBool] at passes

/-- A staged set as some options can leave it that a role takes. -/
structure WellStaged
    (role : TargetRole)
    (staged : ParameterSet) :
    Prop where
  admitted : ∀ field, role.Admits field (staged.value field)
  untaken :
    ∀ field, role.takes field = false → staged.value field = ({} : ParameterSet).value field

namespace WellStaged

variable {role : TargetRole}

/-- Nothing is out of its domain before any option is staged. -/
theorem default
    (role : TargetRole) :
    WellStaged role {} where
  admitted field := by
    cases field <;>
      simp [TargetRole.Admits, ParameterSet.value, minBufferLength, defaultBufferLength,
        defaultBufferGrowth, minBounceBufferLength]
  untaken _ _ :=
    rfl

/-- An option that the role takes keeps every field in its domain. -/
theorem stage
    {staged : ParameterSet}
    {option : StreamOption}
    (well : WellStaged role staged)
    (fine : option.InDomain ∧ role.Accepts option) :
    WellStaged role (option.stage staged) where
  admitted field := by
    rw [option.value_stage]
    by_cases same : option.field = field
    · subst same
      rw [option.value?_field, Option.getD_some]
      exact StreamOption.admits_value fine.1 fine.2
    · rw [StreamOption.value?_of_ne same, Option.getD_none]
      exact well.admitted field
  untaken field untaken := by
    have other : option.field ≠ field := by
      rintro rfl
      simp [fine.2.takes] at untaken
    rw [option.value_stage, StreamOption.value?_of_ne other, Option.getD_none]
    exact well.untaken field untaken

/-- Options that the role takes keep every field in its domain. -/
theorem stageEach
    {staged : ParameterSet}
    {options : List StreamOption}
    (well : WellStaged role staged)
    (fine : ∀ option, option ∈ options → option.InDomain ∧ role.Accepts option) :
    WellStaged role (staged.stageEach options) := by
  induction options generalizing staged with
  | nil =>
      exact well
  | cons option rest ih =>
      have ⟨first, later⟩ := List.forall_mem_cons.mp fine
      exact ih (well.stage first) later

/--
What a session is started with is in its domain, too, the level as far as the overrides
do not fill in another one.
-/
theorem resolve
    {staged : ParameterSet}
    {overrides : Overrides}
    (well : WellStaged role staged)
    (field : ParameterField)
    (filled :
      field = .level → ∀ value, overrides.level = some value → role.Admits .level value) :
    role.Admits field ((staged.resolve overrides).value field) := by
  have admitted := well.admitted field
  cases field with
  | algorithm | debugLevel =>
      trivial
  | level =>
      rw [ParameterSet.value_resolve]
      split
      · exact admitted
      · cases found : overrides.value? .level with
        | none =>
            exact admitted
        | some value =>
            exact filled rfl value found
  | _ =>
      exact admitted

end WellStaged

/--
Something that options are applied to: it has a role, its staged set can be read and
replaced, and it knows whether its session has started.
-/
structure Target (τ : Type) where
  role : TargetRole
  staged : τ → ParameterSet
  restage : τ → ParameterSet → τ
  isStarted : τ → Bool
  staged_restage : ∀ state parameters, staged (restage state parameters) = parameters
  restage_staged : ∀ state, restage state (staged state) = state
  restage_restage :
    ∀ state first second, restage (restage state first) second = restage state second
  isStarted_restage : ∀ state parameters, isStarted (restage state parameters) = isStarted state

/-- Options are applied to the staged set of a writer until its session has started. -/
def Writer.target
    {σ ε : Type} :
    Target (Writer σ ε) where
  role := .writer
  staged := Writer.staged
  restage writer parameters := { writer with staged := parameters }
  isStarted writer := writer.phase != .idle
  staged_restage _ _ := rfl
  restage_staged _ := rfl
  restage_restage _ _ _ := rfl
  isStarted_restage _ _ := rfl

/-- Options are applied to the staged set of a reader until its session has started. -/
def Reader.target
    {σ ε : Type} :
    Target (Reader σ ε) where
  role := .reader
  staged := Reader.staged
  restage reader parameters := { reader with staged := parameters }
  isStarted reader := reader.phase != .idle
  staged_restage _ _ := rfl
  restage_staged _ := rfl
  restage_restage _ _ _ := rfl
  isStarted_restage _ _ := rfl

/-- Options are applied to session parameters until they are frozen. -/
def SessionParameters.target : Target SessionParameters where
  role := .session
  staged := SessionParameters.parameters
  restage session parameters := { session with parameters := parameters }
  isStarted := SessionParameters.started
  staged_restage _ _ := rfl
  restage_staged _ := rfl
  restage_restage _ _ _ := rfl
  isStarted_restage _ _ := rfl

namespace Target

variable {τ : Type}

/-- Apply a batch of options to a target. -/
def apply
    (target : Target τ)
    (state : τ)
    (options : List StreamOption) :
    Except StreamError Unit × τ :=
  let (result, parameters) :=
    applyOptions target.role (target.isStarted state) options (target.staged state)
  (result, target.restage state parameters)

/-- Apply batches of options one after the other until one of them fails. -/
def applyEach
    (target : Target τ)
    (state : τ) :
    List (List StreamOption) →
    Except StreamError Unit × τ
  | [] =>
      (.ok (), state)
  | options :: rest =>
      match target.apply state options with
      | (.ok (), next) =>
          target.applyEach next rest
      | (.error error, next) =>
          (.error error, next)

/-- A target whose session has started refuses every batch, and nothing changes. -/
theorem apply_of_started
    {target : Target τ}
    {state : τ}
    (started : target.isStarted state = true)
    (options : List StreamOption) :
    target.apply state options = (.error .applyAfterStart, state) := by
  simp [apply, applyOptions, started, target.restage_staged]

/-- Before its session a target stages what the batch comes to. -/
theorem apply_of_unstarted
    {target : Target τ}
    {state : τ}
    (unstarted : target.isStarted state = false)
    (options : List StreamOption) :
    target.apply state options =
      ((stageOptions target.role options (target.staged state)).1,
        target.restage state (stageOptions target.role options (target.staged state)).2) := by
  simp [apply, applyOptions, unstarted]

/-- A batch is applied as its parts are, one after the other until one of them fails. -/
theorem apply_flatten
    {target : Target τ}
    {state : τ}
    (unstarted : target.isStarted state = false)
    (parts : List (List StreamOption)) :
    target.apply state parts.flatten = target.applyEach state parts := by
  induction parts generalizing state with
  | nil =>
      simp [apply_of_unstarted unstarted, stageOptions, applyEach, target.restage_staged]
  | cons part rest ih =>
      rw [List.flatten_cons, apply_of_unstarted unstarted, stageOptions_append, applyEach,
        apply_of_unstarted unstarted]
      cases stageOptions target.role part (target.staged state) with
      | mk result next =>
          cases result with
          | error error =>
              rfl
          | ok =>
              have later : target.isStarted (target.restage state next) = false := by
                rwa [target.isStarted_restage]
              dsimp only
              rw [← ih later, apply_of_unstarted later, target.staged_restage,
                target.restage_restage]

/-- How a target deals with batches, and what it has staged. -/
structure Batched
    (target : Target τ)
    (state : τ) :
    Prop where
  wellStaged : WellStaged target.role (target.staged state)
  /-- So is what a session is started with, unless overrides fill in a level that is not. -/
  resolved :
    ∀ (overrides : Overrides) (field : ParameterField),
      (field = .level →
          ∀ value, overrides.level = some value → target.role.Admits .level value) →
        target.role.Admits field (((target.staged state).resolve overrides).value field)
  /-- Once the session has started, nothing is taken and nothing changes. -/
  refused :
    target.isStarted state = true →
      ∀ options, target.apply state options = (.error .applyAfterStart, state)
  /-- A batch changes nothing but the staged set, which is that of the options it takes. -/
  outcome :
    target.isStarted state = false →
      ∀ options, ∃ result staged,
        BatchOutcome target.role options (target.staged state) (result, staged) ∧
          target.apply state options = (result, target.restage state staged)
  succeeds :
    target.isStarted state = false →
      ∀ options,
        (target.apply state options).1 = .ok () ↔
          ∀ option, option ∈ options → option.InDomain ∧ target.role.Accepts option
  parts :
    target.isStarted state = false →
      ∀ parts, target.apply state parts.flatten = target.applyEach state parts

/-- A target deals with batches so whenever its staged set is well staged. -/
theorem batched_of_wellStaged
    {target : Target τ}
    {state : τ}
    (well : WellStaged target.role (target.staged state)) :
    target.Batched state where
  wellStaged := well
  resolved _ field filled := well.resolve field filled
  refused := apply_of_started
  outcome unstarted options :=
    ⟨_, _, batchOutcome_stageOptions target.role options (target.staged state),
      apply_of_unstarted unstarted options⟩
  succeeds unstarted options := by
    rw [apply_of_unstarted unstarted]
    exact stageOptions_eq_ok_iff target.role options (target.staged state)
  parts := apply_flatten

end Target

/-- A request to bare session parameters. -/
inductive SessionRequest
  | apply (options : List StreamOption)
  | freeze

namespace SessionParameters

/-- The session parameters after a request. -/
def serve
    (session : SessionParameters) :
    SessionRequest → SessionParameters
  | .apply options =>
      (session.apply options).2
  | .freeze =>
      session.freeze

/-- The session parameters after some requests. -/
def serveEach
    (session : SessionParameters)
    (requests : List SessionRequest) :
    SessionParameters :=
  requests.foldl serve session

/-- The options that a request stages. -/
def takenBy
    (session : SessionParameters) :
    SessionRequest →
    List StreamOption
  | .apply options =>
      if session.started then
        []
      else
        accepted .session options
  | .freeze =>
      []

/-- The options that some requests stage, in order. -/
def takenOptions
    (session : SessionParameters) :
    List SessionRequest →
    List StreamOption
  | [] =>
      []
  | request :: rest =>
      session.takenBy request ++ (session.serve request).takenOptions rest

/-- A request stages the options that it is said to stage. -/
theorem parameters_serve
    (session : SessionParameters)
    (request : SessionRequest) :
    (session.serve request).parameters =
      session.parameters.stageEach (session.takenBy request) := by
  cases request with
  | freeze =>
      rfl
  | apply options =>
      simp only [serve, apply, applyOptions, takenBy]
      split
      · rfl
      · exact stageOptions_snd .session options session.parameters

/-- Some requests stage the options that they are said to stage, in order. -/
theorem parameters_serveEach
    (session : SessionParameters)
    (requests : List SessionRequest) :
    (session.serveEach requests).parameters =
      session.parameters.stageEach (session.takenOptions requests) := by
  induction requests generalizing session with
  | nil =>
      rfl
  | cons request rest ih =>
      have later := ih (session.serve request)
      rwa [parameters_serve, ← ParameterSet.stageEach_append] at later

/-- Session parameters take only options that are in their domain and accepted. -/
theorem fine_of_taken
    {session : SessionParameters}
    {requests : List SessionRequest}
    {option : StreamOption}
    (taken : option ∈ session.takenOptions requests) :
    option.InDomain ∧ TargetRole.session.Accepts option := by
  induction requests generalizing session with
  | nil =>
      simp [takenOptions] at taken
  | cons request rest ih =>
      rcases List.mem_append.mp taken with now | later
      · cases request with
        | freeze =>
            simp [takenBy] at now
        | apply options =>
            simp only [takenBy] at now
            split at now
            · simp at now
            · exact fine_of_accepted now
      · exact ih later

end SessionParameters

end MemberStream
