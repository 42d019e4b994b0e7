import MemberStream.Proofs.Parameter.Settings
import MemberStream.Stream.Phase

namespace MemberStream

/-!
# The parameters that a stream shows

A stream shows its staged set while it is idle, and the set of its session once one has
started.  The latter changes only when a session starts, the former only while the
stream is idle.  This is told once, for writers and readers alike, over what a stream
keeps of its parameters beside those that its engine was started with.
-/

/-- What a stream keeps of its parameters, beside those that its engine was started with. -/
structure StreamParameters where
  overrides : Overrides
  staged : ParameterSet
  effective : ParameterSet
  phase : Phase
  /-- The parameters of the newest start, if the engine accepted it. -/
  inForce : Option ParameterSet
  /-- The parameters of the newest start that the engine accepted. -/
  newest : Option ParameterSet

namespace StreamParameters

/-- A session has started. -/
def started
    (state : StreamParameters) :
    StreamParameters :=
  let effective := state.staged.resolve state.overrides
  { state with
    effective := effective
    phase := .active
    inForce := some effective
    newest := some effective }

/-- A session could not be started. -/
def refused
    (state : StreamParameters) :
    StreamParameters :=
  { state with phase := .idle, inForce := none }

/-- The stream has been closed. -/
def closed
    (state : StreamParameters) :
    StreamParameters :=
  { state with phase := .closed }

/-- The stream is to be started anew. -/
def cleared
    (state : StreamParameters) :
    StreamParameters :=
  { state with phase := .idle }

/-- How a request for data or a close can change what a stream keeps of its parameters. -/
inductive Advances
    (state : StreamParameters) :
    StreamParameters →
    Prop where
  | same :
      Advances state state
  | closed
      (active : state.phase = .active) :
      Advances state state.closed
  | started
      (idle : state.phase = .idle) :
      Advances state state.started
  | refused
      (idle : state.phase = .idle) :
      Advances state state.refused
  /-- A session was started only to be closed. -/
  | ended
      (idle : state.phase = .idle) :
      Advances state state.started.closed

/-- What a stream keeps of its parameters once some options have been staged. -/
structure Follows
    (state : StreamParameters)
    (overrides : Overrides)
    (options : List StreamOption) :
    Prop where
  overrides : state.overrides = overrides
  staged : state.staged = .staging options
  effective : state.effective = state.newest.getD {}
  /-- A session in force is the newest one, and nothing has been staged since its start. -/
  inForce :
    ∀ parameters,
      state.inForce = some parameters →
        state.phase ≠ .idle ∧
          state.newest = some parameters ∧
          parameters = state.staged.resolve state.overrides
  active : state.phase = .active → state.inForce.isSome

variable
  {state next : StreamParameters}
  {overrides : Overrides}
  {options : List StreamOption}

namespace Follows

/-- A session starts with what is staged and the overrides. -/
theorem started
    (follows : state.Follows overrides options) :
    state.started.Follows overrides options where
  overrides := follows.overrides
  staged := follows.staged
  effective := rfl
  inForce := by
    intro parameters inForce
    cases inForce
    exact ⟨by simp [StreamParameters.started], rfl, rfl⟩
  active := fun _ => rfl

/-- A start that is refused leaves the parameters alone. -/
theorem refused
    (follows : state.Follows overrides options) :
    state.refused.Follows overrides options where
  overrides := follows.overrides
  staged := follows.staged
  effective := follows.effective
  inForce := by
    intro parameters inForce
    cases inForce
  active := by
    intro active
    cases active

/-- A close leaves the parameters alone. -/
theorem closed
    (follows : state.Follows overrides options) :
    state.closed.Follows overrides options where
  overrides := follows.overrides
  staged := follows.staged
  effective := follows.effective
  inForce := by
    intro parameters inForce
    exact ⟨by simp [StreamParameters.closed], (follows.inForce parameters inForce).2⟩
  active := by
    intro active
    cases active

/-- A request for data or a close stages nothing. -/
theorem advances
    (follows : state.Follows overrides options)
    (advances : state.Advances next) :
    next.Follows overrides options := by
  cases advances with
  | same =>
      exact follows
  | closed active =>
      exact follows.closed
  | started idle =>
      exact follows.started
  | refused idle =>
      exact follows.refused
  | ended idle =>
      exact follows.started.closed

/-- A batch is staged behind the options before it while the stream is idle. -/
theorem stages
    (follows : state.Follows overrides options)
    (idle : state.phase = .idle)
    (role : TargetRole)
    (batch : List StreamOption) :
    Follows { state with staged := (stageOptions role batch state.staged).2 } overrides
      (options ++ accepted role batch) where
  overrides := follows.overrides
  staged := by
    dsimp only
    rw [follows.staged, stageOptions_staging]
  effective := follows.effective
  inForce := by
    intro parameters inForce
    exact absurd idle (follows.inForce parameters inForce).1
  active := follows.active

end Follows

/-- A stream that has been started, or closed, keeps its parameters and does not become idle. -/
theorem Advances.frozen
    (advances : state.Advances next)
    (unidle : state.phase ≠ .idle) :
    next.staged = state.staged ∧ next.effective = state.effective ∧ next.phase ≠ .idle := by
  cases advances with
  | same =>
      exact ⟨rfl, rfl, unidle⟩
  | closed active =>
      exact ⟨rfl, rfl, by simp [StreamParameters.closed]⟩
  | started idle | refused idle | ended idle =>
      exact absurd idle unidle

end StreamParameters

/--
What a stream with given overrides shows once some options have been staged: the staged
set, or what the overrides make of it.  An option comes before an override, and an
override, which only a session takes account of, before the default.
-/
structure Shows
    (overrides : Overrides)
    (options : List StreamOption)
    (inSession : Bool)
    (staged shown : ParameterSet) :
    Prop where
  either : shown = staged ∨ shown = staged.resolve overrides
  plain :
    ∀ field,
      field.isOverridable = false →
        shown.value field = (lastValue? options field).getD (({} : ParameterSet).value field)
  precedence :
    ∀ field,
      shown.value field =
        if inSession then
          ((lastValue? options field).or (overrides.value? field)).getD
            (({} : ParameterSet).value field)
        else
          (lastValue? options field).getD (({} : ParameterSet).value field)

/-- An idle stream shows the staged set. -/
theorem shows_staged
    (overrides : Overrides)
    (options : List StreamOption) :
    Shows overrides options false (.staging options) (.staging options) where
  either := .inl rfl
  plain field _ := ParameterSet.value_staging options field
  precedence := ParameterSet.value_staging options

/-- A stream in a session shows what the overrides make of the staged set. -/
theorem shows_resolved
    (overrides : Overrides)
    (options : List StreamOption) :
    Shows overrides options true (.staging options)
      ((ParameterSet.staging options).resolve overrides) where
  either := .inr rfl
  plain field plain := by
    have none : overrides.value? field = .none := by
      cases field <;> first | rfl | cases plain
    rw [ParameterSet.value_resolve_staging, none, Option.or_none]
  precedence := ParameterSet.value_resolve_staging options overrides

namespace StreamParameters.Follows

variable
  {state : StreamParameters}
  {overrides : Overrides}
  {options : List StreamOption}

/-- With a session in force, the set of that session is what the options and overrides say. -/
theorem shows_effective
    (follows : state.Follows overrides options)
    (inForce : state.inForce.isSome) :
    Shows overrides options state.inForce.isSome state.staged state.effective := by
  obtain ⟨parameters, found⟩ := Option.isSome_iff_exists.mp inForce
  obtain ⟨-, newest, resolved⟩ := follows.inForce parameters found
  have effective : state.effective = parameters := by
    rw [follows.effective, newest, Option.getD_some]
  rw [inForce, effective, resolved, follows.staged, follows.overrides]
  exact shows_resolved overrides options

/-- Without a session in force, the staged set is what the options say. -/
theorem shows_staged
    (follows : state.Follows overrides options)
    (none : state.inForce = none) :
    Shows overrides options state.inForce.isSome state.staged state.staged := by
  rw [none, follows.staged]
  exact MemberStream.shows_staged overrides options

end StreamParameters.Follows

end MemberStream
