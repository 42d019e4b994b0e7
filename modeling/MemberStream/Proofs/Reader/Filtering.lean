import MemberStream.Proofs.Engine.Ignoring
import MemberStream.Proofs.Reader.Phases
import MemberStream.Proofs.Reader.Renewal
import MemberStream.Proofs.Telemetry.Filtering

namespace MemberStream

/-!
# A reader at two debug levels

As with writers, a reader shadows another one that differs only in the debug level that
overrides the one of its options, over an engine that ignores the level.
-/

/-- A request leaves the debug level alone: it neither sets it nor replaces the overrides. -/
def ReaderRequest.LeavesLevel
    {σ : Type} :
    ReaderRequest σ → Prop
  | .apply options =>
      MemberStream.LeavesLevel options
  | .override _ =>
      False
  | _ =>
      True

/-- What a reader shows of itself, apart from its engine and the debug level. -/
def ReaderView.outside
    {σ ε : Type}
    (view : ReaderView σ ε) :
    ReaderView σ Unit :=
  { view with
    engine := ()
    parameters := view.parameters.atLevel .none }

namespace Reader

variable
  {σ ε : Type}
  {same : ε → ε → Prop}
  {lower upper : DebugLevel}
  {quiet loud : Reader σ ε}

/-- A reader is another one at a lower debug level, over an engine that is the same to it. -/
structure Shadows
    (same : ε → ε → Prop)
    (lower upper : DebugLevel)
    (quiet loud : Reader σ ε) :
    Prop where
  ordered : lower ≤ upper
  levels : Trace.Levelled lower upper quiet.effective.debugLevel loud.effective.debugLevel
  engine : same quiet.engine loud.engine
  overrides : quiet.overrides = { loud.overrides with debugLevel := some lower }
  override : loud.overrides.debugLevel = some upper
  staged : quiet.staged = loud.staged
  /-- No option has set the debug level. -/
  unset : loud.staged.explicit.debugLevel = false
  effective : quiet.effective = loud.effective.atLevel quiet.effective.debugLevel
  trace : quiet.trace = loud.trace.lowered lower
  source : quiet.source = loud.source
  phase : quiet.phase = loud.phase
  sessionOpen : quiet.sessionOpen = loud.sessionOpen
  failure : quiet.failure = loud.failure
  closeResult : quiet.closeResult = loud.closeResult
  inputLength : quiet.inputLength = loud.inputLength
  inputOffset : quiet.inputOffset = loud.inputOffset
  inputRead : quiet.inputRead = loud.inputRead
  unread : quiet.unread = loud.unread
  sourceDone : quiet.sourceDone = loud.sourceDone
  sourceTotal : quiet.sourceTotal = loud.sourceTotal
  outputLength : quiet.outputLength = loud.outputLength
  outputOffset : quiet.outputOffset = loud.outputOffset
  outputLeft : quiet.outputLeft = loud.outputLeft
  window : quiet.window = loud.window
  growth : quiet.growth = loud.growth
  counters : quiet.counters = loud.counters
  crc : quiet.crc = loud.crc
  span : quiet.span = loud.span

namespace Shadows

variable (shadows : Shadows same lower upper quiet loud)

include shadows

theorem scope :
    quiet.scope = loud.scope := by
  unfold Reader.scope
  rw [shadows.span]

/-- An event is reported by both, unless the lower level does not reach it. -/
theorem report
    (scope : Scope)
    (event : Event) :
    Shadows same lower upper (quiet.report scope event) (loud.report scope event) :=
  { shadows with
    trace := by
      unfold Reader.report
      rw [Trace.lowered_record shadows.ordered shadows.levels, shadows.trace] }

theorem reportAs
    (scope : Scope)
    {event other : Event}
    (told : event = other) :
    Shadows same lower upper (quiet.report scope event) (loud.report scope other) :=
  told ▸ shadows.report scope event

theorem withSource
    (source : σ) :
    Shadows same lower upper { quiet with source := source } { loud with source := source } :=
  { shadows with source := rfl }

theorem withEngine
    {first second : ε}
    (engines : same first second) :
    Shadows same lower upper { quiet with engine := first } { loud with engine := second } :=
  { shadows with engine := engines }

theorem fail
    (scope : Scope)
    (error : StreamError) :
    Shadows same lower upper (quiet.fail scope error) (loud.fail scope error) :=
  { shadows.report scope (.readerFailed error) with failure := rfl }

end Shadows

/-- Two rounds come to the same, and leave a reader that shadows another. -/
inductive Round.Shadows
    (same : ε → ε → Prop)
    (lower upper : DebugLevel) :
    Round σ ε →
    Round σ ε →
    Prop where
  | took
      {one other : Reader σ ε}
      (bytes : Bytes)
      (next : Reader.Shadows same lower upper one other) :
      Shadows same lower upper (.took bytes one) (.took bytes other)
  | moved
      {one other : Reader σ ε}
      (next : Reader.Shadows same lower upper one other) :
      Shadows same lower upper (.moved one) (.moved other)
  | ended
      {one other : Reader σ ε}
      (last : Reader.Shadows same lower upper one other) :
      Shadows same lower upper (.ended one) (.ended other)
  | failed
      {one other : Reader σ ε}
      (error : StreamError)
      (last : Reader.Shadows same lower upper one other) :
      Shadows same lower upper (.failed error one) (.failed error other)

/-- A step is accepted by both. -/
theorem accept_shadows
    (shadows : Shadows same lower upper quiet loud)
    (scope : Scope)
    (step : Step)
    (reply : Reply) :
    Shadows same lower upper (quiet.accept scope step reply) (loud.accept scope step reply) := by
  have told :
      Event.decompressed step.consumed step.produced quiet.inputOffset quiet.inputRead =
        .decompressed step.consumed step.produced loud.inputOffset loud.inputRead := by
    rw [shadows.inputOffset, shadows.inputRead]
  exact {
    shadows.reportAs scope told with
    counters := congrArg (Counters.addStep · step.consumed step.produced) shadows.counters
    inputOffset := congrArg (· + step.consumed) shadows.inputOffset
    unread := congrArg (List.drop step.consumed) shadows.unread
    outputOffset := rfl
    outputLeft := rfl
    window := rfl }

/-- The same bytes are taken out of the windows of both. -/
theorem drain_together
    (shadows : Shadows same lower upper quiet loud)
    (wanted : Nat) :
    Together (Shadows same lower upper) (quiet.drain wanted) (loud.drain wanted) := by
  have count : min quiet.outputLeft wanted = min loud.outputLeft wanted := by
    rw [shadows.outputLeft]
  have parts :
      quiet.window.splitAt (min quiet.outputLeft wanted) =
        loud.window.splitAt (min loud.outputLeft wanted) := by
    rw [count, shadows.window]
  have taken := congrArg Prod.fst parts
  have left := congrArg Prod.snd parts
  exact ⟨taken, {
    shadows with
    outputOffset := by
      change quiet.outputOffset + _ = loud.outputOffset + _
      rw [count, shadows.outputOffset]
    outputLeft := by
      change quiet.outputLeft - _ = loud.outputLeft - _
      rw [count, shadows.outputLeft]
    window := left
    crc := by
      change quiet.crc.update (quiet.window.splitAt _).1 = loud.crc.update _
      rw [taken, shadows.crc] }⟩

/-- A failure behind some bytes comes to the same for both. -/
theorem failAfter_together
    (shadows : Shadows same lower upper quiet loud)
    (scope : Scope)
    (delivered : Bytes)
    (error : StreamError) :
    Together (Shadows same lower upper)
      (quiet.failAfter scope delivered error) (loud.failAfter scope delivered error) := by
  have failed := shadows.fail scope error
  unfold failAfter
  dsimp only
  split
  · exact ⟨rfl, failed⟩
  · exact ⟨rfl, failed⟩

section Session

variable [EngineCalls ε]

/-- A session starts for both, or for neither. -/
theorem startSession_together
    (blind : LevelBlind same)
    (shadows : Shadows same lower upper quiet loud)
    (scope : Scope) :
    Together (Shadows same lower upper)
      (quiet.startSession scope) (loud.startSession scope) := by
  let parameters := loud.staged.resolve loud.overrides
  have quietly : quiet.staged.resolve quiet.overrides = parameters.atLevel lower := by
    rw [shadows.staged, shadows.overrides]
    exact ParameterSet.resolve_override shadows.unset loud.overrides lower
  have own : loud.overrides = { loud.overrides with debugLevel := some upper } := by
    rw [← shadows.override]
  have loudly : loud.staged.resolve loud.overrides = parameters.atLevel upper :=
    (congrArg loud.staged.resolve own).trans
      (ParameterSet.resolve_override shadows.unset loud.overrides upper)
  obtain ⟨answer, one, other, started, startedToo, engines⟩ :=
    (blind.start shadows.engine parameters lower upper).split
  unfold startSession
  rw [quietly, loudly]
  dsimp only
  rw [started, startedToo]
  cases answer with
  | error error =>
      exact ⟨rfl, {
        shadows with
        engine := engines
        span := rfl
        trace := by
          rw [shadows.trace]
          rfl }⟩
  | ok =>
      refine ⟨rfl, Shadows.report ?_ _ _⟩
      exact {
        shadows with
        engine := engines
        effective := rfl
        levels := .started
        phase := rfl
        sessionOpen := rfl
        inputLength := rfl
        inputOffset := rfl
        inputRead := rfl
        unread := rfl
        sourceDone := rfl
        sourceTotal := rfl
        outputLength := rfl
        outputOffset := rfl
        outputLeft := rfl
        window := rfl
        growth := rfl
        counters := rfl
        crc := rfl
        span := rfl
        trace := by
          rw [shadows.trace]
          rfl }

/-- A session is torn down for both. -/
theorem teardown_shadows
    (blind : LevelBlind same)
    (shadows : Shadows same lower upper quiet loud) :
    Shadows same lower upper quiet.teardown loud.teardown := by
  unfold teardown
  rw [shadows.sessionOpen]
  split
  · exact {
      shadows with
      engine := (blind.close shadows.engine).state
      sessionOpen := rfl }
  · exact shadows

/-- Both get ready, or neither. -/
theorem ready_together
    (blind : LevelBlind same)
    (shadows : Shadows same lower upper quiet loud)
    (scope : Scope) :
    Together (Shadows same lower upper) (quiet.ready scope) (loud.ready scope) := by
  obtain ⟨answer, one, other, starts, startsToo, started⟩ :=
    (startSession_together blind shadows scope).split
  unfold ready
  rw [shadows.failure, shadows.phase, starts, startsToo]
  cases loud.failure with
  | some error =>
      exact ⟨rfl, shadows⟩
  | none =>
      cases loud.phase with
      | closed =>
          exact ⟨rfl, shadows⟩
      | active =>
          exact ⟨rfl, shadows⟩
      | idle =>
          cases answer with
          | ok =>
              exact ⟨rfl, started⟩
          | error error =>
              exact ⟨rfl, started.fail scope error⟩

/-- One engine call comes to the same for both. -/
theorem advance_shadows
    (blind : LevelBlind same)
    (shadows : Shadows same lower upper quiet loud)
    (scope : Scope)
    (wanted : Nat) :
    Round.Shadows same lower upper (quiet.advance scope wanted) (loud.advance scope wanted) := by
  obtain ⟨⟨result, bytes⟩, one, other, answer, answerToo, engines⟩ :=
    (blind.decompress shadows.engine loud.unread loud.outputLength).split
  rw [← shadows.unread, ← shadows.outputLength] at answer
  have called := shadows.withEngine engines
  unfold advance
  rw [answer, answerToo]
  cases result with
  | ok step =>
      have available :
          quiet.inputRead - quiet.inputOffset = loud.inputRead - loud.inputOffset := by
        rw [shadows.inputRead, shadows.inputOffset]
      have exceeds :
          step.exceeds (quiet.inputRead - quiet.inputOffset) quiet.outputLength =
            step.exceeds (loud.inputRead - loud.inputOffset) loud.outputLength := by
        rw [available, shadows.outputLength]
      have overreport :
          step.overreport (quiet.inputRead - quiet.inputOffset) quiet.outputLength =
            step.overreport (loud.inputRead - loud.inputOffset) loud.outputLength := by
        rw [available, shadows.outputLength]
      dsimp only
      rw [exceeds, overreport]
      split
      · exact .failed _ called
      · split
        · exact .failed _ called
        · exact .moved (accept_shadows called scope step _)
  | error error =>
      by_cases small : error = .insufficientBuffer
      · subst small
        have grows :
            quiet.growth.nextOutputLength wanted quiet.outputLength =
              loud.growth.nextOutputLength wanted loud.outputLength := by
          rw [shadows.growth, shadows.outputLength]
        dsimp only
        rw [grows]
        generalize loud.growth.nextOutputLength wanted loud.outputLength = grown
        obtain ⟨result, growth⟩ := grown
        have grown :
            Shadows same lower upper
              { quiet with engine := one, growth := growth }
              { loud with engine := other, growth := growth } :=
          { called with growth := rfl }
        cases result with
        | error error =>
            exact .failed error grown
        | ok length =>
            have expanded :=
              grown.reportAs scope (congrArg (Event.outputExpanded · length) shadows.outputLength)
            dsimp only
            by_cases larger : loud.outputLength < length
            · rw [if_pos larger, if_pos (shadows.outputLength ▸ larger)]
              exact .moved { expanded with outputLength := rfl }
            · rw [if_neg larger, if_neg (shadows.outputLength ▸ larger)]
              exact .failed _ expanded
      · cases error with
        | insufficientBuffer =>
            exact absurd rfl small
        | _ =>
            exact .failed _ called

/-- The engine is closed for both. -/
theorem closeEngine_together
    (blind : LevelBlind same)
    (shadows : Shadows same lower upper quiet loud)
    (scope : Scope) :
    Together (Shadows same lower upper) (quiet.closeEngine scope) (loud.closeEngine scope) := by
  cases kept : loud.failure with
  | some error =>
      rw [closeEngine_of_failed kept, closeEngine_of_failed (shadows.failure.trans kept)]
      exact ⟨rfl, teardown_shadows blind shadows⟩
  | none =>
      obtain ⟨answer, one, other, closes, closesToo, engines⟩ :=
        (blind.close shadows.engine).split
      have closed :
          Shadows same lower upper
            { quiet with engine := one, sessionOpen := false }
            { loud with engine := other, sessionOpen := false } :=
        { shadows with engine := engines, sessionOpen := rfl }
      rw [closeEngine_of_unfailed kept, closeEngine_of_unfailed (shadows.failure.trans kept),
        closes, closesToo]
      cases answer with
      | ok =>
          exact ⟨rfl, closed⟩
      | error error =>
          exact ⟨rfl, closed.fail scope error⟩

/-- The stream is closed for both. -/
theorem close_together
    (blind : LevelBlind same)
    (shadows : Shadows same lower upper quiet loud) :
    Together (Shadows same lower upper) quiet.close loud.close := by
  cases phase : loud.phase with
  | closed =>
      rw [close_of_closed phase, close_of_closed (shadows.phase.trans phase), shadows.closeResult]
      exact ⟨rfl, shadows⟩
  | idle =>
      rw [close_of_idle phase, close_of_idle (shadows.phase.trans phase)]
      exact ⟨rfl, { shadows with phase := rfl, closeResult := rfl }⟩
  | active =>
      have ended : Shadows same lower upper quiet.ended loud.ended :=
        { shadows with phase := rfl }
      obtain ⟨answer, one, other, closes, closesToo, closed⟩ :=
        (closeEngine_together blind ended loud.scope).split
      rw [close_of_active phase, close_of_active (shadows.phase.trans phase), shadows.scope,
        closes, closesToo]
      exact ⟨rfl, { closed.report loud.scope (.readerClosed answer.isOk) with closeResult := rfl }⟩

/-- The stream is reset for both. -/
theorem reset_together
    (blind : LevelBlind same)
    (shadows : Shadows same lower upper quiet loud)
    (source : σ) :
    Together (Shadows same lower upper) (quiet.reset source) (loud.reset source) := by
  have cleared : Shadows same lower upper quiet.cleared loud.cleared :=
    { teardown_shadows blind shadows with
      failure := rfl
      closeResult := rfl
      phase := rfl
      counters := rfl
      crc := rfl }
  obtain ⟨answer, one, other, starts, startsToo, started⟩ :=
    (startSession_together blind cleared []).split
  rw [reset_eq, reset_eq, starts, startsToo]
  cases answer with
  | ok =>
      exact ⟨congrArg Except.ok started.source, started.withSource source⟩
  | error error =>
      exact ⟨rfl, started.fail [] error⟩

end Session

/-- Room is made by both, or by neither. -/
theorem makeRoom_together
    (shadows : Shadows same lower upper quiet loud)
    (scope : Scope) :
    Together (Shadows same lower upper) (quiet.makeRoom scope) (loud.makeRoom scope) := by
  have grows :
      quiet.growth.nextInputLength quiet.inputLength =
        loud.growth.nextInputLength loud.inputLength := by
    rw [shadows.growth, shadows.inputLength]
  have full : (quiet.inputRead = quiet.inputLength) = (loud.inputRead = loud.inputLength) := by
    rw [shadows.inputRead, shadows.inputLength]
  unfold makeRoom
  rw [grows]
  by_cases filled : loud.inputRead = loud.inputLength
  · rw [if_pos filled, if_pos (full ▸ filled)]
    cases loud.growth.nextInputLength loud.inputLength with
    | error error =>
        exact ⟨rfl, shadows⟩
    | ok length =>
        have expanded :=
          shadows.reportAs scope (congrArg (Event.inputExpanded · length) shadows.inputLength)
        exact ⟨rfl, { expanded with inputLength := rfl }⟩
  · rw [if_neg filled, if_neg (full ▸ filled)]
    exact ⟨rfl, shadows⟩

section Input

variable [Source σ]

/-- The source is gathered for both. -/
theorem gather_together
    (shadows : Shadows same lower upper quiet loud)
    (scope : Scope)
    (chunks : List Bytes) :
    ∃ twin,
      quiet.gather scope chunks =
          ((loud.gather scope chunks).1, (loud.gather scope chunks).2.1, twin) ∧
        Shadows same lower upper twin (loud.gather scope chunks).2.2 := by
  have makes {quiet loud next : Reader σ ε} {result : Except StreamError Unit}
      (shadows : Shadows same lower upper quiet loud)
      (made : loud.makeRoom scope = (result, next)) :
      ∃ twin, quiet.makeRoom scope = (result, twin) ∧ Shadows same lower upper twin next := by
    have together := makeRoom_together shadows scope
    rw [made] at together
    exact together.answers
  have reads {one other : Reader σ ε} {result : Except TransportError Bytes} {source : σ}
      (shadows : Shadows same lower upper one other)
      (answer :
        SourceCalls.read other.source (other.inputLength - other.inputRead) = (result, source)) :
      SourceCalls.read one.source (one.inputLength - one.inputRead) = (result, source) := by
    rw [shadows.source, shadows.inputLength, shadows.inputRead]
    exact answer
  fun_induction gather loud scope chunks generalizing quiet with
  | case1 loud chunks error full made =>
      obtain ⟨twin, madeToo, after⟩ := makes shadows made
      exact ⟨twin, gather_of_full madeToo chunks, after⟩
  | case2 loud chunks roomy made source answer =>
      obtain ⟨twin, madeToo, after⟩ := makes shadows made
      exact ⟨_, gather_of_read madeToo (reads after answer) chunks,
        { after with source := rfl, sourceDone := rfl }⟩
  | case3 loud chunks roomy made byte rest source answer count buffered =>
      rename_i _ later
      obtain ⟨twin, madeToo, after⟩ := makes shadows made
      have buffers : twin.inputRead + count = buffered := by
        rw [after.inputRead]
      have transferred :
          Shadows same lower upper
            { twin with
              source := source
              inputRead := twin.inputRead + count
              sourceTotal := twin.sourceTotal + count }
            { roomy with
              source := source
              inputRead := buffered
              sourceTotal := roomy.sourceTotal + count } :=
        { after with
          source := rfl
          inputRead := buffers
          sourceTotal := congrArg (· + count) after.sourceTotal }
      have told :
          Event.transferred count (twin.inputRead + count) twin.inputLength =
            .transferred count buffered roomy.inputLength := by
        rw [buffers, after.inputLength]
      obtain ⟨last, gathers, gathered⟩ := later (transferred.reportAs scope told)
      refine ⟨last, ?_, gathered⟩
      rw [gather_of_read madeToo (reads after answer) chunks, ← gathers]
  | case4 loud chunks roomy made error source answer interrupted later =>
      obtain ⟨twin, madeToo, after⟩ := makes shadows made
      obtain ⟨last, gathers, gathered⟩ := later (after.withSource source)
      refine ⟨last, ?_, gathered⟩
      rw [gather_of_read madeToo (reads after answer) chunks, ← gathers]
      exact if_pos interrupted
  | case5 loud chunks roomy made error source answer terminal =>
      obtain ⟨twin, madeToo, after⟩ := makes shadows made
      refine ⟨_, ?_, after.withSource source⟩
      rw [gather_of_read madeToo (reads after answer) chunks]
      exact if_neg terminal

/-- The input buffer is filled for both. -/
theorem fillInput_together
    (shadows : Shadows same lower upper quiet loud)
    (scope : Scope) :
    Together (Shadows same lower upper) (quiet.fillInput scope) (loud.fillInput scope) := by
  have emptied :
      Shadows same lower upper
        { quiet with inputOffset := 0, inputRead := 0, unread := [] }
        { loud with inputOffset := 0, inputRead := 0, unread := [] } :=
    { shadows with
      inputOffset := rfl
      inputRead := rfl
      unread := rfl }
  obtain ⟨twin, gathers, gathered⟩ := gather_together emptied (scope ++ ["input"]) []
  unfold fillInput
  dsimp only
  rw [gathers]
  exact ⟨rfl, { gathered with unread := rfl }⟩

/-- Input is made ready for both. -/
theorem ensureInput_together
    (shadows : Shadows same lower upper quiet loud)
    (scope : Scope) :
    Together (Shadows same lower upper) (quiet.ensureInput scope) (loud.ensureInput scope) := by
  have unfilled :
      (quiet.inputExhausted && !quiet.sourceDone) = (loud.inputExhausted && !loud.sourceDone) := by
    unfold inputExhausted
    rw [shadows.inputOffset, shadows.inputRead, shadows.sourceDone]
  obtain ⟨answer, one, other, fills, fillsToo, filled⟩ := (fillInput_together shadows scope).split
  unfold ensureInput
  rw [unfilled, fills, fillsToo]
  split
  · cases answer with
    | error error =>
        exact ⟨rfl, filled⟩
    | ok =>
        dsimp only
        rw [filled.sourceTotal]
        split
        · exact ⟨rfl, filled⟩
        · exact ⟨rfl, filled⟩
  · rw [shadows.sourceTotal]
    split
    · exact ⟨rfl, shadows⟩
    · exact ⟨rfl, shadows⟩

variable [EngineCalls ε]

/-- A round comes to the same for both. -/
theorem round_shadows
    (blind : LevelBlind same)
    (shadows : Shadows same lower upper quiet loud)
    (scope : Scope)
    (wanted : Nat) :
    Round.Shadows same lower upper (quiet.round scope wanted) (loud.round scope wanted) := by
  obtain ⟨bytes, drained, drainedToo, drains, drainsToo, left⟩ :=
    (drain_together shadows wanted).split
  obtain ⟨answer, one, other, ensures, ensuresToo, ensured⟩ :=
    (ensureInput_together shadows scope).split
  have exhausted : one.inputExhausted = other.inputExhausted := by
    unfold inputExhausted
    rw [ensured.inputOffset, ensured.inputRead]
  unfold round
  rw [shadows.outputLeft, drains, drainsToo, ensures, ensuresToo]
  split
  · exact .took bytes left
  · cases answer with
    | error error =>
        exact .failed error ensured
    | ok =>
        dsimp only
        rw [exhausted]
        split
        · exact .ended ensured
        · exact advance_shadows blind ensured scope wanted

/-- The same bytes are delivered by both. -/
theorem deliver_together
    (blind : LevelBlind same)
    (shadows : Shadows same lower upper quiet loud)
    (scope : Scope)
    (wanted : Nat)
    (delivered : Bytes) :
    Together (Shadows same lower upper)
      (quiet.deliver scope wanted delivered) (loud.deliver scope wanted delivered) := by
  have rounds {quiet loud : Reader σ ε} {wanted : Nat} {round : Round σ ε}
      (shadows : Shadows same lower upper quiet loud)
      (comes : loud.round scope wanted = round) :
      Round.Shadows same lower upper (quiet.round scope wanted) round :=
    comes ▸ round_shadows blind shadows scope wanted
  -- The quiet reader has to be taken round by round along the recursion of the loud one, so what
  -- its round comes to is generalised in every case.
  fun_induction deliver loud scope wanted delivered generalizing quiet with
  | case1 loud delivered =>
      rw [deliver_zero]
      exact ⟨rfl, shadows⟩
  | case2 loud wanted delivered some bytes next takes later =>
      have round := rounds shadows takes
      rw [deliver_of_pos _ scope delivered some]
      generalize quiet.round scope wanted = twin at round ⊢
      cases round with
      | took bytes left =>
          exact later left
  | case3 loud wanted delivered some next moves later =>
      have round := rounds shadows moves
      rw [deliver_of_pos _ scope delivered some]
      generalize quiet.round scope wanted = twin at round ⊢
      cases round with
      | moved moved =>
          exact later moved
  | case4 loud wanted delivered some last ends =>
      have round := rounds shadows ends
      rw [deliver_of_pos _ scope delivered some]
      generalize quiet.round scope wanted = twin at round ⊢
      cases round with
      | ended ended =>
          exact ⟨rfl, ended⟩
  | case5 loud wanted delivered some error last fails =>
      have round := rounds shadows fails
      rw [deliver_of_pos _ scope delivered some]
      generalize quiet.round scope wanted = twin at round ⊢
      cases round with
      | failed error failed =>
          exact failAfter_together failed scope delivered error

/-- A chunk is read for both. -/
theorem readChunk_together
    (blind : LevelBlind same)
    (shadows : Shadows same lower upper quiet loud)
    (length : Nat) :
    Together (Shadows same lower upper) (quiet.readChunk length) (loud.readChunk length) := by
  obtain ⟨answer, one, other, readies, readiesToo, ready⟩ :=
    (ready_together blind shadows loud.scope).split
  unfold readChunk
  dsimp only
  rw [shadows.scope, readies, readiesToo]
  cases answer with
  | error error =>
      exact ⟨rfl, ready⟩
  | ok =>
      exact deliver_together blind ready _ length []

end Input

/-- Options are applied to both, if they leave the debug level alone. -/
theorem apply_together
    (shadows : Shadows same lower upper quiet loud)
    {options : List StreamOption}
    (leaves : LeavesLevel options) :
    Together (Shadows same lower upper) (quiet.apply options) (loud.apply options) := by
  unfold apply
  rw [shadows.phase, shadows.staged]
  exact ⟨rfl, {
    shadows with
    phase := rfl
    staged := rfl
    unset := applyOptions_unset leaves shadows.unset }⟩

/-- Both show the same, apart from their engines and the debug level. -/
theorem view_of_shadows
    (shadows : Shadows same lower upper quiet loud) :
    quiet.view.outside = loud.view.outside := by
  have parameters : quiet.parameters.atLevel .none = loud.parameters.atLevel .none := by
    unfold parameters
    rw [shadows.phase]
    cases loud.phase with
    | idle =>
        rw [shadows.staged]
    | active | closed =>
        dsimp only
        rw [shadows.effective]
        rfl
  unfold ReaderView.outside view
  dsimp only
  rw [parameters, shadows.source, shadows.counters, shadows.crc]

section Requests

variable [EngineCalls ε] [Source σ]

/-- A request comes to the same for both, if it leaves the debug level alone. -/
theorem serve_together
    (blind : LevelBlind same)
    (shadows : Shadows same lower upper quiet loud)
    {request : ReaderRequest σ}
    (leaves : request.LeavesLevel) :
    Together (Shadows same lower upper) (quiet.serve request) (loud.serve request) := by
  cases request with
  | readInto buffer =>
      obtain ⟨answer, one, other, reads, readsToo, read⟩ :=
        (readChunk_together blind shadows buffer.length).split
      dsimp only [serve]
      rw [readInto_eq, readInto_eq, reads, readsToo]
      cases answer with
      | ok bytes =>
          exact ⟨rfl, read⟩
      | error error =>
          exact ⟨rfl, read⟩
  | read length =>
      obtain ⟨answer, state⟩ := readChunk_together blind shadows length
      exact ⟨congrArg (fun result : Except StreamError Bytes =>
        ReaderReply.delivered (result.mapError .wrapped)) answer, state⟩
  | close =>
      obtain ⟨answer, state⟩ := close_together blind shadows
      exact ⟨congrArg ReaderReply.closed answer, state⟩
  | apply options =>
      obtain ⟨answer, state⟩ := apply_together shadows leaves
      exact ⟨congrArg ReaderReply.applied answer, state⟩
  | override overrides =>
      cases leaves
  | alter change =>
      exact ⟨rfl, { shadows with source := congrArg change shadows.source }⟩
  | reset source =>
      obtain ⟨answer, state⟩ := reset_together blind shadows source
      exact ⟨congrArg ReaderReply.handedBack answer, state⟩

/-- Every reply, and what the reader shows behind it apart from its engine and the debug level. -/
def outcomes
    (reader : Reader σ ε)
    (requests : List (ReaderRequest σ)) :
    List (ReaderReply σ × ReaderView σ Unit) :=
  (reader.observe requests).map fun seen => (seen.1, seen.2.outside)

/-- All requests come to the same for both, if they leave the debug level alone. -/
theorem serveEach_together
    (blind : LevelBlind same)
    (shadows : Shadows same lower upper quiet loud)
    {requests : List (ReaderRequest σ)}
    (leave : ∀ request ∈ requests, request.LeavesLevel) :
    quiet.outcomes requests = loud.outcomes requests ∧
      Shadows same lower upper (quiet.serveEach requests) (loud.serveEach requests) := by
  induction requests generalizing quiet loud with
  | nil =>
      exact ⟨rfl, shadows⟩
  | cons request rest later =>
      obtain ⟨reply, one, other, serves, servesToo, served⟩ :=
        (serve_together blind shadows (leave request List.mem_cons_self)).split
      obtain ⟨replies, state⟩ :=
        later served fun request member => leave request (List.mem_cons_of_mem _ member)
      unfold outcomes observe serveEach
      rw [serves, servesToo]
      refine ⟨?_, state⟩
      dsimp only
      rw [List.map_cons, List.map_cons, view_of_shadows served]
      exact congrArg (List.cons _) replies

end Requests

/-- A reader that has just been built, with an override of the debug level. -/
def builtAt
    (source : σ)
    (engine : ε)
    (overrides : Overrides)
    (level : DebugLevel) :
    Reader σ ε where
  source := source
  engine := engine
  overrides := { overrides with debugLevel := some level }
  outputLeft := 0
  windowed := windowed_empty

/-- A reader built at a debug level shadows one that is built at a higher level. -/
theorem shadows_built
    {engine : ε}
    (itself : same engine engine)
    (ordered : lower ≤ upper)
    (source : σ)
    (overrides : Overrides) :
    Shadows same lower upper
      (builtAt source engine overrides lower) (builtAt source engine overrides upper) where
  ordered := ordered
  levels := .unstarted
  engine := itself
  overrides := rfl
  override := rfl
  staged := rfl
  unset := rfl
  effective := rfl
  trace := rfl
  source := rfl
  phase := rfl
  sessionOpen := rfl
  failure := rfl
  closeResult := rfl
  inputLength := rfl
  inputOffset := rfl
  inputRead := rfl
  unread := rfl
  sourceDone := rfl
  sourceTotal := rfl
  outputLength := rfl
  outputOffset := rfl
  outputLeft := rfl
  window := rfl
  growth := rfl
  counters := rfl
  crc := rfl
  span := rfl

/-- The debug level of a reader only filters its trace. -/
theorem filters_of_built
    [Source σ]
    [EngineCalls ε]
    {engine : ε}
    (ignores : IgnoresLevel engine)
    (ordered : lower ≤ upper)
    (source : σ)
    (overrides : Overrides)
    {requests : List (ReaderRequest σ)}
    (leave : ∀ request ∈ requests, request.LeavesLevel) :
    (builtAt source engine overrides lower).outcomes requests =
        (builtAt source engine overrides upper).outcomes requests ∧
      Trace.Filters
        ((builtAt source engine overrides lower).serveEach requests).trace
        ((builtAt source engine overrides upper).serveEach requests).trace
        lower upper := by
  obtain ⟨same, blind, itself⟩ := ignores
  obtain ⟨outcomes, shadows⟩ :=
    serveEach_together blind (shadows_built itself ordered source overrides) leave
  obtain ⟨-, own⟩ :=
    serveEach_together blind (shadows_built itself (Nat.le_refl upper.rank) source overrides) leave
  exact ⟨outcomes, Trace.filters_of_lowered shadows.trace own.trace⟩

end Reader

end MemberStream
