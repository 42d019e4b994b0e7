import MemberStream.Proofs.RoundTrip
import MemberStream.Proofs.Writer.Options
import MemberStream.Proofs.Writer.Phases

namespace MemberStream

/-!
# Sessions one after the other

A reset ends a session and starts the next.  It closes the stream unless that has
been done, so that what is held back, or the placeholder of a stream without
content, goes to the sink of the session that it belongs to; the next session
starts with nothing held back, nothing counted and a sink of its own.
-/

variable {encoders : Encoders}

/-- What is done in one session before it is ended. -/
structure SessionPlan where
  buffers : List Bytes
  /-- Whether the stream is closed behind the last buffer. -/
  closes : Bool := false
  deriving Repr, DecidableEq

namespace ParameterSet

/-- The length of a piece is a word. -/
theorem chunkLength_lt
    (parameters : ParameterSet) :
    parameters.chunkLength < 2 ^ (32 : Nat) := by
  unfold chunkLength
  split
  · decide
  · exact parameters.hardwareBufferSize.toNat_lt

end ParameterSet

namespace RecordedSink

/-- A sink has received a stream of some buffers, which is more than nothing even of none. -/
structure Holds
    {σ : Type}
    (sink : RecordedSink σ)
    (parameters : ParameterSet)
    (buffers : List Bytes) :
    Prop where
  nonempty : sink.received ≠ []
  content : parameters.unpackStream sink.received = (buffers.flatten, none)

end RecordedSink

namespace Writer

section Sessions

variable {σ ε : Type} [Sink σ] [Engine ε]

/-- Do what is planned for a session. -/
def carryOut
    (writer : Writer σ ε)
    (plan : SessionPlan) :
    Writer σ ε :=
  let written := (writer.writeEach plan.buffers).2
  if plan.closes then
    written.close.2
  else
    written

/-- Whether a session has started when all has been done that is planned for it. -/
def StartsIn
    (plan : SessionPlan)
    (writer : Writer σ ε) :
    Prop :=
  writer.phase ≠ .idle ∨ plan.buffers ≠ [] ∨ plan.closes = true

/-- End a session by a reset to another sink. -/
def turnOver
    (writer : Writer (RecordedSink σ) ε)
    (plan : SessionPlan)
    (sink : σ) :
    Except StreamError (RecordedSink σ) × Writer (RecordedSink σ) ε :=
  (writer.carryOut plan).reset { sink := sink }

/-- Go through some sessions, each of which is ended by a reset to the sink of the next. -/
def turnOverAll
    (writer : Writer (RecordedSink σ) ε) :
    List (SessionPlan × σ) →
    Writer (RecordedSink σ) ε
  | [] =>
      writer
  | (plan, sink) :: turns =>
      (writer.turnOver plan sink).2.turnOverAll turns

/-- What is done in a session keeps the options. -/
theorem sameOptions_carryOut
    (writer : Writer σ ε)
    (plan : SessionPlan) :
    SameOptions (writer.carryOut plan) writer := by
  have writes := sameOptions_writeEach writer plan.buffers
  unfold carryOut
  dsimp only
  split
  · exact (sameOptions_close _).trans writes
  · exact writes

/-- A write that succeeds leaves the stream active. -/
theorem phase_of_writeChunk
    {writer next : Writer σ ε}
    {bytes : Bytes}
    {count : Nat}
    (writes : writer.writeChunk bytes = (.ok count, next)) :
    next.phase = .active := by
  have comes := writes_writeChunk writer bytes
  rw [writes] at comes
  cases comes with
  | unready refused same =>
      cases same
  | @staged active readied stages =>
      have staged : (active.stage (writer.scope ++ ["write"]) bytes).2.phase = active.phase := by
        apply stage_keeps (motive := fun next => next.phase = active.phase)
        · intro next held same
          exact same
        · intro next input same
          exact (sameSession_submit next _ 0 input).1.phase.trans same
        · intro next event same
          exact same
        · rfl
      rw [← stages] at staged
      exact staged.trans readied.open.1

/-- Writes that all succeed leave the stream active, unless there are none. -/
theorem phase_of_writeEach
    {writer : Writer σ ε}
    {buffers : List Bytes}
    {counts : List Nat}
    (writes : (writer.writeEach buffers).1 = counts.map .ok)
    (started : writer.phase = .active ∨ buffers ≠ []) :
    (writer.writeEach buffers).2.phase = .active := by
  induction buffers generalizing writer counts with
  | nil =>
      exact started.resolve_right (absurd rfl)
  | cons bytes buffers ih =>
      cases answer : writer.writeChunk bytes with
      | mk result next =>
          rw [writeEach, answer] at writes ⊢
          cases counts with
          | nil =>
              cases writes
          | cons count counts =>
              obtain ⟨rfl, later⟩ := List.cons.inj writes
              exact ih later (.inl (phase_of_writeChunk answer))

/-- A stream that has been closed is closed. -/
theorem phase_of_close
    {writer closed : Writer σ ε}
    (closes : writer.close = (.ok (), closed)) :
    closed.phase = .closed := by
  obtain ⟨active, whole, scope, -, completes, -⟩ := completed_of_close closes
  obtain ⟨flushed, sink, engine, trace, flushes, -, -, rfl⟩ := flushed_of_complete completes
  obtain ⟨count, submits⟩ := submitted_of_flushHeld flushes
  have same := (sameSession_submit ({ whole.markedLast with held := [] } : Writer σ ε) scope 0
    whole.markedLast.held).1.phase
  rw [submits] at same
  exact same

theorem closeForReset_of_close
    {writer closed : Writer σ ε}
    (active : writer.phase = .active)
    (closes : writer.close = (.ok (), closed)) :
    writer.closeForReset = closed := by
  obtain ⟨_, _, _, readied, -⟩ := completed_of_close closes
  rw [closeForReset, if_pos ⟨active, readied.open.2.2.1⟩, closes]

theorem closeForReset_of_phase
    {writer : Writer σ ε}
    (other : writer.phase ≠ .active) :
    writer.closeForReset = writer :=
  if_neg (fun active => other active.1)

end Sessions

variable {σ : Type} [Sink σ]

/-- A writer to which a new sink has been installed, with nothing counted. -/
structure Renewed
    (sink : σ)
    (writer renewed : Writer σ (MemberEngine encoders)) :
    Prop where
  options : SameOptions renewed writer
  sink : renewed.sink = sink
  phase : renewed.phase = .active
  counters : renewed.counters = {}
  crc : renewed.crc.value = 0

/-- A reset succeeds if the codec accepts the level, and hands back the sink. -/
theorem reset_of_checkLevel
    {writer : Writer σ (MemberEngine encoders)}
    (level :
      (writer.staged.resolve writer.overrides).algorithm.checkLevel
        (writer.staged.resolve writer.overrides).level = .ok ())
    (sink : σ) :
    ∃ renewed,
      writer.reset sink = (.ok writer.closeForReset.sink, renewed) ∧
        writer.Renewed sink renewed := by
  have same := sameOptions_cleared writer
  rw [← same.resolve] at level
  obtain ⟨started, starts⟩ := startSession_of_checkLevel level []
  have changed := started_of_startSession starts
  have handed : started.sink = writer.closeForReset.sink :=
    changed.sink.trans (teardown_sink writer.closeForReset)
  refine ⟨{ started with sink := sink }, ?_, ?_, rfl, changed.phase, changed.counters, ?_⟩
  · rw [reset_eq, starts, ← handed]
  · exact SameOptions.trans ⟨changed.overrides, changed.staged⟩ same
  · change started.crc.value = 0
    rw [changed.crc]
    rfl

/-- A writer at the start of a session has the options of that session, and these are valid. -/
theorem options_of_opened
    {parameters : ParameterSet}
    {writer : Writer (RecordedSink σ) (MemberEngine encoders)}
    (opened : writer.Opened parameters) :
    (∃ batches, writer.staged = stagedBy .writer batches) ∧
      writer.staged.resolve writer.overrides = parameters ∧
      parameters.algorithm.checkLevel parameters.level = .ok () := by
  cases opened with
  | built sink engine overrides batches session level =>
      rw [applyAll_of_idle _ _ rfl]
      exact ⟨⟨batches, rfl⟩, session, level⟩
  | @reset before _ sink previous batches staged session resets =>
      refine ⟨⟨batches, staged⟩, session, ?_⟩
      rw [reset_eq] at resets
      split at resets
      · rename_i started starts
        cases resets
        have changed := started_of_startSession starts
        have answer := changed.engine
        change started.staged.resolve started.overrides = parameters at session
        rw [changed.staged, changed.overrides] at session
        rw [session] at answer
        exact (MemberEngine.of_start answer).1
      · cases resets

/-- Whatever has been done in a session, its reset succeeds and opens the next one. -/
theorem renewed_of_turnOver
    {parameters : ParameterSet}
    {writer : Writer (RecordedSink σ) (MemberEngine encoders)}
    (opened : writer.Opened parameters)
    (plan : SessionPlan)
    (sink : σ) :
    ∃ renewed,
      writer.turnOver plan sink = (.ok (writer.carryOut plan).closeForReset.sink, renewed) ∧
        (writer.carryOut plan).Renewed { sink := sink } renewed ∧
        renewed.Opened parameters := by
  obtain ⟨⟨batches, staged⟩, session, level⟩ := options_of_opened opened
  have same := sameOptions_carryOut writer plan
  rw [← session, ← same.resolve] at level
  obtain ⟨renewed, resets, renews⟩ := reset_of_checkLevel level { sink := sink }
  have kept := renews.options.trans same
  refine ⟨renewed, resets, renews, .reset (kept.staged.trans staged) ?_ resets⟩
  rw [kept.resolve, session]

/-- A writer at the start of a session, with a sink that has received nothing and takes anything. -/
structure AtStart
    (parameters : ParameterSet)
    (writer : Writer (RecordedSink σ) (MemberEngine encoders)) :
    Prop where
  opened : writer.Opened parameters
  blank : writer.sink.received = []
  accepts : Sink.Accepts writer.sink

/-- However many sessions are turned over, the writer is at the start of the next one. -/
theorem AtStart.turnOverAll
    {parameters : ParameterSet}
    {writer : Writer (RecordedSink σ) (MemberEngine encoders)}
    {turns : List (SessionPlan × σ)}
    (start : writer.AtStart parameters)
    (others : ∀ turn ∈ turns, Sink.Accepts turn.2) :
    (writer.turnOverAll turns).AtStart parameters ∧
      (writer.phase = .active ∨ turns ≠ [] → (writer.turnOverAll turns).phase = .active) := by
  induction turns generalizing writer with
  | nil =>
      exact ⟨start, fun active => active.resolve_right (absurd rfl)⟩
  | cons turn turns ih =>
      obtain ⟨plan, sink⟩ := turn
      obtain ⟨renewed, turnsOver, renews, opened⟩ := renewed_of_turnOver start.opened plan sink
      have again : renewed.AtStart parameters := by
        refine ⟨opened, ?_, ?_⟩
        · rw [renews.sink]
          rfl
        · rw [renews.sink]
          exact RecordedSink.accepts (others (plan, sink) List.mem_cons_self)
      obtain ⟨last, active⟩ :=
        ih again (fun turn among => others turn (List.mem_cons_of_mem (plan, sink) among))
      rw [Writer.turnOverAll, turnsOver]
      exact ⟨last, fun _ => active (.inl renews.phase)⟩

/-- A session whose pieces are packed can be closed, and its sink then holds its buffers. -/
theorem AtStart.closes
    {parameters : ParameterSet}
    {writer : Writer (RecordedSink σ) (MemberEngine encoders)}
    {buffers : List Bytes}
    {stream : Bytes}
    (inverted : encoders.Inverted)
    (start : writer.AtStart parameters)
    (packs : parameters.Packs encoders (parameters.segments [] buffers) stream)
    (fits : parameters.FitsEach encoders (parameters.segments [] buffers)) :
    ∃ (counts : List Nat) (closed : Writer (RecordedSink σ) (MemberEngine encoders)),
      (writer.writeEach buffers).1 = counts.map .ok ∧
        (writer.writeEach buffers).2.close = (.ok (), closed) ∧
        closed.sink.Holds parameters buffers := by
  have yields := ended_of_prepared (prepared_of_opened start.opened start.accepts) buffers
  obtain ⟨closed, succeeds, ended⟩ := yields.of_packs packs fits
  obtain ⟨results, closes⟩ := writeEach_of_writeThenClose succeeds
  have received : closed.sink.received = parameters.output buffers.flatten stream := by
    rw [ended.received, start.blank]
    rfl
  obtain ⟨some, unpacked⟩ := packs.unpackStream inverted ⟨rfl, .inl rfl⟩
    (fun piece among => Nat.lt_of_le_of_lt (ParameterSet.length_le_of_mem_segments among)
      (Nat.lt_trans parameters.chunkLength_lt (by decide)))
  rw [parameters.flatten_segments, List.nil_append, ← received] at some unpacked
  exact ⟨_, closed, results, closes, some, unpacked⟩

/-- The sink that is handed back at the end of a session holds what was written in it. -/
theorem AtStart.handsBack
    {parameters : ParameterSet}
    {writer : Writer (RecordedSink σ) (MemberEngine encoders)}
    {plan : SessionPlan}
    {stream : Bytes}
    (inverted : encoders.Inverted)
    (start : writer.AtStart parameters)
    (packs : parameters.Packs encoders (parameters.segments [] plan.buffers) stream)
    (fits : parameters.FitsEach encoders (parameters.segments [] plan.buffers))
    (starts : writer.StartsIn plan) :
    (writer.carryOut plan).closeForReset.sink.Holds parameters plan.buffers := by
  obtain ⟨counts, closed, results, closes, holds⟩ := start.closes inverted packs fits
  unfold carryOut
  dsimp only
  split
  · rw [closes, closeForReset_of_phase (by simp [phase_of_close closes])]
    exact holds
  · rename_i open'
    have active : (writer.writeEach plan.buffers).2.phase = .active := by
      by_cases none : plan.buffers = []
      · have started := starts.resolve_right (fun more => more.elim (absurd none) open')
        rw [none] at closes ⊢
        obtain ⟨_, _, _, readied, -⟩ := completed_of_close closes
        cases readied with
        | active unfailed phase =>
            exact phase
        | started unfailed phase =>
            exact absurd phase started
      · exact phase_of_writeEach results (.inr none)
    rw [closeForReset_of_close active closes]
    exact holds

/-- A stream that has never started and is not asked for anything is reset as it is. -/
theorem closeForReset_of_not_startsIn
    {writer : Writer (RecordedSink σ) (MemberEngine encoders)}
    {plan : SessionPlan}
    (starts : ¬ writer.StartsIn plan) :
    (writer.carryOut plan).closeForReset = writer := by
  simp only [StartsIn, not_or, Decidable.not_not] at starts
  obtain ⟨idle, none, left⟩ := starts
  have same : writer.carryOut plan = writer := by
    unfold carryOut
    rw [none, if_neg left]
    rfl
  rw [same]
  exact closeForReset_of_phase (by simp [idle])

/--
However many sessions have been ended by resets, and whatever has been written in them,
the next one can be ended by a reset, too: it hands back the sink that was installed
for the session, and starts the one behind it with nothing counted.  If the session has
started, and each piece of it is encoded as a member that a buffer can hold, the sink
that is handed back holds what was written in it and nothing else; a session that has
not started has not put out anything.  A session that has not been closed may be
finished instead, with the same outcome.
-/
theorem handsBack_of_turnOverAll
    {parameters : ParameterSet}
    {writer : Writer (RecordedSink σ) (MemberEngine encoders)}
    {turns : List (SessionPlan × σ)}
    (inverted : encoders.Inverted)
    (opened : writer.Opened parameters)
    (blank : writer.sink.received = [])
    (accepts : Sink.Accepts writer.sink)
    (others : ∀ turn ∈ turns, Sink.Accepts turn.2)
    (plan : SessionPlan)
    (next : σ) :
    let current := writer.turnOverAll turns
    let pieces := parameters.segments [] plan.buffers
    (turns ≠ [] → current.phase = .active) ∧
      (∃ handed renewed,
        current.turnOver plan next = (.ok handed, renewed) ∧
          (current.carryOut plan).Renewed { sink := next } renewed ∧
          (¬ current.StartsIn plan → handed.received = []) ∧
          (current.StartsIn plan →
            ∀ stream,
              parameters.Packs encoders pieces stream →
                parameters.FitsEach encoders pieces →
                  handed.Holds parameters plan.buffers)) ∧
      (plan.closes = false →
        ∀ stream,
          parameters.Packs encoders pieces stream →
            parameters.FitsEach encoders pieces →
              ∃ handed,
                (current.carryOut plan).finish.1 = .ok handed ∧
                  handed.Holds parameters plan.buffers) := by
  intro current pieces
  have first : writer.AtStart parameters :=
    ⟨opened, blank, accepts⟩
  obtain ⟨start, phase⟩ := first.turnOverAll others
  change current.AtStart parameters at start
  refine ⟨fun some => phase (.inr some), ?_, ?_⟩
  · obtain ⟨renewed, turnsOver, renews, -⟩ := renewed_of_turnOver start.opened plan next
    refine ⟨_, renewed, turnsOver, renews, ?_, ?_⟩
    · intro starts
      rw [closeForReset_of_not_startsIn starts]
      exact start.blank
    · intro starts stream packs fits
      exact start.handsBack inverted packs fits starts
  · intro left stream packs fits
    obtain ⟨_, closed, -, closes, holds⟩ := start.closes inverted packs fits
    refine ⟨closed.sink, ?_, holds⟩
    unfold carryOut finish
    rw [left, if_neg Bool.false_ne_true, closes]

/-- What is held back behind a closed session and an empty one goes to the sink of its own. -/
theorem handsBack_of_turnOverAll_scripted :
    let sink : ScriptedSink := { perWrite := some 3 }
    let writer : Writer (RecordedSink ScriptedSink) MemberEngine :=
      applyAll { sink := { sink := sink }, engine := {}, overrides := { level := some 0 } } []
    let current := writer.turnOverAll
      [(⟨[[1, 2], []], true⟩, { interruptEvery := 2 }), (⟨[], false⟩, {})]
    writer.Opened { level := 0 } ∧
      ∃ handed renewed,
        current.turnOver ⟨[[3]], false⟩ {} = (.ok handed, renewed) ∧
          handed.Holds { level := 0 } [[3]] ∧
          renewed.counters = {} := by
  intro sink writer current
  have opened : writer.Opened { level := 0 } :=
    .built { sink := sink } {} { level := some 0 } [] rfl rfl
  have accepts : Sink.Accepts writer.sink :=
    RecordedSink.accepts (ScriptedSink.accepts rfl (by intro most same; cases same; decide) rfl)
  have others : ∀ turn ∈
      ([(⟨[[1, 2], []], true⟩, { interruptEvery := 2 }), (⟨[], false⟩, {})] :
      List (SessionPlan × ScriptedSink)), Sink.Accepts turn.2 := by
    intro turn among
    rcases List.mem_cons.mp among with rfl | among
    · exact ScriptedSink.accepts rfl nofun rfl
    · rw [List.mem_singleton.mp among]
      exact ScriptedSink.accepts rfl nofun rfl
  have segments : ({ level := 0 } : ParameterSet).segments [] [[3]] = [[3]] := by
    show pieces _ [] ++ pieces _ [] ++ pieces _ [3] = _
    rw [pieces_nil, pieces_of_short (List.cons_ne_nil _ _) (by decide)]
    rfl
  have packs := ParameterSet.Packs.cons
    (encodeMember_stored (show [3].length ≤ Deflate.longestStored by decide)) .nil
  have fits := ParameterSet.fitsEach_of_short packs rfl (by decide)
  rw [← segments] at packs fits
  obtain ⟨-, ⟨handed, renewed, turnsOver, renews, -, holds⟩, -⟩ :=
    handsBack_of_turnOverAll Encoders.Inverted.own opened rfl accepts others ⟨[[3]], false⟩ {}
  exact ⟨opened, handed, renewed, turnsOver, holds (.inr (.inl (by decide))) _ packs fits,
    renews.counters⟩

end Writer

end MemberStream
