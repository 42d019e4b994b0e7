import MemberStream.Proofs.Writer.Faithful
import MemberStream.Proofs.Writer.Phases
import MemberStream.Proofs.Writer.Segments
import MemberStream.Proofs.Writer.Streams

namespace MemberStream

/-!
# Marking the last chunk

A mark tells an engine that the input of the next compress call ends the stream.
A writer in `last` mode marks before every compress call.  In every other mode
the only mark is that of closing, and what is compressed after it is exactly what
was held back.  So the final compress call is marked if the last buffer has left
something to hold back.  An empty last buffer leaves nothing: it has what was held
before it submitted without a mark, and the mark comes when all is over.
-/

namespace EngineCall

/-- Whether a call marks the end of the stream. -/
def isMark : EngineCall → Bool
  | .setLast true =>
      true
  | _ =>
      false

/--
For every compress call among some calls, given newest first, whether a mark has
come before it.
-/
def marks : List EngineCall → List Bool
  | [] =>
      []
  | .compress _ _ _ :: earlier =>
      earlier.any isMark :: marks earlier
  | _ :: earlier =>
      marks earlier

/-- After a mark every compress call is marked. -/
theorem marks_append_of_marked
    {earlier : List EngineCall}
    (marked : earlier.any isMark = true)
    (later : List EngineCall) :
    marks (later ++ earlier) = (marks later).map (fun _ => true) ++ marks earlier := by
  induction later with
  | nil =>
      rfl
  | cons call later ih =>
      cases call with
      | compress input capacity reply =>
          rw [List.cons_append, marks, marks, ih, List.any_append, marked, Bool.or_true]
          rfl
      | start parameters result =>
          exact ih
      | decompress input capacity reply =>
          exact ih
      | setLast last =>
          exact ih
      | close result =>
          exact ih

/-- Without a mark no compress call is marked. -/
theorem marks_of_unmarked
    {calls : List EngineCall}
    (unmarked : calls.any isMark = false) :
    ∀ mark ∈ marks calls, mark = false := by
  induction calls with
  | nil =>
      exact nofun
  | cons call earlier ih =>
      rw [List.any_cons, Bool.or_eq_false_iff] at unmarked
      have before := ih unmarked.2
      cases call with
      | compress input capacity reply =>
          rw [marks, unmarked.2]
          intro mark member
          rcases List.mem_cons.mp member with rfl | member
          · rfl
          · exact before mark member
      | start parameters result =>
          exact before
      | decompress input capacity reply =>
          exact before
      | setLast last =>
          exact before
      | close result =>
          exact before

end EngineCall

/-- What some calls consumed comes behind what was consumed before them. -/
theorem EngineFigures.consumed_append
    (later earlier : List EngineCall) :
    (ofCalls (later ++ earlier)).consumed =
      (ofCalls earlier).consumed ++ (ofCalls later).consumed := by
  induction later with
  | nil =>
      exact (List.append_nil _).symm
  | cons call later ih =>
      rw [List.cons_append, ofCalls, ofCalls]
      change (ofCalls (later ++ earlier)).consumed ++ call.consumed = _ ++ (_ ++ call.consumed)
      rw [ih, List.append_assoc]

/--
The calls, newest first, that a writer makes on its engine as it takes buffers:
compress calls, each behind a mark if every chunk counts as the last, and before
them possibly the start of the session.
-/
inductive Rounds
    (mode : InputBufferMode) :
    List EngineCall →
    Prop where
  | none :
      Rounds mode []
  | start
      {earlier : List EngineCall}
      (parameters : ParameterSet)
      (result : Except StreamError Unit)
      (rounds : Rounds mode earlier) :
      Rounds mode (.start parameters result :: earlier)
  | compress
      {earlier : List EngineCall}
      (input : Bytes)
      (capacity : Nat)
      (reply : Reply)
      (rounds : Rounds mode earlier) :
      Rounds mode
        (.compress input capacity reply ::
          ((if mode = .last then [.setLast true] else []) ++ earlier))

namespace Rounds

/-- More rounds behind some rounds are rounds. -/
theorem append
    {mode : InputBufferMode}
    {later earlier : List EngineCall}
    (laterRounds : Rounds mode later)
    (earlierRounds : Rounds mode earlier) :
    Rounds mode (later ++ earlier) := by
  induction laterRounds with
  | none =>
      exact earlierRounds
  | start parameters result rounds ih =>
      exact .start parameters result ih
  | compress input capacity reply rounds ih =>
      rw [List.cons_append, List.append_assoc]
      exact .compress input capacity reply ih

/-- Unless every chunk counts as the last, no round has a mark. -/
theorem unmarked
    {mode : InputBufferMode}
    {calls : List EngineCall}
    (rounds : Rounds mode calls)
    (other : mode ≠ .last) :
    calls.any EngineCall.isMark = false := by
  induction rounds with
  | none =>
      rfl
  | start parameters result rounds ih =>
      exact ih
  | compress input capacity reply rounds ih =>
      rw [if_neg other]
      exact ih

/-- If every chunk counts as the last, every compress call is marked. -/
theorem marked
    {calls : List EngineCall}
    (rounds : Rounds .last calls) :
    ∀ mark ∈ EngineCall.marks calls, mark = true := by
  induction rounds with
  | none =>
      exact nofun
  | start parameters result rounds ih =>
      exact ih
  | compress input capacity reply rounds ih =>
      intro mark member
      rcases List.mem_cons.mp member with rfl | member
      · rfl
      · exact ih mark member

/-- Rounds that consumed something have a compress call. -/
theorem marks_ne_nil
    {mode : InputBufferMode}
    {calls : List EngineCall}
    (rounds : Rounds mode calls)
    (consumed : (EngineFigures.ofCalls calls).consumed ≠ []) :
    EngineCall.marks calls ≠ [] := by
  induction rounds with
  | none =>
      exact absurd rfl consumed
  | start parameters result rounds ih =>
      rw [EngineFigures.ofCalls_start] at consumed
      exact ih consumed
  | compress input capacity reply rounds ih =>
      exact List.cons_ne_nil _ _

/-- If every chunk counts as the last, every compress call is marked; otherwise none is. -/
theorem mark_eq
    {mode : InputBufferMode}
    {calls : List EngineCall}
    (rounds : Rounds mode calls) :
    ∀ mark ∈ EngineCall.marks calls, mark = decide (mode = .last) := by
  by_cases every : mode = .last
  · rw [decide_eq_true every]
    rw [every] at rounds
    exact rounds.marked
  · rw [decide_eq_false every]
    exact EngineCall.marks_of_unmarked (rounds.unmarked every)

/--
Some rounds, then a mark, then more rounds, and something was consumed.  The final
compress call is marked if every chunk counts as the last, and otherwise if there
was something left to consume after the mark.
-/
theorem head_marks_eq_true_iff
    {mode : InputBufferMode}
    {more earlier : List EngineCall}
    (before : Rounds mode earlier)
    (after : Rounds mode more)
    (silent : (EngineFigures.ofCalls more).consumed = [] → more = [])
    (content :
      (EngineFigures.ofCalls earlier).consumed ++ (EngineFigures.ofCalls more).consumed ≠ []) :
    (EngineCall.marks (more ++ .setLast true :: earlier)).head? = some true ↔
      mode = .last ∨ (EngineFigures.ofCalls more).consumed ≠ [] := by
  have shape : EngineCall.marks (more ++ .setLast true :: earlier) =
      (EngineCall.marks more).map (fun _ => true) ++ EngineCall.marks earlier :=
    EngineCall.marks_append_of_marked rfl more
  rw [shape]
  by_cases nothing : (EngineFigures.ofCalls more).consumed = []
  · rw [nothing, List.append_nil] at content
    have some := before.marks_ne_nil content
    rw [nothing, silent nothing, EngineCall.marks, List.map_nil, List.nil_append,
      List.head?_eq_some_head some, before.mark_eq _ (List.head_mem some)]
    simp
  · have some := after.marks_ne_nil nothing
    refine iff_of_true ?_ (.inr nothing)
    cases now : EngineCall.marks more with
    | nil =>
        exact absurd now some
    | cons mark rest =>
        rfl

end Rounds

namespace Writer

variable {σ ε : Type}

/-- Whether the engine of a writer has been driven on by some rounds. -/
def DrivenOn
    (writer next : Writer (RecordedSink σ) (RecordedEngine ε)) :
    Prop :=
  ∃ more,
    next.engine.calls = more ++ writer.engine.calls ∧
      Rounds writer.effective.inputBufferMode more

/-- Driving an engine on goes on in the same mode. -/
theorem DrivenOn.trans
    {writer next last : Writer (RecordedSink σ) (RecordedEngine ε)}
    (first : DrivenOn writer next)
    (second : DrivenOn next last)
    (effective : next.effective = writer.effective) :
    DrivenOn writer last := by
  obtain ⟨more, calls, rounds⟩ := first
  obtain ⟨later, laterCalls, laterRounds⟩ := second
  rw [effective] at laterRounds
  refine ⟨later ++ more, ?_, laterRounds.append rounds⟩
  rw [laterCalls, calls, List.append_assoc]

/-- One round makes a compress call, behind a mark if every chunk counts as the last. -/
theorem calls_of_markedEngine
    [EngineCalls ε]
    {writer : Writer σ (RecordedEngine ε)}
    {input : Bytes}
    {capacity : Nat}
    {reply : Reply}
    {engine : RecordedEngine ε}
    (answer : EngineCalls.compress writer.markedEngine input capacity = (reply, engine)) :
    engine.calls =
      .compress input capacity reply ::
        ((if writer.effective.inputBufferMode = .last then [.setLast true] else []) ++
          writer.engine.calls) := by
  rw [RecordedEngine.calls_of_compress answer, markedEngine]
  split
  · rfl
  · rfl

theorem drivenOn_of_compress
    [EngineCalls ε]
    {writer next : Writer (RecordedSink σ) (RecordedEngine ε)}
    {input : Bytes}
    {capacity : Nat}
    {reply : Reply}
    (answer : EngineCalls.compress writer.markedEngine input capacity = (reply, next.engine)) :
    DrivenOn writer next := by
  refine ⟨_, ?_, .compress input capacity reply .none⟩
  rw [calls_of_markedEngine answer, List.append_nil]
  rfl

variable [Sink σ] [Engine ε]

/-- A submission drives the engine on, whatever becomes of it. -/
theorem drivenOn_submit
    (writer : Writer (RecordedSink σ) (RecordedEngine ε))
    (scope : Scope)
    (offset : Nat)
    (input : Bytes) :
    DrivenOn writer (writer.submit scope offset input).2 := by
  apply submit_induction (motive := fun writer _ _ outcome => DrivenOn writer outcome.2)
  case finish =>
    intro writer offset
    exact ⟨[], rfl, .none⟩
  case advance =>
    intro writer next offset count input outcome nonempty advance later
    have effective := (sameSession_of_advance advance).1.effective
    obtain ⟨reply, answer⟩ := compressed_of_advance advance
    exact (drivenOn_of_compress answer).trans later effective
  case halt =>
    intro writer failed offset input error nonempty halt
    obtain ⟨reply, answer⟩ := compressed_of_halt halt
    exact drivenOn_of_compress answer

/-- A submission that succeeds drives the engine on and stays in the session. -/
theorem drivenOn_of_submit
    {writer next : Writer (RecordedSink σ) (RecordedEngine ε)}
    {scope : Scope}
    {input : Bytes}
    {count : Nat}
    (submits : writer.submit scope 0 input = (.ok count, next)) :
    DrivenOn writer next ∧ SameSession next writer ∧ next.failure = writer.failure := by
  have driven := drivenOn_submit writer scope 0 input
  have same := sameSession_submit writer scope 0 input
  rw [submits] at driven same
  exact ⟨driven, same⟩

/-- A write drives the engine on, and holds back its part of the buffer and nothing else. -/
theorem drivenOn_of_stage
    {writer next : Writer (RecordedSink σ) (RecordedEngine ε)}
    {scope : Scope}
    {bytes : Bytes}
    {count : Nat}
    (stages : writer.stage scope bytes = (.ok count, next)) :
    DrivenOn writer next ∧
      next.effective = writer.effective ∧
      next.phase = writer.phase ∧
      next.held =
        (writer.effective.inputBufferMode.part writer.effective.bounceBufferLength bytes).2 := by
  have comes := stages_stage writer scope bytes
  rw [stages] at comes
  cases comes with
  | @held flushed flushes holds =>
      obtain ⟨count, submits⟩ := submitted_of_flushHeld flushes
      obtain ⟨driven, same, -⟩ := drivenOn_of_submit submits
      rw [show writer.effective = flushed.effective from same.effective.symm,
        InputBufferMode.part_of_holdsAll holds]
      refine ⟨driven, rfl, same.phase, ?_⟩
      change flushed.held ++ bytes = bytes
      rw [same.held, List.nil_append]
  | @cut flushed _ front tail count flushes splits parts whole submitsFront =>
      obtain ⟨count, submits⟩ := submitted_of_flushHeld flushes
      obtain ⟨driven, same, -⟩ := drivenOn_of_submit submits
      obtain ⟨further, still, -⟩ := drivenOn_of_submit submitsFront
      rw [show writer.effective = flushed.effective from same.effective.symm,
        InputBufferMode.part_of_cut splits, parts]
      refine ⟨driven.trans further same.effective, still.effective,
        still.phase.trans same.phase, ?_⟩
      rw [still.held, same.held, List.nil_append]

/-- A writer that has taken some bytes in a session, in which its engine was driven in rounds. -/
structure Driven
    (taken : Bytes)
    (writer : Writer (RecordedSink σ) (RecordedEngine ε)) :
    Prop where
  conserves : writer.Conserves taken taken
  rounds : Rounds writer.effective.inputBufferMode writer.engine.calls
  idle : writer.phase = .idle → writer.engine.calls = []

omit [Sink σ] [Engine ε] in
/-- The engine of a fresh writer has not been driven yet. -/
theorem driven_observed
    {writer : Writer σ ε}
    (fresh : writer.IsFresh) :
    writer.observed.Driven [] :=
  ⟨conserves_observed fresh, .none, fun _ => rfl⟩

omit [Sink σ] in
/-- Getting ready starts the session if that has not been done. -/
theorem rounds_of_readied
    {writer active : Writer (RecordedSink σ) (RecordedEngine ε)}
    {taken : Bytes}
    (driven : writer.Driven taken)
    (readied : Readied writer active) :
    Rounds active.effective.inputBufferMode active.engine.calls := by
  cases readied with
  | active unfailed phase =>
      exact driven.rounds
  | started unfailed phase starts =>
      rw [RecordedEngine.calls_of_start starts.engine, driven.idle phase]
      exact .start _ _ .none

/-- A write drives the engine in rounds, and only its own part of the buffer is held then. -/
theorem driven_of_writeChunk
    {writer next : Writer (RecordedSink σ) (RecordedEngine ε)}
    {taken bytes : Bytes}
    {count : Nat}
    (driven : writer.Driven taken)
    (writes : writer.writeChunk bytes = (.ok count, next)) :
    next.Driven (taken ++ bytes) ∧
      next.phase = .active ∧
      next.held =
        (next.effective.inputBufferMode.part next.effective.bounceBufferLength bytes).2 := by
  obtain ⟨-, conserves⟩ := conserves_of_writeChunk_ok driven.conserves writes
  have comes := writes_writeChunk writer bytes
  rw [writes] at comes
  cases comes with
  | unready refused same =>
      cases same
  | staged readied stages =>
      obtain ⟨⟨more, calls, rounds⟩, effective, phase, held⟩ := drivenOn_of_stage stages.symm
      have before := rounds_of_readied driven readied
      have active := phase.trans readied.open.1
      rw [← effective] at rounds before held
      refine ⟨⟨conserves, ?_, ?_⟩, active, held⟩
      · rw [calls]
        exact rounds.append before
      · intro idle
        exact absurd (active.symm.trans idle) (by decide)

/-- Any number of writes drive the engine in rounds. -/
theorem driven_of_writeEach
    {writer : Writer (RecordedSink σ) (RecordedEngine ε)}
    {taken : Bytes}
    {buffers : List Bytes}
    (driven : writer.Driven taken)
    (writes : ∀ result ∈ (writer.writeEach buffers).1, ∃ count, result = .ok count) :
    (writer.writeEach buffers).2.Driven (taken ++ buffers.flatten) := by
  induction buffers generalizing writer taken with
  | nil =>
      rw [List.flatten_nil, List.append_nil]
      exact driven
  | cons bytes buffers ih =>
      rw [writeEach] at writes
      obtain ⟨count, first⟩ := writes _ List.mem_cons_self
      obtain ⟨after, -⟩ := driven_of_writeChunk driven (Prod.ext first rfl)
      rw [List.flatten_cons, ← List.append_assoc]
      exact ih after (fun result inside => writes result (List.mem_cons_of_mem _ inside))

/-- The last of some buffers is written behind the others. -/
theorem writeEach_append
    (writer : Writer (RecordedSink σ) (RecordedEngine ε))
    (buffers : List Bytes)
    (last : Bytes) :
    writer.writeEach (buffers ++ [last]) =
      ((writer.writeEach buffers).1 ++ [((writer.writeEach buffers).2.writeChunk last).1],
        ((writer.writeEach buffers).2.writeChunk last).2) := by
  induction buffers generalizing writer with
  | nil =>
      rfl
  | cons bytes buffers ih =>
      simp only [List.cons_append, writeEach, ih]

/-- Closing an active writer marks, drives the engine on with what is held, and closes it. -/
theorem calls_of_close
    {writer closed : Writer (RecordedSink σ) (RecordedEngine ε)}
    (phase : writer.phase = .active)
    (closes : writer.close = (.ok (), closed)) :
    closed.effective = writer.effective ∧
      closed.phase = .closed ∧
      closed.failure = none ∧
      ∃ more,
        closed.engine.calls =
            .close (.ok ()) :: more ++ .setLast true :: writer.engine.calls ∧
          Rounds writer.effective.inputBufferMode more ∧
          (writer.held = [] → more = []) := by
  obtain ⟨active, whole, scope, readied, completes, shape⟩ := completed_of_close closes
  have unfailed := readied.open.2.1
  cases readied with
  | started unfailed idle starts =>
      exact absurd (phase.symm.trans idle) (by decide)
  | active _ _ =>
      have alike :
          whole.engine = writer.engine ∧ whole.effective = writer.effective ∧
            whole.held = writer.held ∧ whole.failure = none := by
        obtain ⟨sink, trace, wroteOutput, rfl⟩ := eq_of_whole shape
        exact ⟨rfl, rfl, rfl, unfailed⟩
      obtain ⟨engine, effective, held, failure⟩ := alike
      obtain ⟨flushed, sink, last, trace, flushes, -, ends, rfl⟩ := flushed_of_complete completes
      obtain ⟨count, submits⟩ := submitted_of_flushHeld flushes
      obtain ⟨⟨more, calls, rounds⟩, same, kept⟩ := drivenOn_of_submit submits
      change flushed.engine.calls = more ++ .setLast true :: whole.engine.calls at calls
      refine ⟨same.effective.trans effective, same.phase, kept.trans failure, more, ?_, ?_, ?_⟩
      · rw [RecordedEngine.calls_of_close ends, calls, engine, List.cons_append]
      · rw [← effective]
        exact rounds
      · intro nothing
        have none : whole.markedLast.held = [] := held.trans nothing
        rw [none, submit_nil] at submits
        cases submits
        exact List.self_eq_append_left.mp calls

/-- What is consumed as a stream is closed is what was held back. -/
theorem consumed_of_close
    {writer closed : Writer (RecordedSink σ) (RecordedEngine ε)}
    {taken : Bytes}
    {closing : List EngineCall}
    (driven : writer.Driven taken)
    (phase : writer.phase = .active)
    (closes : writer.close = (.ok (), closed))
    (calls : closed.engine.calls = closing ++ .setLast true :: writer.engine.calls) :
    (EngineFigures.ofCalls closed.engine.calls).consumed = taken ∧
      (EngineFigures.ofCalls closing).consumed = writer.held := by
  obtain ⟨-, closedPhase, unfailed, -⟩ := calls_of_close phase closes
  obtain ⟨active, whole, scope, readied, -⟩ := completed_of_close closes
  have conserves := conserves_of_close driven.conserves
  rw [closes] at conserves
  obtain ⟨-, completed⟩ := conserves.completed unfailed closedPhase
  obtain ⟨-, running⟩ :=
    driven.conserves.running readied.open.2.2.1 readied.open.2.2.2
  have all : (EngineFigures.ofCalls closed.engine.calls).consumed = taken := completed.consumed
  refine ⟨all, ?_⟩
  rw [calls, EngineFigures.consumed_append, EngineFigures.ofCalls_setLast, ← running.content] at all
  exact List.append_cancel_left all

/-- After some writes the last buffer decides what is held back. -/
theorem held_of_writeEach
    {writer : Writer (RecordedSink σ) (RecordedEngine ε)}
    {taken last : Bytes}
    {buffers : List Bytes}
    (driven : writer.Driven taken)
    (writes :
      ∀ result ∈ (writer.writeEach (buffers ++ [last])).1, ∃ count, result = .ok count) :
    let written := (writer.writeEach (buffers ++ [last])).2
    written.phase = .active ∧
      written.held =
        (written.effective.inputBufferMode.part written.effective.bounceBufferLength last).2 := by
  rw [writeEach_append] at writes ⊢
  have before :=
    driven_of_writeEach driven (fun result inside => writes result (List.mem_append_left _ inside))
  obtain ⟨count, wrote⟩ := writes _ (List.mem_append_right _ List.mem_cons_self)
  exact (driven_of_writeChunk before (Prod.ext wrote rfl)).2

/--
Whatever the engine and the sink, let every write of some buffers succeed, and
closing as well, and let there be content.  If every chunk counts as the last,
every compress call has been marked; if none does, no compress call has.  In the
other modes the only mark comes as the stream is closed, and what is consumed
after it is what was held back.  So the final compress call has been marked,
unless the mode never marks or the last buffer is empty.
-/
theorem marks_of_close
    (writer : Writer σ ε)
    (fresh : writer.IsFresh)
    (buffers : List Bytes)
    (last : Bytes)
    (content : (buffers ++ [last]).flatten ≠ [])
    (writes :
      ∀ result ∈ (writer.observed.writeEach (buffers ++ [last])).1, ∃ count, result = .ok count)
    (closes : (writer.observed.writeEach (buffers ++ [last])).2.close.1 = .ok ()) :
    let written := (writer.observed.writeEach (buffers ++ [last])).2
    let closed := written.close.2
    let mode := closed.effective.inputBufferMode
    let marks := EngineCall.marks closed.engine.calls
    (mode = .last → ∀ mark ∈ marks, mark = true) ∧
      (mode = .noLast → ∀ mark ∈ marks, mark = false) ∧
      (mode = .reserve ∨ mode = .bounce →
        written.engine.calls.any EngineCall.isMark = false ∧
          ∃ closing,
            closed.engine.calls = closing ++ .setLast true :: written.engine.calls ∧
              closing.any EngineCall.isMark = false ∧
              (EngineFigures.ofCalls closing).consumed = written.held) ∧
      (0 < closed.effective.bounceBufferLength →
        (marks.head? = some true ↔ mode = .last ∨ mode ≠ .noLast ∧ last ≠ [])) := by
  intro written closed mode marks
  have taken : written.Driven ([] ++ (buffers ++ [last]).flatten) :=
    driven_of_writeEach (driven_observed fresh) writes
  rw [List.nil_append] at taken
  obtain ⟨phase, held⟩ := held_of_writeEach (driven_observed fresh) writes
  have ends : written.close = (.ok (), closed) := Prod.ext closes rfl
  obtain ⟨effective, -, -, more, calls, rounds, silent⟩ := calls_of_close phase ends
  obtain ⟨all, consumed⟩ := consumed_of_close taken phase ends calls
  change written.held = _ at held
  rw [← effective] at held rounds
  have before : Rounds mode written.engine.calls := by
    have rounds := taken.rounds
    rwa [← effective] at rounds
  have shape : marks =
      (EngineCall.marks more).map (fun _ => true) ++ EngineCall.marks written.engine.calls := by
    change EngineCall.marks closed.engine.calls = _
    rw [calls]
    exact EngineCall.marks_append_of_marked rfl (.close (.ok ()) :: more)
  refine ⟨?last, ?noLast, ?held, ?final⟩
  case last =>
    intro every mark member
    rw [every] at before
    rw [shape] at member
    rcases List.mem_append.mp member with now | earlier
    · obtain ⟨-, -, rfl⟩ := List.mem_map.mp now
      rfl
    · exact before.marked mark earlier
  case noLast =>
    intro never
    change closed.effective.inputBufferMode = _ at never
    rw [never] at held
    rw [shape, silent held]
    exact EngineCall.marks_of_unmarked (before.unmarked (by simp [mode, never]))
  case held =>
    intro either
    have other : mode ≠ .last := by
      rcases either with same | same
      · simp [same]
      · simp [same]
    exact ⟨before.unmarked other, _, calls, rounds.unmarked other, consumed⟩
  case final =>
    intro positive
    rw [EngineFigures.ofCalls_close] at consumed
    rw [calls, EngineFigures.consumed_append, EngineFigures.ofCalls_setLast,
      EngineFigures.ofCalls_close] at all
    have final := before.head_marks_eq_true_iff rounds
      (fun nothing => silent (consumed.symm.trans nothing)) (all ▸ content)
    have whole : marks = EngineCall.marks (more ++ .setLast true :: written.engine.calls) := by
      change EngineCall.marks closed.engine.calls = _
      rw [calls]
      rfl
    rw [whole, final, consumed]
    by_cases every : mode = .last
    · exact iff_of_true (.inl every) (.inl every)
    · rw [held, Ne, InputBufferMode.part_snd_eq_nil_iff every positive, not_or]

/--
The law holds of one byte and an empty buffer behind it, of which the byte is held
until the empty buffer comes: the final compress call has not been marked.
-/
theorem marks_of_close_trailing :
    let sink : ScriptedSink := {}
    let engine : RationedEngine ScriptedEngine := { engine := {}, ration := 9 }
    let staged : ParameterSet := { outputBufferLength := 64 }
    let writer : Writer ScriptedSink (RationedEngine ScriptedEngine) :=
      { sink := sink, engine := engine, staged := staged }
    let written := (writer.observed.writeEach [[0x78], []]).2
    let closed := written.close.2
    writer.IsFresh ∧
      [[0x78], []].flatten ≠ ([] : Bytes) ∧
      (writer.observed.writeEach [[0x78], []]).1 = [.ok 1, .ok 0] ∧
      written.close.1 = .ok () ∧
      closed.effective.inputBufferMode = .reserve ∧
      (EngineCall.marks closed.engine.calls).head? ≠ some true := by
  intro sink engine staged writer written closed
  let scope : Scope := ["qz_writer", "write"]
  let started := (writer.observed.startSession []).2
  let holding := ({ started with held := [0x78] } : Writer _ _).report ["write"] (.held 1)
  let called : Writer (RecordedSink _) (RecordedEngine _) :=
    { holding with held := [], engine := (EngineCalls.compress holding.engine [0x78] 64).2 }
  let settled :=
    (called.accept scope ⟨1, 1⟩ 0 [0x78]).forwarded scope [0x78] true
      (SinkCalls.write holding.sink [0x78]).2
  let last := settled.report scope (.held 0)
  have copies :
      (EngineCalls.compress ({ active := true, starts := 1 } : ScriptedEngine) [0x78] 64).1 =
        ⟨.ok ⟨1, 1⟩, [0x78]⟩ :=
    rfl
  have active : holding.engine.engine = ⟨{ active := true, starts := 1 }, 9⟩ :=
    rfl
  have answer : EngineCalls.compress holding.engine [0x78] 64 =
      (⟨.ok ⟨1, 1⟩, [0x78]⟩, called.engine) := by
    refine Prod.ext ?_ rfl
    change (EngineCalls.compress holding.engine.engine [0x78] 64).1 = _
    rw [active]
    exact copies
  have settles : called.settle scope ⟨1, 1⟩ [0x78] 0 [0x78] = (.ok (), settled) :=
    forward_ok (Sink.writeAll_of_write (List.cons_ne_nil _ _) rfl)
  have flushes : holding.flushHeld scope = (.ok (), settled) :=
    flushHeld_of_submit
      (submit_of_step (List.cons_ne_nil _ _) answer (show 1 ≤ 64 by decide) settles)
  have first : writer.observed.writeChunk [0x78] = (.ok 1, holding) :=
    writeChunk_of_holdsAll rfl (flushHeld_nil rfl _) rfl
  have second : holding.writeChunk [] = (.ok 0, last) :=
    writeChunk_of_holdsAll rfl flushes rfl
  have all : writer.observed.writeEach [[0x78], []] = ([.ok 1, .ok 0], last) := by
    simp only [writeEach, first, second]
  have closes : last.close =
      ({ last.markedLast with sink := (SinkCalls.flush last.sink).2 } : Writer _ _).closeEngine
        ["qz_writer", "close"] := by
    have completes : last.close = last.complete ["qz_writer", "close"] :=
      rfl
    rw [completes]
    unfold complete
    dsimp only
    rw [flushHeld_nil rfl]
    rfl
  have ends : written.close.1 = .ok () := by
    change (writer.observed.writeEach [[0x78], []]).2.close.1 = _
    rw [all, closes]
    rfl
  have effective : closed.effective = last.effective := by
    change (writer.observed.writeEach [[0x78], []]).2.close.2.effective = _
    rw [all, closes]
    rfl
  have fresh : writer.IsFresh := isFresh_of_built sink engine {} staged
  have content : ([[0x78]] ++ [[]] : List Bytes).flatten ≠ [] := by
    decide
  have succeeds :
      ∀ result ∈ (writer.observed.writeEach ([[0x78]] ++ [[]])).1, ∃ count, result = .ok count := by
    change ∀ result ∈ (writer.observed.writeEach [[0x78], []]).1, _
    rw [all]
    simp
  have law := marks_of_close writer fresh [[0x78]] [] content succeeds ends
  have mode : closed.effective.inputBufferMode = .reserve :=
    congrArg ParameterSet.inputBufferMode effective
  have bounce : closed.effective.bounceBufferLength = minBounceBufferLength :=
    congrArg ParameterSet.bounceBufferLength effective
  refine ⟨fresh, content, congrArg Prod.fst all, ends, mode, ?_⟩
  intro marked
  have positive : 0 < closed.effective.bounceBufferLength := by
    rw [bounce]
    decide
  rcases (law.2.2.2 positive).mp marked with every | ⟨-, something⟩
  · exact absurd (mode.symm.trans every) (by decide)
  · exact something rfl

end Writer

end MemberStream
