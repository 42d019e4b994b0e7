import MemberStream.Proofs.Parameter.Staged
import MemberStream.Proofs.Writer.Packing
import MemberStream.Proofs.Writer.Phases

namespace MemberStream

/-!
# Packing whole streams

The writes of a session and its close pack the pieces of the stream, one behind
the other.  As long as no piece is rejected, every write takes its whole buffer
and closing succeeds.  A stream without content is packed as its placeholder.
-/

variable {encoders : Encoders}

namespace Writer

variable {σ : Type}

/-- A writer that has packed some content and holds back some more in a phase of its session. -/
structure Holding
    [Sink σ]
    (parameters : ParameterSet)
    (before content stream held : Bytes)
    (phase : Phase)
    (writer : Writer (RecordedSink σ) (MemberEngine encoders)) :
    Prop where
  stands : writer.Stands parameters before content stream
  effective : writer.effective = parameters
  held : writer.held = held
  phase : writer.phase = phase

/-- A writer is prepared if it holds some bytes back as soon as a call makes it ready. -/
def Prepared
    [Sink σ]
    (parameters : ParameterSet)
    (before content stream held : Bytes)
    (writer : Writer (RecordedSink σ) (MemberEngine encoders)) :
    Prop :=
  ∀ scope, ∃ active,
    writer.ready scope = (.ok (), active) ∧
      active.Holding parameters before content stream held .active

/-- Tearing a session down leaves the sink alone. -/
theorem teardown_sink
    {ε : Type}
    [EngineCalls ε]
    (writer : Writer σ ε) :
    writer.teardown.sink = writer.sink := by
  unfold teardown
  split
  · rfl
  · rfl

variable [Sink σ]

/-- A submission packs its input and leaves alone what is held back. -/
theorem holding_of_submit
    {parameters : ParameterSet}
    {writer : Writer (RecordedSink σ) (MemberEngine encoders)}
    {before content stream held : Bytes}
    {phase : Phase}
    (holding : writer.Holding parameters before content stream held phase)
    (scope : Scope)
    (input : Bytes) :
    Yields parameters (before ++ stream) (pieces parameters.chunkLength input) input.length
      (fun more next =>
        next.Holding parameters before (content ++ input) (stream ++ more) held phase)
      (writer.submit scope 0 input) := by
  have yields := yields_of_submit holding.stands scope 0 input
  have same := (sameSession_submit writer scope 0 input).1
  rw [Nat.zero_add] at yields
  generalize writer.submit scope 0 input = outcome at yields same ⊢
  cases yields with
  | packed packs stands =>
      exact .packed packs
        ⟨stands, same.effective.trans holding.effective, same.held.trans holding.held,
          same.phase.trans holding.phase⟩
  | stopped stops =>
      exact .stopped stops

/-- What a writer holds back, its phase, its trace and the mark of its engine may change. -/
theorem Holding.moved
    {parameters : ParameterSet}
    {writer : Writer (RecordedSink σ) (MemberEngine encoders)}
    {before content stream held : Bytes}
    {phase : Phase}
    (holding : writer.Holding parameters before content stream held phase)
    (kept : Bytes)
    (now : Phase)
    (trace : Trace)
    (last : Bool) :
    ({ writer with
        held := kept, phase := now, trace := trace,
        engine := EngineCalls.setLast writer.engine last } :
      Writer (RecordedSink σ) (MemberEngine encoders)).Holding parameters before content stream
        kept now := by
  obtain ⟨⟨compresses, parked, accounts⟩, effective, -, -⟩ := holding
  obtain ⟨failure, session, allowed, limit, increment, bounded, accepts⟩ := compresses
  obtain ⟨received, crc, bytesIn, bytesOut, wroteOutput, blank⟩ := accounts
  exact ⟨⟨⟨failure, session, allowed, limit, increment, bounded, accepts⟩, parked,
    ⟨received, crc, bytesIn, bytesOut, wroteOutput, blank⟩⟩, effective, rfl, rfl⟩

theorem Holding.replace
    {parameters : ParameterSet}
    {writer : Writer (RecordedSink σ) (MemberEngine encoders)}
    {before content stream held : Bytes}
    {phase : Phase}
    (holding : writer.Holding parameters before content stream held phase)
    (kept : Bytes) :
    ({ writer with held := kept } : Writer (RecordedSink σ) (MemberEngine encoders)).Holding
      parameters before content stream kept phase := by
  rw [← holding.phase]
  exact holding.moved kept writer.phase writer.trace writer.engine.last

theorem Holding.reported
    {parameters : ParameterSet}
    {writer : Writer (RecordedSink σ) (MemberEngine encoders)}
    {before content stream held : Bytes}
    {phase : Phase}
    (holding : writer.Holding parameters before content stream held phase)
    (scope : Scope)
    (event : Event) :
    (writer.report scope event).Holding parameters before content stream held phase := by
  rw [← holding.phase, ← holding.held]
  exact holding.moved writer.held writer.phase (writer.report scope event).trace
    writer.engine.last

/-- What is held back is packed when it is flushed. -/
theorem holding_of_flushHeld
    {parameters : ParameterSet}
    {writer : Writer (RecordedSink σ) (MemberEngine encoders)}
    {before content stream held : Bytes}
    {phase : Phase}
    (holding : writer.Holding parameters before content stream held phase)
    (scope : Scope) :
    Yields parameters (before ++ stream) (pieces parameters.chunkLength held) ()
      (fun more next =>
        next.Holding parameters before (content ++ held) (stream ++ more) [] phase)
      (writer.flushHeld scope) := by
  have yields := holding_of_submit (holding.replace []) scope held
  rw [flushHeld_eq, holding.held]
  generalize ({ writer with held := [] } : Writer (RecordedSink σ) (MemberEngine encoders)).submit
    scope 0 held = outcome at yields ⊢
  cases yields with
  | packed packs after =>
      exact .packed packs after
  | stopped stops =>
      exact .stopped stops

/-- A write packs what was held back and its front, and holds back the rest of it. -/
theorem holding_of_stage
    {parameters : ParameterSet}
    {writer : Writer (RecordedSink σ) (MemberEngine encoders)}
    {before content stream held bytes front kept : Bytes}
    (holding : writer.Holding parameters before content stream held .active)
    (parts :
      parameters.inputBufferMode.part parameters.bounceBufferLength bytes = (front, kept))
    (scope : Scope) :
    Yields parameters (before ++ stream)
      (pieces parameters.chunkLength held ++ pieces parameters.chunkLength front) bytes.length
      (fun more next =>
        next.Holding parameters before (content ++ held ++ front) (stream ++ more) kept .active)
      (writer.stage scope bytes) := by
  have flushed := holding_of_flushHeld holding scope
  have comes := stages_stage writer scope bytes
  generalize writer.stage scope bytes = outcome at comes ⊢
  cases comes with
  | unflushed flushes =>
      rw [flushes] at flushed
      cases flushed with
      | stopped stops =>
          exact .stopped (stops.append _)
  | held flushes holds =>
      rw [flushes] at flushed
      cases flushed with
      | packed packs after =>
          rw [← after.effective, InputBufferMode.part_of_holdsAll holds] at parts
          cases parts
          rw [pieces_nil, after.held]
          refine Yields.behind packs (.packed parameters.packsWithin_nil ?_)
          rw [List.append_nil, List.append_nil]
          exact (after.replace ([] ++ bytes)).reported scope (.held bytes.length)
  | @cut next submitted first tail count flushes splits cuts whole submits =>
      rw [flushes] at flushed
      cases flushed with
      | packed packs after =>
          rw [← after.effective, InputBufferMode.part_of_cut splits, cuts] at parts
          cases parts
          refine Yields.behind packs ?_
          have yields := holding_of_submit (after.replace (next.held ++ kept)) scope front
          rw [submits, ← List.append_assoc, after.held, List.nil_append] at yields
          cases yields with
          | packed packsFront last =>
              rw [← List.length_append, whole]
              rw [List.append_assoc stream] at last
              exact .packed packsFront last
  | @halted next failed first tail error flushes splits cuts whole submits =>
      rw [flushes] at flushed
      cases flushed with
      | packed packs after =>
          rw [← after.effective, InputBufferMode.part_of_cut splits, cuts] at parts
          cases parts
          refine Yields.behind packs ?_
          have yields := holding_of_submit (after.replace (next.held ++ kept)) scope front
          rw [submits, ← List.append_assoc] at yields
          cases yields with
          | stopped stops =>
              exact .stopped stops

/-- A write on a prepared writer packs what was held back and its front. -/
theorem prepared_of_writeChunk
    {parameters : ParameterSet}
    {writer : Writer (RecordedSink σ) (MemberEngine encoders)}
    {before content stream held bytes front kept : Bytes}
    (prepared : writer.Prepared parameters before content stream held)
    (parts :
      parameters.inputBufferMode.part parameters.bounceBufferLength bytes = (front, kept)) :
    Yields parameters (before ++ stream)
      (pieces parameters.chunkLength held ++ pieces parameters.chunkLength front) bytes.length
      (fun more next =>
        next.Prepared parameters before (content ++ held ++ front) (stream ++ more) kept)
      (writer.writeChunk bytes) := by
  obtain ⟨active, readies, holding⟩ := prepared writer.scope
  have stages := holding_of_stage holding parts (writer.scope ++ ["write"])
  unfold writeChunk
  dsimp only
  rw [readies]
  dsimp only
  generalize active.stage (writer.scope ++ ["write"]) bytes = staged at stages
  cases stages with
  | stopped stops =>
      exact .stopped stops
  | @packed more staged packs after =>
      refine .packed packs ?_
      intro scope
      exact ⟨staged, ready_of_active after.stands.compresses.failure after.phase scope, after⟩

/-- Write buffers, one after the other. -/
def writeEach
    {ε : Type}
    [Engine ε]
    (writer : Writer σ ε) :
    List Bytes →
    List (Except StreamError Nat) × Writer σ ε
  | [] =>
      ([], writer)
  | bytes :: buffers =>
      let (result, next) := writer.writeChunk bytes
      let (results, last) := next.writeEach buffers
      (result :: results, last)

/-- When everything that was held back has been submitted, closing succeeds. -/
theorem complete_of_flushHeld
    {parameters : ParameterSet}
    {writer flushed : Writer (RecordedSink σ) (MemberEngine encoders)}
    {scope : Scope}
    (flushes : writer.markedLast.flushHeld scope = (.ok (), flushed))
    (accepts : Sink.Accepts flushed.sink)
    (session : flushed.engine.session = some parameters) :
    ∃ last,
      writer.complete scope = (.ok (), last) ∧
        last.sink.received = flushed.sink.received ∧
        last.crc = flushed.crc ∧
        last.counters = flushed.counters := by
  obtain ⟨done, -⟩ := Sink.accepts_of_flush accepts
  have closes : EngineCalls.close flushed.engine = (.ok (), ({} : MemberEngine encoders)) := by
    change flushed.engine.closeSession = _
    rw [MemberEngine.closeSession, MemberEngine.isActive, session]
    rfl
  rw [complete_eq, flushes]
  dsimp only
  rw [done]
  dsimp only
  unfold closeEngine
  dsimp only
  rw [closes]
  exact ⟨_, rfl, RecordedSink.received_flush flushed.sink, rfl, rfl⟩

/-- What a stream has come to that has been closed. -/
structure Ended
    (output content stream : Bytes)
    (writer : Writer (RecordedSink σ) (MemberEngine encoders)) :
    Prop where
  received : writer.sink.received = output
  crc : writer.crc = Crc32.empty.update content
  bytesIn : writer.counters.bytesIn = UInt64.ofNat content.length
  bytesOut : writer.counters.bytesOut = UInt64.ofNat stream.length

/-- A stream with content ends with the members of what is held back. -/
theorem ended_of_holding
    {parameters : ParameterSet}
    {writer : Writer (RecordedSink σ) (MemberEngine encoders)}
    {before content stream held : Bytes}
    {phase : Phase}
    (holding : writer.Holding parameters before content stream held phase)
    (scope : Scope) :
    Yields parameters (before ++ stream) (pieces parameters.chunkLength held) ()
      (fun more last => last.Ended (before ++ (stream ++ more)) (content ++ held) (stream ++ more))
      (writer.complete scope) := by
  have marked : writer.markedLast.Holding parameters before content stream held .closed := by
    rw [← holding.held]
    exact holding.moved writer.held .closed writer.trace true
  have yields := holding_of_flushHeld marked scope
  cases flushes : writer.markedLast.flushHeld scope with
  | mk result flushed =>
      rw [flushes] at yields
      cases yields with
      | packed packs after =>
          have compresses := after.stands.compresses
          have accounts := after.stands.accounts
          obtain ⟨last, completes, received, crc, counters⟩ :=
            complete_of_flushHeld flushes compresses.accepts compresses.session
          rw [completes]
          refine .packed packs ⟨?_, ?_, ?_, ?_⟩
          · rw [received, accounts.received]
          · rw [crc, accounts.crc]
          · rw [counters, accounts.bytesIn]
          · rw [counters, accounts.bytesOut]
      | stopped stops =>
          rw [complete_eq, flushes]
          refine .stopped (stops.moved ?_)
          rw [teardown_sink]

/-- The placeholder of a stream goes to a sink that accepts everything. -/
theorem writePlaceholder_of_holding
    {parameters : ParameterSet}
    {writer : Writer (RecordedSink σ) (MemberEngine encoders)}
    {before content stream held : Bytes}
    {phase : Phase}
    (holding : writer.Holding parameters before content stream held phase)
    (scope : Scope) :
    ∃ sink trace,
      writer.writePlaceholder scope =
          (.ok (), { writer with sink := sink, trace := trace, wroteOutput := true }) ∧
        sink.received = writer.sink.received ++ parameters.placeholder ∧
        Sink.Accepts sink := by
  obtain ⟨done, accepts⟩ :=
    Sink.accepts_of_writeAll holding.stands.compresses.accepts writer.effective.placeholder
  cases written : Sink.writeAll writer.sink writer.effective.placeholder with
  | mk result sink =>
      rw [written] at done accepts
      dsimp only at done accepts
      subst done
      have arrived := RecordedSink.received_of_writeAll_ok written
      rw [holding.effective] at arrived
      unfold writePlaceholder
      dsimp only
      rw [written]
      exact ⟨sink, _, rfl, arrived, accepts⟩

/-- A stream without content ends with its placeholder. -/
theorem ended_of_blank
    {parameters : ParameterSet}
    {writer : Writer (RecordedSink σ) (MemberEngine encoders)}
    {before stream : Bytes}
    {phase : Phase}
    (holding : writer.Holding parameters before [] stream [] phase)
    (scope : Scope) :
    ∃ placed last,
      writer.writePlaceholder scope = (.ok (), placed) ∧
        placed.complete scope = (.ok (), last) ∧
        last.Ended (before ++ parameters.placeholder) [] [] := by
  obtain ⟨received, crc, bytesIn, bytesOut, -, blank⟩ := holding.stands.accounts
  obtain ⟨sink, trace, places, arrived, accepts⟩ := writePlaceholder_of_holding holding scope
  let placed : Writer (RecordedSink σ) (MemberEngine encoders) :=
    { writer with sink := sink, trace := trace, wroteOutput := true }
  have nothing : placed.markedLast.held = [] := holding.held
  obtain ⟨last, completes, same, sameCrc, sameCounters⟩ :=
    complete_of_flushHeld (flushHeld_nil nothing scope) accepts holding.stands.compresses.session
  refine ⟨placed, last, places, completes, ?_, ?_, ?_, ?_⟩
  · rw [same]
    change sink.received = _
    rw [arrived, received, blank rfl, List.append_nil]
  · rw [sameCrc]
    exact crc
  · rw [sameCounters]
    exact bytesIn
  · rw [sameCounters, ← blank rfl]
    exact bytesOut

/-- A stream is blank if it has neither content nor anything held back. -/
theorem isBlank_of_holding
    {parameters : ParameterSet}
    {writer : Writer (RecordedSink σ) (MemberEngine encoders)}
    {before content stream held : Bytes}
    {phase : Phase}
    (holding : writer.Holding parameters before content stream held phase) :
    writer.isBlank = (content ++ held).isEmpty := by
  obtain ⟨-, -, bytesIn, -, wroteOutput, -⟩ := holding.stands.accounts
  unfold isBlank
  rw [wroteOutput, bytesIn, holding.held]
  cases content with
  | nil =>
      cases held with
      | nil =>
          rfl
      | cons byte held =>
          rfl
  | cons byte content =>
      rfl

/-- What a stream without content puts out is its placeholder, and otherwise its members. -/
theorem close_of_prepared
    {parameters : ParameterSet}
    {writer : Writer (RecordedSink σ) (MemberEngine encoders)}
    {before content stream held : Bytes}
    (prepared : writer.Prepared parameters before content stream held) :
    Yields parameters (before ++ stream) (pieces parameters.chunkLength held) ()
      (fun more last =>
        last.Ended
          (before ++ (if content ++ held = [] then parameters.placeholder else stream ++ more))
          (content ++ held) (stream ++ more))
      writer.close := by
  obtain ⟨active, readies, holding⟩ := prepared writer.scope
  rw [close_of_ready readies, isBlank_of_holding holding]
  by_cases nothing : content ++ held = []
  · obtain ⟨rfl, rfl⟩ := List.append_eq_nil_iff.mp nothing
    obtain ⟨placed, last, places, completes, ended⟩ :=
      ended_of_blank holding (writer.scope ++ ["close"])
    rw [List.isEmpty_iff.mpr nothing, if_pos rfl, places]
    dsimp only
    rw [completes, pieces_nil]
    refine .packed parameters.packsWithin_nil ?_
    rw [if_pos nothing, holding.stands.accounts.blank rfl]
    exact ended
  · rw [List.isEmpty_eq_false_iff.mpr nothing, if_neg Bool.false_ne_true]
    have completes := ended_of_holding holding (writer.scope ++ ["close"])
    simpa only [if_neg nothing] using completes

/-- Write buffers up to the first failure, and close the stream if there is none. -/
def writeThenClose
    {ε : Type}
    [Engine ε]
    (writer : Writer σ ε) :
    List Bytes →
    Except StreamError (List Nat) × Writer σ ε
  | [] =>
      match writer.close with
      | (.ok (), closed) =>
          (.ok [], closed)
      | (.error error, failed) =>
          (.error error, failed)
  | bytes :: buffers =>
      match writer.writeChunk bytes with
      | (.error error, failed) =>
          (.error error, failed)
      | (.ok count, next) =>
          match next.writeThenClose buffers with
          | (.ok counts, closed) =>
              (.ok (count :: counts), closed)
          | (.error error, failed) =>
              (.error error, failed)

/-- When nothing fails, every write has succeeded, and so has closing. -/
theorem writeEach_of_writeThenClose
    {ε : Type}
    [Engine ε]
    {writer closed : Writer σ ε}
    {buffers : List Bytes}
    {counts : List Nat}
    (succeeds : writer.writeThenClose buffers = (.ok counts, closed)) :
    (writer.writeEach buffers).1 = counts.map .ok ∧
      (writer.writeEach buffers).2.close = (.ok (), closed) := by
  induction buffers generalizing writer counts with
  | nil =>
      rw [writeThenClose] at succeeds
      split at succeeds
      · rename_i closes
        cases succeeds
        exact ⟨rfl, closes⟩
      · cases succeeds
  | cons bytes buffers ih =>
      rw [writeThenClose] at succeeds
      split at succeeds
      · cases succeeds
      · rename_i count next writes
        split at succeeds
        · rename_i others _ later
          cases succeeds
          obtain ⟨results, closes⟩ := ih later
          rw [writeEach, writes]
          dsimp only
          exact ⟨by rw [results, List.map_cons], closes⟩
        · cases succeeds

/-- When every write succeeds, and so does closing, nothing fails. -/
theorem writeThenClose_of_writeEach
    {ε : Type}
    [Engine ε]
    {writer : Writer σ ε}
    {buffers : List Bytes}
    (writes : ∀ result ∈ (writer.writeEach buffers).1, ∃ count, result = .ok count)
    (closes : (writer.writeEach buffers).2.close.1 = .ok ()) :
    ∃ counts,
      writer.writeThenClose buffers = (.ok counts, (writer.writeEach buffers).2.close.2) := by
  induction buffers generalizing writer with
  | nil =>
      refine ⟨[], ?_⟩
      have closed : writer.close = (.ok (), writer.close.2) :=
        Prod.ext closes rfl
      rw [writeThenClose, closed]
      rfl
  | cons bytes buffers ih =>
      rw [writeEach] at writes closes ⊢
      obtain ⟨count, first⟩ := writes _ List.mem_cons_self
      obtain ⟨counts, later⟩ :=
        ih (fun result inside => writes result (List.mem_cons_of_mem _ inside)) closes
      have wrote : writer.writeChunk bytes = (.ok count, (writer.writeChunk bytes).2) :=
        Prod.ext first rfl
      refine ⟨count :: counts, ?_⟩
      rw [writeThenClose, wrote]
      dsimp only
      rw [later]

/-- The writes of a session take their whole buffers and pack its pieces, and closing ends it. -/
theorem ended_of_prepared
    {parameters : ParameterSet}
    {writer : Writer (RecordedSink σ) (MemberEngine encoders)}
    {before content stream held : Bytes}
    (prepared : writer.Prepared parameters before content stream held)
    (buffers : List Bytes) :
    Yields parameters (before ++ stream) (parameters.segments held buffers)
      (buffers.map List.length)
      (fun more last =>
        last.Ended
          (before ++
            (if content ++ held ++ buffers.flatten = [] then parameters.placeholder
              else stream ++ more))
          (content ++ held ++ buffers.flatten) (stream ++ more))
      (writer.writeThenClose buffers) := by
  induction buffers generalizing writer content stream held with
  | nil =>
      have closes := close_of_prepared prepared
      unfold writeThenClose
      rw [ParameterSet.segments, List.flatten_nil, List.append_nil]
      generalize writer.close = closed at closes
      cases closes with
      | packed packs ended =>
          exact .packed packs ended
      | stopped stops =>
          exact .stopped stops
  | cons bytes buffers ih =>
      have whole := parameters.inputBufferMode.append_part parameters.bounceBufferLength bytes
      cases parts : parameters.inputBufferMode.part parameters.bounceBufferLength bytes with
      | mk front kept =>
          rw [parts] at whole
          have writes := prepared_of_writeChunk prepared parts
          rw [ParameterSet.segments, parts, writeThenClose]
          dsimp only
          generalize writer.writeChunk bytes = written at writes
          cases writes with
          | stopped stops =>
              exact .stopped (stops.append _)
          | @packed now next packs after =>
              dsimp only
              have later := ih after
              have all : content ++ held ++ front ++ kept ++ buffers.flatten =
                  content ++ held ++ (bytes :: buffers).flatten := by
                rw [List.flatten_cons, ← whole]
                simp only [List.append_assoc]
              rw [all] at later
              generalize next.writeThenClose buffers = closed at later
              refine Yields.behind packs ?_
              rw [← List.append_assoc] at later
              cases later with
              | stopped stops =>
                  exact .stopped stops
              | packed packsLater ended =>
                  rw [List.append_assoc stream] at ended
                  exact .packed packsLater ended

end Writer

end MemberStream
