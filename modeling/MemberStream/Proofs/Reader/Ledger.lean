import MemberStream.Proofs.Engine.Record
import MemberStream.Proofs.Reader.Gather

namespace MemberStream

/-!
# The ledger of a reader

Bytes pass from the source through the engine into the window, and from the
window to the caller.  The ledger relates the state of a reader, and the bytes
delivered so far, to the record of engine calls: every call was offered what was
left of the source, and what was delivered and what the window holds make up
what the engine put out.  Each round of a read keeps the ledger.
-/

namespace Reader

variable {σ ε : Type}

/-- The entries that hold in every state, failed or not. -/
structure Ledger
    (reader : Reader (RecordedSource σ) (RecordedEngine ε))
    (delivered : Bytes) :
    Prop where
  /-- Every call was offered what the calls before it had left of the source. -/
  offered :
    ∀ input capacity reply past,
      .decompress input capacity reply :: past <:+ reader.engine.calls →
        input = reader.source.upstream.drop (EngineFigures.ofCalls past).consumedCount
  content : delivered ++ reader.window = reader.engine.figures.produced
  crc : reader.crc = Crc32.empty.update delivered
  bytesOut : reader.counters.bytesOut = UInt64.ofNat reader.engine.figures.produced.length
  asked : reader.Asked

/-- A stream before its first engine call. -/
structure Unstarted
    (reader : Reader (RecordedSource σ) (RecordedEngine ε)) :
    Prop extends Untouched reader where
  quiet : ∀ call, call ∈ reader.engine.calls → call.isData = false

/-- A stream whose engine has consumed the source up to the offset. -/
structure Walking
    (reader : Reader (RecordedSource σ) (RecordedEngine ε)) :
    Prop extends Loaded reader where
  inputOffset : reader.inputOffset = reader.engine.figures.consumedCount

/-- A stream that can go on. -/
structure Sound
    (reader : Reader (RecordedSource σ) (RecordedEngine ε))
    (delivered : Bytes) :
    Prop extends Ledger reader delivered where
  input : reader.Unstarted ∨ reader.Walking

theorem figures_of_decompress
    [EngineCalls ε]
    {recorded engine : RecordedEngine ε}
    {input : Bytes}
    {capacity : Nat}
    {reply : Reply}
    (answer : EngineCalls.decompress recorded input capacity = (reply, engine)) :
    engine.figures = recorded.figures.add (.decompress input capacity reply) := by
  unfold RecordedEngine.figures
  rw [RecordedEngine.calls_of_decompress answer]
  rfl

/-- A ledger takes a call that was offered what is left of the source. -/
theorem offered_of_decompress
    [EngineCalls ε]
    {reader : Reader (RecordedSource σ) (RecordedEngine ε)}
    {engine : RecordedEngine ε}
    {delivered : Bytes}
    {capacity : Nat}
    {reply : Reply}
    (ledger : reader.Ledger delivered)
    (walking : reader.Walking)
    (answer : EngineCalls.decompress reader.engine reader.unread capacity = (reply, engine)) :
    ∀ input capacity reply past,
      .decompress input capacity reply :: past <:+ engine.calls →
        input = reader.source.upstream.drop (EngineFigures.ofCalls past).consumedCount := by
  intro input other given past earlier
  rw [RecordedEngine.calls_of_decompress answer] at earlier
  rcases List.suffix_cons_iff.mp earlier with now | before
  · cases now
    rw [walking.unread, walking.inputOffset]
    rfl
  · exact ledger.offered input other given past before

/-- A call that put nothing out leaves the output of a ledger alone. -/
theorem ledger_of_silent
    [EngineCalls ε]
    {reader next : Reader (RecordedSource σ) (RecordedEngine ε)}
    {engine : RecordedEngine ε}
    {delivered : Bytes}
    {capacity : Nat}
    {reply : Reply}
    (ledger : reader.Ledger delivered)
    (walking : reader.Walking)
    (answer : EngineCalls.decompress reader.engine reader.unread capacity = (reply, engine))
    (silent : EngineCall.isStep reader.unread.length capacity reply = false)
    (engines : next.engine = engine)
    (source : next.source = reader.source)
    (window : next.window = reader.window)
    (crc : next.crc = reader.crc)
    (counters : next.counters = reader.counters) :
    next.Ledger delivered := by
  have produced : engine.figures.produced = reader.engine.figures.produced := by
    rw [figures_of_decompress answer]
    simp [EngineFigures.add, EngineCall.produced, silent]
  refine ⟨?_, ?_, ?_, ?_, ?_⟩
  · rw [engines, source]
    exact offered_of_decompress ledger walking answer
  · rw [engines, produced, window, ledger.content]
  · rw [crc, ledger.crc]
  · rw [engines, produced, counters, ledger.bytesOut]
  · unfold Asked
    rw [source]
    exact ledger.asked

/-- A call that is no data call leaves the ledger alone. -/
theorem ledger_of_quiet
    {reader next : Reader (RecordedSource σ) (RecordedEngine ε)}
    {delivered : Bytes}
    {call : EngineCall}
    (ledger : reader.Ledger delivered)
    (calls : next.engine.calls = call :: reader.engine.calls)
    (quiet : call.isData = false)
    (source : next.source = reader.source)
    (window : next.window = reader.window)
    (crc : next.crc = reader.crc)
    (counters : next.counters = reader.counters) :
    next.Ledger delivered := by
  have figures : next.engine.figures = reader.engine.figures := by
    rw [RecordedEngine.figures, calls]
    exact EngineFigures.add_of_not_isData _ quiet
  refine ⟨?_, ?_, ?_, ?_, ?_⟩
  · intro input capacity reply past earlier
    rw [calls] at earlier
    rw [source]
    rcases List.suffix_cons_iff.mp earlier with now | before
    · cases now
      cases quiet
    · exact ledger.offered input capacity reply past before
  · rw [figures, window, ledger.content]
  · rw [crc, ledger.crc]
  · rw [figures, counters, ledger.bytesOut]
  · unfold Asked
    rw [source]
    exact ledger.asked

/-- A step puts its output into an empty window. -/
theorem ledger_of_step
    [EngineCalls ε]
    {reader : Reader (RecordedSource σ) (RecordedEngine ε)}
    {engine : RecordedEngine ε}
    {delivered filled : Bytes}
    {step : Step}
    (scope : Scope)
    (ledger : reader.Ledger delivered)
    (walking : reader.Walking)
    (empty : reader.window = [])
    (answer :
      EngineCalls.decompress reader.engine reader.unread reader.outputLength =
        (⟨.ok step, filled⟩, engine))
    (success :
      EngineCall.isStep reader.unread.length reader.outputLength ⟨.ok step, filled⟩ = true) :
    (({ reader with engine := engine } : Reader _ _).accept scope step ⟨.ok step, filled⟩).Ledger
      delivered := by
  have produced :
      engine.figures.produced =
        reader.engine.figures.produced ++ Reply.front ⟨.ok step, filled⟩ step.produced := by
    rw [figures_of_decompress answer]
    simp [EngineFigures.add, EngineCall.produced, EngineCall.counts, success]
  have offered := offered_of_decompress ledger walking answer
  refine ⟨offered, ?_, ledger.crc, ?_, ledger.asked⟩
  · change delivered ++ Reply.front ⟨.ok step, filled⟩ step.produced = engine.figures.produced
    rw [produced, ← ledger.content, empty, List.append_nil]
  · change reader.counters.bytesOut + _ = UInt64.ofNat engine.figures.produced.length
    rw [produced, ledger.bytesOut, List.length_append, Reply.length_front, UInt64.ofNat_add]

/-- A step walks on by as many bytes as it consumed. -/
theorem walking_of_step
    [EngineCalls ε]
    {reader : Reader (RecordedSource σ) (RecordedEngine ε)}
    {engine : RecordedEngine ε}
    {filled : Bytes}
    {step : Step}
    (scope : Scope)
    (walking : reader.Walking)
    (answer :
      EngineCalls.decompress reader.engine reader.unread reader.outputLength =
        (⟨.ok step, filled⟩, engine)) :
    (({ reader with engine := engine } : Reader _ _).accept scope step
      ⟨.ok step, filled⟩).Walking := by
  refine ⟨⟨?_, walking.inputRead, walking.sourceTotal, walking.sourceDone⟩, ?_⟩
  · change reader.unread.drop step.consumed =
      reader.source.upstream.drop (reader.inputOffset + step.consumed)
    rw [walking.unread, List.drop_drop]
  · change reader.inputOffset + step.consumed = engine.figures.consumedCount
    rw [figures_of_decompress answer, walking.inputOffset]
    rfl

/-- What a round keeps, if `delivered` had been delivered before it. -/
def Round.Keeps
    (reader : Reader (RecordedSource σ) (RecordedEngine ε))
    (delivered : Bytes) :
    Round (RecordedSource σ) (RecordedEngine ε) →
    Prop
  | .took bytes next =>
      next.Sound (delivered ++ bytes) ∧
        next.phase = reader.phase ∧ next.failure = reader.failure
  | .moved next | .ended next =>
      next.Sound delivered ∧ next.phase = reader.phase ∧ next.failure = reader.failure
  | .failed _ last =>
      last.Ledger delivered ∧ last.window = [] ∧ last.phase = reader.phase

/-- An engine call from an empty window keeps the ledger. -/
theorem keeps_advance
    [EngineCalls ε]
    {reader : Reader (RecordedSource σ) (RecordedEngine ε)}
    {delivered : Bytes}
    (scope : Scope)
    (wanted : Nat)
    (ledger : reader.Ledger delivered)
    (walking : reader.Walking)
    (empty : reader.window = []) :
    Round.Keeps reader delivered (reader.advance scope wanted) := by
  have available : reader.unread.length = reader.inputRead - reader.inputOffset := by
    rw [walking.unread, walking.inputRead, List.length_drop]
  have answered := answered_advance reader scope wanted
  generalize reader.advance scope wanted = round at answered
  cases answered with
  | overreport answer beyond =>
      refine ⟨ledger_of_silent ledger walking answer ?_ rfl rfl rfl rfl rfl, empty, rfl⟩
      simp [EngineCall.isStep, available, beyond]
  | idle answer within idle =>
      refine ⟨ledger_of_silent ledger walking answer ?_ rfl rfl rfl rfl rfl, empty, rfl⟩
      simp [EngineCall.isStep, idle]
  | step answer within busy =>
      refine ⟨⟨ledger_of_step scope ledger walking empty answer ?_, ?_⟩, rfl, rfl⟩
      · simp [EngineCall.isStep, available, within, busy]
      · exact Or.inr (walking_of_step scope walking answer)
  | limit answer refused =>
      exact ⟨ledger_of_silent ledger walking answer rfl rfl rfl rfl rfl rfl, empty, rfl⟩
  | @grow bytes engine length growth answer grown larger =>
      have figures : engine.figures.consumedCount = reader.engine.figures.consumedCount := by
        rw [figures_of_decompress answer]
        rfl
      refine ⟨⟨ledger_of_silent ledger walking answer rfl rfl rfl rfl rfl rfl, Or.inr ?_⟩, rfl, rfl⟩
      exact ⟨⟨walking.unread, walking.inputRead, walking.sourceTotal, walking.sourceDone⟩,
        walking.inputOffset.trans figures.symm⟩
  | saturated answer grown stuck =>
      exact ⟨ledger_of_silent ledger walking answer rfl rfl rfl rfl rfl rfl, empty, rfl⟩
  | engine answer terminal =>
      exact ⟨ledger_of_silent ledger walking answer rfl rfl rfl rfl rfl rfl, empty, rfl⟩

/-- Ensuring the input of a stream that has not started keeps its ledger. -/
theorem ledger_of_ensureInput
    [Source σ]
    {reader filled : Reader (RecordedSource σ) (RecordedEngine ε)}
    {scope : Scope}
    {delivered : Bytes}
    {result : Except StreamError Unit}
    (ledger : reader.Ledger delivered)
    (unstarted : reader.Unstarted)
    (ensures : reader.ensureInput scope = (result, filled)) :
    filled.Ledger delivered ∧ (result = .ok () → filled.Walking) := by
  obtain ⟨same, asked, loads⟩ := ensureInput_of_untouched unstarted.toUntouched ensures
  refine ⟨⟨?_, ?_, ?_, ?_, asked⟩, ?_⟩
  · intro input capacity reply past earlier
    rw [same.engine] at earlier
    have member := earlier.subset List.mem_cons_self
    exact absurd (unstarted.quiet _ member) (by simp [EngineCall.isData])
  · rw [same.window, same.engine, ledger.content]
  · rw [same.crc, ledger.crc]
  · rw [same.counters, same.engine, ledger.bytesOut]
  · intro succeeded
    obtain ⟨loaded, offset⟩ := loads succeeded
    refine ⟨loaded, ?_⟩
    rw [offset, same.engine, RecordedEngine.figures,
      EngineFigures.ofCalls_of_quiet unstarted.quiet]

/-- Taking bytes out of the window delivers them. -/
theorem sound_of_drain
    {reader : Reader (RecordedSource σ) (RecordedEngine ε)}
    {delivered : Bytes}
    (wanted : Nat)
    (sound : reader.Sound delivered) :
    (reader.drain wanted).2.Sound (delivered ++ (reader.drain wanted).1) := by
  refine ⟨⟨sound.offered, ?_, ?_, sound.bytesOut, sound.asked⟩, ?_⟩
  · change _ = reader.engine.figures.produced
    rw [← sound.content]
    simp [drain]
  · change reader.crc.update _ = _
    rw [Crc32.update_append, ← sound.crc]
    rfl
  · rcases sound.input with unstarted | walking
    · obtain ⟨⟨reads, inputOffset, inputRead, sourceTotal, sourceDone⟩, quiet⟩ := unstarted
      exact Or.inl ⟨⟨reads, inputOffset, inputRead, sourceTotal, sourceDone⟩, quiet⟩
    · obtain ⟨⟨unread, inputRead, sourceTotal, sourceDone⟩, inputOffset⟩ := walking
      exact Or.inr ⟨⟨unread, inputRead, sourceTotal, sourceDone⟩, inputOffset⟩

/-- Past the window, a round keeps the ledger. -/
theorem keeps_of_ensureInput
    [EngineCalls ε]
    [Source σ]
    {reader filled : Reader (RecordedSource σ) (RecordedEngine ε)}
    {delivered : Bytes}
    {scope : Scope}
    (wanted : Nat)
    (sound : reader.Sound delivered)
    (empty : reader.window = [])
    (ensures : reader.ensureInput scope = (.ok (), filled)) :
    Round.Keeps reader delivered
      (if filled.inputExhausted then .ended filled else filled.advance scope wanted) := by
  have loads :
      SameOutput filled reader ∧ filled.Ledger delivered ∧ filled.Walking := by
    rcases sound.input with unstarted | walking
    · obtain ⟨ledger, walks⟩ := ledger_of_ensureInput sound.toLedger unstarted ensures
      exact ⟨(ensureInput_of_untouched unstarted.toUntouched ensures).1, ledger, walks rfl⟩
    · have input := congrArg Prod.snd (ensureInput_of_loaded scope walking.toLoaded)
      rw [ensures] at input
      dsimp only at input
      rw [input]
      exact ⟨.refl reader, sound.toLedger, walking⟩
  obtain ⟨same, ledger, walking⟩ := loads
  split
  · exact ⟨⟨ledger, Or.inr walking⟩, same.phase, same.failure⟩
  · have kept := keeps_advance scope wanted ledger walking (same.window.trans empty)
    generalize filled.advance scope wanted = round at kept
    cases round with
    | took bytes next =>
        exact ⟨kept.1, kept.2.1.trans same.phase, kept.2.2.trans same.failure⟩
    | moved next =>
        exact ⟨kept.1, kept.2.1.trans same.phase, kept.2.2.trans same.failure⟩
    | ended last =>
        exact ⟨kept.1, kept.2.1.trans same.phase, kept.2.2.trans same.failure⟩
    | failed error last =>
        exact ⟨kept.1, kept.2.1, kept.2.2.trans same.phase⟩

/-- A stream whose input cannot be ensured keeps its ledger. -/
theorem keeps_of_ensureInput_error
    [Source σ]
    {reader failed : Reader (RecordedSource σ) (RecordedEngine ε)}
    {delivered : Bytes}
    {scope : Scope}
    {error : StreamError}
    (sound : reader.Sound delivered)
    (empty : reader.window = [])
    (ensures : reader.ensureInput scope = (.error error, failed)) :
    Round.Keeps reader delivered (.failed error failed) := by
  rcases sound.input with unstarted | walking
  · obtain ⟨ledger, -⟩ := ledger_of_ensureInput sound.toLedger unstarted ensures
    obtain ⟨same, -, -⟩ := ensureInput_of_untouched unstarted.toUntouched ensures
    exact ⟨ledger, same.window.trans empty, same.phase⟩
  · have input := congrArg Prod.snd (ensureInput_of_loaded scope walking.toLoaded)
    rw [ensures] at input
    dsimp only at input
    rw [input]
    exact ⟨sound.toLedger, empty, rfl⟩

/-- A round keeps the ledger. -/
theorem keeps_round
    [EngineCalls ε]
    [Source σ]
    {reader : Reader (RecordedSource σ) (RecordedEngine ε)}
    {delivered : Bytes}
    (scope : Scope)
    (wanted : Nat)
    (sound : reader.Sound delivered) :
    Round.Keeps reader delivered (reader.round scope wanted) := by
  unfold round
  split
  · exact ⟨sound_of_drain wanted sound, rfl, rfl⟩
  · rename_i none
    have empty : reader.window = [] := by
      rw [reader.windowed] at none
      exact List.length_eq_zero_iff.mp (by omega)
    split
    · rename_i error failed ensures
      exact keeps_of_ensureInput_error sound empty ensures
    · rename_i filled ensures
      exact keeps_of_ensureInput wanted sound empty ensures

end Reader

end MemberStream
