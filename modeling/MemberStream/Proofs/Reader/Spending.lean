import MemberStream.Proofs.Engine.Spending
import MemberStream.Proofs.Reader.Discipline
import MemberStream.Proofs.Slice

namespace MemberStream

/-!
# What a read spends

A read offers its engine what the input buffer holds, and what the source hands out
meanwhile.  As long as every step consumes something, it makes no more steps than those
are bytes, however much its caller wants.
-/

namespace Reader

variable {σ ε : Type}

/-- A reader that has left to offer just what lies between its places in the input buffer. -/
structure Balanced
    (reader : Reader σ ε) :
    Prop where
  inputOffset : reader.inputOffset ≤ reader.inputRead
  unread : reader.unread.length = reader.inputRead - reader.inputOffset

/-- Gathering adds what the source hands out to the bytes read and to their total. -/
theorem total_gather
    [Source σ]
    (reader : Reader σ ε)
    (scope : Scope)
    (chunks : List Bytes) :
    let (_, more, gathered) := reader.gather scope chunks
    gathered.inputOffset = reader.inputOffset ∧
      gathered.inputRead + chunks.flatten.length = reader.inputRead + more.flatten.length ∧
      gathered.sourceTotal + chunks.flatten.length = reader.sourceTotal + more.flatten.length := by
  fun_induction gather reader scope chunks with
  | case1 reader chunks error full room =>
      have roomier := roomier_of_makeRoom room
      exact
        ⟨roomier.inputOffset, by rw [roomier.inputRead], by rw [roomier.sourceTotal]⟩
  | case2 reader chunks roomy room source answer
  | case5 reader chunks roomy room error source answer terminal =>
      have roomier := roomier_of_makeRoom room
      refine ⟨roomier.inputOffset, ?_, ?_⟩
      · change roomy.inputRead + _ = _
        rw [roomier.inputRead]
      · change roomy.sourceTotal + _ = _
        rw [roomier.sourceTotal]
  | case3 reader chunks roomy room byte rest source answer count buffered transferred =>
      rename_i ih
      have roomier := roomier_of_makeRoom room
      have read : (transferred.report scope
            (.transferred count buffered roomy.inputLength)).inputRead =
          reader.inputRead + (rest.length + 1) := by
        rw [← roomier.inputRead]
        rfl
      have total : (transferred.report scope
            (.transferred count buffered roomy.inputLength)).sourceTotal =
          reader.sourceTotal + (rest.length + 1) := by
        rw [← roomier.sourceTotal]
        rfl
      generalize gather (transferred.report scope (.transferred count buffered roomy.inputLength))
        scope ((byte :: rest) :: chunks) = outcome at ih ⊢
      obtain ⟨result, more, gathered⟩ := outcome
      obtain ⟨sameOffset, moreRead, moreTotal⟩ := ih
      rw [read, List.flatten_cons, List.length_append, List.length_cons] at moreRead
      rw [total, List.flatten_cons, List.length_append, List.length_cons] at moreTotal
      refine ⟨sameOffset.trans roomier.inputOffset, ?_, ?_⟩
      · omega
      · omega
  | case4 reader chunks roomy room error source answer interrupted ih =>
      have roomier := roomier_of_makeRoom room
      generalize gather { roomy with source := source } scope chunks = outcome at ih ⊢
      obtain ⟨result, more, gathered⟩ := outcome
      obtain ⟨sameOffset, moreRead, moreTotal⟩ := ih
      refine ⟨sameOffset.trans roomier.inputOffset, ?_, ?_⟩
      · rw [moreRead, ← roomier.inputRead]
      · rw [moreTotal, ← roomier.sourceTotal]

/-- Filling the input leaves to offer just what the source has handed out. -/
theorem balanced_fillInput
    [Source σ]
    (reader : Reader σ ε)
    (scope : Scope) :
    (reader.fillInput scope).2.Balanced ∧
      (reader.fillInput scope).2.sourceTotal =
        reader.sourceTotal + (reader.fillInput scope).2.unread.length := by
  have gathers :=
    total_gather { reader with inputOffset := 0, inputRead := 0, unread := [] }
      (scope ++ ["input"]) []
  unfold fillInput
  dsimp only
  generalize gather { reader with inputOffset := 0, inputRead := 0, unread := [] }
    (scope ++ ["input"]) [] = outcome at gathers ⊢
  obtain ⟨result, chunks, gathered⟩ := outcome
  obtain ⟨inputOffset, inputRead, sourceTotal⟩ := gathers
  simp only [List.flatten_nil, List.length_nil, Nat.add_zero, Nat.zero_add] at inputRead sourceTotal
  have length : chunks.reverse.flatten.length = chunks.flatten.length := by
    simp [List.length_flatten]
  refine ⟨⟨?_, ?_⟩, ?_⟩
  · change gathered.inputOffset ≤ _
    rw [inputOffset]
    exact Nat.zero_le _
  · change chunks.reverse.flatten.length = gathered.inputRead - gathered.inputOffset
    rw [length, inputRead, inputOffset]
    rfl
  · change gathered.sourceTotal = reader.sourceTotal + chunks.reverse.flatten.length
    rw [length, sourceTotal]

/-- Ensuring the input leaves a reader balanced, and adds to it what the source has handed out. -/
theorem balanced_ensureInput
    [Source σ]
    {reader : Reader σ ε}
    (balanced : reader.Balanced)
    (scope : Scope) :
    (reader.ensureInput scope).2.Balanced ∧
      (reader.ensureInput scope).2.unread.length + reader.sourceTotal =
        reader.unread.length + (reader.ensureInput scope).2.sourceTotal := by
  obtain ⟨filled, total⟩ := balanced_fillInput reader scope
  rcases ensureInput_reader reader scope with ⟨exhausted, same⟩ | same <;> rw [same]
  · have none : reader.unread.length = 0 := by
      simp only [inputExhausted, beq_iff_eq] at exhausted
      rw [balanced.unread, exhausted, Nat.sub_self]
    rw [none, Nat.zero_add]
    exact ⟨filled, by rw [total, Nat.add_comm]⟩
  · exact ⟨balanced, rfl⟩

section Session

variable [EngineCalls ε]

/-- An engine call leaves a reader balanced. -/
theorem balanced_advance
    {reader : Reader σ ε}
    (balanced : reader.Balanced)
    (scope : Scope)
    (wanted : Nat) :
    (reader.advance scope wanted).reader.Balanced := by
  have answered := answered_advance reader scope wanted
  generalize reader.advance scope wanted = round at answered
  cases answered with
  | @step step bytes engine answer within busy =>
      obtain ⟨consumed, -⟩ := Step.le_of_not_exceeds within
      have place := balanced.inputOffset
      refine ⟨?_, ?_⟩
      · change reader.inputOffset + step.consumed ≤ reader.inputRead
        omega
      · change
          (reader.unread.drop step.consumed).length =
            reader.inputRead - (reader.inputOffset + step.consumed)
        rw [List.length_drop, balanced.unread, Nat.sub_sub]
  | overreport answer beyond | idle answer within idle | engine answer terminal
  | limit answer refused | grow answer grown larger | saturated answer grown stuck =>
      exact ⟨balanced.inputOffset, balanced.unread⟩

/-- A session that starts has nothing left to offer. -/
theorem balanced_of_startSession
    {reader started : Reader σ ε}
    {scope : Scope}
    (starts : reader.startSession scope = (.ok (), started)) :
    started.Balanced := by
  have shape := started_of_startSession starts
  refine ⟨?_, ?_⟩
  · rw [shape.inputOffset]
    exact Nat.zero_le _
  · rw [shape.unread, shape.inputRead]
    exact (Nat.zero_sub _).symm

/-- Getting ready leaves a reader balanced. -/
theorem balanced_ready
    {reader : Reader σ ε}
    (balanced : reader.Balanced)
    (scope : Scope) :
    (reader.ready scope).2.Balanced := by
  apply ready_keeps balanced
  · intro _ started starts
    exact balanced_of_startSession starts
  · intro _ error idle starts
    obtain ⟨engine, span, trace, -, rfl⟩ := refused_of_startSession starts
    exact ⟨balanced.inputOffset, balanced.unread⟩

theorem balanced_teardown
    {reader : Reader σ ε}
    (balanced : reader.Balanced) :
    reader.teardown.Balanced := by
  unfold teardown
  split <;> exact ⟨balanced.inputOffset, balanced.unread⟩

/-- Closing leaves a reader balanced. -/
theorem balanced_close
    {reader : Reader σ ε}
    (balanced : reader.Balanced) :
    reader.close.2.Balanced := by
  have torn := balanced_teardown balanced
  have closes := closes_close reader
  generalize reader.close = outcome at closes
  cases closes with
  | failed phase kept =>
      exact ⟨torn.inputOffset, torn.unread⟩
  | again phase | idle phase | closed phase unfailed answer | refused phase unfailed answer =>
      exact ⟨balanced.inputOffset, balanced.unread⟩

/-- A reset leaves a reader balanced. -/
theorem balanced_reset
    {reader : Reader σ ε}
    (balanced : reader.Balanced)
    (source : σ) :
    (reader.reset source).2.Balanced := by
  have torn := balanced_teardown balanced
  rw [reset_eq]
  split
  · rename_i starts
    have started := balanced_of_startSession starts
    exact ⟨started.inputOffset, started.unread⟩
  · rename_i starts
    obtain ⟨engine, span, trace, -, rfl⟩ := refused_of_startSession starts
    exact ⟨torn.inputOffset, torn.unread⟩

variable [Source σ]

/-- A round leaves a reader balanced. -/
theorem balanced_round
    {reader : Reader σ ε}
    (balanced : reader.Balanced)
    (scope : Scope)
    (wanted : Nat) :
    (reader.round scope wanted).reader.Balanced := by
  apply round_keeps (motive := fun next => next.Balanced)
  · exact ⟨balanced.inputOffset, balanced.unread⟩
  · exact (balanced_ensureInput balanced scope).1
  · intro filled balanced
    exact balanced_advance balanced scope wanted

/-- A read leaves a reader balanced. -/
theorem balanced_readChunk
    {reader : Reader σ ε}
    (balanced : reader.Balanced)
    (length : Nat) :
    (reader.readChunk length).2.Balanced := by
  apply readChunk_keeps (motive := fun next => next.Balanced) _ _ (balanced_ready balanced _) length
  · intro next wanted balanced
    exact balanced_round balanced _ wanted
  · intro next error balanced
    exact ⟨balanced.inputOffset, balanced.unread⟩

/-- Every request leaves a reader balanced. -/
theorem balanced_serve
    {reader : Reader σ ε}
    (balanced : reader.Balanced)
    (request : ReaderRequest σ) :
    (reader.serve request).2.Balanced := by
  have served := served_serve reader request
  generalize (reader.serve request).2 = next at served ⊢
  cases served with
  | readInto buffer | read length =>
      exact balanced_readChunk balanced _
  | closed =>
      exact balanced_close balanced
  | applied options | overridden overrides | altered change =>
      exact ⟨balanced.inputOffset, balanced.unread⟩
  | reset source =>
      exact balanced_reset balanced source

/-- Whatever is requested of a reader, it is balanced. -/
theorem balanced_serveEach
    (source : σ)
    (engine : ε)
    (overrides : Overrides)
    (staged : ParameterSet)
    (requests : List (ReaderRequest σ)) :
    (Reader.serveEach { source, engine, overrides, staged } requests).Balanced :=
  serveEach_keeps (motive := fun next => next.Balanced)
    (fun _ request _ balanced => balanced_serve balanced request)
    ⟨Nat.le_refl 0, rfl⟩

end Session

/--
Whether a reader has been driven on at the cost of no more than it had left to offer and
the source has handed out since.
-/
def Draws
    (reader last : Reader σ (RecordedEngine ε)) :
    Prop :=
  ∃ bytes,
    reader.engine.Spends last.engine bytes ∧
      bytes + reader.sourceTotal ≤ reader.unread.length + last.sourceTotal

/-- What a round has spent is gone from what a reader has left to offer, if it goes on. -/
def Round.Draws
    (reader : Reader σ (RecordedEngine ε)) :
    Round σ (RecordedEngine ε) → Prop
  | .took _ next | .moved next =>
      ∃ bytes,
        reader.engine.Spends next.engine bytes ∧
          bytes + next.unread.length + reader.sourceTotal =
            reader.unread.length + next.sourceTotal
  | .ended last | .failed _ last =>
      reader.Draws last

theorem Draws.behind
    {reader next last : Reader σ (RecordedEngine ε)}
    (round :
      ∃ bytes,
        reader.engine.Spends next.engine bytes ∧
          bytes + next.unread.length + reader.sourceTotal =
            reader.unread.length + next.sourceTotal)
    (rest : next.Draws last) :
    reader.Draws last := by
  obtain ⟨bytes, spends, balance⟩ := round
  obtain ⟨more, later, enough⟩ := rest
  exact ⟨bytes + more, spends.trans later, by omega⟩

variable [EngineCalls ε]

/-- An engine call draws on what is left to offer, if that is something. -/
theorem draws_advance
    {reader : Reader σ (RecordedEngine ε)}
    (balanced : reader.Balanced)
    (some : reader.inputExhausted = false)
    (scope : Scope)
    (wanted : Nat) :
    (reader.advance scope wanted).Draws reader := by
  have more : 1 ≤ reader.unread.length := by
    have place := balanced.inputOffset
    simp only [inputExhausted, beq_eq_false_iff_ne] at some
    rw [balanced.unread]
    omega
  have ends {reply : Reply} {engine : RecordedEngine ε} {last : Reader σ (RecordedEngine ε)}
      (answer :
        EngineCalls.decompress reader.engine reader.unread reader.outputLength = (reply, engine))
      (same : last.engine = engine)
      (total : last.sourceTotal = reader.sourceTotal) :
      reader.Draws last := by
    rw [← same] at answer
    refine ⟨1, .of_decompress answer (.of_call _), ?_⟩
    rw [total]
    exact Nat.add_le_add_right more _
  have answered := answered_advance reader scope wanted
  generalize reader.advance scope wanted = round at answered
  cases answered with
  | overreport answer beyond | idle answer within idle | engine answer terminal
  | limit answer refused | saturated answer grown stuck =>
      exact ends answer rfl rfl
  | @step step bytes engine answer within busy =>
      rw [← balanced.unread] at within
      have spent :
          EngineCall.Spent [.decompress reader.unread reader.outputLength ⟨.ok step, bytes⟩]
            step.consumed :=
        .of_succeeds (by simp [EngineCall.succeeds, EngineCall.isStep, within, busy])
      obtain ⟨most, -⟩ := Step.le_of_not_exceeds within
      refine ⟨step.consumed, .of_decompress answer spent, ?_⟩
      change
        step.consumed + (reader.unread.drop step.consumed).length + reader.sourceTotal =
          reader.unread.length + reader.sourceTotal
      rw [List.length_drop]
      omega
  | @grow bytes engine length growth answer grown larger =>
      refine ⟨0, .of_decompress answer (.of_short rfl), ?_⟩
      change 0 + reader.unread.length + reader.sourceTotal = _
      rw [Nat.zero_add]
      rfl

variable [Source σ]

/-- A round draws on what is left to offer, and on what the source hands out. -/
theorem draws_round
    {reader : Reader σ (RecordedEngine ε)}
    (balanced : reader.Balanced)
    (scope : Scope)
    (wanted : Nat) :
    (reader.round scope wanted).Draws reader := by
  have quiet {next : Reader σ (RecordedEngine ε)} (same : next.engine = reader.engine) :
      reader.engine.Spends next.engine 0 := by
    rw [same]
    exact .refl reader.engine
  obtain ⟨filledBalanced, total⟩ := balanced_ensureInput balanced scope
  have engine := (sameOutput_ensureInput reader scope).engine
  unfold round
  split
  · exact ⟨0, quiet rfl, congrArg (· + reader.sourceTotal) (Nat.zero_add _)⟩
  · split
    · rename_i error failed answer
      rw [answer] at total engine
      exact ⟨0, quiet engine, by dsimp only at total; omega⟩
    · rename_i filled answer
      rw [answer] at filledBalanced total engine
      dsimp only at filledBalanced total engine
      split
      · exact ⟨0, quiet engine, by omega⟩
      · rename_i some
        have draws :=
          draws_advance filledBalanced (by simpa using some) scope wanted
        generalize filled.advance scope wanted = round at draws ⊢
        cases round with
        | took bytes next | moved next =>
            obtain ⟨spent, spends, balance⟩ := draws
            rw [engine] at spends
            exact ⟨spent, spends, by omega⟩
        | ended last | failed error last =>
            obtain ⟨spent, spends, enough⟩ := draws
            rw [engine] at spends
            exact ⟨spent, spends, by omega⟩

/-- A delivery draws on what is left to offer, and on what the source hands out. -/
theorem draws_deliver
    {reader : Reader σ (RecordedEngine ε)}
    (balanced : reader.Balanced)
    (scope : Scope)
    (wanted : Nat)
    (delivered : Bytes) :
    reader.Draws (reader.deliver scope wanted delivered).2 := by
  fun_induction deliver reader scope wanted delivered with
  | case1 reader delivered =>
      exact ⟨0, .refl reader.engine, by dsimp only; omega⟩
  | case2 reader wanted delivered more bytes next round ih
  | case3 reader wanted delivered more next round ih =>
      have draws := draws_round balanced scope wanted
      have after := balanced_round balanced scope wanted
      rw [round] at draws after
      exact .behind draws (ih after)
  | case4 reader wanted delivered more last round =>
      have draws := draws_round balanced scope wanted
      rwa [round] at draws
  | case5 reader wanted delivered more error last round =>
      have draws := draws_round balanced scope wanted
      rw [round] at draws
      rw [failAfter_reader]
      exact draws

omit [Source σ] in
/-- Getting ready starts a session at most, which spends nothing. -/
theorem spends_ready
    (reader : Reader σ (RecordedEngine ε))
    (scope : Scope) :
    reader.engine.Spends (reader.ready scope).2.engine 0 := by
  apply ready_keeps (motive := fun next => reader.engine.Spends next.engine 0) (.refl _)
  · intro _ started starts
    exact .of_quiet (RecordedEngine.calls_of_start (started_of_startSession starts).engine) rfl
  · intro _ error idle starts
    obtain ⟨engine, span, trace, answer, rfl⟩ := refused_of_startSession starts
    exact .of_quiet (RecordedEngine.calls_of_start answer) rfl

/--
A read spends no more than what its session has left to offer when it is ready, and what
the source hands out meanwhile.
-/
theorem spends_readChunk
    {reader : Reader σ (RecordedEngine ε)}
    (balanced : reader.Balanced)
    (length : Nat) :
    let active := (reader.ready reader.scope).2
    let next := (reader.readChunk length).2
    reader.engine.Spends next.engine
      (active.unread.length + (next.sourceTotal - active.sourceTotal)) := by
  intro active next
  have draws : active.Draws next := by
    have activeBalanced := balanced_ready balanced reader.scope
    change active.Draws (reader.readChunk length).2
    have reads := reads_readChunk reader length
    generalize reader.readChunk length = outcome at reads
    cases reads with
    | unready ready =>
        have same : active = _ := congrArg Prod.snd ready
        rw [same]
        exact ⟨0, .refl _, by omega⟩
    | delivered ready =>
        have same : active = _ := congrArg Prod.snd ready
        rw [ready] at activeBalanced
        rw [same]
        exact draws_deliver activeBalanced _ length []
  obtain ⟨bytes, spends, enough⟩ := draws
  have both := (spends_ready reader reader.scope).trans spends
  exact both.mono (by omega)

end Reader

end MemberStream
