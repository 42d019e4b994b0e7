import MemberStream.Proofs.Reader.Freezing
import MemberStream.Proofs.Slice

namespace MemberStream

/-!
# The places of a reader

A reader slices its buffers by places that it keeps from one call to the next.  They are
in range when it has been built, and every round keeps them there: gathering reads no
more than it has room for, a step is checked before it moves a place, and no buffer
shrinks.  The one thing this needs of the options is that the input buffer they ask for
can be measured by a machine word.
-/

namespace GrowthPolicy

/-- An input buffer does not shrink, as long as a machine word measures it. -/
theorem le_of_nextInputLength
    {policy : GrowthPolicy}
    {current length : Nat}
    (grown : policy.nextInputLength current = .ok length)
    (measured : current ≤ maxLength) :
    current ≤ length := by
  have wanted : current ≤ max (saturatingDouble current) 1 := by
    simp only [saturatingDouble]
    omega
  rcases eq_or_lt_of_clamp grown with rfl | ⟨-, longer⟩
  · exact wanted
  · exact Nat.le_of_lt longer

end GrowthPolicy

/-- Whether an input buffer that an option asks for can be measured by a machine word. -/
def StreamOption.Measured : StreamOption → Prop
  | .inputBufferLength length =>
      length ≤ maxLength
  | _ =>
      True

/-- Options that are measured stage an input buffer that is. -/
theorem measured_stageOptions
    {role : TargetRole}
    {options : List StreamOption}
    {parameters : ParameterSet}
    (options_measured : ∀ option, option ∈ options → option.Measured)
    (measured : parameters.inputBufferLength ≤ maxLength) :
    (stageOptions role options parameters).2.inputBufferLength ≤ maxLength := by
  induction options generalizing parameters with
  | nil =>
      exact measured
  | cons option rest ih =>
      unfold stageOptions
      split
      · apply ih (fun other member => options_measured other (List.mem_cons_of_mem option member))
        have own := options_measured option List.mem_cons_self
        cases option with
        | inputBufferLength length =>
            exact own
        | _ =>
            exact measured
      · exact measured

/-- Whether the options of a request are measured. -/
def ReaderRequest.Measured
    {σ : Type} :
    ReaderRequest σ → Prop
  | .apply options =>
      ∀ option, option ∈ options → option.Measured
  | _ =>
      True

namespace Reader

variable {σ ε : Type}

/-- The places that a reader keeps lie within its buffers. -/
structure InRange
    (reader : Reader σ ε) :
    Prop where
  inputOffset : reader.inputOffset ≤ reader.inputRead
  inputRead : reader.inputRead ≤ reader.inputLength
  window : reader.outputOffset + reader.outputLeft ≤ reader.outputLength

/-- A reader in range whose input buffer can be measured, now and in its next session. -/
structure Bounded
    (reader : Reader σ ε) :
    Prop extends InRange reader where
  inputLength : reader.inputLength ≤ maxLength
  staged : reader.staged.inputBufferLength ≤ maxLength

/-- A bounded reader that has left to offer just what lies between its places. -/
structure Placed
    (reader : Reader σ ε) :
    Prop extends Bounded reader where
  unread : reader.unread.length = reader.inputRead - reader.inputOffset

/-- A reader is bounded if it has the places and the buffers of another one that is. -/
theorem Bounded.congr
    {next reader : Reader σ ε}
    (bounded : reader.Bounded)
    (input :
      (next.inputLength, next.inputOffset, next.inputRead) =
        (reader.inputLength, reader.inputOffset, reader.inputRead))
    (output :
      (next.outputLength, next.outputOffset, next.outputLeft) =
        (reader.outputLength, reader.outputOffset, reader.outputLeft))
    (staged : next.staged = reader.staged) :
    next.Bounded := by
  simp only [Prod.mk.injEq] at input output
  obtain ⟨inputLength, inputOffset, inputRead⟩ := input
  obtain ⟨outputLength, outputOffset, outputLeft⟩ := output
  refine ⟨⟨?_, ?_, ?_⟩, ?_, ?_⟩
  · rw [inputOffset, inputRead]
    exact bounded.inputOffset
  · rw [inputRead, inputLength]
    exact bounded.inputRead
  · rw [outputOffset, outputLeft, outputLength]
    exact bounded.window
  · rw [inputLength]
    exact bounded.inputLength
  · rw [staged]
    exact bounded.staged

/-- The places of a reader are right if they and the bytes left are those of another one. -/
theorem Placed.congr
    {next reader : Reader σ ε}
    (placed : reader.Placed)
    (input :
      (next.inputLength, next.inputOffset, next.inputRead) =
        (reader.inputLength, reader.inputOffset, reader.inputRead))
    (output :
      (next.outputLength, next.outputOffset, next.outputLeft) =
        (reader.outputLength, reader.outputOffset, reader.outputLeft))
    (staged : next.staged = reader.staged)
    (unread : next.unread = reader.unread) :
    next.Placed := by
  refine ⟨placed.toBounded.congr input output staged, ?_⟩
  simp only [Prod.mk.injEq] at input
  obtain ⟨-, inputOffset, inputRead⟩ := input
  rw [unread, inputRead, inputOffset]
  exact placed.unread

/-- Making room leaves a reader bounded. -/
theorem bounded_of_makeRoom
    {reader roomy : Reader σ ε}
    {scope : Scope}
    {result : Except StreamError Unit}
    (bounded : reader.Bounded)
    (room : reader.makeRoom scope = (result, roomy)) :
    roomy.Bounded := by
  unfold makeRoom at room
  split at room
  · split at room
    · rename_i length grown
      cases room
      have larger := GrowthPolicy.le_of_nextInputLength grown bounded.inputLength
      exact ⟨⟨bounded.inputOffset, Nat.le_trans bounded.inputRead larger, bounded.window⟩,
        GrowthPolicy.nextInputLength_le grown, bounded.staged⟩
    · cases room
      exact bounded
  · cases room
    exact bounded

section

variable [SourceCalls σ]

/-- What a read of the source does to a reader that gathers it, if the gathering goes on. -/
inductive Transfers
    (reader : Reader σ ε)
    (scope : Scope) :
    Reader σ ε →
    Prop where
  /-- The source handed out some bytes. -/
  | bytes
      {bytes : Bytes}
      {source : σ}
      (answer :
        SourceCalls.read reader.source (reader.inputLength - reader.inputRead) =
          (.ok bytes, source))
      (more : bytes ≠ []) :
      Transfers reader scope
        (({ reader with
            source := source
            inputRead := reader.inputRead + bytes.length
            sourceTotal := reader.sourceTotal + bytes.length } : Reader σ ε).report scope
          (.transferred bytes.length (reader.inputRead + bytes.length) reader.inputLength))
  /-- The source was interrupted. -/
  | interrupted
      {error : TransportError}
      {source : σ}
      (answer :
        SourceCalls.read reader.source (reader.inputLength - reader.inputRead) =
          (.error error, source))
      (interrupted : error.kind = .interrupted) :
      Transfers reader scope { reader with source := source }

/-- The states in which a reader that gathers its source offers it the rest of its buffer. -/
inductive Offers
    (scope : Scope) :
    Reader σ ε →
    Reader σ ε →
    Prop where
  | here
      {reader roomy : Reader σ ε}
      (room : reader.makeRoom scope = (.ok (), roomy)) :
      Offers scope reader roomy
  | later
      {reader roomy next last : Reader σ ε}
      (room : reader.makeRoom scope = (.ok (), roomy))
      (goes : roomy.Transfers scope next)
      (offers : Offers scope next last) :
      Offers scope reader last

/-- A source that hands out no more than it is asked for leaves a reader bounded. -/
theorem bounded_of_offers
    (modest :
      ∀ (source next : σ) (capacity : Nat) (bytes : Bytes),
        SourceCalls.read source capacity = (.ok bytes, next) → bytes.length ≤ capacity)
    {reader last : Reader σ ε}
    {scope : Scope}
    (offers : Offers scope reader last)
    (bounded : reader.Bounded) :
    last.Bounded := by
  induction offers with
  | here room =>
      exact bounded_of_makeRoom bounded room
  | @later reader roomy next last room goes offers ih =>
      have made := bounded_of_makeRoom bounded room
      apply ih
      cases goes with
      | @bytes bytes source answer more =>
          have fits := modest _ _ _ _ answer
          have place := made.inputRead
          refine ⟨⟨Nat.le_trans made.inputOffset (Nat.le_add_right _ _), ?_, made.window⟩,
            made.inputLength, made.staged⟩
          change roomy.inputRead + bytes.length ≤ roomy.inputLength
          omega
      | interrupted answer interrupted =>
          exact made.congr rfl rfl rfl

end

/-- Gathering goes on from where a transfer leaves it. -/
theorem gather_of_transfers
    [Source σ]
    {reader roomy next : Reader σ ε}
    {scope : Scope}
    (room : reader.makeRoom scope = (.ok (), roomy))
    (goes : roomy.Transfers scope next) :
    ∃ more, ∀ chunks, reader.gather scope chunks = next.gather scope (more ++ chunks) := by
  cases goes with
  | @bytes bytes source answer more =>
      cases bytes with
      | nil =>
          exact absurd rfl more
      | cons byte rest =>
          refine ⟨[byte :: rest], fun chunks => ?_⟩
          rw [gather_of_read room answer]
          rfl
  | interrupted answer interrupted =>
      refine ⟨[], fun chunks => ?_⟩
      rw [gather_of_read room answer]
      exact if_pos interrupted

/-- Gathering comes to the read of its source in each of the states in which it is offered. -/
theorem gather_of_offers
    [Source σ]
    {reader offering : Reader σ ε}
    {scope : Scope}
    (offers : Offers scope reader offering) :
    ∃ (before : Reader σ ε) (more : List Bytes),
      before.makeRoom scope = (.ok (), offering) ∧
        ∀ chunks, reader.gather scope chunks = before.gather scope (more ++ chunks) := by
  induction offers with
  | @here reader roomy room =>
      exact ⟨reader, [], room, fun chunks => rfl⟩
  | later room goes offers ih =>
      obtain ⟨before, more, made, again⟩ := ih
      obtain ⟨first, goesOn⟩ := gather_of_transfers room goes
      refine ⟨before, more ++ first, made, fun chunks => ?_⟩
      rw [goesOn, again, List.append_assoc]

/-- Gathering leaves a reader bounded that has kept all it has read. -/
theorem bounded_gather
    [Source σ]
    {reader : Reader σ ε}
    (scope : Scope)
    (chunks : List Bytes)
    (bounded : reader.Bounded)
    (kept : chunks.reverse.flatten.length = reader.inputRead) :
    (reader.gather scope chunks).2.2.Bounded ∧
      (reader.gather scope chunks).2.1.reverse.flatten.length =
        (reader.gather scope chunks).2.2.inputRead := by
  fun_induction gather reader scope chunks with
  | case1 reader chunks error full room =>
      have made := bounded_of_makeRoom bounded room
      have same := (roomier_of_makeRoom room).inputRead
      exact ⟨made, kept.trans same.symm⟩
  | case2 reader chunks roomy room source answer
  | case5 reader chunks roomy room error source answer terminal =>
      have made := bounded_of_makeRoom bounded room
      have same := (roomier_of_makeRoom room).inputRead
      exact ⟨made.congr rfl rfl rfl, kept.trans same.symm⟩
  | case3 reader chunks roomy room byte rest source answer count buffered transferred ih =>
      have made := bounded_of_makeRoom bounded room
      have same := (roomier_of_makeRoom room).inputRead
      have fits := Source.length_le _ _ _ _ answer
      have place := made.inputRead
      apply ih
      · refine ⟨⟨Nat.le_trans made.inputOffset (Nat.le_add_right _ _), ?_, made.window⟩,
          made.inputLength, made.staged⟩
        change roomy.inputRead + (rest.length + 1) ≤ roomy.inputLength
        rw [List.length_cons] at fits
        omega
      · change _ = roomy.inputRead + (rest.length + 1)
        simp only [List.reverse_cons, List.flatten_append, List.length_append, kept, same,
          List.flatten_cons, List.flatten_nil, List.append_nil, List.length_cons]
  | case4 reader chunks roomy room error source answer interrupted ih =>
      have made := bounded_of_makeRoom bounded room
      have same := (roomier_of_makeRoom room).inputRead
      exact ih (made.congr rfl rfl rfl) (kept.trans same.symm)

/-- A reader that is about to gather its source. -/
def emptied
    (reader : Reader σ ε) :
    Reader σ ε :=
  { reader with inputOffset := 0, inputRead := 0, unread := [] }

theorem bounded_emptied
    {reader : Reader σ ε}
    (bounded : reader.Bounded) :
    reader.emptied.Bounded :=
  ⟨⟨Nat.le_refl 0, Nat.zero_le _, bounded.window⟩, bounded.inputLength, bounded.staged⟩

/-- Filling the input keeps the places of a reader right. -/
theorem placed_fillInput
    [Source σ]
    {reader : Reader σ ε}
    (placed : reader.Placed)
    (scope : Scope) :
    (reader.fillInput scope).2.Placed := by
  obtain ⟨gathered, kept⟩ :=
    bounded_gather (scope ++ ["input"]) [] (bounded_emptied placed.toBounded) rfl
  have start := (sameOutput_gather reader.emptied (scope ++ ["input"]) []).2
  refine ⟨gathered.congr rfl rfl rfl, ?_⟩
  change
    (reader.emptied.gather (scope ++ ["input"]) []).2.1.reverse.flatten.length =
      (reader.emptied.gather (scope ++ ["input"]) []).2.2.inputRead -
        (reader.emptied.gather (scope ++ ["input"]) []).2.2.inputOffset
  rw [kept, start]
  rfl

theorem placed_ensureInput
    [Source σ]
    {reader : Reader σ ε}
    (placed : reader.Placed)
    (scope : Scope) :
    (reader.ensureInput scope).2.Placed := by
  rcases ensureInput_reader reader scope with ⟨-, same⟩ | same <;> rw [same]
  · exact placed_fillInput placed scope
  · exact placed

/-- Taking bytes out of the window keeps the places of a reader right. -/
theorem placed_drain
    {reader : Reader σ ε}
    (placed : reader.Placed)
    (wanted : Nat) :
    (reader.drain wanted).2.Placed := by
  have window := placed.window
  refine ⟨⟨⟨placed.inputOffset, placed.inputRead, ?_⟩, placed.inputLength, placed.staged⟩,
    placed.unread⟩
  change
    reader.outputOffset + min reader.outputLeft wanted +
        (reader.outputLeft - min reader.outputLeft wanted) ≤
      reader.outputLength
  omega

section

variable [EngineCalls ε]

/-- An engine call keeps the places of a reader right, whatever the engine answers. -/
theorem placed_advance
    {reader : Reader σ ε}
    (placed : reader.Placed)
    (scope : Scope)
    (wanted : Nat) :
    (reader.advance scope wanted).reader.Placed := by
  have answered := answered_advance reader scope wanted
  generalize reader.advance scope wanted = round at answered
  cases answered with
  | overreport answer beyond =>
      exact placed.congr rfl rfl rfl rfl
  | idle answer within idle =>
      exact placed.congr rfl rfl rfl rfl
  | @step step bytes engine answer within busy =>
      obtain ⟨consumed, produced⟩ := Step.le_of_not_exceeds within
      have place := placed.inputOffset
      refine ⟨⟨⟨?_, placed.inputRead, ?_⟩, placed.inputLength, placed.staged⟩, ?_⟩
      · change reader.inputOffset + step.consumed ≤ reader.inputRead
        omega
      · change 0 + step.produced ≤ reader.outputLength
        omega
      · change
          (reader.unread.drop step.consumed).length =
            reader.inputRead - (reader.inputOffset + step.consumed)
        rw [List.length_drop, placed.unread, Nat.sub_sub]
  | limit answer refused =>
      exact placed.congr rfl rfl rfl rfl
  | @grow bytes engine length growth answer grown larger =>
      refine ⟨⟨⟨placed.inputOffset, placed.inputRead, ?_⟩, placed.inputLength, placed.staged⟩,
        placed.unread⟩
      exact Nat.le_trans placed.window (Nat.le_of_lt larger)
  | saturated answer grown stuck =>
      exact placed.congr rfl rfl rfl rfl
  | engine answer terminal =>
      exact placed.congr rfl rfl rfl rfl

/-- A session that starts sets the places of a reader right, and one that does not keeps them. -/
theorem placed_startSession
    {reader : Reader σ ε}
    (placed : reader.Placed)
    (scope : Scope) :
    (reader.startSession scope).2.Placed := by
  cases starts : reader.startSession scope with
  | mk result next =>
      cases result with
      | ok =>
          have started := started_of_startSession starts
          have measured : next.inputLength ≤ maxLength :=
            Nat.le_trans started.inputLength placed.staged
          refine ⟨⟨⟨?_, ?_, ?_⟩, measured, ?_⟩, ?_⟩
          · rw [started.inputOffset]
            exact Nat.zero_le _
          · rw [started.inputRead]
            exact Nat.zero_le _
          · rw [started.outputOffset, started.outputLeft]
            exact Nat.zero_le _
          · rw [started.staged]
            exact placed.staged
          · rw [started.unread, started.inputRead]
            exact (Nat.zero_sub _).symm
      | error error =>
          obtain ⟨engine, span, trace, -, rfl⟩ := refused_of_startSession starts
          exact placed.congr rfl rfl rfl rfl

/-- Getting ready keeps the places of a reader right. -/
theorem placed_ready
    {reader : Reader σ ε}
    (placed : reader.Placed)
    (scope : Scope) :
    (reader.ready scope).2.Placed := by
  have starts := placed_startSession placed scope
  apply ready_keeps placed
  · intro _ started answer
    rwa [answer] at starts
  · intro _ error idle answer
    rw [answer] at starts
    exact starts.congr rfl rfl rfl rfl

/-- Tearing down keeps the places of a reader right. -/
theorem placed_teardown
    {reader : Reader σ ε}
    (placed : reader.Placed) :
    reader.teardown.Placed := by
  unfold teardown
  split
  · exact placed.congr rfl rfl rfl rfl
  · exact placed

/-- Closing keeps the places of a reader right. -/
theorem placed_close
    {reader : Reader σ ε}
    (placed : reader.Placed) :
    reader.close.2.Placed := by
  have closes := closes_close reader
  generalize reader.close = outcome at closes
  cases closes with
  | again phase =>
      exact placed
  | failed phase kept =>
      exact (placed_teardown placed).congr rfl rfl rfl rfl
  | idle phase | closed phase unfailed answer | refused phase unfailed answer =>
      exact placed.congr rfl rfl rfl rfl

/-- A reset keeps the places of a reader right, whether a session starts or not. -/
theorem placed_reset
    {reader : Reader σ ε}
    (placed : reader.Placed)
    (source : σ) :
    (reader.reset source).2.Placed := by
  have cleared : reader.cleared.Placed :=
    (placed_teardown placed).congr rfl rfl rfl rfl
  have started := placed_startSession cleared []
  rw [reset_eq]
  split
  · rename_i answer
    rw [answer] at started
    exact started.congr rfl rfl rfl rfl
  · rename_i answer
    rw [answer] at started
    exact started.congr rfl rfl rfl rfl

variable [Source σ]

/-- A round keeps the places of a reader right. -/
theorem placed_round
    {reader : Reader σ ε}
    (placed : reader.Placed)
    (scope : Scope)
    (wanted : Nat) :
    (reader.round scope wanted).reader.Placed := by
  apply round_keeps (motive := Placed)
  · exact placed_drain placed wanted
  · exact placed_ensureInput placed scope
  · intro filled placed
    exact placed_advance placed scope wanted

/-- Reading keeps the places of a reader right. -/
theorem placed_readChunk
    {reader : Reader σ ε}
    (placed : reader.Placed)
    (length : Nat) :
    (reader.readChunk length).2.Placed := by
  apply readChunk_keeps (motive := Placed) _ _ (placed_ready placed _) length
  · intro next wanted placed
    exact placed_round placed _ wanted
  · intro next error placed
    exact placed.congr rfl rfl rfl rfl

/-- A measured request keeps the places of a reader right. -/
theorem placed_serve
    {reader : Reader σ ε}
    {request : ReaderRequest σ}
    (measured : request.Measured)
    (placed : reader.Placed) :
    (reader.serve request).2.Placed := by
  have served := served_serve reader request
  generalize (reader.serve request).2 = next at served ⊢
  cases served with
  | readInto buffer | read length =>
      exact placed_readChunk placed _
  | closed =>
      exact placed_close placed
  | applied options =>
      refine ⟨⟨⟨placed.inputOffset, placed.inputRead, placed.window⟩, placed.inputLength, ?_⟩,
        placed.unread⟩
      change (applyOptions _ _ options reader.staged).2.inputBufferLength ≤ maxLength
      unfold applyOptions
      split
      · exact placed.staged
      · exact measured_stageOptions measured placed.staged
  | overridden overrides | altered change =>
      exact placed.congr rfl rfl rfl rfl
  | reset source =>
      exact placed_reset placed source

end

end Reader

end MemberStream
