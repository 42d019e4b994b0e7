import MemberStream.Proofs.Engine.Member
import MemberStream.Proofs.Reader.Filling
import MemberStream.Proofs.Reader.Freezing

namespace MemberStream

/-!
# The ceiling of the input buffer

The input buffer is enlarged when it is full, before the source is known to have come to
its end.  So a source that hands out fewer bytes than the ceiling is gathered whole, and
one that hands out as many as the ceiling, or more, fills the buffer at its ceiling and
is refused without a call on the engine.
-/

namespace GrowthPolicy

/-- An input buffer may not grow for one reason only: it is at its ceiling. -/
theorem eq_of_nextInputLength_error
    {policy : GrowthPolicy}
    {current : Nat}
    {error : StreamError}
    (refused : policy.nextInputLength current = .error error) :
    ∃ wanted limit,
      policy.limit = some limit ∧ limit ≤ current ∧ error = .bufferLimitExceeded wanted limit := by
  have outcome := policy.clamp_cases (max (saturatingDouble current) 1) current
  rw [show policy.clamp _ _ = _ from refused] at outcome
  cases outcome with
  | refused ceiling beyond reached =>
      exact ⟨_, _, ceiling, reached, rfl⟩

end GrowthPolicy

namespace Reader

variable {σ ε : Type}

/-- Making room keeps the input buffer within its ceiling. -/
theorem inputLength_of_makeRoom
    {reader roomy : Reader σ ε}
    {limit : Nat}
    {scope : Scope}
    {result : Except StreamError Unit}
    (limited : reader.growth.limit = some limit)
    (within : reader.inputLength ≤ limit)
    (room : reader.makeRoom scope = (result, roomy)) :
    roomy.inputLength ≤ limit := by
  unfold makeRoom at room
  split at room
  · split at room
    · rename_i grown
      cases room
      exact GrowthPolicy.le_limit_of_clamp grown limited
    · cases room
      exact within
  · cases room
    exact within

/-- Gathering keeps the input buffer within its ceiling, whatever the source does. -/
theorem inputLength_gather
    [Source σ]
    {reader : Reader σ ε}
    {limit : Nat}
    (limited : reader.growth.limit = some limit)
    (within : reader.inputLength ≤ limit)
    (scope : Scope)
    (chunks : List Bytes) :
    (reader.gather scope chunks).2.2.inputLength ≤ limit := by
  fun_induction gather reader scope chunks with
  | case1 reader chunks error full room
  | case2 reader chunks roomy room source answer
  | case5 reader chunks roomy room error source answer terminal =>
      have below := inputLength_of_makeRoom limited within room
      exact below
  | case3 reader chunks roomy room byte rest source answer count buffered transferred ih
  | case4 reader chunks roomy room error source answer interrupted ih =>
      have below := inputLength_of_makeRoom limited within room
      rw [← (roomier_of_makeRoom room).growth] at limited
      exact ih limited below

/-- Filling the input keeps the input buffer within its ceiling, whatever the source does. -/
theorem inputLength_fillInput
    [Source σ]
    {reader : Reader σ ε}
    {limit : Nat}
    (limited : reader.growth.limit = some limit)
    (within : reader.inputLength ≤ limit)
    (scope : Scope) :
    (reader.fillInput scope).2.inputLength ≤ limit := by
  let emptied : Reader σ ε := { reader with inputOffset := 0, inputRead := 0, unread := [] }
  have limitedEmptied : emptied.growth.limit = some limit := limited
  have gathers := inputLength_gather limitedEmptied within (scope ++ ["input"]) []
  unfold fillInput
  exact gathers

/-- What gathering comes to when the source hands out `more`, and that reaches the ceiling. -/
structure GathersUpTo
    (reader : Reader σ ε)
    (chunks : List Bytes)
    (more : Bytes)
    (limit : Nat)
    (outcome : Except StreamError Unit × List Bytes × Reader σ ε) :
    Prop where
  result : ∃ wanted, outcome.1 = .error (.bufferLimitExceeded wanted limit)
  chunks :
    outcome.2.1.reverse.flatten =
      chunks.reverse.flatten ++ more.take (limit - reader.inputRead)
  inputRead : outcome.2.2.inputRead = limit
  inputLength : outcome.2.2.inputLength = limit

/-- What is gathered behind a chunk is gathered behind the chunks before it. -/
theorem GathersUpTo.behind
    {reader next : Reader σ ε}
    {chunks : List Bytes}
    {chunk more : Bytes}
    {limit : Nat}
    {outcome : Except StreamError Unit × List Bytes × Reader σ ε}
    (gathered : next.GathersUpTo (chunk :: chunks) more limit outcome)
    (inputRead : next.inputRead = reader.inputRead + chunk.length)
    (fits : next.inputRead ≤ limit) :
    reader.GathersUpTo chunks (chunk ++ more) limit outcome where
  result := gathered.result
  chunks := by
    have split :
        (chunk ++ more).take (limit - reader.inputRead) =
          chunk ++ more.take (limit - next.inputRead) := by
      rw [List.take_append, List.take_of_length_le (by omega),
        show limit - reader.inputRead - chunk.length = limit - next.inputRead by omega]
    rw [gathered.chunks, split, List.reverse_cons, List.flatten_append, List.flatten_singleton,
      List.append_assoc]
  inputRead := gathered.inputRead
  inputLength := gathered.inputLength

/-- A source that serves as many bytes as the ceiling is gathered up to the ceiling, and no more. -/
theorem gathersUpTo_of_serves
    [Source σ]
    (reader : Reader σ ε)
    (scope : Scope)
    (chunks : List Bytes)
    {upstream : Bytes}
    {limit : Nat}
    (served : Serves reader.source upstream)
    (limited : reader.growth.limit = some limit)
    (within : reader.inputLength ≤ limit)
    (fits : reader.inputRead ≤ reader.inputLength)
    (long : limit ≤ reader.inputRead + upstream.length)
    (short : reader.inputRead + upstream.length < 2 ^ (63 : Nat)) :
    reader.GathersUpTo chunks upstream limit (reader.gather scope chunks) := by
  fun_induction gather reader scope chunks generalizing upstream with
  | case1 reader chunks error full room =>
      unfold makeRoom at room
      split at room
      · rename_i atEnd
        split at room
        · cases room
        · rename_i cause refused
          cases room
          obtain ⟨wanted, ceiling, same, stuck, rfl⟩ :=
            GrowthPolicy.eq_of_nextInputLength_error refused
          cases limited.symm.trans same
          have atCeiling : reader.inputRead = limit := by
            omega
          refine ⟨⟨wanted, rfl⟩, ?_, atCeiling, atEnd.symm.trans atCeiling⟩
          rw [show limit - reader.inputRead = 0 by omega, List.take_zero, List.append_nil]
      · cases room
  | case2 reader chunks roomy room source answer =>
      have roomier := roomier_of_makeRoom room
      have inputRead := roomier.inputRead
      have some := lt_of_makeRoom room fits (lt_maxLength_of_short (by omega))
      have below := inputLength_of_makeRoom limited within room
      rw [← roomier.source] at served
      have nothing := served.eq_nil_of_read (by omega) answer
      subst nothing
      rw [List.length_nil] at long
      omega
  | case3 reader chunks roomy room byte rest source answer count buffered transferred =>
      rename_i ih
      have roomier := roomier_of_makeRoom room
      have inputRead := roomier.inputRead
      have some := lt_of_makeRoom room fits (lt_maxLength_of_short (by omega))
      have below := inputLength_of_makeRoom limited within room
      have enough := Source.length_le _ _ _ _ answer
      rw [List.length_cons] at enough
      rw [← roomier.source] at served
      obtain ⟨left, rfl, behind⟩ := served.append_of_read (List.cons_ne_nil _ _) answer
      rw [List.length_append, List.length_cons] at long short
      have gathered := ih behind (by rw [← limited, ← roomier.growth]; rfl) below
        (by change roomy.inputRead + (rest.length + 1) ≤ roomy.inputLength; omega)
        (by change _ ≤ roomy.inputRead + (rest.length + 1) + left.length; omega)
        (by change roomy.inputRead + (rest.length + 1) + left.length < 2 ^ 63; omega)
      refine gathered.behind ?_ ?_
      · rw [← inputRead]
        rfl
      · change roomy.inputRead + (rest.length + 1) ≤ limit
        omega
  | case4 reader chunks roomy room error source answer interrupted ih =>
      have roomier := roomier_of_makeRoom room
      have inputRead := roomier.inputRead
      have some := lt_of_makeRoom room fits (lt_maxLength_of_short (by omega))
      have below := inputLength_of_makeRoom limited within room
      rw [← roomier.source] at served
      have gathered := ih (served.interrupted_of_read answer).2
        (by rw [← limited, ← roomier.growth]) below
        (by change roomy.inputRead ≤ roomy.inputLength; omega)
        (by change limit ≤ roomy.inputRead + upstream.length; omega)
        (by change roomy.inputRead + upstream.length < 2 ^ 63; omega)
      refine ⟨gathered.result, ?_, gathered.inputRead, gathered.inputLength⟩
      rw [gathered.chunks, ← inputRead]
  | case5 reader chunks roomy room error source answer terminal =>
      rw [← (roomier_of_makeRoom room).source] at served
      exact absurd (served.interrupted_of_read answer).1 terminal

/-- A reader whose buffers are within the ceiling of its parameters. -/
structure Capped
    (reader : Reader σ ε) :
    Prop where
  growth : reader.growth.limit = reader.effective.maxBufferLength
  input : ∀ limit, reader.growth.limit = some limit → reader.inputLength ≤ limit
  output : ∀ limit, reader.growth.limit = some limit → reader.outputLength ≤ limit

/-- Under the same ceiling the output buffer may change as long as it stays within that. -/
theorem Capped.of_output
    {next reader : Reader σ ε}
    (capped : reader.Capped)
    (growth : next.growth.limit = reader.growth.limit)
    (effective : next.effective = reader.effective)
    (inputLength : next.inputLength = reader.inputLength)
    (output : ∀ limit, reader.growth.limit = some limit → next.outputLength ≤ limit) :
    next.Capped where
  growth := by
    rw [growth, effective]
    exact capped.growth
  input := by
    rw [growth, inputLength]
    exact capped.input
  output := by
    rw [growth]
    exact output

/-- States with the same buffers are within the same ceiling. -/
theorem Capped.of_same
    {next reader : Reader σ ε}
    (capped : reader.Capped)
    (growth : next.growth = reader.growth)
    (effective : next.effective = reader.effective)
    (inputLength : next.inputLength = reader.inputLength)
    (outputLength : next.outputLength = reader.outputLength) :
    next.Capped := by
  apply capped.of_output (congrArg GrowthPolicy.limit growth) effective inputLength
  rw [outputLength]
  exact capped.output

section Session

variable [EngineCalls ε]

/-- A session that starts has its buffers within the ceiling. -/
theorem capped_of_startSession
    {reader started : Reader σ ε}
    {scope : Scope}
    (starts : reader.startSession scope = (.ok (), started)) :
    started.Capped := by
  unfold startSession at starts
  dsimp only at starts
  split at starts
  · cases starts
  · cases starts
    exact
      ⟨rfl, fun _ limited => GrowthPolicy.initialLength_le limited _,
        fun _ limited => GrowthPolicy.initialLength_le limited _⟩

/-- Getting ready keeps the buffers within the ceiling. -/
theorem capped_ready
    {reader : Reader σ ε}
    (capped : reader.Capped)
    (scope : Scope) :
    (reader.ready scope).2.Capped := by
  apply ready_keeps capped
  · intro _ started starts
    exact capped_of_startSession starts
  · intro _ error idle starts
    obtain ⟨engine, span, trace, -, rfl⟩ := refused_of_startSession starts
    exact capped.of_same rfl rfl rfl rfl

/-- A step or an enlargement keeps the buffers within the ceiling. -/
theorem capped_advance
    {reader : Reader σ ε}
    (capped : reader.Capped)
    (scope : Scope)
    (wanted : Nat) :
    (reader.advance scope wanted).reader.Capped := by
  have answered := answered_advance reader scope wanted
  generalize reader.advance scope wanted = round at answered
  have doubled
      {result : Except StreamError Nat}
      {growth : GrowthPolicy}
      (grown : reader.growth.nextOutputLength wanted reader.outputLength = (result, growth)) :
      growth.limit = reader.growth.limit ∧
        ∀ length limit, result = .ok length → growth.limit = some limit → length ≤ limit := by
    cases grown
    refine ⟨rfl, ?_⟩
    intro length limit grown limited
    exact GrowthPolicy.le_limit_of_clamp grown limited
  cases answered with
  | overreport answer beyond | idle answer within idle | engine answer terminal
  | step answer within busy =>
      exact capped.of_same rfl rfl rfl rfl
  | limit answer refused =>
      exact capped.of_output (doubled refused).1 rfl rfl capped.output
  | @grow bytes engine length growth answer grown larger =>
      obtain ⟨same, within⟩ := doubled grown
      have output (limit : Nat) (limited : reader.growth.limit = some limit) : length ≤ limit :=
        within length limit rfl (same.trans limited)
      exact capped.of_output same rfl rfl output
  | saturated answer grown stuck =>
      exact capped.of_output (doubled grown).1 rfl rfl capped.output

/-- Closing keeps the buffers within the ceiling. -/
theorem capped_close
    {reader : Reader σ ε}
    (capped : reader.Capped) :
    reader.close.2.Capped := by
  have torn : reader.teardown.Capped := by
    unfold teardown
    split
    · exact capped.of_same rfl rfl rfl rfl
    · exact capped
  have closes := closes_close reader
  generalize reader.close = outcome at closes
  cases closes with
  | again phase =>
      exact capped
  | idle phase | closed phase unfailed answer | refused phase unfailed answer =>
      exact capped.of_same rfl rfl rfl rfl
  | failed phase kept =>
      exact torn.of_same rfl rfl rfl rfl

/-- A reset keeps the buffers within the ceiling. -/
theorem capped_reset
    {reader : Reader σ ε}
    (capped : reader.Capped)
    (source : σ) :
    (reader.reset source).2.Capped := by
  have cleared : reader.cleared.Capped := by
    unfold cleared teardown
    split <;> exact capped.of_same rfl rfl rfl rfl
  rw [reset_eq]
  split
  · rename_i starts
    exact (capped_of_startSession starts).of_same rfl rfl rfl rfl
  · rename_i starts
    obtain ⟨engine, span, trace, -, rfl⟩ := refused_of_startSession starts
    exact cleared.of_same rfl rfl rfl rfl

variable [Source σ]

omit [EngineCalls ε] in
/-- Ensuring the input keeps the buffers within the ceiling. -/
theorem capped_ensureInput
    {reader : Reader σ ε}
    (capped : reader.Capped)
    (scope : Scope) :
    (reader.ensureInput scope).2.Capped := by
  have fills : (reader.fillInput scope).2.Capped := by
    have same := sameOutput_fillInput reader scope
    refine ⟨?_, ?_, ?_⟩
    · rw [same.growth, same.effective]
      exact capped.growth
    · rw [same.growth]
      intro limit limited
      exact inputLength_fillInput limited (capped.input limit limited) scope
    · rw [same.growth, same.outputLength]
      exact capped.output
  rcases ensureInput_reader reader scope with ⟨-, same⟩ | same <;> rw [same]
  · exact fills
  · exact capped

/-- A round keeps the buffers within the ceiling. -/
theorem capped_round
    {reader : Reader σ ε}
    (capped : reader.Capped)
    (scope : Scope)
    (wanted : Nat) :
    (reader.round scope wanted).reader.Capped := by
  apply round_keeps (motive := fun next => next.Capped)
  · exact capped.of_same rfl rfl rfl rfl
  · exact capped_ensureInput capped scope
  · intro filled capped
    exact capped_advance capped scope wanted

/-- A read keeps the buffers within the ceiling. -/
theorem capped_readChunk
    {reader : Reader σ ε}
    (capped : reader.Capped)
    (length : Nat) :
    (reader.readChunk length).2.Capped := by
  apply readChunk_keeps (motive := fun next => next.Capped) _ _ (capped_ready capped _) length
  · intro next wanted capped
    exact capped_round capped _ wanted
  · intro next error capped
    exact capped.of_same rfl rfl rfl rfl

/-- Every request keeps the buffers within the ceiling. -/
theorem capped_serve
    {reader : Reader σ ε}
    (capped : reader.Capped)
    (request : ReaderRequest σ) :
    (reader.serve request).2.Capped := by
  have served := served_serve reader request
  generalize (reader.serve request).2 = next at served ⊢
  cases served with
  | readInto buffer | read length =>
      exact capped_readChunk capped _
  | closed =>
      exact capped_close capped
  | applied options | overridden overrides | altered change =>
      exact capped.of_same rfl rfl rfl rfl
  | reset source =>
      exact capped_reset capped source

/-- Whatever is requested of a reader, its buffers are within the ceiling. -/
theorem capped_serveEach
    (source : σ)
    (engine : ε)
    (overrides : Overrides)
    (staged : ParameterSet)
    (requests : List (ReaderRequest σ)) :
    (({ source, engine, overrides, staged } : Reader σ ε).serveEach requests).Capped :=
  serveEach_keeps (motive := fun next => next.Capped)
    (fun _ request _ capped => capped_serve capped request)
    ⟨rfl, nofun, nofun⟩

end Session

end Reader

end MemberStream
