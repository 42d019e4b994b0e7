import MemberStream.Proofs.Reader.Ceiling
import MemberStream.Proofs.Reader.Freezing
import MemberStream.Proofs.Reader.Session
import MemberStream.Rehearsal.Engine
import MemberStream.Rehearsal.Transport

namespace MemberStream

/-!
# Which sources fit

The first read of a session fills the input buffer.  With a ceiling it comes to an engine
call on the whole source if the source is shorter than the ceiling; otherwise the read
fails, with the buffer full up to the ceiling, and the engine gets none of it.
-/

namespace Reader

variable {σ ε : Type}

/-- A reader whose session has started and that has read nothing yet. -/
structure Begun
    (reader : Reader σ ε) :
    Prop where
  phase : reader.phase = .active
  failure : reader.failure = none
  inputOffset : reader.inputOffset = 0
  inputRead : reader.inputRead = 0
  sourceTotal : reader.sourceTotal = 0
  sourceDone : reader.sourceDone = false
  outputLeft : reader.outputLeft = 0
  capped : reader.Capped

/-- A session that starts has begun, whatever source it is given. -/
theorem begun_of_startSession
    [EngineCalls ε]
    {reader started : Reader σ ε}
    {scope : Scope}
    (unfailed : reader.failure = none)
    (starts : reader.startSession scope = (.ok (), started))
    (source : σ) :
    Begun { started with source := source } := by
  have shape := started_of_startSession starts
  have fresh := isFresh_of_startSession unfailed starts
  exact
    ⟨shape.phase, fresh.failure, fresh.inputOffset, fresh.inputRead, fresh.sourceTotal,
      fresh.sourceDone, shape.outputLeft,
      (capped_of_startSession starts).of_same rfl rfl rfl rfl⟩

/-- How a reader gets ready for the first read of a session. -/
inductive Begins
    [EngineCalls ε]
    (reader : Reader σ ε) :
    Reader σ ε →
    Prop where
  /-- It is idle, and the read starts the session. -/
  | started
      {active : Reader σ ε}
      (idle : reader.phase = .idle)
      (readies : reader.ready reader.scope = (.ok (), active)) :
      Begins reader active
  /-- A reset has just started the session. -/
  | renewed
      {before : Reader σ ε}
      {source previous : σ}
      (resets : before.reset source = (.ok previous, reader)) :
      Begins reader reader

/-- A session that begins has begun, and the reader is ready for its first read. -/
theorem begun_of_begins
    [EngineCalls ε]
    {reader active : Reader σ ε}
    (begins : Begins reader active) :
    active.Begun ∧ reader.ready reader.scope = (.ok (), active) := by
  cases begins with
  | started idle readies =>
      refine ⟨?_, readies⟩
      unfold ready at readies
      split at readies
      · cases readies
      · rename_i unfailed
        rw [idle] at readies
        dsimp only at readies
        split at readies
        · rename_i started starts
          cases readies
          exact begun_of_startSession unfailed starts active.source
        · cases readies
  | renewed resets =>
      have begun : reader.Begun := by
        rw [reset_eq] at resets
        split at resets
        · rename_i started starts
          cases resets
          exact begun_of_startSession rfl starts _
        · cases resets
      exact ⟨begun, ready_of_active begun.failure begun.phase reader.scope⟩

/-- A reader that has begun has read nothing of what its source serves. -/
theorem Begun.unread
    [Source σ]
    {reader : Reader σ ε}
    {upstream : Bytes}
    (begun : reader.Begun)
    (served : Serves reader.source upstream) :
    reader.Unread upstream where
  served := served
  inputOffset := begun.inputOffset
  inputRead := begun.inputRead
  sourceTotal := begun.sourceTotal
  sourceDone := begun.sourceDone

section Filling

variable [Source σ]

/-- With nothing read yet, ensuring the input fills it. -/
theorem ensureInput_eq_of_begun
    {reader : Reader σ ε}
    (begun : reader.Begun)
    (scope : Scope) :
    reader.ensureInput scope =
      match reader.fillInput scope with
      | (.error error, failed) =>
          (.error error, failed)
      | (.ok (), filled) =>
          if filled.sourceTotal = 0 then
            (.error .emptyBuffer, filled)
          else
            (.ok (), filled) := by
  have empty : (reader.inputExhausted && !reader.sourceDone) = true := by
    simp [inputExhausted, begun.inputOffset, begun.inputRead, begun.sourceDone]
  unfold ensureInput
  exact if_pos empty

/-- What filling comes to when the source reaches the ceiling. -/
theorem fillInput_of_reached
    {reader : Reader σ ε}
    {upstream : Bytes}
    {limit : Nat}
    (begun : reader.Begun)
    (limited : reader.growth.limit = some limit)
    (served : Serves reader.source upstream)
    (long : limit ≤ upstream.length)
    (short : upstream.length < 2 ^ (63 : Nat))
    (scope : Scope) :
    ∃ wanted filled,
      reader.fillInput scope = (.error (.bufferLimitExceeded wanted limit), filled) ∧
        filled.unread = upstream.take limit ∧
        filled.inputRead = limit ∧
        filled.inputLength = limit := by
  have gathers :=
    gathersUpTo_of_serves { reader with inputOffset := 0, inputRead := 0, unread := [] }
      (scope ++ ["input"]) [] served limited (begun.capped.input limit limited) (Nat.zero_le _)
      (by rw [Nat.zero_add]; exact long) (by rw [Nat.zero_add]; exact short)
  unfold fillInput
  dsimp only
  obtain ⟨wanted, result⟩ := gathers.result
  refine ⟨wanted, _, congrArg (fun failure => (failure, _)) result, ?_, gathers.inputRead,
    gathers.inputLength⟩
  exact gathers.chunks

/-- What filling comes to when the source is shorter than the ceiling. -/
theorem fillInput_of_below
    {reader : Reader σ ε}
    {upstream : Bytes}
    {limit : Nat}
    (begun : reader.Begun)
    (limited : reader.growth.limit = some limit)
    (served : Serves reader.source upstream)
    (below : upstream.length < limit)
    (short : upstream.length < 2 ^ (63 : Nat))
    (scope : Scope) :
    ∃ filled,
      reader.fillInput scope = (.ok (), filled) ∧
        filled.unread = upstream ∧
        filled.inputRead = upstream.length ∧
        filled.sourceTotal = upstream.length := by
  have room : reader.HasRoom upstream.length := by
    intro other same
    cases limited.symm.trans same
    exact ⟨begun.capped.input limit limited, below⟩
  have gathers :=
    gathersAll_of_serves { reader with inputOffset := 0, inputRead := 0, unread := [] }
      (scope ++ ["input"]) [] served (by rw [Nat.zero_add]; exact room) (Nat.zero_le _)
      (by rw [Nat.zero_add]; exact lt_maxLength_of_short short)
  unfold fillInput
  dsimp only
  refine ⟨_, congrArg (fun result => (result, _)) gathers.result, gathers.chunks, ?_, ?_⟩
  · exact gathers.inputRead.trans (Nat.zero_add _)
  · refine gathers.sourceTotal.trans ?_
    change reader.sourceTotal + _ = _
    rw [begun.sourceTotal, Nat.zero_add]

end Filling

section Reading

variable [EngineCalls ε] [Source σ]

/-- A first read whose input cannot be ensured fails for that, and calls no engine. -/
theorem readChunk_of_refused
    {reader active failed : Reader σ ε}
    {error : StreamError}
    {length : Nat}
    (begins : Begins reader active)
    (some : 0 < length)
    (refused : active.ensureInput (reader.scope ++ ["read"]) = (.error error, failed)) :
    (reader.readChunk length).1 = .error error ∧
      (reader.readChunk length).2.failure = .some error ∧
      (reader.readChunk length).2.engine = active.engine := by
  obtain ⟨begun, readies⟩ := begun_of_begins begins
  have same := sameOutput_ensureInput active (reader.scope ++ ["read"])
  rw [refused] at same
  have rounds : active.round (reader.scope ++ ["read"]) length = .failed error failed := by
    unfold round
    rw [begun.outputLeft, if_neg (Nat.lt_irrefl 0), refused]
  have reads : reader.readChunk length =
      failed.failAfter (reader.scope ++ ["read"]) [] error := by
    rw [readChunk_of_ready readies, deliver_of_pos _ _ [] (Nat.ne_of_gt some), rounds]
  rw [reads]
  exact ⟨rfl, rfl, same.engine⟩

end Reading

section Recorded

variable [EngineCalls ε] [Source σ]

/-- A read only adds to the calls on the engine. -/
theorem calls_suffix_deliver
    (reader : Reader σ (RecordedEngine ε))
    (scope : Scope)
    (wanted : Nat)
    (delivered : Bytes) :
    reader.engine.calls <:+ (reader.deliver scope wanted delivered).2.engine.calls := by
  apply deliver_keeps
    (motive := fun (next : Reader σ (RecordedEngine ε)) =>
      reader.engine.calls <:+ next.engine.calls)
    _ _ wanted delivered List.suffix_rfl
  · intro next wanted earlier
    refine earlier.trans ?_
    rcases decompressed_of_round next scope wanted with silent | ⟨input, capacity, reply, answer⟩
    · exact ⟨[], by rw [silent, List.nil_append]⟩
    · rw [RecordedEngine.calls_of_decompress answer]
      exact List.suffix_cons _ _
  · intro next error earlier
    exact earlier

/-- A first read whose input is ensured hands all of it to the engine. -/
theorem decompressed_of_ensured
    {reader active filled : Reader σ (RecordedEngine ε)}
    {length : Nat}
    (begins : Begins reader active)
    (some : 0 < length)
    (ensured : active.ensureInput (reader.scope ++ ["read"]) = (.ok (), filled))
    (unexhausted : filled.inputExhausted = false) :
    ∃ capacity reply,
      .decompress filled.unread capacity reply :: active.engine.calls <:+
        (reader.readChunk length).2.engine.calls := by
  obtain ⟨begun, readies⟩ := begun_of_begins begins
  have same := sameOutput_ensureInput active (reader.scope ++ ["read"])
  rw [ensured] at same
  have rounds : active.round (reader.scope ++ ["read"]) length =
      filled.advance (reader.scope ++ ["read"]) length := by
    unfold round
    rw [begun.outputLeft, if_neg (Nat.lt_irrefl 0), ensured]
    dsimp only
    rw [if_neg (by rw [unexhausted]; exact Bool.false_ne_true)]
  obtain ⟨-, reply, answer⟩ := decompressed_of_advance filled (reader.scope ++ ["read"]) length
  have calls := RecordedEngine.calls_of_decompress answer
  rw [same.engine, ← rounds] at calls
  refine ⟨filled.outputLength, reply, ?_⟩
  rw [← calls, readChunk_of_ready readies, deliver_of_pos _ _ [] (Nat.ne_of_gt some)]
  cases active.round (reader.scope ++ ["read"]) length with
  | took bytes next | moved next =>
      exact calls_suffix_deliver _ _ _ _
  | ended last =>
      exact List.suffix_rfl
  | failed error last =>
      dsimp only
      rw [failAfter_reader]
      exact List.suffix_rfl

/-- A reader that has failed makes no data call before it is reset. -/
theorem quiet_serveEach_of_failure
    {reader : Reader σ (RecordedEngine ε)}
    {error : StreamError}
    {requests : List (ReaderRequest σ)}
    (kept : reader.failure = some error)
    (noReset : ∀ request, request ∈ requests → request.isReset = false) :
    ∃ more,
      (reader.serveEach requests).engine.calls = more ++ reader.engine.calls ∧
        ∀ call, call ∈ more → call.isData = false := by
  have serves :
      (reader.serveEach requests).failure = some error ∧
        ∃ more,
          (reader.serveEach requests).engine.calls = more ++ reader.engine.calls ∧
            ∀ call, call ∈ more → call.isData = false := by
    apply serveEach_keeps
      (motive := fun (next : Reader σ (RecordedEngine ε)) =>
        next.failure = some error ∧
          ∃ more,
            next.engine.calls = more ++ reader.engine.calls ∧
              ∀ call, call ∈ more → call.isData = false)
      _ ⟨kept, [], rfl, fun _ member => by cases member⟩
    intro next request member ⟨failure, more, calls, quiet⟩
    have refuses := refuses_of_failure failure
    have served := served_serve next request
    generalize (next.serve request).2 = last at served ⊢
    cases served with
    | readInto buffer | read length =>
        rw [refuses.readChunk]
        exact ⟨failure, more, calls, quiet⟩
    | closed =>
        have closes := closes_close next
        generalize next.close = outcome at closes
        cases closes with
        | again phase | idle phase =>
            exact ⟨failure, more, calls, quiet⟩
        | failed phase kept =>
            unfold teardown
            split
            · refine ⟨failure, _ :: more, congrArg (List.cons _) calls, ?_⟩
              intro call member
              rcases List.mem_cons.mp member with rfl | earlier
              · rfl
              · exact quiet call earlier
            · exact ⟨failure, more, calls, quiet⟩
        | closed phase unfailed answer | refused phase unfailed answer =>
            rw [failure] at unfailed
            cases unfailed
    | applied options | overridden overrides | altered change =>
        exact ⟨failure, more, calls, quiet⟩
    | reset source =>
        have reset := noReset _ member
        cases reset
  exact serves.2

/-- What the first read of a session with a ceiling comes to, if the source serves some bytes. -/
structure FillsWithin
    (reader active : Reader σ (RecordedEngine ε))
    (upstream : Bytes)
    (limit : Nat)
    (scope : Scope) :
    Prop where
  refused_iff :
    (∃ wanted, (active.fillInput scope).1 = .error (.bufferLimitExceeded wanted limit)) ↔
      limit ≤ upstream.length
  filled : upstream.length < limit → (active.fillInput scope).1 = .ok ()
  /-- However often the buffer has grown, it holds what has been read. -/
  unread : (active.fillInput scope).2.unread = upstream.take limit
  inputRead : (active.fillInput scope).2.inputRead = min upstream.length limit
  inputLength : (active.fillInput scope).2.inputLength ≤ limit
  /-- A source that is shorter than the ceiling is handed to the engine, whole. -/
  handed :
    upstream.length < limit →
      ∀ length,
        0 < length →
          ∃ capacity reply,
            .decompress upstream capacity reply :: active.engine.calls <:+
              (reader.readChunk length).2.engine.calls
  /-- No part of any other is, before the next reset. -/
  withheld :
    limit ≤ upstream.length →
      ∀ length,
        0 < length →
          (∃ wanted, (reader.readChunk length).1 = .error (.bufferLimitExceeded wanted limit)) ∧
            ∀ requests : List (ReaderRequest σ),
              (∀ request, request ∈ requests → request.isReset = false) →
                ∃ more,
                  ((reader.readChunk length).2.serveEach requests).engine.calls =
                      more ++ active.engine.calls ∧
                    ∀ call, call ∈ more → call.isData = false

/-- A source that is shorter than the ceiling fits. -/
theorem fillsWithin_of_below
    {reader active : Reader σ (RecordedEngine ε)}
    {upstream : Bytes}
    {limit : Nat}
    (begins : Begins reader active)
    (limited : active.growth.limit = some limit)
    (served : Serves active.source upstream)
    (nonempty : upstream ≠ [])
    (below : upstream.length < limit)
    (short : upstream.length < 2 ^ (63 : Nat))
    (scope : Scope) :
    FillsWithin reader active upstream limit scope := by
  obtain ⟨begun, -⟩ := begun_of_begins begins
  obtain ⟨filled, fills, unread, inputRead, sourceTotal⟩ :=
    fillInput_of_below begun limited served below short scope
  refine ⟨⟨?_, fun long => absurd below (by omega)⟩, fun _ => by rw [fills], ?_, ?_,
    inputLength_fillInput limited (begun.capped.input limit limited) scope, ?_,
    fun long => absurd below (by omega)⟩
  · rintro ⟨wanted, refused⟩
    rw [fills] at refused
    cases refused
  · rw [fills, List.take_of_length_le (by omega)]
    exact unread
  · rw [fills, Nat.min_eq_left (by omega)]
    exact inputRead
  · intro _ length some
    obtain ⟨filled, ensures, -, content, offset⟩ :=
      ensureInput_of_unread (reader.scope ++ ["read"]) (begun.unread served)
        (by
          intro other same
          cases limited.symm.trans same
          exact ⟨begun.capped.input limit limited, below⟩)
        (lt_maxLength_of_short short)
    rw [if_neg nonempty] at ensures
    have whole : filled.unread = upstream := by
      rw [content.unread, offset, List.drop_zero]
    have unexhausted : filled.inputExhausted = false := by
      rw [← Bool.not_eq_true, content.exhausted_iff, whole]
      exact nonempty
    have handed := decompressed_of_ensured begins some ensures unexhausted
    rwa [whole] at handed

/-- A source that reaches the ceiling does not fit. -/
theorem fillsWithin_of_reached
    {reader active : Reader σ (RecordedEngine ε)}
    {upstream : Bytes}
    {limit : Nat}
    (begins : Begins reader active)
    (limited : active.growth.limit = some limit)
    (served : Serves active.source upstream)
    (long : limit ≤ upstream.length)
    (short : upstream.length < 2 ^ (63 : Nat))
    (scope : Scope) :
    FillsWithin reader active upstream limit scope := by
  obtain ⟨begun, -⟩ := begun_of_begins begins
  obtain ⟨wanted, filled, fills, unread, inputRead, inputLength⟩ :=
    fillInput_of_reached begun limited served long short scope
  refine ⟨⟨fun _ => long, fun _ => ⟨wanted, by rw [fills]⟩⟩, fun below => absurd long (by omega),
    by rw [fills]; exact unread, ?_,
    inputLength_fillInput limited (begun.capped.input limit limited) scope,
    fun below => absurd long (by omega), ?_⟩
  · rw [fills, Nat.min_eq_right long]
    exact inputRead
  · intro _ length some
    obtain ⟨wanted, failed, fails, -⟩ :=
      fillInput_of_reached begun limited served long short (reader.scope ++ ["read"])
    have refused :
        active.ensureInput (reader.scope ++ ["read"]) =
          (.error (.bufferLimitExceeded wanted limit), failed) := by
      rw [ensureInput_eq_of_begun begun, fails]
    obtain ⟨result, kept, engine⟩ := readChunk_of_refused begins some refused
    refine ⟨⟨wanted, result⟩, ?_⟩
    intro requests noReset
    rw [← engine]
    exact quiet_serveEach_of_failure kept noReset

/--
The input buffer of a reader is never longer than the ceiling of its session.  Filling it
fails for the ceiling if and only if the source serves as many bytes as the ceiling: a
shorter source is read whole, in whatever pieces it comes, and handed to the engine, and
of any other the engine gets nothing.
-/
theorem fillsWithin_limit
    (engine : ε)
    (overrides : Overrides)
    (staged : ParameterSet) :
    (∀ (source : σ) (requests : List (ReaderRequest σ)),
      let built : Reader σ (RecordedEngine ε) := { source, engine := { engine }, overrides, staged }
      let reader := built.serveEach requests
      ∀ limit, reader.effective.maxBufferLength = some limit → reader.inputLength ≤ limit) ∧
      ∀ (reader active : Reader σ (RecordedEngine ε)) (upstream : Bytes) (limit : Nat)
        (scope : Scope),
        Begins reader active →
          active.effective.maxBufferLength = some limit →
            Serves active.source upstream →
              upstream ≠ [] →
                upstream.length < 2 ^ (63 : Nat) →
                  FillsWithin reader active upstream limit scope := by
  constructor
  · intro source requests built reader limit limited
    have capped : reader.Capped :=
      capped_serveEach source ({ engine } : RecordedEngine ε) overrides staged requests
    exact capped.input limit (capped.growth.trans limited)
  · intro reader active upstream limit scope begins limited served nonempty short
    have ceiling := (begun_of_begins begins).1.capped.growth.trans limited
    by_cases below : upstream.length < limit
    · exact fillsWithin_of_below begins ceiling served nonempty below short scope
    · exact fillsWithin_of_reached begins ceiling served (by omega) short scope

end Recorded

/-- The law holds of a source one byte short of the ceiling, and of one that reaches it. -/
theorem fillsWithin_limit_reached :
    let staged : ParameterSet :=
      { inputBufferLength := 131072, maxBufferLength := some 131072 }
    let source (count : Nat) : ScriptedSource :=
      { data := List.replicate count 65, perRead := some 4096, interruptEvery := 2 }
    let reader (count : Nat) : Reader ScriptedSource (RecordedEngine ScriptedEngine) :=
      { source := source count, engine := { engine := {} }, staged }
    (∃ capacity reply,
      .decompress (List.replicate 131071 65) capacity reply ::
          ((reader 131071).ready (reader 131071).scope).2.engine.calls <:+
        ((reader 131071).readChunk 4).2.engine.calls) ∧
      (∃ wanted,
        ((reader 131072).readChunk 4).1 = .error (.bufferLimitExceeded wanted 131072)) ∧
      ((reader 131072).serveEach [.reset (source 1)]).inputLength ≤ 131072 := by
  intro staged source reader
  obtain ⟨capped, fills⟩ :=
    fillsWithin_limit (σ := ScriptedSource) ({} : ScriptedEngine) {} staged
  have served (count : Nat) : Serves (source count) (List.replicate count 65) :=
    ScriptedSource.serves (source count) rfl (by simp [source])
  have nonempty {count : Nat} (some : 0 < count) : List.replicate count (65 : UInt8) ≠ [] := by
    rw [Ne, List.replicate_eq_nil_iff]
    omega
  have below :=
    fills (reader 131071) _ (List.replicate 131071 65) 131072 [] (.started rfl rfl) rfl
      (served 131071) (nonempty (by decide)) (by rw [List.length_replicate]; decide)
  have reached :=
    fills (reader 131072) _ (List.replicate 131072 65) 131072 [] (.started rfl rfl) rfl
      (served 131072) (nonempty (by decide)) (by rw [List.length_replicate]; decide)
  exact
    ⟨below.handed (by rw [List.length_replicate]; decide) 4 (by decide),
      (reached.withheld (Nat.le_of_eq List.length_replicate.symm) 4 (by decide)).1,
      capped (source 131072) [.reset (source 1)] 131072 rfl⟩

end Reader

end MemberStream
