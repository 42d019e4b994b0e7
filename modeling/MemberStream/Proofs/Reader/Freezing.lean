import MemberStream.Proofs.Reader.Discipline
import MemberStream.Rehearsal.Engine
import MemberStream.Rehearsal.Transport

namespace MemberStream

/-!
# A failure freezes a reader

A failure that comes up in a read is kept and answers every read from then on.
What closing comes to depends on the session: the failure, if one had started, and
success if the failure was that none would start.  Without a failure the first
close decides what all later ones come to.
-/

/-- Whether a request reads. -/
def ReaderRequest.isRead
    {σ : Type} :
    ReaderRequest σ → Bool
  | .readInto _ | .read _ =>
      true
  | _ =>
      false

namespace Reader

variable {σ ε : Type} [EngineCalls ε]

/-- What closing comes to for a reader that has failed: the failure, if it had a session. -/
def verdict
    (failed : Reader σ ε)
    (error : StreamError) :
    Except StreamError Unit :=
  if failed.phase = .active then
    .error error
  else
    .ok ()

/-- The states of a reader that has failed, before it is reset. -/
structure Frozen
    (failed : Reader σ ε)
    (error : StreamError)
    (reader : Reader σ ε) :
    Prop where
  failure : reader.failure = some error
  closing :
    reader.phase = failed.phase ∨
      reader.phase = .closed ∧ reader.closeResult = some (failed.verdict error)

/-- Closing a reader that has failed comes to the verdict, the first time and ever after. -/
theorem frozen_close
    {failed reader : Reader σ ε}
    {error : StreamError}
    (unclosed : failed.phase ≠ .closed)
    (frozen : Frozen failed error reader) :
    reader.close.1 = failed.verdict error ∧ Frozen failed error reader.close.2 := by
  have torn : reader.teardown.failure = reader.failure := by
    unfold teardown
    split <;> rfl
  have closes := closes_close reader
  generalize reader.close = outcome at closes
  cases closes with
  | again phase =>
      rcases frozen.closing with same | ⟨-, kept⟩
      · exact absurd (same.symm.trans phase) unclosed
      · refine ⟨?_, frozen⟩
        rw [kept]
        rfl
  | idle idle =>
      have same : reader.phase = failed.phase := by
        rcases frozen.closing with same | ⟨closed, -⟩
        · exact same
        · rw [idle] at closed
          cases closed
      have ok : failed.verdict error = .ok () := by
        unfold verdict
        rw [← same, idle]
        rfl
      exact ⟨ok.symm, frozen.failure, .inr ⟨rfl, congrArg some ok.symm⟩⟩
  | @failed cause trace phase kept =>
      have same : reader.phase = failed.phase := by
        rcases frozen.closing with same | ⟨closed, -⟩
        · exact same
        · rw [phase] at closed
          cases closed
      have refused : failed.verdict error = .error cause := by
        have causes := frozen.failure.symm.trans kept
        cases causes
        unfold verdict
        rw [← same, phase]
        rfl
      exact ⟨refused.symm, torn.trans frozen.failure, .inr ⟨rfl, congrArg some refused.symm⟩⟩
  | closed phase unfailed answer | refused phase unfailed answer =>
      rw [frozen.failure] at unfailed
      cases unfailed

variable [Source σ]

/-- What a reader answers to reads that has failed. -/
structure Refuses
    (reader : Reader σ ε)
    (error : StreamError) :
    Prop where
  readChunk : ∀ length, reader.readChunk length = (.error error, reader)
  /-- The buffer of the caller is left alone. -/
  readInto : ∀ buffer, reader.readInto buffer = (.error error, buffer, reader)
  read : ∀ length, reader.read length = (.error (.wrapped error), reader)

/-- A reader that has kept a failure answers with that. -/
theorem refuses_of_failure
    {reader : Reader σ ε}
    {error : StreamError}
    (kept : reader.failure = some error) :
    reader.Refuses error := by
  have refused := readChunk_of_unready (ready_of_failed kept reader.scope)
  refine ⟨refused, ?_, ?_⟩
  · intro buffer
    rw [readInto_eq, refused]
    rfl
  · intro length
    unfold Reader.read
    rw [refused]
    rfl

/-- No request but a reset thaws a reader that has failed. -/
theorem frozen_serve
    {failed reader : Reader σ ε}
    {error : StreamError}
    {request : ReaderRequest σ}
    (unclosed : failed.phase ≠ .closed)
    (noReset : request.isReset = false)
    (frozen : Frozen failed error reader) :
    Frozen failed error (reader.serve request).2 := by
  have refuses := refuses_of_failure frozen.failure
  have served := served_serve reader request
  generalize (reader.serve request).2 = next at served ⊢
  cases served with
  | readInto buffer | read length =>
      rw [refuses.readChunk]
      exact frozen
  | closed =>
      exact (frozen_close unclosed frozen).2
  | applied options | overridden overrides | altered change =>
      exact ⟨frozen.failure, frozen.closing⟩
  | reset source =>
      cases noReset

/-- A read from a reader that gets ready leaves it active. -/
theorem phase_of_readied
    {reader active : Reader σ ε}
    (readies : reader.ready reader.scope = (.ok (), active))
    (length : Nat) :
    (reader.readChunk length).2.phase = .active := by
  rw [readChunk_of_ready readies]
  apply deliver_keeps (motive := fun next => next.phase = .active)
  · intro next wanted phase
    exact (sameSession_round next _ wanted).phase.trans phase
  · intro next error phase
    exact phase
  · exact (readied_of_ready readies).open.1

/-- A read that brings up a failure does so in a session, or because none would start. -/
theorem ready_of_failure
    {reader : Reader σ ε}
    {length : Nat}
    {error : StreamError}
    (unfailed : reader.failure = none)
    (fails : (reader.readChunk length).2.failure = some error) :
    (∃ active,
      reader.ready reader.scope = (.ok (), active) ∧
        (reader.readChunk length).2.phase = .active) ∨
      ∃ idle,
        reader.ready reader.scope = (.error error, idle) ∧
          (reader.readChunk length).2.phase = .idle := by
  cases readies : reader.ready reader.scope with
  | mk result next =>
      cases result with
      | ok =>
          exact .inl ⟨next, rfl, phase_of_readied readies length⟩
      | error cause =>
          rw [readChunk_of_unready readies] at fails ⊢
          cases unready_of_ready readies with
          | failed kept | closed _ phase =>
              rw [unfailed] at fails
              cases fails
          | refused _ phase answer =>
              cases fails
              exact .inr ⟨_, rfl, phase⟩

/-- A read leaves a reader as reading a chunk does. -/
theorem serve_of_isRead
    {request : ReaderRequest σ}
    (reads : request.isRead = true)
    (reader : Reader σ ε) :
    ∃ length, (reader.serve request).2 = (reader.readChunk length).2 := by
  cases request with
  | readInto buffer =>
      exact ⟨buffer.length, readInto_reader reader buffer⟩
  | read length =>
      exact ⟨length, rfl⟩
  | _ =>
      cases reads

omit [Source σ] in
/-- What a first close came to is what every later one comes to. -/
theorem closeResult_close
    {reader : Reader σ ε}
    (unclosed : reader.phase ≠ .closed) :
    reader.close.2.closeResult = some reader.close.1 := by
  have closes := closes_close reader
  generalize reader.close = outcome at closes
  cases closes with
  | again phase =>
      exact absurd phase unclosed
  | _ =>
      rfl

/-- A closed reader goes on coming to the same when it is closed, until it is reset. -/
theorem closed_serve
    {reader : Reader σ ε}
    {request : ReaderRequest σ}
    (closed : reader.phase = .closed)
    (noReset : request.isReset = false) :
    (reader.serve request).2.phase = .closed ∧
      (reader.serve request).2.closeResult = reader.closeResult ∧
      (reader.serve request).2.engine = reader.engine := by
  have served := served_serve reader request
  generalize (reader.serve request).2 = next at served ⊢
  cases served with
  | readInto buffer | read length =>
      rw [readChunk_of_refuses _ (.inl closed)]
      exact ⟨closed, rfl, rfl⟩
  | closed =>
      rw [close_of_closed closed]
      exact ⟨closed, rfl, rfl⟩
  | applied options | overridden overrides | altered change =>
      exact ⟨closed, rfl, rfl⟩
  | reset source =>
      cases noReset

/--
Once a failure has come up in a read, whether that answered with it or with the bytes it had
delivered before, every read answers with it until a reset, without any effect on the stream
or the buffer of the caller.  Every close then comes to the failure if the reader could be
made ready for the read that failed, and to success if the failure was that its session would
not start.

Without a failure, all closes before a reset come to what the first one does, which closes the
engine exactly once if the reader is active, and not at all if it is idle.
-/
theorem verdict_of_failure
    {σ ε : Type}
    [Source σ]
    [EngineCalls ε]
    (reader : Reader σ (RecordedEngine ε))
    (between : List (ReaderRequest σ))
    (noReset : ∀ later, later ∈ between → later.isReset = false) :
    (∀ (request : ReaderRequest σ) (error : StreamError),
      request.isRead = true →
        reader.failure = none →
          (reader.serve request).2.failure = some error →
            let frozen := (reader.serve request).2.serveEach between
            frozen.Refuses error ∧
              ((∃ active, reader.ready reader.scope = (.ok (), active)) ∧
                  frozen.close.1 = .error error ∨
                (∃ idle, reader.ready reader.scope = (.error error, idle)) ∧
                  frozen.close.1 = .ok ())) ∧
      (reader.failure = none →
        reader.phase ≠ .closed →
          let first := reader.close
          let closed := first.2.serveEach between
          closed.close = (first.1, closed) ∧
            closed.engine = first.2.engine ∧
            (reader.phase = .active →
              first.2.engine.calls = .close first.1 :: reader.engine.calls) ∧
            (reader.phase = .idle → first.1 = .ok () ∧ first.2.engine = reader.engine)) := by
  constructor
  · intro request error reads unfailed fails frozen
    obtain ⟨length, same⟩ := serve_of_isRead reads reader
    have readied := ready_of_failure unfailed (by rw [← same]; exact fails)
    rw [← same] at readied
    have unclosed : (reader.serve request).2.phase ≠ .closed := by
      rcases readied with ⟨_, -, phase⟩ | ⟨_, -, phase⟩ <;> simp [phase]
    have still : Frozen (reader.serve request).2 error frozen :=
      serveEach_keeps
        (motive := Frozen (reader.serve request).2 error)
        (fun _ later member => frozen_serve unclosed (noReset later member))
        ⟨fails, .inl rfl⟩
    have closes := (frozen_close unclosed still).1
    refine ⟨refuses_of_failure still.failure, ?_⟩
    rw [closes]
    unfold verdict
    rcases readied with ⟨active, readies, phase⟩ | ⟨idle, readies, phase⟩
    · exact .inl ⟨⟨active, readies⟩, by rw [phase]; rfl⟩
    · exact .inr ⟨⟨idle, readies⟩, by rw [phase]; rfl⟩
  · intro unfailed unclosed first closed
    have after :
        closed.phase = .closed ∧ closed.closeResult = some first.1 ∧
          closed.engine = first.2.engine :=
      serveEach_keeps
        (motive := fun next =>
          next.phase = .closed ∧ next.closeResult = some first.1 ∧
            next.engine = first.2.engine)
        (fun next later member ⟨phase, result, engine⟩ => by
          obtain ⟨still, sameResult, sameEngine⟩ := closed_serve phase (noReset later member)
          exact ⟨still, sameResult.trans result, sameEngine.trans engine⟩)
        ⟨phase_close reader, closeResult_close unclosed, rfl⟩
    obtain ⟨phase, result, engine⟩ := after
    refine ⟨?_, engine, ?_, ?_⟩
    · rw [close_of_closed phase, result]
      rfl
    · intro active
      have closes := closes_close reader
      change first.2.engine.calls = _
      generalize outcome : reader.close = last at closes
      rw [show first = last from outcome]
      cases closes with
      | again other | idle other =>
          rw [active] at other
          cases other
      | failed _ kept =>
          rw [unfailed] at kept
          cases kept
      | closed _ _ answer =>
          exact RecordedEngine.calls_of_close answer
      | refused _ _ answer =>
          exact RecordedEngine.calls_of_close answer
    · intro idle
      change reader.close.1 = _ ∧ reader.close.2.engine = _
      rw [close_of_idle idle]
      exact ⟨rfl, rfl⟩

/--
The law holds of a reader whose session does not start, which closes well, of one whose
engine fails in the session, which does not, and of one that has nothing to fail.
-/
theorem verdict_of_failure_scripted :
    let refusing : Reader ScriptedSource (RecordedEngine ScriptedEngine) :=
      { source := {}, engine := { engine := { onStart := [(1, .timeout)] } } }
    let failing : Reader ScriptedSource (RecordedEngine ScriptedEngine) :=
      { source := {}
        engine := { engine := { active := true, onCall := [(1, .failure .timeout)] } }
        phase := .active
        inputLength := 1
        inputRead := 1
        unread := [1]
        sourceDone := true
        sourceTotal := 1
        outputLength := 4 }
    let unused : Reader ScriptedSource (RecordedEngine ScriptedEngine) :=
      { source := {}, engine := { engine := {} } }
    let idle := (refusing.serve (.read 4)).2.serveEach [.close]
    let failed := (failing.serve (.read 4)).2.serveEach [.close, .apply []]
    idle.Refuses .timeout ∧
      idle.close.1 = .ok () ∧
      failed.Refuses .timeout ∧
      failed.close.1 = .error .timeout ∧
      (unused.close.2.serveEach [.read 4]).close.1 = .ok () := by
  dsimp only
  have fails :
      ({ source := {}
         engine := { engine := { active := true, onCall := [(1, .failure .timeout)] } }
         phase := .active
         inputLength := 1
         inputRead := 1
         unread := [1]
         sourceDone := true
         sourceTotal := 1
         outputLength := 4 } : Reader ScriptedSource (RecordedEngine ScriptedEngine)).serve
        (.read 4) |>.2.failure = some .timeout := by
    change (deliver (σ := ScriptedSource) _ _ 4 []).2.failure = _
    rw [deliver_of_pos _ _ [] (by decide)]
    rfl
  obtain ⟨refuses, verdicts⟩ :=
    (verdict_of_failure
      { source := ({} : ScriptedSource)
        engine := { engine := ({ onStart := [(1, .timeout)] } : ScriptedEngine) } }
      [.close] (by simp [ReaderRequest.isReset])).1 (.read 4) .timeout rfl rfl rfl
  obtain ⟨refusesToo, verdictsToo⟩ :=
    (verdict_of_failure (σ := ScriptedSource) _ [.close, .apply []]
      (by simp [ReaderRequest.isReset])).1 (.read 4) .timeout rfl rfl fails
  obtain ⟨same, -, -, unstarted⟩ :=
    (verdict_of_failure
      { source := ({} : ScriptedSource), engine := { engine := ({} : ScriptedEngine) } }
      [.read 4] (by simp [ReaderRequest.isReset])).2 rfl (by decide)
  refine ⟨refuses, ?_, refusesToo, ?_, ?_⟩
  · rcases verdicts with ⟨⟨_, readies⟩, -⟩ | ⟨-, closes⟩
    · cases readies
    · exact closes
  · rcases verdictsToo with ⟨-, closes⟩ | ⟨⟨_, refused⟩, -⟩
    · exact closes
    · cases refused
  · exact (congrArg Prod.fst same).trans (unstarted rfl).1

end Reader

end MemberStream
