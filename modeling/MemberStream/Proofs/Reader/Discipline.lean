import MemberStream.Proofs.Engine.Discipline
import MemberStream.Proofs.Reader.Phases
import MemberStream.Proofs.Reader.Renewal

namespace MemberStream

/-!
# Session discipline of readers

As with writers, what a reader remembers of its session agrees with the calls on
its engine after every request.  An idle reader is closed without any call.
-/

namespace Reader

variable {σ ε : Type}

/-- What a reader remembers of its session. -/
def session
    (reader : Reader σ (RecordedEngine ε)) :
    SessionState ε where
  engine := reader.engine
  sessionOpen := reader.sessionOpen
  phase := reader.phase
  failure := reader.failure

variable [EngineCalls ε]

/-- Tearing down a reader tears down what it remembers of its session. -/
theorem session_teardown
    (reader : Reader σ (RecordedEngine ε)) :
    reader.teardown.session = reader.session.teardown := by
  unfold teardown SessionState.teardown
  change (if reader.sessionOpen = true then _ else _ : Reader σ _).session =
    if reader.sessionOpen = true then _ else _
  split <;> rfl

theorem inSession_of_started
    {reader started : Reader σ (RecordedEngine ε)}
    (outside : reader.engine.Disciplined false)
    (starts : Started reader started) :
    started.session.InSession .active where
  engine := RecordedEngine.disciplined_of_start outside starts.engine
  sessionOpen := starts.sessionOpen
  phase := starts.phase

/-- A reader that is ready is in a session. -/
theorem inSession_of_readied
    {reader active : Reader σ (RecordedEngine ε)}
    (disciplined : reader.session.Disciplined)
    (readied : Readied reader active) :
    active.session.InSession .active := by
  cases readied with
  | active unfailed phase =>
      exact disciplined.inSession unfailed phase
  | started unfailed idle starts =>
      have phase : reader.phase ≠ .active := by simp [idle]
      exact inSession_of_started (disciplined.outside phase).1 starts

/-- A reader that is not ready stays disciplined. -/
theorem disciplined_of_unready
    {reader next : Reader σ (RecordedEngine ε)}
    {error : StreamError}
    (disciplined : reader.session.Disciplined)
    (unready : Unready reader error next) :
    next.session.Disciplined := by
  cases unready with
  | failed kept =>
      exact disciplined
  | closed unfailed phase =>
      exact disciplined
  | @refused error engine span trace unfailed idle answer =>
      have phase : reader.phase ≠ .active := by simp [idle]
      obtain ⟨outside, sessionOpen⟩ := disciplined.outside phase
      have quiet := SessionState.quiet_of_start outside answer reader.phase
      rw [← sessionOpen] at quiet
      exact quiet.disciplined

/-- Closing a reader leaves it quiet, whatever it answers. -/
theorem quiet_close
    {reader : Reader σ (RecordedEngine ε)}
    (disciplined : reader.session.Disciplined) :
    reader.close.2.session.Quiet := by
  have closes := closes_close reader
  generalize reader.close = outcome at closes
  cases closes with
  | again phase =>
      exact disciplined.quiet phase
  | idle idle =>
      have phase : reader.phase ≠ .active := by simp [idle]
      obtain ⟨outside, sessionOpen⟩ := disciplined.outside phase
      exact ⟨outside, sessionOpen, .inl rfl⟩
  | failed phase kept =>
      obtain ⟨engine, sessionOpen, -⟩ := SessionState.disciplined_teardown disciplined.engine
      rw [← session_teardown] at engine sessionOpen
      exact ⟨engine, sessionOpen, .inl rfl⟩
  | closed phase unfailed answer =>
      exact (disciplined.inSession unfailed phase).quiet_of_close answer _
  | refused phase unfailed answer =>
      exact (disciplined.inSession unfailed phase).quiet_of_close answer _

/-- A reset keeps a reader disciplined, whether or not the next session starts. -/
theorem disciplined_reset
    {reader : Reader σ (RecordedEngine ε)}
    (source : σ)
    (disciplined : reader.session.Disciplined) :
    (reader.reset source).2.session.Disciplined := by
  obtain ⟨outside, sessionOpen, -⟩ := SessionState.disciplined_teardown disciplined.engine
  rw [← session_teardown] at outside sessionOpen
  change reader.cleared.engine.Disciplined false at outside
  rw [reset_eq]
  split
  · rename_i started starts
    exact (inSession_of_started outside (started_of_startSession starts)).disciplined
  · rename_i error idle starts
    obtain ⟨next, span, trace, answer, rfl⟩ := refused_of_startSession starts
    have quiet := SessionState.quiet_of_start outside answer .idle
    rw [← sessionOpen] at quiet
    exact quiet.disciplined

variable [Source σ]

/-- A delivery stays in the session. -/
theorem inSession_deliver
    {reader : Reader σ (RecordedEngine ε)}
    {phase : Phase}
    (scope : Scope)
    (wanted : Nat)
    (inside : reader.session.InSession phase) :
    (reader.deliver scope wanted []).2.session.InSession phase := by
  apply deliver_keeps (motive := fun next => next.session.InSession phase) _ _ wanted [] inside
  · intro next wanted inside
    have same := sameSession_round next scope wanted
    refine ⟨?_, same.sessionOpen.trans inside.sessionOpen, same.phase.trans inside.phase⟩
    rcases decompressed_of_round next scope wanted with silent | ⟨input, capacity, reply, answer⟩
    · change (next.round scope wanted).reader.engine.Disciplined true
      rw [silent]
      exact inside.engine
    · exact RecordedEngine.disciplined_of_decompress inside.engine answer
  · intro next error inside
    exact ⟨inside.engine, inside.sessionOpen, inside.phase⟩

/-- A read keeps a reader disciplined. -/
theorem disciplined_readChunk
    {reader : Reader σ (RecordedEngine ε)}
    (length : Nat)
    (disciplined : reader.session.Disciplined) :
    (reader.readChunk length).2.session.Disciplined := by
  have reads := reads_readChunk reader length
  generalize reader.readChunk length = outcome at reads
  cases reads with
  | unready readies =>
      exact disciplined_of_unready disciplined (unready_of_ready readies)
  | delivered readies =>
      have inside := inSession_of_readied disciplined (readied_of_ready readies)
      exact (inSession_deliver _ length inside).disciplined

/-- Every request keeps a reader disciplined. -/
theorem disciplined_serve
    {reader : Reader σ (RecordedEngine ε)}
    (request : ReaderRequest σ)
    (disciplined : reader.session.Disciplined) :
    (reader.serve request).2.session.Disciplined := by
  have served := served_serve reader request
  generalize (reader.serve request).2 = next at served ⊢
  cases served with
  | readInto buffer | read length =>
      exact disciplined_readChunk _ disciplined
  | closed =>
      exact (quiet_close disciplined).disciplined
  | applied options | overridden overrides | altered change =>
      exact disciplined
  | reset source =>
      exact disciplined_reset source disciplined

/-- A reader that has been closed makes no call, and neither does one that has failed. -/
theorem readChunk_of_refuses
    {reader : Reader σ ε}
    (length : Nat)
    (refuses : reader.phase = .closed ∨ reader.failure ≠ none) :
    (reader.readChunk length).2 = reader := by
  have unready : ∃ error, reader.ready reader.scope = (.error error, reader) := by
    unfold ready
    split
    · exact ⟨_, rfl⟩
    · rename_i unfailed
      rw [refuses.resolve_right (not_not_intro unfailed)]
      exact ⟨_, rfl⟩
  obtain ⟨error, readies⟩ := unready
  rw [readChunk_of_unready readies]

/-- A reader that has been closed makes no call on its engine, unless it is reset. -/
theorem session_serve_of_closed
    {reader : Reader σ (RecordedEngine ε)}
    (request : ReaderRequest σ)
    (noReset : request.isReset = false)
    (closed : reader.phase = .closed) :
    (reader.serve request).2.session = reader.session := by
  have served := served_serve reader request
  generalize (reader.serve request).2 = next at served ⊢
  cases served with
  | readInto buffer | read length =>
      exact congrArg session (readChunk_of_refuses _ (.inl closed))
  | closed =>
      rw [close_of_closed closed]
  | applied options | overridden overrides | altered change =>
      rfl
  | reset source =>
      cases noReset

/-- A reader that has been closed makes no call on its engine before it is reset. -/
theorem session_serveEach_of_closed
    {reader : Reader σ (RecordedEngine ε)}
    {requests : List (ReaderRequest σ)}
    (noReset : ∀ request, request ∈ requests → request.isReset = false)
    (closed : reader.phase = .closed) :
    (reader.serveEach requests).session = reader.session := by
  apply serveEach_keeps (motive := fun next => next.session = reader.session) _ rfl
  intro next request member same
  have still : next.phase = .closed := (congrArg SessionState.phase same).trans closed
  exact (session_serve_of_closed request (noReset request member) still).trans same

omit [Source σ] in
/-- A reader is closed after a close, whatever that answered. -/
theorem phase_close
    (reader : Reader σ ε) :
    reader.close.2.phase = .closed := by
  have closes := closes_close reader
  generalize reader.close = outcome at closes
  cases closes with
  | again phase =>
      exact phase
  | _ =>
      rfl

end Reader

end MemberStream
