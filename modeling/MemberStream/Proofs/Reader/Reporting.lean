import MemberStream.Proofs.Reader.Showing
import MemberStream.Proofs.Telemetry.Telling

namespace MemberStream

/-!
# Failures that a reader tells of

A reader tells of its failures as a writer does.  Rounds keep none: a delivery keeps the
failure of its last round, whether it is answered at once or behind some bytes.  A reset
tears the stream down without regard to the answer, so it comes to one failure at most.
-/

namespace Reader

variable {σ ε : Type}

/-- A reader has told of its failure, if there is one, and of no other since some trace. -/
def Tells
    (reader : Reader σ ε)
    (past : Trace) :
    Prop :=
  reader.trace.failures .reader =
    toldAt reader.effective.debugLevel reader.failure ++ past.failures .reader

/-- An event that is about no failure of the reader leaves alone what its trace tells of. -/
theorem failures_report
    (reader : Reader σ ε)
    (scope : Scope)
    (event : Event)
    (other : event.failure? .reader = none) :
    (reader.report scope event).trace.failures .reader = reader.trace.failures .reader := by
  unfold report
  dsimp only
  rw [Trace.failures_record, other, toldAt_none]
  rfl

namespace Tells

variable {reader next : Reader σ ε} {past : Trace}

theorem of_unfailed
    (unfailed : reader.failure = none) :
    reader.Tells reader.trace := by
  unfold Tells
  rw [unfailed, toldAt_none]
  rfl

theorem silent
    (tells : reader.Tells past)
    (unfailed : reader.failure = none) :
    reader.trace.failures .reader = past.failures .reader := by
  have told : reader.trace.failures .reader = _ := tells
  rwa [unfailed, toldAt_none] at told

theorem report
    (tells : reader.Tells past)
    (scope : Scope)
    {event : Event}
    (other : event.failure? .reader = none) :
    (reader.report scope event).Tells past := by
  unfold Tells
  rw [failures_report reader scope event other]
  exact tells

/-- A reader that comes to fail tells of that. -/
theorem fail
    (tells : reader.Tells past)
    (unfailed : reader.failure = none)
    (scope : Scope)
    (error : StreamError) :
    (reader.fail scope error).Tells past := by
  have told := Trace.failures_record reader.trace reader.effective.debugLevel scope
    (.readerFailed error) .reader
  rw [tells.silent unfailed] at told
  exact told

end Tells

section Session

variable [EngineCalls ε] {reader : Reader σ ε}

/-- Starting a session keeps no failure and tells of none. -/
theorem tells_startSession
    (unfailed : reader.failure = none)
    (scope : Scope) :
    (reader.startSession scope).2.Tells reader.trace ∧
      (reader.startSession scope).2.failure = none := by
  have opens {next : Reader σ ε} {span : Span} (still : next.failure = none)
      (trace : next.trace = .opened span :: reader.trace) :
      next.Tells reader.trace := by
    unfold Tells
    rw [still, toldAt_none, trace, Trace.failures_opened]
    rfl
  unfold startSession
  dsimp only
  split
  · exact ⟨opens unfailed rfl, unfailed⟩
  · refine ⟨Tells.report ?_ _ rfl, unfailed⟩
    exact opens unfailed rfl

theorem records_teardown
    (reader : Reader σ ε) :
    reader.teardown.trace = reader.trace ∧ reader.teardown.failure = reader.failure := by
  unfold teardown
  split <;> exact ⟨rfl, rfl⟩

/-- A reader that has not failed tells why it could not get ready. -/
theorem tells_ready
    (unfailed : reader.failure = none)
    (scope : Scope) :
    (reader.ready scope).2.Tells reader.trace := by
  obtain ⟨tells, still⟩ := tells_startSession unfailed scope
  apply ready_keeps (motive := fun next => next.Tells reader.trace) (.of_unfailed unfailed)
  · intro _ started answer
    rwa [answer] at tells
  · intro _ error idle answer
    rw [answer] at tells still
    exact tells.fail still scope error

/-- A reader that has not failed tells why its engine could not be closed. -/
theorem tells_closeEngine
    (unfailed : reader.failure = none)
    (scope : Scope) :
    (reader.closeEngine scope).2.Tells reader.trace := by
  rw [closeEngine_of_unfailed unfailed]
  dsimp only
  split
  · exact .of_unfailed unfailed
  · exact (Tells.of_unfailed unfailed).fail unfailed scope _

/-- A reader that has not failed tells why it could not be closed. -/
theorem tells_close
    (unfailed : reader.failure = none) :
    reader.close.2.Tells reader.trace := by
  cases phase : reader.phase with
  | closed =>
      rw [close_of_closed phase]
      exact .of_unfailed unfailed
  | idle =>
      rw [close_of_idle phase]
      exact .of_unfailed unfailed
  | active =>
      rw [close_of_active phase]
      have still : reader.ended.failure = none := unfailed
      exact (tells_closeEngine still reader.scope).report _ rfl

/-- A reader that has failed tells of nothing more when it is closed. -/
theorem failures_close_of_failed
    {error : StreamError}
    (kept : reader.failure = some error) :
    reader.close.2.trace.failures .reader = reader.trace.failures .reader := by
  cases phase : reader.phase with
  | closed =>
      rw [close_of_closed phase]
  | idle =>
      rw [close_of_idle phase]
  | active =>
      have still : reader.ended.failure = some error := kept
      have told := failures_report reader.ended.teardown reader.scope (.readerClosed false) rfl
      rw [close_of_active phase, closeEngine_of_failed still]
      rw [(records_teardown reader.ended).1] at told
      exact told

/-- A reset tells why its session could not start. -/
theorem tells_reset
    (reader : Reader σ ε)
    (source : σ) :
    (reader.reset source).2.Tells reader.trace := by
  have unfailed : reader.cleared.failure = none := rfl
  obtain ⟨tells, still⟩ := tells_startSession unfailed []
  have records : reader.cleared.trace = reader.trace :=
    (records_teardown reader).1
  rw [records] at tells
  rw [reset_eq]
  split
  · rename_i answer
    rw [answer] at tells
    exact tells
  · rename_i error idle answer
    rw [answer] at tells still
    exact tells.fail still [] error

/-- One engine call keeps no failure and tells of none. -/
theorem tells_advance
    {past : Trace}
    (tells : reader.Tells past)
    (scope : Scope)
    (wanted : Nat) :
    (reader.advance scope wanted).reader.Tells past := by
  have answered := answered_advance reader scope wanted
  generalize reader.advance scope wanted = round at answered
  cases answered with
  | overreport answer beyond | idle answer within idle | limit answer refused
  | engine answer terminal =>
      exact tells
  | step answer within busy | grow answer grown larger | saturated answer grown stuck =>
      exact tells.report scope rfl

end Session

section Input

variable [Source σ] {reader : Reader σ ε} {past : Trace}

omit [Source σ] in
/-- Making room tells of nothing. -/
theorem tells_of_makeRoom
    {roomy : Reader σ ε}
    {scope : Scope}
    {result : Except StreamError Unit}
    (tells : reader.Tells past)
    (room : reader.makeRoom scope = (result, roomy)) :
    roomy.Tells past := by
  unfold makeRoom at room
  split at room
  · split at room
    · cases room
      exact tells.report scope rfl
    · cases room
      exact tells
  · cases room
    exact tells

/-- Gathering the source tells of nothing. -/
theorem tells_gather
    (tells : reader.Tells past)
    (scope : Scope)
    (chunks : List Bytes) :
    (reader.gather scope chunks).2.2.Tells past := by
  fun_induction gather reader scope chunks with
  | case1 reader chunks error full room =>
      exact tells_of_makeRoom tells room
  | case2 reader chunks roomy room source answer
  | case5 reader chunks roomy room error source answer terminal =>
      have moved := tells_of_makeRoom tells room
      exact moved
  | case3 reader chunks roomy room byte rest source answer count buffered transferred ih =>
      have moved := tells_of_makeRoom tells room
      have counted : transferred.Tells past := moved
      exact ih (counted.report scope rfl)
  | case4 reader chunks roomy room error source answer interrupted ih =>
      have moved := tells_of_makeRoom tells room
      exact ih moved

/-- Ensuring the input tells of nothing. -/
theorem tells_ensureInput
    (tells : reader.Tells past)
    (scope : Scope) :
    (reader.ensureInput scope).2.Tells past := by
  let emptied : Reader σ ε := { reader with inputOffset := 0, inputRead := 0, unread := [] }
  rcases ensureInput_reader reader scope with ⟨-, same⟩ | same <;> rw [same]
  · have told : emptied.Tells past := tells
    exact tells_gather told (scope ++ ["input"]) []
  · exact tells

variable [EngineCalls ε]

/-- A round tells of nothing. -/
theorem tells_round
    (tells : reader.Tells past)
    (scope : Scope)
    (wanted : Nat) :
    (reader.round scope wanted).reader.Tells past := by
  apply round_keeps (motive := fun next => next.Tells past)
  · exact tells
  · exact tells_ensureInput tells scope
  · intro filled told
    exact tells_advance told scope wanted

/-- A reader that has not failed tells why a delivery ended early. -/
theorem tells_deliver
    (tells : reader.Tells past)
    (unfailed : reader.failure = none)
    (scope : Scope)
    (wanted : Nat)
    (delivered : Bytes) :
    (reader.deliver scope wanted delivered).2.Tells past := by
  have moved {reader next : Reader σ ε} {wanted : Nat}
      (tells : reader.Tells past)
      (unfailed : reader.failure = none)
      (moves : (reader.round scope wanted).reader = next) :
      next.Tells past ∧ next.failure = none := by
    rw [← moves]
    exact ⟨tells_round tells scope wanted,
      (sameSession_round reader scope wanted).failure.trans unfailed⟩
  fun_induction deliver reader scope wanted delivered with
  | case1 reader delivered =>
      exact tells
  | case2 reader wanted delivered more bytes next round ih =>
      obtain ⟨told, still⟩ := moved tells unfailed (congrArg Round.reader round)
      exact ih told still
  | case3 reader wanted delivered more next round ih =>
      obtain ⟨told, still⟩ := moved tells unfailed (congrArg Round.reader round)
      exact ih told still
  | case4 reader wanted delivered more last round =>
      exact (moved tells unfailed (congrArg Round.reader round)).1
  | case5 reader wanted delivered more error last round =>
      obtain ⟨told, still⟩ := moved tells unfailed (congrArg Round.reader round)
      rw [failAfter_reader]
      exact told.fail still scope error

/-- A reader that has not failed tells why a read failed. -/
theorem tells_readChunk
    (unfailed : reader.failure = none)
    (length : Nat) :
    (reader.readChunk length).2.Tells reader.trace := by
  have tells := tells_ready unfailed reader.scope
  have reads := reads_readChunk reader length
  generalize reader.readChunk length = outcome at reads
  cases reads with
  | unready answer =>
      rwa [answer] at tells
  | delivered answer =>
      rw [answer] at tells
      obtain ⟨-, still, -⟩ := (readied_of_ready answer).open
      exact tells_deliver tells still _ length []

end Input

section Requests

variable [Source σ] [EngineCalls ε] {reader : Reader σ ε}

/-- A reader that has not failed tells why a request failed. -/
theorem tells_serve
    (unfailed : reader.failure = none)
    (request : ReaderRequest σ) :
    (reader.serve request).2.Tells reader.trace := by
  have served := served_serve reader request
  generalize (reader.serve request).2 = next at served ⊢
  cases served with
  | readInto buffer | read length =>
      exact tells_readChunk unfailed _
  | closed =>
      exact tells_close unfailed
  | applied options | overridden overrides | altered change =>
      exact .of_unfailed unfailed
  | reset source =>
      exact tells_reset reader source

/-- A reader that has failed tells of nothing more, unless it is reset. -/
theorem failures_serve_of_failed
    {error : StreamError}
    (kept : reader.failure = some error)
    {request : ReaderRequest σ}
    (noReset : request.isReset = false) :
    (reader.serve request).2.trace.failures .reader = reader.trace.failures .reader := by
  have refuses (length : Nat) : (reader.readChunk length).2 = reader := by
    apply readChunk_of_refuses length
    rw [kept]
    exact .inr nofun
  have served := served_serve reader request
  generalize (reader.serve request).2 = next at served ⊢
  cases served with
  | readInto buffer | read length =>
      rw [refuses]
  | closed =>
      exact failures_close_of_failed kept
  | applied options | overridden overrides | altered change =>
      rfl
  | reset source =>
      cases noReset

end Requests

section Recorded

variable {reader next : Reader σ (RecordedEngine ε)}

/-- What a reader newly keeps as it goes on to another state. -/
def newlyKept
    (reader next : Reader σ (RecordedEngine ε)) :
    List KeptFailure :=
  KeptFailure.newly reader.failure next.failure next.streamParameters

theorem failures_of_tells
    (unfailed : reader.failure = none)
    (remembers : next.streamParameters.Remembers)
    (tells : next.Tells reader.trace) :
    next.trace.failures .reader =
      KeptFailure.told (reader.newlyKept next) ++ reader.trace.failures .reader := by
  unfold newlyKept
  rw [unfailed, KeptFailure.told_newly remembers]
  exact tells

variable [Source σ] [EngineCalls ε]

/-- The failures that a reader newly keeps in the course of a request. -/
def keptBy
    (reader : Reader σ (RecordedEngine ε)) :
    ReaderRequest σ →
    List KeptFailure
  | .reset source =>
      reader.cleared.newlyKept (reader.reset source).2
  | request =>
      reader.newlyKept (reader.serve request).2

/-- The failures that a reader newly keeps in the course of some requests, newest first. -/
def keptIn
    (reader : Reader σ (RecordedEngine ε)) :
    List (ReaderRequest σ) →
    List KeptFailure
  | [] =>
      []
  | request :: rest =>
      (reader.serve request).2.keptIn rest ++ reader.keptBy request

/-- A reader remembers its newest session after every request. -/
theorem remembers_serve
    (remembers : reader.streamParameters.Remembers)
    (request : ReaderRequest σ) :
    (reader.serve request).2.streamParameters.Remembers := by
  have served := served_serve reader request
  generalize (reader.serve request).2 = next at served ⊢
  cases served with
  | readInto buffer | read length =>
      exact remembers.advances (advances_readChunk reader _)
  | closed =>
      by_cases idle : reader.phase = .idle
      · rw [streamParameters_close_of_idle idle]
        exact remembers
      · exact remembers.advances (advances_close idle)
  | applied options | overridden overrides | altered change =>
      exact remembers
  | reset source =>
      rcases streamParameters_reset reader source with same | same <;> rw [same]
      · rfl
      · exact remembers

/-- A request tells of what a reader newly keeps in its course. -/
theorem failures_serve
    (remembers : reader.streamParameters.Remembers)
    (request : ReaderRequest σ) :
    (reader.serve request).2.trace.failures .reader =
      KeptFailure.told (reader.keptBy request) ++ reader.trace.failures .reader := by
  have served := remembers_serve remembers request
  have plain (noReset : request.isReset = false)
      (kept : reader.keptBy request = reader.newlyKept (reader.serve request).2) :
      (reader.serve request).2.trace.failures .reader =
        KeptFailure.told (reader.keptBy request) ++ reader.trace.failures .reader := by
    rw [kept]
    cases failure : reader.failure with
    | none =>
        exact failures_of_tells failure served (tells_serve failure request)
    | some error =>
        unfold newlyKept
        rw [failures_serve_of_failed failure noReset, failure]
        rfl
  cases request with
  | reset source =>
      have unfailed : reader.cleared.failure = none := rfl
      have records : reader.cleared.trace = reader.trace :=
        (records_teardown reader).1
      have tells := tells_reset reader source
      rw [← records] at tells ⊢
      exact failures_of_tells unfailed served tells
  | _ =>
      exact plain rfl rfl

/-- The trace of a reader tells of the failures that it has newly kept, each once and in order. -/
theorem failures_serveEach
    (remembers : reader.streamParameters.Remembers)
    (requests : List (ReaderRequest σ)) :
    (reader.serveEach requests).trace.failures .reader =
      KeptFailure.told (reader.keptIn requests) ++ reader.trace.failures .reader := by
  induction requests generalizing reader with
  | nil =>
      rfl
  | cons request rest later =>
      have served := later (remembers_serve remembers request)
      rw [failures_serve remembers request] at served
      rw [keptIn, KeptFailure.told_append, List.append_assoc]
      exact served

/-- What a reader keeps along some requests has the parameters of some options behind it. -/
theorem follows_of_keptIn
    {overrides : Overrides}
    {options : List StreamOption}
    (follows : reader.streamParameters.Follows overrides options)
    {requests : List (ReaderRequest σ)}
    (fixed : ∀ request ∈ requests, request.isOverride = false)
    {kept : KeptFailure}
    (keeps : kept ∈ reader.keptIn requests) :
    ∃ options, kept.parameters.Follows overrides options := by
  induction requests generalizing reader options with
  | nil =>
      cases keeps
  | cons request rest later =>
      have served := follows_serve request (fixed request List.mem_cons_self) follows
      rcases List.mem_append.mp keeps with after | now
      · exact later served
          (fun other member => fixed other (List.mem_cons_of_mem request member)) after
      · have behind : kept.parameters = (reader.serve request).2.streamParameters := by
          cases request with
          | reset source =>
              have newly : kept ∈ reader.cleared.newlyKept (reader.reset source).2 := now
              exact KeptFailure.parameters_of_newly newly
          | _ =>
              exact KeptFailure.parameters_of_newly now
        exact ⟨_, behind ▸ served⟩

end Recorded

end Reader

end MemberStream
