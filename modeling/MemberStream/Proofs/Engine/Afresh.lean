import MemberStream.Proofs.Engine.Member
import MemberStream.Proofs.Engine.Requests

namespace MemberStream

/-!
# Engines that work afresh

A stateless engine keeps nothing but the parameters of its session and works
every data call afresh.  A member engine parks what did not fit and hands it out
at the next call of the same direction with as much input, whatever bytes that
call presents.  The rule of a retry closes the gap: a caller that was told to
come back with more room presents the same bytes.  Under that rule the two
engines cannot be told apart, over any requests in any order.
-/

variable {encoders : Encoders}

namespace Reply

/-- The answer that a codec's work comes to: all of it if it fits, and nothing otherwise. -/
def ofWork
    (work : Except CodecError (Nat × Bytes))
    (capacity : Nat) :
    Reply :=
  match work with
  | .ok (consumed, bytes) =>
      if bytes.length ≤ capacity then
        { result := .ok ⟨consumed, bytes.length⟩
          filled := bytes }
      else
        { result := .error .insufficientBuffer }
  | .error error =>
      { result := .error error.toStreamError }

end Reply

/-- The member of the first chunk of an input, behind the length of the chunk. -/
def ParameterSet.encodeChunk
    (encoders : Encoders)
    (parameters : ParameterSet)
    (input : Bytes) :
    Except CodecError (Nat × Bytes) :=
  let count := min input.length parameters.chunkLength
  (parameters.encodeMember encoders (input.take count)).map (count, ·)

/-- An engine that keeps nothing but the parameters of its session, with some encoders. -/
structure StatelessEngine (encoders : Encoders) where
  session : Option ParameterSet := none
  deriving Repr, DecidableEq

namespace StatelessEngine

/-- Answer a data call by new work. -/
def answer
    (engine : StatelessEngine encoders)
    (direction : Direction)
    (codec : ParameterSet → Bytes → Except CodecError (Nat × Bytes))
    (input : Bytes)
    (capacity : Nat) :
    Reply :=
  match engine.session with
  | none =>
      { result := .error .notYetStarted }
  | some parameters =>
      if !parameters.direction.allows direction then
        { result := .error (.invalidParameter .incompatibleDirection) }
      else if input.isEmpty then
        { result := .error .emptyBuffer }
      else
        .ofWork (codec parameters input) capacity

instance : EngineCalls (StatelessEngine encoders) where
  start engine parameters :=
    match parameters.algorithm.checkLevel parameters.level with
    | .error error =>
        (.error error.toStreamError, engine)
    | .ok () =>
        (.ok (), { session := some parameters })
  compress engine input capacity :=
    (engine.answer .compress (ParameterSet.encodeChunk encoders) input capacity, engine)
  decompress engine input capacity :=
    (engine.answer .decompress ParameterSet.decodeMember input capacity, engine)
  setLast engine _ :=
    engine
  close engine :=
    if engine.session.isSome then
      (.ok (), {})
    else
      (.error .notYetStarted, engine)

end StatelessEngine

namespace EngineCall

/-- The parameters of the session that runs after some calls, given newest first. -/
def running : List EngineCall → Option ParameterSet
  | [] =>
      none
  | .start parameters (.ok ()) :: _ =>
      some parameters
  | .close (.ok ()) :: _ =>
      none
  | _ :: earlier =>
      running earlier

/-- Whether the session that runs after some calls admits a data call. -/
def admits
    (earlier : List EngineCall)
    (direction : Direction)
    (input : Bytes) :
    Bool :=
  match running earlier with
  | none =>
      false
  | some parameters =>
      parameters.direction.allows direction && !input.isEmpty

/-- Whether a reply asks for more room. -/
def asksForRoom
    (reply : Reply) :
    Bool :=
  match reply.result with
  | .error .insufficientBuffer =>
      true
  | _ =>
      false

/--
The direction and the input that a retry is due for after some calls: those of
the latest data call that the running session admitted, if it was answered with
too little room.
-/
def retryDue : List EngineCall → Option (Direction × Bytes)
  | [] =>
      none
  | .start _ (.ok ()) :: _ | .close (.ok ()) :: _ =>
      none
  | .compress input _ reply :: earlier =>
      if admits earlier .compress input then
        if asksForRoom reply then some (.compress, input) else none
      else
        retryDue earlier
  | .decompress input _ reply :: earlier =>
      if admits earlier .decompress input then
        if asksForRoom reply then some (.decompress, input) else none
      else
        retryDue earlier
  | _ :: earlier =>
      retryDue earlier

/--
Whether a data call after some others keeps the rule of a retry: if it is
admitted and has the direction and the input length that a retry is due for, it
presents the same bytes.
-/
def RetriesSame
    (earlier : List EngineCall)
    (direction : Direction)
    (input : Bytes) :
    Prop :=
  admits earlier direction input = true →
    ∀ offered, retryDue earlier = some (direction, offered) →
      offered.length = input.length → offered = input

/-- Whether all of some calls, given newest first, keep the rule of a retry. -/
def KeepsRetryRule : List EngineCall → Prop
  | [] =>
      True
  | .compress input _ _ :: earlier =>
      RetriesSame earlier .compress input ∧ KeepsRetryRule earlier
  | .decompress input _ _ :: earlier =>
      RetriesSame earlier .decompress input ∧ KeepsRetryRule earlier
  | _ :: earlier =>
      KeepsRetryRule earlier

instance
    (earlier : List EngineCall)
    (direction : Direction)
    (input : Bytes) :
    Decidable (RetriesSame earlier direction input) :=
  decidable_of_iff
    (admits earlier direction input = true →
      ∀ due ∈ retryDue earlier,
        due.1 = direction → due.2.length = input.length → due.2 = input)
    (by
      constructor
      · intro same admitted offered due length
        exact same admitted _ due rfl length
      · rintro same admitted ⟨_, offered⟩ due rfl length
        exact same admitted offered due length)

instance : (calls : List EngineCall) → Decidable (KeepsRetryRule calls)
  | [] =>
      isTrue trivial
  | .compress input _ _ :: earlier =>
      have := instDecidableKeepsRetryRule earlier
      inferInstanceAs (Decidable (RetriesSame earlier .compress input ∧ KeepsRetryRule earlier))
  | .decompress input _ _ :: earlier =>
      have := instDecidableKeepsRetryRule earlier
      inferInstanceAs (Decidable (RetriesSame earlier .decompress input ∧ KeepsRetryRule earlier))
  | .start _ _ :: earlier =>
      instDecidableKeepsRetryRule earlier
  | .setLast _ :: earlier =>
      instDecidableKeepsRetryRule earlier
  | .close _ :: earlier =>
      instDecidableKeepsRetryRule earlier

/-- Calls that keep the rule have kept it all along. -/
theorem KeepsRetryRule.of_suffix
    {calls earlier : List EngineCall}
    (keeps : KeepsRetryRule calls)
    (past : earlier <:+ calls) :
    KeepsRetryRule earlier := by
  obtain ⟨later, rfl⟩ := past
  induction later with
  | nil =>
      exact keeps
  | cons call later ih =>
      apply ih
      cases call with
      | compress input capacity reply =>
          exact keeps.2
      | decompress input capacity reply =>
          exact keeps.2
      | start parameters result =>
          exact keeps
      | setLast last =>
          exact keeps
      | close result =>
          exact keeps

/-- Whether a data call is answered by new work of the session it comes in. -/
def IsAfresh
    (encoders : Encoders)
    (call : EngineCall)
    (earlier : List EngineCall) :
    Prop :=
  let engine : StatelessEngine encoders := { session := running earlier }
  match call with
  | .compress input capacity reply =>
      reply = engine.answer .compress (ParameterSet.encodeChunk encoders) input capacity
  | .decompress input capacity reply =>
      reply = engine.answer .decompress ParameterSet.decodeMember input capacity
  | _ =>
      True

end EngineCall

namespace MemberEngine

/-- Whether something is what a data call of a direction produces by new work. -/
inductive Produces
    (encoders : Encoders)
    (parameters : ParameterSet)
    (input : Bytes)
    (produced : ParkedMember) :
    Direction →
    Prop where
  | encoded
      (works : encodeFront encoders parameters input = .ok produced) :
      Produces encoders parameters input produced .compress
  | decoded
      (works : decodeFront parameters input = .ok produced) :
      Produces encoders parameters input produced .decompress

/-- New work carries the direction of its call and the length of the input. -/
theorem Produces.labels
    {parameters : ParameterSet}
    {input : Bytes}
    {produced : ParkedMember}
    {direction : Direction}
    (produces : Produces encoders parameters input produced direction) :
    produced.direction = direction ∧ produced.inputLength = input.length := by
  cases produces with
  | encoded works =>
      unfold encodeFront at works
      dsimp only at works
      split at works
      · cases works
        exact ⟨rfl, rfl⟩
      · cases works
  | decoded works =>
      unfold decodeFront at works
      split at works
      · cases works
        exact ⟨rfl, rfl⟩
      · cases works

/-- A direction of data, with the work that an engine does for it and the codec behind that. -/
structure Works
    (encoders : Encoders)
    (direction : Direction)
    (work : ParameterSet → Bytes → Except StreamError ParkedMember)
    (codec : ParameterSet → Bytes → Except CodecError (Nat × Bytes)) :
    Prop where
  produces :
    ∀ {parameters input produced},
      Produces encoders parameters input produced direction ↔ work parameters input = .ok produced
  answers :
    ∀ (engine : MemberEngine encoders) (parameters : ParameterSet) (input : Bytes)
      (capacity : Nat),
      (engine.fresh (work parameters input) capacity).1 = .ofWork (codec parameters input) capacity

/-- A delivery answers with all of what it hands out, or asks for more room. -/
theorem answer_of_deliver
    (engine : MemberEngine encoders)
    (produced : ParkedMember)
    (capacity : Nat) :
    (engine.deliver produced capacity).1 =
      .ofWork (.ok (produced.consumed, produced.bytes)) capacity := by
  unfold deliver Reply.ofWork
  dsimp only
  split
  · rename_i beyond
    rw [if_neg (Nat.not_le_of_lt beyond)]
  · rename_i fits
    rw [if_pos (Nat.le_of_not_lt fits)]

/-- Compress calls work by the codec on the first chunk. -/
theorem Works.encoding :
    Works encoders .compress (encodeFront encoders) (ParameterSet.encodeChunk encoders) where
  produces := by
    intro parameters input produced
    constructor
    · intro produces
      cases produces with
      | encoded works =>
          exact works
    · exact .encoded
  answers := by
    intro engine parameters input capacity
    have chunk :
        input.take (min input.length parameters.chunkLength) =
          input.take parameters.chunkLength := by
      rw [Nat.min_comm]
      exact List.take_eq_take_min.symm
    rw [ParameterSet.encodeChunk, encodeFront, chunk]
    cases parameters.encodeMember encoders (input.take parameters.chunkLength) with
    | ok member =>
        simp only [fresh, answer_of_deliver, List.length_take, Nat.min_comm]
        rfl
    | error error =>
        rfl

/-- Decompress calls work by the codec on the whole input. -/
theorem Works.decoding :
    Works encoders .decompress decodeFront ParameterSet.decodeMember where
  produces := by
    intro parameters input produced
    constructor
    · intro produces
      cases produces with
      | decoded works =>
          exact works
    · exact .decoded
  answers := by
    intro engine parameters input capacity
    unfold decodeFront
    cases parameters.decodeMember input with
    | ok member =>
        exact answer_of_deliver _ _ _
    | error error =>
        rfl

/--
An engine that follows the calls made on it, given newest first: it is in the
session that runs after them, and what it has parked is what the call that a
retry is due for produces by new work.
-/
structure Follows
    (engine : MemberEngine encoders)
    (calls : List EngineCall) :
    Prop where
  session :
    engine.session = EngineCall.running calls
  parked :
    ∀ parked, engine.parked = some parked →
      ∃ parameters input,
        EngineCall.running calls = some parameters ∧
          EngineCall.retryDue calls = some (parked.direction, input) ∧
          Produces encoders parameters input parked parked.direction

/-- An engine with nothing parked follows the calls in whose session it is. -/
theorem follows_of_empty
    {engine : MemberEngine encoders}
    {calls : List EngineCall}
    (session : engine.session = EngineCall.running calls)
    (empty : engine.parked = none) :
    engine.Follows calls := by
  refine ⟨session, ?_⟩
  intro parked left
  rw [empty] at left
  cases left

/-- A permitted data call works under the parameters of the running session. -/
theorem session_of_permit
    {engine : MemberEngine encoders}
    {direction : Direction}
    {input : Bytes}
    {parameters : ParameterSet}
    (permitted : engine.permit direction input = .ok parameters) :
    engine.session = some parameters := by
  unfold permit at permitted
  split at permitted
  · cases permitted
  · rename_i running
    split at permitted
    · cases permitted
    · split at permitted
      · cases permitted
      · cases permitted
        exact running

/-- An engine permits the data calls that its session admits. -/
theorem admits_eq_isOk
    {engine : MemberEngine encoders}
    {calls : List EngineCall}
    (session : engine.session = EngineCall.running calls)
    (direction : Direction)
    (input : Bytes) :
    EngineCall.admits calls direction input = (engine.permit direction input).isOk := by
  rw [EngineCall.admits, permit, session]
  cases EngineCall.running calls with
  | none =>
      rfl
  | some parameters =>
      dsimp only
      cases parameters.direction.allows direction with
      | false =>
          rfl
      | true =>
          cases input with
          | nil =>
              rfl
          | cons byte rest =>
              rfl

/-- A stateless engine refuses what a member engine refuses, and otherwise works afresh. -/
theorem answer_eq_of_permit
    {engine : MemberEngine encoders}
    {stateless : StatelessEngine encoders}
    (session : stateless.session = engine.session)
    (direction : Direction)
    (codec : ParameterSet → Bytes → Except CodecError (Nat × Bytes))
    (input : Bytes)
    (capacity : Nat) :
    stateless.answer direction codec input capacity =
      match engine.permit direction input with
      | .error error =>
          { result := .error error }
      | .ok parameters =>
          .ofWork (codec parameters input) capacity := by
  rw [StatelessEngine.answer, permit, session]
  cases engine.session with
  | none =>
      rfl
  | some parameters =>
      dsimp only
      cases parameters.direction.allows direction with
      | false =>
          rfl
      | true =>
          cases input with
          | nil =>
              rfl
          | cons byte rest =>
              rfl

/-- What a permitted call comes to is new work, if it keeps the rule of a retry. -/
theorem call_of_follows
    {engine : MemberEngine encoders}
    {calls : List EngineCall}
    {direction : Direction}
    {work : ParameterSet → Bytes → Except StreamError ParkedMember}
    {codec : ParameterSet → Bytes → Except CodecError (Nat × Bytes)}
    {input : Bytes}
    {parameters : ParameterSet}
    (works : Works encoders direction work codec)
    (follows : engine.Follows calls)
    (same : EngineCall.RetriesSame calls direction input)
    (permitted : engine.permit direction input = .ok parameters)
    (capacity : Nat) :
    engine.call direction work input capacity =
      engine.fresh (work parameters input) capacity := by
  have admitted : EngineCall.admits calls direction input = true := by
    rw [admits_eq_isOk follows.session, permitted]
    rfl
  refine call_eq_fresh_of_permit permitted ?_ capacity
  intro parked found
  obtain ⟨left, rfl, length⟩ := eq_of_parkedFor? found
  obtain ⟨others, offered, running, due, produces⟩ := follows.parked parked left
  obtain rfl : offered = input := same admitted offered due (produces.labels.2.symm.trans length)
  rw [← follows.session, session_of_permit permitted] at running
  cases running
  exact works.produces.mp produces

/-- Under the rule of a retry a data call is answered as by an engine that keeps nothing. -/
theorem answer_of_follows
    {engine : MemberEngine encoders}
    {stateless : StatelessEngine encoders}
    {calls : List EngineCall}
    {direction : Direction}
    {work : ParameterSet → Bytes → Except StreamError ParkedMember}
    {codec : ParameterSet → Bytes → Except CodecError (Nat × Bytes)}
    {input : Bytes}
    (works : Works encoders direction work codec)
    (follows : engine.Follows calls)
    (session : stateless.session = engine.session)
    (same : EngineCall.RetriesSame calls direction input)
    (capacity : Nat) :
    (engine.call direction work input capacity).1 =
      stateless.answer direction codec input capacity := by
  rw [answer_eq_of_permit session]
  cases permission : engine.permit direction input with
  | error error =>
      rw [call, permission]
  | ok parameters =>
      rw [call_of_follows works follows same permission]
      exact works.answers engine parameters input capacity

/-- Under the rule of a retry an engine follows a data call, too. -/
theorem follows_of_call
    {engine : MemberEngine encoders}
    {call : EngineCall}
    {calls : List EngineCall}
    {direction : Direction}
    {work : ParameterSet → Bytes → Except StreamError ParkedMember}
    {codec : ParameterSet → Bytes → Except CodecError (Nat × Bytes)}
    {input : Bytes}
    {capacity : Nat}
    (works : Works encoders direction work codec)
    (follows : engine.Follows calls)
    (same : EngineCall.RetriesSame calls direction input)
    (running : EngineCall.running (call :: calls) = EngineCall.running calls)
    (due :
      EngineCall.retryDue (call :: calls) =
        if EngineCall.admits calls direction input then
          if EngineCall.asksForRoom (engine.call direction work input capacity).1 then
            some (direction, input)
          else
            none
        else
          EngineCall.retryDue calls) :
    (engine.call direction work input capacity).2.Follows (call :: calls) := by
  cases permission : engine.permit direction input with
  | error error =>
      have refused :
          engine.call direction work input capacity = (⟨.error error, []⟩, engine) := by
        rw [MemberEngine.call, permission]
      rw [admits_eq_isOk follows.session, permission] at due
      rw [refused]
      refine ⟨follows.session.trans running.symm, ?_⟩
      rw [running, due]
      exact follows.parked
  | ok parameters =>
      rw [admits_eq_isOk follows.session, permission] at due
      rw [call_of_follows works follows same permission] at due ⊢
      have worked := engine.fresh_cases (work parameters input) capacity
      generalize engine.fresh (work parameters input) capacity = outcome at worked due ⊢
      cases worked with
      | handed done fits =>
          exact follows_of_empty (follows.session.trans running.symm) rfl
      | parked done beyond =>
          refine ⟨follows.session.trans running.symm, ?_⟩
          intro parked left
          cases left
          have produces := works.produces.mpr done
          rw [running, due, produces.labels.1, ← follows.session]
          exact ⟨parameters, input, session_of_permit permission, rfl, produces⟩
      | failed fails =>
          exact follows_of_empty (follows.session.trans running.symm) rfl

/-- A data call leaves the session as it is. -/
theorem session_of_call
    (engine : MemberEngine encoders)
    (direction : Direction)
    (work : ParameterSet → Bytes → Except StreamError ParkedMember)
    (input : Bytes)
    (capacity : Nat) :
    (engine.call direction work input capacity).2.session = engine.session := by
  have delivered (produced : ParkedMember) :
      (engine.deliver produced capacity).2.session = engine.session := by
    unfold deliver
    dsimp only
    split
    · rfl
    · rfl
  have called := engine.call_cases direction work input capacity
  generalize engine.call direction work input capacity = outcome at called
  cases called with
  | refused forbidden =>
      rfl
  | resumed permitted found =>
      exact delivered _
  | worked permitted missing works =>
      exact delivered _
  | failed permitted missing fails =>
      rfl

end MemberEngine

namespace RecordedEngine

/-- Earlier calls stand at the end of the record after some requests. -/
theorem calls_suffix_requestEach
    {ε : Type}
    [EngineCalls ε]
    (recorded : RecordedEngine ε)
    (requests : List EngineRequest) :
    recorded.calls <:+ (recorded.requestEach requests).calls := by
  induction requests generalizing recorded with
  | nil =>
      exact List.suffix_rfl
  | cons request requests ih =>
      refine List.IsSuffix.trans ?_ (ih (recorded.request request))
      cases request with
      | start parameters =>
          exact List.suffix_cons _ _
      | compress input capacity =>
          exact List.suffix_cons _ _
      | decompress input capacity =>
          exact List.suffix_cons _ _
      | setLast last =>
          exact List.suffix_cons _ _
      | close =>
          exact List.suffix_cons _ _

/-- A member engine that follows its calls, and a stateless one with the same record. -/
structure Matches
    (member : RecordedEngine (MemberEngine encoders))
    (stateless : RecordedEngine (StatelessEngine encoders)) :
    Prop where
  follows :
    member.engine.Follows member.calls
  session :
    stateless.engine.session = member.engine.session
  calls :
    member.calls = stateless.calls

/-- Under the rule of a retry the two engines match after one more request, too. -/
theorem matches_of_request
    {member : RecordedEngine (MemberEngine encoders)}
    {stateless : RecordedEngine (StatelessEngine encoders)}
    (same : member.Matches stateless)
    (request : EngineRequest)
    (rule : EngineCall.KeepsRetryRule (member.request request).calls) :
    (member.request request).Matches (stateless.request request) := by
  obtain ⟨follows, session, calls⟩ := same
  cases request with
  | start parameters =>
      simp only [request, EngineCalls.start, MemberEngine.startSession]
      cases parameters.algorithm.checkLevel parameters.level with
      | error error =>
          exact ⟨⟨follows.session, follows.parked⟩, session, congrArg _ calls⟩
      | ok _ =>
          exact ⟨MemberEngine.follows_of_empty rfl rfl, rfl, congrArg _ calls⟩
  | compress input capacity =>
      have answered :=
        MemberEngine.answer_of_follows .encoding follows session rule.1 capacity
      refine ⟨MemberEngine.follows_of_call .encoding follows rule.1 rfl rfl, ?_, ?_⟩
      · exact session.trans (MemberEngine.session_of_call _ _ _ _ _).symm
      · simp only [request, EngineCalls.compress]
        rw [answered, calls]
  | decompress input capacity =>
      have answered :=
        MemberEngine.answer_of_follows .decoding follows session rule.1 capacity
      refine ⟨MemberEngine.follows_of_call .decoding follows rule.1 rfl rfl, ?_, ?_⟩
      · exact session.trans (MemberEngine.session_of_call _ _ _ _ _).symm
      · simp only [request, EngineCalls.decompress]
        rw [answered, calls]
  | setLast last =>
      exact ⟨⟨follows.session, follows.parked⟩, session, congrArg _ calls⟩
  | close =>
      have alike : stateless.engine.session.isSome = member.engine.isActive :=
        congrArg Option.isSome session
      by_cases active : member.engine.isActive = true
      · simp only [request, EngineCalls.close, MemberEngine.closeSession, alike, if_pos active]
        exact ⟨MemberEngine.follows_of_empty rfl rfl, rfl, congrArg _ calls⟩
      · simp only [request, EngineCalls.close, MemberEngine.closeSession, alike, if_neg active]
        exact ⟨⟨follows.session, follows.parked⟩, session, congrArg _ calls⟩

/-- Under the rule of a retry the two engines match after any further requests. -/
theorem matches_of_requestEach
    {member : RecordedEngine (MemberEngine encoders)}
    {stateless : RecordedEngine (StatelessEngine encoders)}
    (same : member.Matches stateless)
    (requests : List EngineRequest)
    (rule : EngineCall.KeepsRetryRule (member.requestEach requests).calls) :
    (member.requestEach requests).Matches (stateless.requestEach requests) := by
  induction requests generalizing member stateless with
  | nil =>
      exact same
  | cons request requests ih =>
      have kept : EngineCall.KeepsRetryRule (member.request request).calls :=
        rule.of_suffix (calls_suffix_requestEach (member.request request) requests)
      exact ih (matches_of_request same request kept) rule

/--
A stateless engine that is in the session that runs after its calls, each of
which was answered by new work of the session it came in.
-/
structure WorksAfresh
    (recorded : RecordedEngine (StatelessEngine encoders)) :
    Prop where
  session :
    recorded.engine.session = EngineCall.running recorded.calls
  afresh :
    ∀ call earlier, call :: earlier <:+ recorded.calls → call.IsAfresh encoders earlier

/-- A stateless engine works afresh at one more request, too. -/
theorem worksAfresh_of_request
    {recorded : RecordedEngine (StatelessEngine encoders)}
    (works : recorded.WorksAfresh)
    (request : EngineRequest) :
    (recorded.request request).WorksAfresh := by
  obtain ⟨session, afresh⟩ := works
  have engine : recorded.engine = ⟨EngineCall.running recorded.calls⟩ := by
    rw [← session]
  have extended
      {newest : EngineCall}
      (new : newest.IsAfresh encoders recorded.calls)
      (call : EngineCall)
      (earlier : List EngineCall)
      (past : call :: earlier <:+ newest :: recorded.calls) :
      call.IsAfresh encoders earlier := by
    rcases List.suffix_cons_iff.mp past with now | before
    · cases now
      exact new
    · exact afresh call earlier before
  cases request with
  | start parameters =>
      refine ⟨?_, extended trivial⟩
      simp only [request, EngineCalls.start]
      cases parameters.algorithm.checkLevel parameters.level with
      | error error =>
          exact session
      | ok _ =>
          rfl
  | compress input capacity =>
      refine ⟨session, extended ?_⟩
      unfold EngineCall.IsAfresh
      dsimp only
      rw [← engine]
  | decompress input capacity =>
      refine ⟨session, extended ?_⟩
      unfold EngineCall.IsAfresh
      dsimp only
      rw [← engine]
  | setLast last =>
      exact ⟨session, extended trivial⟩
  | close =>
      refine ⟨?_, extended trivial⟩
      simp only [request, EngineCalls.close]
      split
      · rfl
      · exact session

/-- A stateless engine works afresh at any further requests. -/
theorem worksAfresh_of_requestEach
    {recorded : RecordedEngine (StatelessEngine encoders)}
    (works : recorded.WorksAfresh)
    (requests : List EngineRequest) :
    (recorded.requestEach requests).WorksAfresh := by
  induction requests generalizing recorded with
  | nil =>
      exact works
  | cons request requests ih =>
      exact ih (worksAfresh_of_request works request)

/--
As long as every retry presents the bytes of the call that it repeats, a member
engine answers any requests as an engine that keeps nothing but its session.  So
a compress call hands out the member of the first chunk of its own input, or asks
for more room and puts out nothing, and a decompress call does so with the
content of the member at the front of its own input, whatever was parked before
in any direction, for any length and in any session.
-/
theorem calls_eq_stateless
    (requests : List EngineRequest)
    (rule :
      EngineCall.KeepsRetryRule
        (requestEach { engine := ({} : MemberEngine encoders) } requests).calls) :
    let calls := (requestEach { engine := ({} : MemberEngine encoders) } requests).calls
    calls = (requestEach { engine := ({} : StatelessEngine encoders) } requests).calls ∧
      (∀ input capacity reply earlier parameters,
        .compress input capacity reply :: earlier <:+ calls →
          EngineCall.running earlier = some parameters →
            parameters.direction.allowsCompress = true →
              input ≠ [] →
                reply = .ofWork (parameters.encodeChunk encoders input) capacity) ∧
      ∀ input capacity reply earlier parameters,
        .decompress input capacity reply :: earlier <:+ calls →
          EngineCall.running earlier = some parameters →
            parameters.direction.allowsDecompress = true →
              input ≠ [] →
                reply = .ofWork (parameters.decodeMember input) capacity := by
  intro calls
  have new : Matches { engine := ({} : MemberEngine encoders) }
      { engine := ({} : StatelessEngine encoders) } :=
    ⟨MemberEngine.follows_of_empty rfl rfl, rfl, rfl⟩
  have newAfresh : WorksAfresh { engine := ({} : StatelessEngine encoders) } := by
    refine ⟨rfl, ?_⟩
    intro call earlier past
    exact absurd (List.suffix_nil.mp past) (List.cons_ne_nil _ _)
  have same := (matches_of_requestEach new requests rule).calls
  have afresh := (worksAfresh_of_requestEach newAfresh requests).afresh
  rw [← same] at afresh
  refine ⟨same, ?_, ?_⟩
  · intro input capacity reply earlier parameters past running allowed nonempty
    have answered := afresh _ _ past
    simpa [EngineCall.IsAfresh, StatelessEngine.answer, running, Direction.allows, allowed,
      nonempty] using answered
  · intro input capacity reply earlier parameters past running allowed nonempty
    have answered := afresh _ _ past
    simpa [EngineCall.IsAfresh, StatelessEngine.answer, running, Direction.allows, allowed,
      nonempty] using answered

/--
The law holds where a call is repeated after another one, and repeated again with
more room, and what was parked by then is of no use to a call in the other direction.
-/
theorem calls_eq_stateless_repeated :
    let parameters : ParameterSet := { level := 0, hardwareBufferSize := 2 }
    let requests : List EngineRequest :=
      [.start parameters, .compress [1, 2, 3] 0, .compress [7] 64, .compress [1, 2, 3] 4,
        .compress [1, 2, 3] 64, .compress [4, 5] 4, .decompress [0, 0] 8]
    let calls := (requestEach { engine := ({} : MemberEngine) } requests).calls
    EngineCall.KeepsRetryRule calls ∧
      calls = (requestEach { engine := ({} : StatelessEngine .own) } requests).calls ∧
      ∃ decompressed parked compressed earlier,
        calls =
            .decompress [0, 0] 8 decompressed :: .compress [4, 5] 4 parked ::
              .compress [1, 2, 3] 64 compressed :: earlier ∧
          decompressed = .ofWork (parameters.decodeMember [0, 0]) 8 ∧
          compressed = .ofWork (parameters.encodeChunk .own [1, 2, 3]) 64 := by
  intro parameters requests calls
  have rule : EngineCall.KeepsRetryRule calls := by
    decide +kernel
  obtain ⟨same, compressed, decompressed⟩ := calls_eq_stateless requests rule
  obtain ⟨last, parked, first, earlier, record, running⟩ :
      ∃ last parked first earlier,
        calls =
            .decompress [0, 0] 8 last :: .compress [4, 5] 4 parked ::
              .compress [1, 2, 3] 64 first :: earlier ∧
          EngineCall.running earlier = some parameters :=
    ⟨_, _, _, _, rfl, rfl⟩
  refine ⟨rule, same, last, parked, first, earlier, record, ?_, ?_⟩
  · have past :
        .decompress [0, 0] 8 last :: .compress [4, 5] 4 parked ::
            .compress [1, 2, 3] 64 first :: earlier <:+ calls :=
      ⟨[], record.symm⟩
    exact decompressed _ _ _ _ parameters past running rfl nofun
  · have past : .compress [1, 2, 3] 64 first :: earlier <:+ calls := by
      rw [record]
      exact (List.suffix_cons _ _).trans (List.suffix_cons _ _)
    exact compressed _ _ _ _ parameters past running rfl nofun

end RecordedEngine

end MemberStream
