import MemberStream.Proofs.Codec.Limiting
import MemberStream.Proofs.Reader.Phases
import MemberStream.Proofs.Reader.Refinement
import MemberStream.Proofs.Reader.Renewal

namespace MemberStream

/-!
# Reading under a limit

A reader with a limit enlarges its output buffer until a member fits, or until the buffer is
as long as the limit.  So a member is delivered if it is within the limit, and refused if it
is not, whatever length the buffer had before and however it has grown.
-/

variable {encoders : Encoders}

namespace Reader

variable {σ : Type}

/-- A reader whose session decompresses, with its output buffer within a limit. -/
structure Limited
    (parameters : ParameterSet)
    (limit : Nat)
    (reader : Reader σ (MemberEngine encoders)) :
    Prop where
  phase : reader.phase = .active
  failure : reader.failure = none
  session : reader.engine.session = some parameters
  allowed : parameters.direction.allows .decompress = true
  ceiling : reader.growth.limit = some limit
  increment : 0 < reader.growth.increment
  outputLength : reader.outputLength ≤ limit

/-- A reader is within its limit as before when only its input has changed. -/
theorem Limited.of_sameOutput
    {parameters : ParameterSet}
    {limit : Nat}
    {next reader : Reader σ (MemberEngine encoders)}
    (limited : reader.Limited parameters limit)
    (same : SameOutput next reader) :
    next.Limited parameters limit where
  phase := same.phase.trans limited.phase
  failure := same.failure.trans limited.failure
  session := by
    rw [same.engine]
    exact limited.session
  allowed := limited.allowed
  ceiling := by
    rw [same.growth]
    exact limited.ceiling
  increment := by
    rw [same.growth]
    exact limited.increment
  outputLength := by
    rw [same.outputLength]
    exact limited.outputLength

/-- What a reader has still to deliver: the contents of members, up to where unpacking stops. -/
inductive OwesWithin
    [Source σ]
    (parameters : ParameterSet)
    (limit : Nat)
    (upstream contents : Bytes)
    (stop : UnpackStop)
    (reader : Reader σ (MemberEngine encoders)) :
    Prop where
  /-- Nothing has been read, so it is all that the source serves. -/
  | unread
      (unread : reader.Unread upstream)
      (empty : reader.window = [])
      (idle : reader.engine.parked = none)
      (inputLength : reader.inputLength ≤ limit)
      (unpacks : parameters.UnpacksWithin limit upstream contents stop)
  /-- It is the window and what the unread input holds. -/
  | filled
      {more : Bytes}
      (filled : reader.Filled upstream)
      (nonempty : upstream ≠ [])
      (parked :
        ∀ parked,
          reader.engine.parked = some parked →
            MemberEngine.decodeFront parameters reader.unread = .ok parked)
      (content : contents = reader.window ++ more)
      (unpacks : parameters.UnpacksWithin limit reader.unread more stop)

/-- A reader within its limit that owes some contents. -/
structure UnderwayWithin
    [Source σ]
    (parameters : ParameterSet)
    (limit : Nat)
    (upstream contents : Bytes)
    (stop : UnpackStop)
    (reader : Reader σ (MemberEngine encoders)) :
    Prop where
  limited : reader.Limited parameters limit
  owes : reader.OwesWithin parameters limit upstream contents stop

/-- What a round may come to on a reader that owes some contents. -/
def Round.PaysWithin
    [Source σ]
    (parameters : ParameterSet)
    (limit : Nat)
    (upstream contents : Bytes)
    (stop : UnpackStop) :
    Round σ (MemberEngine encoders) →
    Prop
  | .took bytes next =>
      ∃ left,
        contents = bytes ++ left ∧ next.UnderwayWithin parameters limit upstream left stop
  | .moved next =>
      next.UnderwayWithin parameters limit upstream contents stop
  | .ended last =>
      contents = [] ∧ stop.Answers upstream limit (.ok []) ∧
        last.UnderwayWithin parameters limit upstream contents stop
  | .failed error _ =>
      contents = [] ∧ stop.Answers upstream limit (.error error)

/-- A window that holds bytes is drained, and the rest is still owed. -/
theorem paysWithin_of_drain
    [Source σ]
    {parameters : ParameterSet}
    {limit : Nat}
    {upstream contents : Bytes}
    {stop : UnpackStop}
    {reader : Reader σ (MemberEngine encoders)}
    (underway : reader.UnderwayWithin parameters limit upstream contents stop)
    (some : 0 < reader.outputLeft)
    (wanted : Nat) :
    Round.PaysWithin parameters limit upstream contents stop
      (.took (reader.drain wanted).1 (reader.drain wanted).2) := by
  obtain ⟨limited, owes⟩ := underway
  have kept : (reader.drain wanted).2.Limited parameters limit :=
    ⟨limited.phase, limited.failure, limited.session, limited.allowed, limited.ceiling,
      limited.increment, limited.outputLength⟩
  have whole : (reader.drain wanted).1 ++ (reader.drain wanted).2.window = reader.window := by
    simp only [drain, List.splitAt_eq]
    exact List.take_append_drop _ _
  cases owes with
  | unread unread empty idle inputLength unpacks =>
      rw [reader.windowed, empty] at some
      exact absurd some (Nat.lt_irrefl 0)
  | @filled more filled nonempty parked content unpacks =>
      refine ⟨(reader.drain wanted).2.window ++ more, ?_, kept, ?_⟩
      · rw [content, ← List.append_assoc, whole]
      · obtain ⟨unread, offset, inputRead, sourceTotal, sourceDone⟩ := filled
        exact .filled ⟨unread, offset, inputRead, sourceTotal, sourceDone⟩ nonempty parked rfl
          unpacks

/-- A reader within its limit, with its input filled, some of it unread and its window empty. -/
structure WalksWithin
    (parameters : ParameterSet)
    (limit : Nat)
    (upstream : Bytes)
    (reader : Reader σ (MemberEngine encoders)) :
    Prop where
  limited : reader.Limited parameters limit
  filled : reader.Filled upstream
  nonempty : upstream ≠ []
  parked :
    ∀ parked,
      reader.engine.parked = some parked →
        MemberEngine.decodeFront parameters reader.unread = .ok parked
  empty : reader.window = []
  more : reader.unread ≠ []

theorem WalksWithin.decompress_eq
    {parameters : ParameterSet}
    {limit : Nat}
    {upstream : Bytes}
    {reader : Reader σ (MemberEngine encoders)}
    (walks : reader.WalksWithin parameters limit upstream) :
    EngineCalls.decompress reader.engine reader.unread reader.outputLength =
      reader.engine.fresh (MemberEngine.decodeFront parameters reader.unread)
        reader.outputLength :=
  MemberEngine.call_eq_fresh walks.limited.session walks.limited.allowed walks.more walks.parked _

/-- A member that can be decoded is handed out if it fits, and parked if it does not. -/
theorem WalksWithin.answer_of_decodeMember
    {parameters : ParameterSet}
    {limit length : Nat}
    {upstream content : Bytes}
    {reader : Reader σ (MemberEngine encoders)}
    (walks : reader.WalksWithin parameters limit upstream)
    (decoded : parameters.decodeMember reader.unread = .ok (length, content)) :
    (content.length ≤ reader.outputLength ∧
        EngineCalls.decompress reader.engine reader.unread reader.outputLength =
          (⟨.ok ⟨length, content.length⟩, content⟩, { reader.engine with parked := none })) ∨
      ∃ produced,
        reader.outputLength < content.length ∧
          MemberEngine.decodeFront parameters reader.unread = .ok produced ∧
          EngineCalls.decompress reader.engine reader.unread reader.outputLength =
            (⟨.error .insufficientBuffer, []⟩,
              { reader.engine with parked := some produced }) := by
  have called := walks.decompress_eq
  have fresh := reader.engine.fresh_cases
    (MemberEngine.decodeFront parameters reader.unread) reader.outputLength
  have works : MemberEngine.decodeFront parameters reader.unread =
      .ok ⟨.decompress, reader.unread.length, length, content⟩ := by
    rw [MemberEngine.decodeFront, decoded]
  rw [works] at called fresh
  rw [called, works]
  generalize reader.engine.fresh _ _ = reply at fresh
  cases fresh with
  | handed same fits =>
      cases same
      exact .inl ⟨fits, rfl⟩
  | parked same short =>
      cases same
      exact .inr ⟨_, short, rfl, rfl⟩
  | failed same =>
      cases same

/-- A member that is handed out is in the window next, and no longer unread. -/
theorem underwayWithin_of_handed
    [Source σ]
    {parameters : ParameterSet}
    {limit length : Nat}
    {upstream content contents : Bytes}
    {stop : UnpackStop}
    {reader : Reader σ (MemberEngine encoders)}
    (walks : reader.WalksWithin parameters limit upstream)
    (front : parameters.decodeMember reader.unread = .ok (length, content))
    (behind : parameters.UnpacksWithin limit (reader.unread.drop length) contents stop)
    (fits : content.length ≤ reader.outputLength)
    (answer :
      EngineCalls.decompress reader.engine reader.unread reader.outputLength =
        (⟨.ok ⟨length, content.length⟩, content⟩, { reader.engine with parked := none }))
    (scope : Scope)
    (wanted : Nat) :
    Round.PaysWithin parameters limit upstream (content ++ contents) stop
      (reader.advance scope wanted) := by
  obtain ⟨limited, filled, nonempty, -, empty, -⟩ := walks
  obtain ⟨-, enough⟩ := ParameterSet.decodeMember_bounds front
  rw [advance_of_handed filled front fits answer]
  refine ⟨?_, ?_⟩
  · exact
      ⟨limited.phase, limited.failure, limited.session, limited.allowed, limited.ceiling,
        limited.increment, limited.outputLength⟩
  · refine .filled (filled.accept enough _ scope _) nonempty ?_ ?_ behind
    · intro parked same
      cases same
    · change content ++ contents = Reply.front _ content.length ++ contents
      rw [Reply.front_of_length _ _ rfl]

/-- What a round comes to when a member has been parked. -/
inductive Parks
    (parameters : ParameterSet)
    (limit : Nat)
    (reader : Reader σ (MemberEngine encoders))
    (produced : ParkedMember) :
    Round σ (MemberEngine encoders) →
    Prop where
  /-- The output buffer has grown. -/
  | grown
      {next : Reader σ (MemberEngine encoders)}
      (limited : next.Limited parameters limit)
      (parked : next.engine.parked = some produced)
      (unread : next.unread = reader.unread)
      (window : next.window = reader.window)
      (filled : ∀ upstream, reader.Filled upstream → next.Filled upstream) :
      Parks parameters limit reader produced (.moved next)
  /-- It is as long as the limit. -/
  | refused
      {last : Reader σ (MemberEngine encoders)}
      (full : limit ≤ reader.outputLength)
      (wanted : Nat) :
      Parks parameters limit reader produced (.failed (.bufferLimitExceeded wanted limit) last)

/-- When a member has been parked, the output buffer grows unless it is as long as the limit. -/
theorem parks_of_insufficient
    {parameters : ParameterSet}
    {limit : Nat}
    {reader : Reader σ (MemberEngine encoders)}
    {produced : ParkedMember}
    (limited : reader.Limited parameters limit)
    (word : limit ≤ maxLength)
    (answer :
      EngineCalls.decompress reader.engine reader.unread reader.outputLength =
        (⟨.error .insufficientBuffer, []⟩, { reader.engine with parked := some produced }))
    (scope : Scope)
    (wanted : Nat) :
    Parks parameters limit reader produced (reader.advance scope wanted) := by
  have answered := answered_advance reader scope wanted
  generalize reader.advance scope wanted = round at answered
  have growth := GrowthPolicy.nextOutputLength_cases limited.increment wanted reader.outputLength
  cases answered with
  | overreport again beyond | idle again within idle | step again within busy =>
      rw [answer] at again
      cases again
  | engine again terminal =>
      rw [answer] at again
      cases again
      exact absurd rfl terminal
  | limit again refused =>
      rw [refused] at growth
      cases growth with
      | refused ceiling reached _ =>
          cases ceiling.symm.trans limited.ceiling
          exact .refused reached _
  | grow again grown larger =>
      rw [answer] at again
      cases again
      rw [grown] at growth
      cases growth with
      | enlarged same increment within _ =>
          refine .grown
            ⟨limited.phase, limited.failure, limited.session, limited.allowed,
              same.trans limited.ceiling, increment, within limit limited.ceiling⟩
            rfl rfl rfl ?_
          intro upstream filled
          exact
            ⟨filled.unread, filled.offset, filled.inputRead, filled.sourceTotal,
              filled.sourceDone⟩
  | saturated again grown stuck =>
      rw [grown] at growth
      cases growth with
      | enlarged _ _ _ larger =>
          have full : maxLength ≤ reader.outputLength :=
            Nat.le_of_not_lt fun below => stuck (larger below)
          have same : maxLength = limit :=
            Nat.le_antisymm (Nat.le_trans full limited.outputLength) word
          rw [same] at full ⊢
          exact .refused full _

/-- A parked member is still owed, unless the output buffer is as long as the limit. -/
theorem paysWithin_of_parks
    [Source σ]
    {parameters : ParameterSet}
    {limit : Nat}
    {upstream contents : Bytes}
    {stop : UnpackStop}
    {reader : Reader σ (MemberEngine encoders)}
    {produced : ParkedMember}
    {round : Round σ (MemberEngine encoders)}
    (walks : reader.WalksWithin parameters limit upstream)
    (unpacks : parameters.UnpacksWithin limit reader.unread contents stop)
    (front : MemberEngine.decodeFront parameters reader.unread = .ok produced)
    (parks : Parks parameters limit reader produced round)
    (stuck : limit ≤ reader.outputLength → contents = [] ∧ stop = .beyond) :
    Round.PaysWithin parameters limit upstream contents stop round := by
  cases parks with
  | grown limited parked unread window filled =>
      rw [← unread] at unpacks front
      refine ⟨limited,
        .filled (filled upstream walks.filled) walks.nonempty ?_ ?_ unpacks⟩
      · intro held same
        rw [parked] at same
        cases same
        exact front
      · rw [window, walks.empty, List.nil_append]
  | refused full wanted =>
      obtain ⟨rfl, rfl⟩ := stuck full
      exact ⟨rfl, .beyond wanted⟩

/-- With its window empty and some input unread a reader pays what it owes, member by member. -/
theorem paysWithin_of_advance
    [Source σ]
    {parameters : ParameterSet}
    {limit : Nat}
    {upstream contents : Bytes}
    {stop : UnpackStop}
    {reader : Reader σ (MemberEngine encoders)}
    (walks : reader.WalksWithin parameters limit upstream)
    (unpacks : parameters.UnpacksWithin limit reader.unread contents stop)
    (word : limit ≤ maxLength)
    (scope : Scope)
    (wanted : Nat) :
    Round.PaysWithin parameters limit upstream contents stop (reader.advance scope wanted) := by
  generalize whole : reader.unread = input at unpacks
  cases unpacks with
  | ended =>
      exact absurd whole walks.more
  | @undecodable _ error nonempty fails =>
      subst whole
      have refuses :
          MemberEngine.decodeFront parameters reader.unread = .error error.toStreamError := by
        rw [MemberEngine.decodeFront, fails]
      have called := walks.decompress_eq
      rw [refuses] at called
      rw [advance_of_failure scope wanted called error.toStreamError_ne_insufficientBuffer]
      exact ⟨rfl, .undecodable error⟩
  | @beyond _ content length decoded exceeds =>
      subst whole
      rcases walks.answer_of_decodeMember decoded with ⟨fits, -⟩ | ⟨produced, short, front, answer⟩
      · exact absurd (Nat.le_trans fits walks.limited.outputLength) (Nat.not_le_of_lt exceeds)
      · exact paysWithin_of_parks walks (.beyond decoded exceeds) front
          (parks_of_insufficient walks.limited word answer scope wanted) fun _ => ⟨rfl, rfl⟩
  | @member _ content contents length stop decoded within behind =>
      subst whole
      rcases walks.answer_of_decodeMember decoded with
        ⟨fits, answer⟩ | ⟨produced, short, front, answer⟩
      · exact underwayWithin_of_handed walks decoded behind fits answer scope wanted
      · exact paysWithin_of_parks walks (.member decoded within behind) front
          (parks_of_insufficient walks.limited word answer scope wanted)
          fun full => absurd (Nat.le_trans within full) (Nat.not_le_of_lt short)

/-- With its input filled and its window empty a reader pays what it owes. -/
theorem paysWithin_of_filled
    [Source σ]
    {parameters : ParameterSet}
    {limit : Nat}
    {upstream contents : Bytes}
    {stop : UnpackStop}
    {reader : Reader σ (MemberEngine encoders)}
    (limited : reader.Limited parameters limit)
    (filled : reader.Filled upstream)
    (nonempty : upstream ≠ [])
    (parked :
      ∀ parked,
        reader.engine.parked = some parked →
          MemberEngine.decodeFront parameters reader.unread = .ok parked)
    (empty : reader.window = [])
    (unpacks : parameters.UnpacksWithin limit reader.unread contents stop)
    (word : limit ≤ maxLength)
    (scope : Scope)
    (wanted : Nat) :
    Round.PaysWithin parameters limit upstream contents stop
      (if reader.inputExhausted then .ended reader else reader.advance scope wanted) := by
  by_cases exhausted : reader.inputExhausted = true
  · rw [if_pos exhausted]
    have nothing := filled.exhausted_iff.mp exhausted
    have underway : reader.UnderwayWithin parameters limit upstream contents stop :=
      ⟨limited, .filled filled nonempty parked (by rw [empty, List.nil_append]) unpacks⟩
    rw [nothing] at unpacks
    obtain ⟨rfl, rfl⟩ := unpacks.of_nil
    exact ⟨rfl, .ended nonempty, underway⟩
  · rw [if_neg exhausted]
    have more : reader.unread ≠ [] := fun nothing => exhausted (filled.exhausted_iff.mpr nothing)
    exact paysWithin_of_advance ⟨limited, filled, nonempty, parked, empty, more⟩ unpacks word scope
      wanted

/-- Every round pays what is owed, if the source is shorter than the limit. -/
theorem paysWithin_of_round
    [Source σ]
    {parameters : ParameterSet}
    {limit : Nat}
    {upstream contents : Bytes}
    {stop : UnpackStop}
    {reader : Reader σ (MemberEngine encoders)}
    (underway : reader.UnderwayWithin parameters limit upstream contents stop)
    (word : limit ≤ maxLength)
    (below : upstream.length < limit)
    (scope : Scope)
    (wanted : Nat) :
    Round.PaysWithin parameters limit upstream contents stop (reader.round scope wanted) := by
  unfold round
  split
  · rename_i some
    exact paysWithin_of_drain underway some wanted
  · rename_i drained
    have empty : reader.window = [] := by
      rw [reader.windowed] at drained
      exact List.length_eq_zero_iff.mp (by omega)
    obtain ⟨limited, owes⟩ := underway
    cases owes with
    | unread unread _ idle inputLength unpacks =>
        have room : reader.HasRoom upstream.length := by
          intro other same
          cases limited.ceiling.symm.trans same
          exact ⟨inputLength, below⟩
        obtain ⟨filled, ensured, same, fills, offset⟩ :=
          ensureInput_of_unread scope unread room (Nat.lt_of_lt_of_le below word)
        have kept := limited.of_sameOutput same
        rw [ensured]
        by_cases nothing : upstream = []
        · rw [if_pos nothing]
          subst nothing
          obtain ⟨rfl, rfl⟩ := unpacks.of_nil
          exact ⟨rfl, .empty rfl⟩
        · rw [if_neg nothing]
          have whole : filled.unread = upstream := by
            rw [fills.unread, offset, List.drop_zero]
          rw [← whole] at unpacks
          refine paysWithin_of_filled kept fills nothing ?_ (same.window.trans empty) unpacks word
            scope wanted
          intro parked some
          rw [same.engine, idle] at some
          cases some
    | filled fills nonempty parked content unpacks =>
        rw [empty, List.nil_append] at content
        subst content
        rw [ensureInput_of_filled scope fills nonempty]
        exact paysWithin_of_filled limited fills nonempty parked empty unpacks word scope wanted

/-- Where a reader within its limit stands between two reads. -/
inductive StandsWithin
    [Source σ]
    (parameters : ParameterSet)
    (limit : Nat)
    (upstream contents : Bytes)
    (stop : UnpackStop)
    (reader : Reader σ (MemberEngine encoders)) :
    Prop where
  /-- Its session has started, or starts with the next read. -/
  | ready
      (readies :
        ∀ scope, ∃ active,
          reader.ready scope = (.ok (), active) ∧
            active.UnderwayWithin parameters limit upstream contents stop)
  /-- The failure is kept, and everything before it has been delivered. -/
  | failed
      {error : StreamError}
      (failure : reader.failure = some error)
      (drained : contents = [])
      (answers : stop.Answers upstream limit (.error error))

theorem standsWithin_of_underway
    [Source σ]
    {parameters : ParameterSet}
    {limit : Nat}
    {upstream contents : Bytes}
    {stop : UnpackStop}
    {reader : Reader σ (MemberEngine encoders)}
    (underway : reader.UnderwayWithin parameters limit upstream contents stop) :
    reader.StandsWithin parameters limit upstream contents stop := by
  exact .ready fun scope =>
    ⟨reader, ready_of_active underway.limited.failure underway.limited.phase scope, underway⟩

/-- What a delivery comes to on a reader that owes some contents, behind what it has delivered. -/
structure DeliversWithin
    [Source σ]
    (parameters : ParameterSet)
    (limit : Nat)
    (upstream contents : Bytes)
    (stop : UnpackStop)
    (wanted : Nat)
    (before : Bytes)
    (outcome : Except StreamError Bytes × Reader σ (MemberEngine encoders)) :
    Prop where
  content :
    before ≠ [] ∨ contents ≠ [] → outcome.1 = .ok (before.reverse ++ contents.take wanted)
  answers :
    wanted ≠ 0 → before = [] → contents = [] → stop.Answers upstream limit outcome.1
  stands : outcome.2.StandsWithin parameters limit upstream (contents.drop wanted) stop

/-- A failure behind all contents is handed out unless bytes have been delivered before it. -/
theorem deliversWithin_of_fail
    [Source σ]
    {parameters : ParameterSet}
    {limit : Nat}
    {upstream : Bytes}
    {stop : UnpackStop}
    {error : StreamError}
    (answers : stop.Answers upstream limit (.error error))
    (last : Reader σ (MemberEngine encoders))
    (scope : Scope)
    (wanted : Nat)
    (before : Bytes) :
    DeliversWithin parameters limit upstream [] stop wanted before
      (last.failAfter scope before error) := by
  have stands :
      StandsWithin parameters limit upstream [] stop (last.fail scope error) :=
    .failed rfl rfl answers
  unfold failAfter
  refine ⟨?_, ?_, ?_⟩
  · intro some
    rw [List.take_nil, List.append_nil]
    cases before with
    | nil =>
        simp at some
    | cons byte before =>
        rfl
  · rintro _ rfl _
    exact answers
  · rw [List.drop_nil]
    dsimp only
    split <;> exact stands

/-- A delivery hands out the front of what is owed. -/
theorem deliversWithin_of_underway
    [Source σ]
    (reader : Reader σ (MemberEngine encoders))
    (scope : Scope)
    (wanted : Nat)
    (before : Bytes)
    {parameters : ParameterSet}
    {limit : Nat}
    {upstream contents : Bytes}
    {stop : UnpackStop}
    (underway : reader.UnderwayWithin parameters limit upstream contents stop)
    (word : limit ≤ maxLength)
    (below : upstream.length < limit) :
    DeliversWithin parameters limit upstream contents stop wanted before
      (reader.deliver scope wanted before) := by
  fun_induction deliver reader scope wanted before generalizing contents with
  | case1 reader before =>
      refine ⟨?_, fun some => absurd rfl some, standsWithin_of_underway underway⟩
      intro _
      rw [List.take_zero, List.append_nil]
  | case2 reader wanted before some bytes next takes ih =>
      have pays := paysWithin_of_round underway word below scope wanted
      obtain ⟨more, enough⟩ := length_of_took takes (Nat.pos_of_ne_zero some)
      rw [takes] at pays
      obtain ⟨left, rfl, after⟩ := pays
      have nonempty : bytes ≠ [] := List.length_pos_iff.mp more
      obtain ⟨content, -, stands⟩ := ih after
      refine ⟨?_, ?_, ?_⟩
      · intro _
        rw [content (Or.inl (by simp [nonempty])), List.take_append, List.take_of_length_le enough,
          List.reverse_append, List.reverse_reverse, List.append_assoc]
      · intro _ _ nothing
        exact absurd (List.append_eq_nil_iff.mp nothing).1 nonempty
      · rw [List.drop_append, List.drop_of_length_le enough, List.nil_append]
        exact stands
  | case3 reader wanted before some next moves ih =>
      have pays := paysWithin_of_round underway word below scope wanted
      rw [moves] at pays
      exact ih pays
  | case4 reader wanted before some last ends =>
      have pays := paysWithin_of_round underway word below scope wanted
      rw [ends] at pays
      obtain ⟨rfl, answers, after⟩ := pays
      refine ⟨?_, ?_, ?_⟩
      · intro _
        rw [List.take_nil, List.append_nil]
      · rintro _ rfl _
        exact answers
      · rw [List.drop_nil]
        exact standsWithin_of_underway after
  | case5 reader wanted before some error last fails =>
      have pays := paysWithin_of_round underway word below scope wanted
      rw [fails] at pays
      obtain ⟨rfl, answers⟩ := pays
      exact deliversWithin_of_fail answers last scope wanted before

/-- A read gets the front of what is owed, and the answer of the stop behind all of it. -/
theorem readChunk_of_standsWithin
    [Source σ]
    {parameters : ParameterSet}
    {limit : Nat}
    {upstream contents : Bytes}
    {stop : UnpackStop}
    {reader : Reader σ (MemberEngine encoders)}
    {size : Nat}
    (stands : reader.StandsWithin parameters limit upstream contents stop)
    (word : limit ≤ maxLength)
    (below : upstream.length < limit)
    (some : size ≠ 0) :
    (contents ≠ [] → (reader.readChunk size).1 = .ok (contents.take size)) ∧
      (contents = [] → stop.Answers upstream limit (reader.readChunk size).1) ∧
      (reader.readChunk size).2.StandsWithin parameters limit upstream
        (contents.drop size) stop := by
  cases stands with
  | ready readies =>
      obtain ⟨active, same, underway⟩ := readies reader.scope
      rw [readChunk_of_ready same]
      obtain ⟨content, answers, stands⟩ :=
        deliversWithin_of_underway active (reader.scope ++ ["read"]) size [] underway word below
      exact ⟨fun nonempty => content (Or.inr nonempty), answers some rfl, stands⟩
  | failed failure drained answers =>
      subst drained
      rw [readChunk_of_unready (ready_of_failed failure _), List.drop_nil]
      exact ⟨fun nonempty => absurd rfl nonempty, fun _ => answers, .failed failure rfl answers⟩

/--
Read chunks of some sizes, up to the first read that fails or gets nothing: what was delivered
before that read, and its result.
-/
def readOut
    {ε : Type}
    [EngineCalls ε]
    [Source σ]
    (reader : Reader σ ε) :
    List Nat →
    Bytes × Option (Except StreamError Bytes) × Reader σ ε
  | [] =>
      ([], none, reader)
  | size :: sizes =>
      match reader.readChunk size with
      | (.ok (byte :: bytes), next) =>
          let (delivered, result, last) := next.readOut sizes
          (byte :: bytes ++ delivered, result, last)
      | (result, last) =>
          ([], some result, last)

/-- What reading to the end comes to on a reader that owes some contents. -/
structure ReadsOut
    (limit : Nat)
    (upstream contents : Bytes)
    (stop : UnpackStop)
    (sizes : List Nat)
    (delivered : Bytes)
    (result : Option (Except StreamError Bytes)) :
    Prop where
  front : delivered = contents.take sizes.sum
  whole : ∀ last, result = some last → delivered = contents ∧ stop.Answers upstream limit last
  /-- Every read before the last one gets a byte at least. -/
  ends : contents.length < sizes.length → result ≠ none

/-- Reads get what is owed, up to its end. -/
theorem readsOut_of_standsWithin
    [Source σ]
    {parameters : ParameterSet}
    {limit : Nat}
    {upstream contents : Bytes}
    {stop : UnpackStop}
    {reader : Reader σ (MemberEngine encoders)}
    {sizes : List Nat}
    (stands : reader.StandsWithin parameters limit upstream contents stop)
    (word : limit ≤ maxLength)
    (below : upstream.length < limit)
    (positive : ∀ size ∈ sizes, size ≠ 0) :
    ReadsOut limit upstream contents stop sizes (reader.readOut sizes).1
      (reader.readOut sizes).2.1 := by
  induction sizes generalizing reader contents with
  | nil =>
      refine ⟨?_, nofun, fun less => absurd less (Nat.not_lt_zero _)⟩
      rw [List.sum_nil, List.take_zero]
      rfl
  | cons size sizes ih =>
      have some := positive size List.mem_cons_self
      obtain ⟨content, answers, after⟩ := readChunk_of_standsWithin stands word below some
      have later := ih after fun size among => positive size (List.mem_cons_of_mem _ among)
      unfold readOut
      cases contents with
      | nil =>
          have answered := answers rfl
          generalize reader.readChunk size = outcome at answered
          obtain ⟨result, last⟩ := outcome
          dsimp only at answered
          have stops : ReadsOut limit upstream [] stop (size :: sizes) [] (Option.some result) := by
            refine ⟨List.take_nil.symm, ?_, fun _ => nofun⟩
            rintro _ ⟨⟩
            exact ⟨rfl, answered⟩
          split
          · rename_i same
            cases same
            exact absurd answered.of_ok (List.cons_ne_nil _ _)
          · rename_i same
            cases same
            exact stops
      | cons byte contents =>
          obtain ⟨count, rfl⟩ := Nat.exists_eq_succ_of_ne_zero some
          have got := content (List.cons_ne_nil _ _)
          generalize reader.readChunk (count + 1) = outcome at got later
          obtain ⟨result, next⟩ := outcome
          rw [List.drop_succ_cons] at later
          dsimp only at got later
          subst got
          rw [List.take_succ_cons]
          dsimp only
          obtain ⟨front, whole, ends⟩ := later
          refine ⟨?_, ?_, ?_⟩
          · rw [front, List.sum_cons, List.take_add, List.take_succ_cons, List.drop_succ_cons]
          · intro last same
            obtain ⟨all, answered⟩ := whole last same
            refine ⟨?_, answered⟩
            rw [all, List.cons_append, List.take_append_drop]
          · intro less
            rw [List.length_cons, List.length_cons] at less
            refine ends ?_
            rw [List.length_drop]
            omega

/-- A session that starts under a limit owes all that the source serves. -/
theorem underwayWithin_of_startSession
    [Source σ]
    {limit : Nat}
    {upstream contents : Bytes}
    {stop : UnpackStop}
    {reader started : Reader σ (MemberEngine encoders)}
    {scope : Scope}
    {source : σ}
    (starts : reader.startSession scope = (.ok (), started))
    (unfailed : reader.failure = none)
    (allowed : (reader.staged.resolve reader.overrides).direction.allows .decompress = true)
    (limited : (reader.staged.resolve reader.overrides).maxBufferLength = some limit)
    (served : Serves source upstream)
    (unpacks :
      (reader.staged.resolve reader.overrides).UnpacksWithin limit upstream contents stop) :
    ({ started with source := source } : Reader σ (MemberEngine encoders)).UnderwayWithin
      (reader.staged.resolve reader.overrides) limit upstream contents stop := by
  unfold startSession at starts
  dsimp only at starts
  split at starts
  · cases starts
  · rename_i engine answer
    cases starts
    obtain ⟨-, rfl⟩ := MemberEngine.of_start answer
    refine ⟨⟨rfl, unfailed, rfl, allowed, limited, ?_, ?_⟩, ?_⟩
    · exact Nat.lt_of_lt_of_le Nat.zero_lt_one (Nat.le_max_right _ _)
    · exact GrowthPolicy.initialLength_le limited _
    · exact .unread ⟨served, rfl, rfl, rfl, rfl⟩ rfl rfl
        (GrowthPolicy.initialLength_le limited _) unpacks

/-- A session starts if its codec accepts its level. -/
theorem startSession_of_checkLevel
    {reader : Reader σ (MemberEngine encoders)}
    (level :
      (reader.staged.resolve reader.overrides).algorithm.checkLevel
        (reader.staged.resolve reader.overrides).level = .ok ())
    (scope : Scope) :
    ∃ started, reader.startSession scope = (.ok (), started) := by
  unfold startSession
  dsimp only
  rw [MemberEngine.start_of_checkLevel reader.engine level]
  exact ⟨_, rfl⟩

/-- An idle reader whose session can start under a limit owes all that the source serves. -/
theorem standsWithin_of_idle
    [Source σ]
    {limit : Nat}
    {upstream contents : Bytes}
    {stop : UnpackStop}
    {reader : Reader σ (MemberEngine encoders)}
    (phase : reader.phase = .idle)
    (unfailed : reader.failure = none)
    (level :
      (reader.staged.resolve reader.overrides).algorithm.checkLevel
        (reader.staged.resolve reader.overrides).level = .ok ())
    (allowed : (reader.staged.resolve reader.overrides).direction.allows .decompress = true)
    (limited : (reader.staged.resolve reader.overrides).maxBufferLength = some limit)
    (served : Serves reader.source upstream)
    (unpacks :
      (reader.staged.resolve reader.overrides).UnpacksWithin limit upstream contents stop) :
    reader.StandsWithin (reader.staged.resolve reader.overrides) limit upstream contents stop := by
  refine .ready fun scope => ?_
  obtain ⟨started, starts⟩ := startSession_of_checkLevel level scope
  refine ⟨started, ready_of_starts unfailed phase starts, ?_⟩
  rw [← (started_of_startSession starts).source] at served
  exact underwayWithin_of_startSession starts unfailed allowed limited served unpacks

/-- A reader at the start of a session under a limit owes all that the source serves. -/
theorem standsWithin_of_opened
    [Source σ]
    {parameters : ParameterSet}
    {limit : Nat}
    {upstream contents : Bytes}
    {stop : UnpackStop}
    {reader : Reader σ (MemberEngine encoders)}
    (opened : reader.Opened parameters)
    (limited : parameters.maxBufferLength = some limit)
    (served : Serves reader.source upstream)
    (unpacks : parameters.UnpacksWithin limit upstream contents stop) :
    reader.StandsWithin parameters limit upstream contents stop := by
  cases opens_of_opened opened with
  | built source engine overrides staged session level allowed =>
      subst session
      exact standsWithin_of_idle rfl rfl level allowed limited served unpacks
  | started source unfailed session allowed starts =>
      subst session
      exact standsWithin_of_underway
        (underwayWithin_of_startSession starts unfailed allowed limited served unpacks)

/-- What reading a source to its end comes to under a limit. -/
structure ReadsWithin
    (parameters : ParameterSet)
    (limit : Nat)
    (upstream : Bytes)
    (sizes : List Nat)
    (delivered : Bytes)
    (result : Option (Except StreamError Bytes)) :
    Prop where
  unpacks : ∃ contents stop, parameters.UnpacksWithin limit upstream contents stop
  reads :
    ∀ contents stop,
      parameters.UnpacksWithin limit upstream contents stop →
        ReadsOut limit upstream contents stop sizes delivered result
  /-- The limit is reported for a member that holds more, if none before it fails. -/
  refused_iff :
    ∀ last,
      result = some last →
        ((∃ wanted ceiling, last = .error (.bufferLimitExceeded wanted ceiling)) ↔
          ∃ contents, parameters.UnpacksWithin limit upstream contents .beyond)

/-- A reader at the start of a session reads its source to the end under the limit. -/
theorem readsWithin_of_opened
    [Source σ]
    {parameters : ParameterSet}
    {limit : Nat}
    {upstream : Bytes}
    {reader : Reader σ (MemberEngine encoders)}
    {sizes : List Nat}
    (opened : reader.Opened parameters)
    (limited : parameters.maxBufferLength = some limit)
    (word : limit ≤ maxLength)
    (served : Serves reader.source upstream)
    (below : upstream.length < limit)
    (positive : ∀ size ∈ sizes, size ≠ 0) :
    ReadsWithin parameters limit upstream sizes (reader.readOut sizes).1
      (reader.readOut sizes).2.1 := by
  have reads (contents : Bytes) (stop : UnpackStop)
      (unpacks : parameters.UnpacksWithin limit upstream contents stop) :
      ReadsOut limit upstream contents stop sizes (reader.readOut sizes).1
        (reader.readOut sizes).2.1 :=
    readsOut_of_standsWithin (standsWithin_of_opened opened limited served unpacks) word below
      positive
  refine ⟨parameters.exists_unpacksWithin limit upstream, reads, ?_⟩
  intro last ends
  constructor
  · intro refused
    obtain ⟨contents, stop, unpacks⟩ := parameters.exists_unpacksWithin limit upstream
    obtain ⟨-, answers⟩ := (reads contents stop unpacks).whole last ends
    obtain rfl := answers.refused_iff.mp refused
    exact ⟨contents, unpacks⟩
  · rintro ⟨contents, unpacks⟩
    obtain ⟨-, answers⟩ := (reads contents .beyond unpacks).whole last ends
    exact answers.refused_iff.mpr rfl

end Reader

end MemberStream
