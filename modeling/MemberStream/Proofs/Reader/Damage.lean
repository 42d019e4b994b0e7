import MemberStream.Proofs.Codec.Damage
import MemberStream.Proofs.Reader.Freezing
import MemberStream.Proofs.Reader.Truncation

namespace MemberStream

/-!
# Reading streams with a damaged member

A reader of a stream with a damaged member delivers the members before that one,
nothing of the member itself, and then the failure that the damage comes to.
The failure is kept by the first read that asks for more bytes than there are,
so that every later read answers with it, even one that asks for none.
-/

variable {encoders : Encoders}

/--
The answers to reads of any sizes from some content with a failure behind it.  The
first read that asks for more than is left meets the failure: it gets what is left
if there is anything, and every read behind it gets the failure.
-/
def answersUntil
    (contents : Bytes)
    (error : StreamError) :
    List Nat →
    List (Except StreamError Bytes)
  | [] =>
      []
  | size :: sizes =>
      if size ≤ contents.length then
        .ok (contents.take size) :: answersUntil (contents.drop size) error sizes
      else
        answer contents (some error) size :: List.replicate sizes.length (.error error)

/-- Failures deliver nothing. -/
theorem deliveredBy_replicate_error
    (count : Nat)
    (error : StreamError) :
    deliveredBy (List.replicate count (.error error)) = [] := by
  induction count with
  | zero =>
      rfl
  | succ count ih =>
      exact ih

/-- What reads deliver up to a failure is the front of the content. -/
theorem deliveredBy_answersUntil
    (contents : Bytes)
    (error : StreamError)
    (sizes : List Nat) :
    deliveredBy (answersUntil contents error sizes) = contents.take sizes.sum := by
  induction sizes generalizing contents with
  | nil =>
      rw [List.sum_nil, List.take_zero]
      rfl
  | cons size sizes ih =>
      rw [answersUntil, List.sum_cons]
      split
      · rw [List.take_add, ← ih]
        rfl
      · rename_i beyond
        have all := Nat.le_of_not_le beyond
        have last := deliveredBy_answers contents (some error) [size]
        rw [List.sum_singleton, List.take_of_length_le all] at last
        calc
          deliveredBy ([answer contents (some error) size] ++ List.replicate sizes.length _)
          _ = deliveredBy [answer contents (some error) size] ++
                deliveredBy (List.replicate sizes.length (.error error)) :=
            List.flatMap_append
          _ = contents := by
            rw [deliveredBy_replicate_error, List.append_nil]
            exact last
          _ = contents.take (size + sizes.sum) :=
            (List.take_of_length_le (Nat.le_trans all (Nat.le_add_right _ _))).symm

namespace Reader

variable {σ : Type} [Source σ]

/-- A delivery keeps the failure behind some content if it is asked for more than that. -/
theorem failure_of_deliver
    (reader : Reader σ (MemberEngine encoders))
    (scope : Scope)
    (wanted : Nat)
    (before : Bytes)
    {parameters : ParameterSet}
    {upstream delivered contents : Bytes}
    {error : StreamError}
    (underway : reader.Underway parameters upstream delivered contents (some error))
    (short : upstream.length < 2 ^ (63 : Nat))
    (roomy : parameters.Roomy upstream contents) :
    (reader.deliver scope wanted before).2.failure =
      if wanted ≤ contents.length then none else some error := by
  fun_induction deliver reader scope wanted before generalizing delivered contents with
  | case1 reader before =>
      rw [if_pos (Nat.zero_le _)]
      exact underway.decompresses.failure
  | case2 reader wanted before some bytes next takes ih =>
      have pays := pays_of_round underway short roomy scope wanted
      obtain ⟨-, enough⟩ := length_of_took takes (Nat.pos_of_ne_zero some)
      rw [takes] at pays
      obtain ⟨left, rfl, after⟩ := pays
      have fewer : left.length ≤ (bytes ++ left).length :=
        (List.sublist_append_right _ _).length_le
      rw [ih after (roomy.of_le fewer), List.length_append]
      simp only [Nat.sub_le_iff_le_add']
  | case3 reader wanted before some next moves ih =>
      have pays := pays_of_round underway short roomy scope wanted
      rw [moves] at pays
      exact ih pays roomy
  | case4 reader wanted before some last ends =>
      have pays := pays_of_round underway short roomy scope wanted
      rw [ends] at pays
      obtain ⟨-, none, -⟩ := pays
      cases none
  | case5 reader wanted before some cause last fails =>
      have pays := pays_of_round underway short roomy scope wanted
      rw [fails] at pays
      obtain ⟨rfl, same, -⟩ := pays
      cases same
      have beyond : ¬ wanted ≤ ([] : Bytes).length :=
        fun nothing => some (Nat.le_zero.mp nothing)
      rw [if_neg beyond]
      unfold failAfter
      split
      · rfl
      · rfl

/-- What a read comes to on a reader that owes some content and a failure behind it. -/
structure Meets
    (parameters : ParameterSet)
    (upstream delivered contents : Bytes)
    (error : StreamError)
    (size : Nat)
    (outcome : Except StreamError Bytes × Reader σ (MemberEngine encoders)) :
    Prop where
  result :
    outcome.1 =
      if size ≤ contents.length then
        .ok (contents.take size)
      else
        answer contents (some error) size
  failure :
    outcome.2.failure = if size ≤ contents.length then none else some error
  stands :
    outcome.2.Stands parameters upstream (delivered ++ contents.take size)
      (contents.drop size) (some error)

/-- A delivery of any size meets the failure if it is asked for more than there is. -/
theorem meets_of_deliver
    {reader : Reader σ (MemberEngine encoders)}
    {parameters : ParameterSet}
    {upstream delivered contents : Bytes}
    {error : StreamError}
    (underway : reader.Underway parameters upstream delivered contents (some error))
    (short : upstream.length < 2 ^ (63 : Nat))
    (roomy : parameters.Roomy upstream contents)
    (scope : Scope)
    (size : Nat) :
    Meets parameters upstream delivered contents error size (reader.deliver scope size []) := by
  obtain ⟨content, fails, stands⟩ :=
    delivers_of_underway reader scope size [] underway short roomy
  refine ⟨?_, failure_of_deliver reader scope size [] underway short roomy, stands⟩
  by_cases owed : contents ≠ []
  · rw [content (.inr (.inl owed)), answer_of_content size (.inl owed), ite_self]
    rfl
  · rw [Decidable.not_not] at owed
    subst owed
    cases size with
    | zero =>
        rw [deliver]
        rfl
    | succ size =>
        have beyond : ¬ size + 1 ≤ ([] : Bytes).length := Nat.not_succ_le_zero size
        rw [if_neg beyond, fails error (Nat.succ_ne_zero size) rfl rfl rfl]
        rfl

/-- A read of any size meets the failure if it asks for more than there is. -/
theorem meets_of_stands
    {reader : Reader σ (MemberEngine encoders)}
    {parameters : ParameterSet}
    {upstream delivered contents : Bytes}
    {error : StreamError}
    (stands : reader.Stands parameters upstream delivered contents (some error))
    (unfailed : reader.failure = none)
    (short : upstream.length < 2 ^ (63 : Nat))
    (roomy : parameters.Roomy upstream contents)
    (size : Nat) :
    Meets parameters upstream delivered contents error size (reader.readChunk size) := by
  cases stands with
  | idle phase unfailed starts accounts =>
      obtain ⟨started, same, underway⟩ := starts reader.scope
      rw [readChunk_of_ready (ready_of_starts unfailed phase same)]
      exact meets_of_deliver underway short roomy _ size
  | underway underway =>
      rw [readChunk_of_ready (ready_of_active unfailed underway.decompresses.phase _)]
      exact meets_of_deliver underway short roomy _ size
  | failed failure drained same accounts =>
      rw [unfailed] at failure
      cases failure

/-- Reads of a reader that has kept a failure get just that. -/
theorem readChunks_of_failure
    {ε : Type}
    [EngineCalls ε]
    {reader : Reader σ ε}
    {error : StreamError}
    (kept : reader.failure = some error)
    (sizes : List Nat) :
    reader.readChunks sizes = (List.replicate sizes.length (.error error), reader) := by
  induction sizes with
  | nil =>
      rfl
  | cons size sizes ih =>
      rw [readChunks, (refuses_of_failure kept).readChunk size]
      dsimp only
      rw [ih]
      rfl

/-- Reads get what is owed up to the failure behind it, and the one that meets it keeps it. -/
theorem readChunks_of_meets
    {reader : Reader σ (MemberEngine encoders)}
    {parameters : ParameterSet}
    {upstream delivered contents : Bytes}
    {error : StreamError}
    (stands : reader.Stands parameters upstream delivered contents (some error))
    (unfailed : reader.failure = none)
    (short : upstream.length < 2 ^ (63 : Nat))
    (roomy : parameters.Roomy upstream contents)
    (sizes : List Nat) :
    (reader.readChunks sizes).1 = answersUntil contents error sizes ∧
      (contents.length < sizes.sum → (reader.readChunks sizes).2.failure = some error) := by
  induction sizes generalizing reader delivered contents with
  | nil =>
      exact ⟨rfl, fun beyond => absurd beyond (Nat.not_lt_zero _)⟩
  | cons size sizes ih =>
      obtain ⟨result, failure, after⟩ := meets_of_stands stands unfailed short roomy size
      rw [answersUntil, List.sum_cons, readChunks]
      by_cases within : size ≤ contents.length
      · rw [if_pos within] at result failure ⊢
        obtain ⟨others, last⟩ :=
          ih after failure (roomy.of_le (List.drop_sublist _ _).length_le)
        dsimp only
        rw [result, others]
        refine ⟨rfl, fun beyond => last ?_⟩
        rw [List.length_drop]
        omega
      · rw [if_neg within] at result failure ⊢
        dsimp only
        rw [readChunks_of_failure failure, result]
        exact ⟨rfl, fun _ => failure⟩

/--
A reader of a stream with a member whose magic number or checksum has been replaced
by anything else delivers the content of the members before it and nothing of the
member, whatever is behind it, and then fails: a magic number is corrupt input, a
checksum an integrity failure.  Whatever the sizes of the reads are, the failure is
met by the first of them that asks for more than is left, and all later ones get it.
-/
theorem readChunks_of_damaged
    {reader : Reader σ (MemberEngine encoders)}
    {parameters : ParameterSet}
    {before : List SurveyedMember}
    {member : SurveyedMember}
    {bytes rest : Bytes}
    {error : StreamError}
    (opened : reader.Opened parameters)
    (unlimited : parameters.maxBufferLength = none)
    (hasMagic : parameters.HasMagic)
    (writtenBefore : ∀ earlier ∈ before, parameters.Written earlier)
    (written : parameters.Written member)
    (damages : parameters.Damages member.stored bytes error)
    (served : Serves reader.source (joined before ++ (bytes ++ rest)))
    (short : (joined before ++ (bytes ++ rest)).length < 2 ^ (63 : Nat))
    (sizes : List Nat) :
    let contents := joinedContent before
    let results := (reader.readChunks sizes).1
    let last := (reader.readChunks sizes).2
    results = answersUntil contents error sizes ∧
      deliveredBy results = contents.take sizes.sum ∧
      (contents.length < sizes.sum →
        ∀ later : List Nat,
          (last.readChunks later).1 = List.replicate later.length (.error error)) := by
  intro contents results last
  have unpacks := ParameterSet.unpackStream_damaged hasMagic writtenBefore written damages rest
  obtain ⟨failure, fails, -⟩ :=
    ParameterSet.decodeMember_of_damages hasMagic written damages rest
  have roomy := ParameterSet.roomy_joined writtenBefore ⟨failure, fails⟩ contents
  have stands := stands_of_opened opened unlimited served
  rw [unpacks] at stands
  obtain ⟨all, keeps⟩ := readChunks_of_meets stands opened.unfailed short roomy sizes
  refine ⟨all, ?_, ?_⟩
  · rw [← deliveredBy_answersUntil contents error]
    exact congrArg deliveredBy all
  · intro beyond later
    rw [readChunks_of_failure (keeps beyond)]

/-- The law holds of the second of three members, with nothing left of its checksum. -/
theorem readChunks_of_damaged_checksum :
    let parameters : ParameterSet := { level := 0 }
    let stored (source : Bytes) : Bytes :=
      Deflate.contain .gzipExtended 0 source (Deflate.storedBlockOf true source)
    let zeros : Bytes := [0, 0, 0, 0, 0, 0, 0, 0]
    let source : ScriptedSource :=
      { data := stored [1, 2] ++ ((stored [3]).take 30 ++ zeros ++ stored [4]),
        perRead := some 3, interruptEvery := 2 }
    let reader : Reader ScriptedSource MemberEngine :=
      applyAll { source := source, engine := {}, overrides := { level := some 0 } } []
    reader.Opened parameters ∧
      (stored [3]).length = 38 ∧
      (reader.readChunks [1, 0, 5, 0, 5]).1 =
        [.ok [1], .ok [], .ok [2], .error .integrityCheckFailed, .error .integrityCheckFailed] := by
  intro parameters stored zeros source reader
  have opened : reader.Opened parameters :=
    .built source {} { level := some 0 } [] rfl rfl
  have understands : parameters.Understands parameters :=
    ⟨rfl, Or.inl rfl⟩
  have written (content : Bytes) (short : content.length ≤ Deflate.longestStored) :
      parameters.Written ⟨stored content, content⟩ :=
    .encoded .own understands (Nat.lt_of_le_of_lt short (by decide))
      (encodeMember_stored short)
  have hasMagic : parameters.HasMagic :=
    fun _ => List.mem_cons_of_mem _ List.mem_cons_self
  have differs : zeros ≠ (stored [3]).drop ((stored [3]).length - 8) := by
    decide
  have damages : parameters.Damages (stored [3])
      ((stored [3]).take ((stored [3]).length - 8) ++ zeros) .integrityCheckFailed :=
    .checksum rfl rfl differs
  have served : Serves reader.source
      (joined [⟨stored [1, 2], [1, 2]⟩] ++ ((stored [3]).take 30 ++ zeros ++ stored [4])) :=
    source.serves rfl (by intro most same; cases same; decide)
  have law := readChunks_of_damaged opened rfl hasMagic
    (fun member among => List.mem_singleton.mp among ▸ written [1, 2] (by decide))
    (written [3] (by decide)) damages served (by decide) [1, 0, 5, 0, 5]
  exact ⟨opened, rfl, law.1⟩

end Reader

end MemberStream
