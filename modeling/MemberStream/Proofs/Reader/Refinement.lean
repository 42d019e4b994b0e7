import MemberStream.Proofs.Parameter.Staged
import MemberStream.Proofs.Reader.Phases
import MemberStream.Proofs.Reader.Session
import MemberStream.Proofs.Reader.Unpacking

namespace MemberStream

/-!
# Reading refines unpacking

The reads of a session get exactly what unpacking the source gives: the contents
of its members, cut by the sizes of the reads, and then the end or the failure
of the first member that cannot be decoded.  Neither the buffers nor the pieces
in which the source comes have a part in it.
-/

variable {encoders : Encoders}

namespace Reader

variable {σ : Type}

/-- Where a reader stands between two reads. -/
inductive Stands
    [Source σ]
    (parameters : ParameterSet)
    (upstream delivered contents : Bytes)
    (ending : Option StreamError)
    (reader : Reader σ (MemberEngine encoders)) :
    Prop where
  /-- The session starts with the next read. -/
  | idle
      (phase : reader.phase = .idle)
      (unfailed : reader.failure = none)
      (starts :
        ∀ scope, ∃ started,
          reader.startSession scope = (.ok (), started) ∧
            started.Underway parameters upstream delivered contents ending)
      (accounts : reader.Accounts delivered)
  | underway
      (underway : reader.Underway parameters upstream delivered contents ending)
  /-- The failure is kept, and everything before it has been delivered. -/
  | failed
      {error : StreamError}
      (failure : reader.failure = some error)
      (drained : contents = [])
      (same : ending = some error)
      (accounts : reader.Accounts delivered)

/-- What a delivery comes to on a reader that owes some content and an ending. -/
structure Delivers
    [Source σ]
    (parameters : ParameterSet)
    (upstream delivered contents : Bytes)
    (ending : Option StreamError)
    (wanted : Nat)
    (before : Bytes)
    (outcome : Except StreamError Bytes × Reader σ (MemberEngine encoders)) :
    Prop where
  /-- There was or is some content, or no failure comes up. -/
  content :
    before ≠ [] ∨ contents ≠ [] ∨ ending = none →
      outcome.1 = .ok (before.reverse ++ contents.take wanted)
  failure :
    ∀ error,
      wanted ≠ 0 → before = [] → contents = [] → ending = some error →
        outcome.1 = .error error
  stands :
    outcome.2.Stands parameters upstream (delivered ++ contents.take wanted)
      (contents.drop wanted) ending

/-- A failure behind all content is handed out unless bytes have been delivered before it. -/
theorem delivers_of_fail
    [Source σ]
    {parameters : ParameterSet}
    {upstream delivered before : Bytes}
    {error : StreamError}
    {last : Reader σ (MemberEngine encoders)}
    (accounts : last.Accounts delivered)
    (scope : Scope)
    (wanted : Nat) :
    Delivers parameters upstream delivered [] (some error) wanted before
      (last.failAfter scope before error) := by
  unfold failAfter
  refine ⟨?_, ?_, ?_⟩
  · rintro (some | some | some)
    · cases before with
      | nil =>
          exact absurd rfl some
      | cons byte before =>
          rw [List.take_nil, List.append_nil]
          rfl
    · exact absurd rfl some
    · cases some
  · intro cause _ nothing _ same
    cases nothing
    cases same
    rfl
  · rw [List.take_nil, List.drop_nil, List.append_nil]
    have stands :
        Stands parameters upstream delivered [] (some error) (last.fail scope error) :=
      .failed rfl rfl rfl ⟨accounts.crc, accounts.bytesIn, accounts.bytesOut⟩
    split
    · exact stands
    · exact stands

/-- A delivery hands out the front of what is owed. -/
theorem delivers_of_underway
    [Source σ]
    (reader : Reader σ (MemberEngine encoders))
    (scope : Scope)
    (wanted : Nat)
    (before : Bytes)
    {parameters : ParameterSet}
    {upstream delivered contents : Bytes}
    {ending : Option StreamError}
    (underway : reader.Underway parameters upstream delivered contents ending)
    (shortInput : upstream.length < 2 ^ (63 : Nat))
    (roomy : parameters.Roomy upstream contents) :
    Delivers parameters upstream delivered contents ending wanted before
      (reader.deliver scope wanted before) := by
  fun_induction deliver reader scope wanted before generalizing delivered contents with
  | case1 reader before =>
      refine ⟨?_, ?_, ?_⟩
      · intro _
        rw [List.take_zero, List.append_nil]
      · intro error some
        exact absurd rfl some
      · rw [List.take_zero, List.append_nil, List.drop_zero]
        exact .underway underway
  | case2 reader wanted before some bytes next takes ih =>
      have pays := pays_of_round underway shortInput roomy scope wanted
      obtain ⟨more, enough⟩ := length_of_took takes (Nat.pos_of_ne_zero some)
      rw [takes] at pays
      obtain ⟨left, rfl, after⟩ := pays
      have cut : (bytes ++ left).take wanted = bytes ++ left.take (wanted - bytes.length) := by
        rw [List.take_append, List.take_of_length_le enough]
      have gap : (bytes ++ left).drop wanted = left.drop (wanted - bytes.length) := by
        rw [List.drop_append, List.drop_of_length_le enough, List.nil_append]
      have nonempty : bytes ≠ [] := List.length_pos_iff.mp more
      have fewer : left.length ≤ (bytes ++ left).length := (List.sublist_append_right _ _).length_le
      obtain ⟨content, -, stands⟩ := ih after (roomy.of_le fewer)
      refine ⟨?_, ?_, ?_⟩
      · intro _
        rw [content (Or.inl (by simp [nonempty])), cut, List.reverse_append, List.reverse_reverse,
          List.append_assoc]
      · intro error _ _ nothing
        exact absurd (List.append_eq_nil_iff.mp nothing).1 nonempty
      · rw [cut, gap, ← List.append_assoc]
        exact stands
  | case3 reader wanted before some next moves ih =>
      have pays := pays_of_round underway shortInput roomy scope wanted
      rw [moves] at pays
      exact ih pays roomy
  | case4 reader wanted before some last ends =>
      have pays := pays_of_round underway shortInput roomy scope wanted
      rw [ends] at pays
      obtain ⟨rfl, rfl, after, -⟩ := pays
      refine ⟨?_, ?_, ?_⟩
      · intro _
        rw [List.take_nil, List.append_nil]
      · intro error _ _ _ none
        cases none
      · rw [List.take_nil, List.append_nil, List.drop_nil]
        exact .underway after
  | case5 reader wanted before some error last fails =>
      have pays := pays_of_round underway shortInput roomy scope wanted
      rw [fails] at pays
      obtain ⟨rfl, rfl, accounts⟩ := pays
      exact delivers_of_fail accounts scope wanted

/-- A read gets the front of what is owed, if every member has room in a buffer. -/
theorem readChunk_of_roomy
    [Source σ]
    {reader : Reader σ (MemberEngine encoders)}
    {parameters : ParameterSet}
    {upstream delivered contents : Bytes}
    {ending : Option StreamError}
    {size : Nat}
    (stands : reader.Stands parameters upstream delivered contents ending)
    (shortInput : upstream.length < 2 ^ (63 : Nat))
    (roomy : parameters.Roomy upstream contents)
    (some : size ≠ 0) :
    (reader.readChunk size).1 = answer contents ending size ∧
      (reader.readChunk size).2.Stands parameters upstream (delivered ++ contents.take size)
        (contents.drop size) ending := by
  have active
      {reader : Reader σ (MemberEngine encoders)}
      (scope : Scope)
      (underway : reader.Underway parameters upstream delivered contents ending) :
      (reader.deliver scope size []).1 = answer contents ending size ∧
        (reader.deliver scope size []).2.Stands parameters upstream
          (delivered ++ contents.take size) (contents.drop size) ending := by
    obtain ⟨content, failure, stands⟩ :=
      delivers_of_underway reader scope size [] underway shortInput roomy
    refine ⟨?_, stands⟩
    by_cases owed : contents ≠ [] ∨ ending = none
    · rw [content (Or.inr owed), answer_of_content size owed]
      rfl
    · rw [not_or, Decidable.not_not] at owed
      obtain ⟨rfl, failed⟩ := owed
      obtain ⟨error, rfl⟩ := Option.ne_none_iff_exists'.mp failed
      rw [failure error some rfl rfl rfl]
      rfl
  cases stands with
  | idle phase unfailed starts accounts =>
      obtain ⟨started, same, underway⟩ := starts reader.scope
      rw [readChunk_of_ready (ready_of_starts unfailed phase same)]
      exact active _ underway
  | underway underway =>
      have decompresses := underway.decompresses
      rw [readChunk_of_ready (ready_of_active decompresses.failure decompresses.phase _)]
      exact active _ underway
  | failed failure drained same accounts =>
      subst drained
      subst same
      rw [readChunk_of_unready (ready_of_failed failure _)]
      rw [List.take_nil, List.drop_nil, List.append_nil]
      exact ⟨rfl, .failed failure rfl rfl accounts⟩

/-- A read gets the front of what is owed. -/
theorem readChunk_of_stands
    [Source σ]
    {reader : Reader σ (MemberEngine encoders)}
    {parameters : ParameterSet}
    {upstream delivered contents : Bytes}
    {ending : Option StreamError}
    {size : Nat}
    (stands : reader.Stands parameters upstream delivered contents ending)
    (shortInput : upstream.length < 2 ^ (63 : Nat))
    (shortOutput : contents.length < 2 ^ (63 : Nat))
    (some : size ≠ 0) :
    (reader.readChunk size).1 = answer contents ending size ∧
      (reader.readChunk size).2.Stands parameters upstream (delivered ++ contents.take size)
        (contents.drop size) ending :=
  readChunk_of_roomy stands shortInput (parameters.roomy_of_short upstream shortOutput) some

/-- Read chunks of some sizes, one after the other. -/
def readChunks
    {ε : Type}
    [EngineCalls ε]
    [Source σ]
    (reader : Reader σ ε) :
    List Nat →
    List (Except StreamError Bytes) × Reader σ ε
  | [] =>
      ([], reader)
  | size :: sizes =>
      let (result, next) := reader.readChunk size
      let (results, last) := next.readChunks sizes
      (result :: results, last)

/-- Reads get what is owed, one after the other, if every member has room in a buffer. -/
theorem readChunks_of_roomy
    [Source σ]
    {reader : Reader σ (MemberEngine encoders)}
    {parameters : ParameterSet}
    {upstream delivered contents : Bytes}
    {ending : Option StreamError}
    {sizes : List Nat}
    (stands : reader.Stands parameters upstream delivered contents ending)
    (shortInput : upstream.length < 2 ^ (63 : Nat))
    (roomy : parameters.Roomy upstream contents)
    (positive : ∀ size ∈ sizes, size ≠ 0) :
    (reader.readChunks sizes).1 = answers contents ending sizes ∧
      (reader.readChunks sizes).2.Stands parameters upstream
        (delivered ++ contents.take sizes.sum) (contents.drop sizes.sum) ending := by
  induction sizes generalizing reader delivered contents with
  | nil =>
      rw [List.sum_nil, List.take_zero, List.append_nil, List.drop_zero]
      exact ⟨rfl, stands⟩
  | cons size sizes ih =>
      obtain ⟨first, after⟩ :=
        readChunk_of_roomy stands shortInput roomy (positive size List.mem_cons_self)
      obtain ⟨others, last⟩ := ih after
        (roomy.of_le (List.drop_sublist _ _).length_le)
        (fun size member => positive size (List.mem_cons_of_mem _ member))
      rw [List.drop_drop, List.append_assoc] at last
      refine ⟨?_, ?_⟩
      · rw [answers, ← first, ← others]
        rfl
      · rw [List.sum_cons, List.take_add]
        exact last

/-- The reads of a session get what is owed, one after the other. -/
theorem readChunks_of_stands
    [Source σ]
    {reader : Reader σ (MemberEngine encoders)}
    {parameters : ParameterSet}
    {upstream delivered contents : Bytes}
    {ending : Option StreamError}
    {sizes : List Nat}
    (stands : reader.Stands parameters upstream delivered contents ending)
    (shortInput : upstream.length < 2 ^ (63 : Nat))
    (shortOutput : contents.length < 2 ^ (63 : Nat))
    (positive : ∀ size ∈ sizes, size ≠ 0) :
    (reader.readChunks sizes).1 = answers contents ending sizes ∧
      (reader.readChunks sizes).2.Stands parameters upstream
        (delivered ++ contents.take sizes.sum) (contents.drop sizes.sum) ending :=
  readChunks_of_roomy stands shortInput (parameters.roomy_of_short upstream shortOutput) positive

/-- Apply batches of options, one after the other. -/
def applyAll
    {ε : Type}
    (reader : Reader σ ε)
    (batches : List (List StreamOption)) :
    Reader σ ε :=
  batches.foldl (fun reader options => (reader.apply options).2) reader

/-- Options change nothing but the staged parameters of an idle reader. -/
theorem applyAll_of_idle
    {ε : Type}
    (reader : Reader σ ε)
    (batches : List (List StreamOption))
    (idle : reader.phase = .idle) :
    reader.applyAll batches =
      { reader with
        staged :=
          batches.foldl
            (fun parameters options => (applyOptions .reader false options parameters).2)
            reader.staged } := by
  induction batches generalizing reader with
  | nil =>
      rfl
  | cons options batches ih =>
      have first : (reader.apply options).2 =
          { reader with staged := (applyOptions .reader false options reader.staged).2 } :=
        congrArg Prod.snd (apply_of_idle idle options)
      change (reader.apply options).2.applyAll batches = _
      rw [first]
      exact ih { reader with staged := (applyOptions .reader false options reader.staged).2 } idle

/-- A reader at the start of a session with given parameters. -/
inductive Opened
    (parameters : ParameterSet) :
    Reader σ (MemberEngine encoders) →
    Prop where
  /-- It has been built, options have been applied to it, and its session can start. -/
  | built
      (source : σ)
      (engine : MemberEngine encoders)
      (overrides : Overrides)
      (batches : List (List StreamOption))
      (session : (stagedBy .reader batches).resolve overrides = parameters)
      (level : parameters.algorithm.checkLevel parameters.level = .ok ()) :
      Opened parameters (applyAll { source, engine, overrides } batches)
  /-- Its reset has succeeded. -/
  | reset
      {reader renewed : Reader σ (MemberEngine encoders)}
      {source previous : σ}
      {batches : List (List StreamOption)}
      (staged : reader.staged = stagedBy .reader batches)
      (session : reader.staged.resolve reader.overrides = parameters)
      (resets : reader.reset source = (.ok previous, renewed)) :
      Opened parameters renewed

/-- What a reader at the start of a session is: idle, or just started. -/
inductive Opens
    (parameters : ParameterSet) :
    Reader σ (MemberEngine encoders) →
    Prop where
  /-- It has been built under some options, and its session can start. -/
  | built
      (source : σ)
      (engine : MemberEngine encoders)
      (overrides : Overrides)
      (staged : ParameterSet)
      (session : staged.resolve overrides = parameters)
      (level : parameters.algorithm.checkLevel parameters.level = .ok ())
      (allowed : parameters.direction.allows .decompress = true) :
      Opens parameters { source, engine, overrides, staged }
  /-- A session has just started on a reader without a failure, and the source was replaced. -/
  | started
      {reader started : Reader σ (MemberEngine encoders)}
      (source : σ)
      (unfailed : reader.failure = none)
      (session : reader.staged.resolve reader.overrides = parameters)
      (allowed : parameters.direction.allows .decompress = true)
      (starts : reader.startSession [] = (.ok (), started)) :
      Opens parameters { started with source := source }

/-- A reader at the start of a session has been built, or has started a session in a reset. -/
theorem opens_of_opened
    {reader : Reader σ (MemberEngine encoders)}
    {parameters : ParameterSet}
    (opened : reader.Opened parameters) :
    reader.Opens parameters := by
  cases opened with
  | built source engine overrides batches session level =>
      have allowed : parameters.direction.allows .decompress = true := by
        rw [← session]
        exact directed_stagedBy .reader batches
      rw [applyAll_of_idle _ _ rfl]
      exact .built source engine overrides _ session level allowed
  | @reset before _ source previous batches staged session resets =>
      have allowed : parameters.direction.allows .decompress = true := by
        rw [← session, staged]
        exact directed_stagedBy .reader batches
      obtain ⟨keptOverrides, keptStaged⟩ := options_cleared before
      rw [← keptOverrides, ← keptStaged] at session
      rw [reset_eq] at resets
      split at resets
      · rename_i started starts
        cases resets
        exact .started source rfl session allowed starts
      · cases resets

/-- A reader at the start of a session has kept no failure. -/
theorem Opened.unfailed
    {reader : Reader σ (MemberEngine encoders)}
    {parameters : ParameterSet}
    (opened : reader.Opened parameters) :
    reader.failure = none := by
  cases opens_of_opened opened with
  | built source engine overrides staged session level allowed =>
      rfl
  | started source unfailed session allowed starts =>
      exact (started_of_startSession starts).failure.trans unfailed

/-- A session that starts owes all that the source serves. -/
theorem underway_of_startSession
    [Source σ]
    {reader : Reader σ (MemberEngine encoders)}
    {parameters : ParameterSet}
    {upstream : Bytes}
    (scope : Scope)
    (session : reader.staged.resolve reader.overrides = parameters)
    (level : parameters.algorithm.checkLevel parameters.level = .ok ())
    (allowed : parameters.direction.allows .decompress = true)
    (unlimited : parameters.maxBufferLength = none)
    (unfailed : reader.failure = none) :
    ∃ started,
      reader.startSession scope = (.ok (), started) ∧
        started.source = reader.source ∧
        ∀ source, Serves source upstream →
          ({ started with source := source } : Reader σ (MemberEngine encoders)).Underway
            parameters upstream [] (parameters.unpackStream upstream).1
            (parameters.unpackStream upstream).2 := by
  unfold startSession
  rw [session]
  dsimp only
  rw [MemberEngine.start_of_checkLevel reader.engine level]
  refine ⟨_, rfl, rfl, ?_⟩
  intro source served
  refine ⟨⟨rfl, unfailed, rfl, allowed, unlimited, ?_⟩, ?_, ⟨rfl, rfl, rfl⟩⟩
  · exact Nat.lt_of_lt_of_le Nat.zero_lt_one (Nat.le_max_right _ _)
  · exact .unread ⟨served, rfl, rfl, rfl, rfl⟩ rfl rfl rfl

/-- An idle reader whose session can start owes all that the source serves. -/
theorem stands_of_idle
    [Source σ]
    {reader : Reader σ (MemberEngine encoders)}
    {parameters : ParameterSet}
    {upstream : Bytes}
    (phase : reader.phase = .idle)
    (unfailed : reader.failure = none)
    (accounts : reader.Accounts [])
    (session : reader.staged.resolve reader.overrides = parameters)
    (level : parameters.algorithm.checkLevel parameters.level = .ok ())
    (allowed : parameters.direction.allows .decompress = true)
    (unlimited : parameters.maxBufferLength = none)
    (served : Serves reader.source upstream) :
    reader.Stands parameters upstream [] (parameters.unpackStream upstream).1
      (parameters.unpackStream upstream).2 := by
  refine .idle phase unfailed ?_ accounts
  intro scope
  obtain ⟨started, starts, same, underway⟩ :=
    underway_of_startSession scope session level allowed unlimited unfailed
  exact ⟨started, starts, underway started.source (same ▸ served)⟩

/-- A session that has started has a level that its codec accepts. -/
theorem checkLevel_of_startSession
    {reader started : Reader σ (MemberEngine encoders)}
    {scope : Scope}
    (starts : reader.startSession scope = (.ok (), started)) :
    (reader.staged.resolve reader.overrides).algorithm.checkLevel
      (reader.staged.resolve reader.overrides).level = .ok () :=
  (MemberEngine.of_start (started_of_startSession starts).engine).1

/-- A reader at the start of a session owes all that the source serves. -/
theorem stands_of_opened
    [Source σ]
    {reader : Reader σ (MemberEngine encoders)}
    {parameters : ParameterSet}
    {upstream : Bytes}
    (opened : reader.Opened parameters)
    (unlimited : parameters.maxBufferLength = none)
    (served : Serves reader.source upstream) :
    reader.Stands parameters upstream [] (parameters.unpackStream upstream).1
      (parameters.unpackStream upstream).2 := by
  cases opens_of_opened opened with
  | built source engine overrides staged session level allowed =>
      exact stands_of_idle rfl rfl ⟨rfl, rfl, rfl⟩ session level allowed unlimited served
  | started source unfailed session allowed starts =>
      have level := checkLevel_of_startSession starts
      rw [session] at level
      obtain ⟨begun, begins, -, underway⟩ :=
        underway_of_startSession [] session level allowed unlimited unfailed
      rw [starts] at begins
      cases begins
      exact .underway (underway source served)

/--
The reads of a session get exactly what unpacking the source gives, whatever the
lengths of the buffers are and in whatever pieces, with whatever interruptions,
the source comes: every read gets the next bytes of the contents, as many as it
asks for as far as there are so many, and behind the last of them either nothing
or the failure that unpacking ends with.
-/
theorem readChunks_eq_answers
    [Source σ]
    {reader : Reader σ (MemberEngine encoders)}
    {parameters : ParameterSet}
    {upstream : Bytes}
    {sizes : List Nat}
    (opened : reader.Opened parameters)
    (unlimited : parameters.maxBufferLength = none)
    (served : Serves reader.source upstream)
    (shortInput : upstream.length < 2 ^ (63 : Nat))
    (shortOutput : (parameters.unpack upstream).1.length < 2 ^ (63 : Nat))
    (positive : ∀ size ∈ sizes, size ≠ 0) :
    let contents := (parameters.unpackStream upstream).1
    let ending := (parameters.unpackStream upstream).2
    let results := (reader.readChunks sizes).1
    let last := (reader.readChunks sizes).2
    results = answers contents ending sizes ∧
      deliveredBy results = contents.take sizes.sum ∧
      (contents.length ≤ sizes.sum →
        ∀ size, size ≠ 0 →
          (last.readChunk size).1 =
            match ending with
            | some error => .error error
            | none => .ok []) := by
  intro contents ending results last
  have short : contents.length < 2 ^ 63 := by
    unfold contents ParameterSet.unpackStream
    split
    · exact Nat.two_pow_pos 63
    · exact shortOutput
  obtain ⟨all, stands⟩ :=
    readChunks_of_stands (stands_of_opened opened unlimited served) shortInput short positive
  refine ⟨all, ?_, ?_⟩
  · rw [← deliveredBy_answers contents ending]
    exact congrArg deliveredBy all
  · intro enough size some
    rw [List.drop_of_length_le enough] at stands
    have later := readChunk_of_stands stands shortInput (Nat.two_pow_pos 63) some
    rw [later.1]
    exact answer_nil ending size

/-- A body of two bytes in a stored block, and behind it an octet that starts no block. -/
def damagedBody : Bytes :=
  [1, 2, 0, 0xfd, 0xff, 7, 8, 7]

/-- The damaged body holds its two bytes, and then it cannot be decoded. -/
theorem unpack_damagedBody :
    ({ deflateFormat := .raw } : ParameterSet).unpack damagedBody =
      ([7, 8], some ⟨.deflate, .decodeFailed⟩) := by
  have first : Deflate.body.run (.ofBytes damagedBody) = .done #[7, 8] (.behind [] [7]) := by
    unfold Deflate.body Deflate.blocks
    exact Decoder.iterate_stop rfl
  have second : Deflate.body.run (.ofBytes [7]) = .refused .decodeFailed := by
    unfold Deflate.body Deflate.blocks Decoder.run
    rw [Decoder.iterate]
    rfl
  have front : ({ deflateFormat := .raw } : ParameterSet).decodeMember damagedBody =
      .ok (7, [7, 8]) := by
    change (Deflate.decodeRaw damagedBody).mapError _ = _
    rw [Deflate.decodeRaw, first]
    rfl
  have back : ({ deflateFormat := .raw } : ParameterSet).decodeMember [7] =
      .error ⟨.deflate, .decodeFailed⟩ := by
    change (Deflate.decodeRaw [7]).mapError _ = _
    rw [Deflate.decodeRaw, second]
    rfl
  have left : damagedBody.drop 7 = [7] := rfl
  have nonempty : damagedBody ≠ [] := List.cons_ne_nil _ _
  rw [ParameterSet.unpack_ok nonempty front, left,
    ParameterSet.unpack_error (List.cons_ne_nil _ _) back]
  rfl

/-- The law holds of a damaged body that comes in pieces with interruptions between them. -/
theorem readChunks_eq_answers_damaged :
    let source : ScriptedSource := { data := damagedBody, perRead := some 3, interruptEvery := 2 }
    let reader : Reader ScriptedSource MemberEngine :=
      applyAll { source := source, engine := {} } [[.deflateFormat .raw]]
    reader.Opened { deflateFormat := .raw } ∧
      (reader.readChunks [1, 5, 5]).1 =
        [.ok [7], .ok [8], .error (.corruptInput "deflate decode failed")] := by
  intro source reader
  have opened : reader.Opened { deflateFormat := .raw } :=
    .built source {} {} [[.deflateFormat .raw]] rfl rfl
  have served : Serves reader.source damagedBody :=
    source.serves rfl (by intro most same; cases same; decide)
  have short : (({ deflateFormat := .raw } : ParameterSet).unpack damagedBody).1.length <
      2 ^ 63 := by
    rw [unpack_damagedBody]
    decide
  have law := readChunks_eq_answers opened rfl served (by decide) short
    (by decide : ∀ size ∈ [1, 5, 5], size ≠ 0)
  refine ⟨opened, ?_⟩
  have nonempty : damagedBody ≠ [] := List.cons_ne_nil _ _
  rw [law.1, ParameterSet.unpackStream, if_neg nonempty, unpack_damagedBody]
  rfl

end Reader

end MemberStream
