import MemberStream.Proofs.Transport.Upstream
import MemberStream.Stream.Reader

namespace MemberStream

/-!
# Gathering the source

Gathering reads the source up to its end and keeps everything that it handed
out.  It has room for at least one byte whenever it reads, so that a read that
brings nothing means the end, and it leaves the output side of the stream alone.
-/

theorem lt_maxLength_of_short
    {length : Nat}
    (short : length < 2 ^ (63 : Nat)) :
    length < maxLength := by
  unfold maxLength
  omega

namespace GrowthPolicy

/-- A full input buffer that can grow becomes longer. -/
theorem lt_of_nextInputLength
    {policy : GrowthPolicy}
    {current length : Nat}
    (grown : policy.nextInputLength current = .ok length)
    (short : current < maxLength) :
    current < length := by
  have wanted : current < max (saturatingDouble current) 1 := by
    unfold saturatingDouble
    omega
  rcases eq_or_lt_of_clamp grown with rfl | ⟨-, longer⟩
  · exact wanted
  · exact longer

end GrowthPolicy

namespace Reader

variable {σ ε : Type}

/-- Two states of a stream that differ in their input only. -/
structure SameOutput
    (next reader : Reader σ ε) :
    Prop where
  engine : next.engine = reader.engine
  overrides : next.overrides = reader.overrides
  staged : next.staged = reader.staged
  effective : next.effective = reader.effective
  phase : next.phase = reader.phase
  sessionOpen : next.sessionOpen = reader.sessionOpen
  failure : next.failure = reader.failure
  closeResult : next.closeResult = reader.closeResult
  outputLength : next.outputLength = reader.outputLength
  outputOffset : next.outputOffset = reader.outputOffset
  outputLeft : next.outputLeft = reader.outputLeft
  window : next.window = reader.window
  growth : next.growth = reader.growth
  counters : next.counters = reader.counters
  crc : next.crc = reader.crc

namespace SameOutput

theorem refl
    (reader : Reader σ ε) :
    SameOutput reader reader := by
  constructor <;> rfl

/-- Sameness of output carries over. -/
theorem trans
    {last next reader : Reader σ ε}
    (later : SameOutput last next)
    (earlier : SameOutput next reader) :
    SameOutput last reader where
  engine := later.engine.trans earlier.engine
  overrides := later.overrides.trans earlier.overrides
  staged := later.staged.trans earlier.staged
  effective := later.effective.trans earlier.effective
  phase := later.phase.trans earlier.phase
  sessionOpen := later.sessionOpen.trans earlier.sessionOpen
  failure := later.failure.trans earlier.failure
  closeResult := later.closeResult.trans earlier.closeResult
  outputLength := later.outputLength.trans earlier.outputLength
  outputOffset := later.outputOffset.trans earlier.outputOffset
  outputLeft := later.outputLeft.trans earlier.outputLeft
  window := later.window.trans earlier.window
  growth := later.growth.trans earlier.growth
  counters := later.counters.trans earlier.counters
  crc := later.crc.trans earlier.crc

end SameOutput

/-- A state that has read what another one has from the same source, and has the same output. -/
structure Roomier
    (roomy reader : Reader σ ε) :
    Prop extends SameOutput roomy reader where
  source : roomy.source = reader.source
  inputOffset : roomy.inputOffset = reader.inputOffset
  inputRead : roomy.inputRead = reader.inputRead
  unread : roomy.unread = reader.unread
  sourceTotal : roomy.sourceTotal = reader.sourceTotal
  sourceDone : roomy.sourceDone = reader.sourceDone

/-- Making room changes the length of the input buffer and nothing else. -/
theorem roomier_of_makeRoom
    {reader roomy : Reader σ ε}
    {scope : Scope}
    {result : Except StreamError Unit}
    (room : reader.makeRoom scope = (result, roomy)) :
    Roomier roomy reader := by
  unfold makeRoom at room
  split at room
  · split at room
    · cases room
      exact ⟨by constructor <;> rfl, rfl, rfl, rfl, rfl, rfl, rfl⟩
    · cases room
      exact ⟨.refl reader, rfl, rfl, rfl, rfl, rfl, rfl⟩
  · cases room
    exact ⟨.refl reader, rfl, rfl, rfl, rfl, rfl, rfl⟩

/-- When room has been made there is some, as long as not too much has been read. -/
theorem lt_of_makeRoom
    {reader roomy : Reader σ ε}
    {scope : Scope}
    (room : reader.makeRoom scope = (.ok (), roomy))
    (fits : reader.inputRead ≤ reader.inputLength)
    (short : reader.inputRead < maxLength) :
    roomy.inputRead < roomy.inputLength := by
  unfold makeRoom at room
  split at room
  · rename_i full
    split at room
    · rename_i length grown
      cases room
      change reader.inputRead < length
      rw [full] at short ⊢
      exact GrowthPolicy.lt_of_nextInputLength grown short
    · cases room
  · rename_i some
    cases room
    omega

/-- What a gathering does that cannot make room. -/
theorem gather_of_full
    [Source σ]
    {reader full : Reader σ ε}
    {scope : Scope}
    {error : StreamError}
    (made : reader.makeRoom scope = (.error error, full))
    (chunks : List Bytes) :
    reader.gather scope chunks = (.error error, chunks, full) := by
  rw [gather]
  split
  · rename_i same
    rw [made] at same
    cases same
    rfl
  · rename_i same
    rw [made] at same
    cases same

/-- What a gathering does with the answer of the source. -/
theorem gather_of_read
    [Source σ]
    {reader roomy : Reader σ ε}
    {scope : Scope}
    {result : Except TransportError Bytes}
    {source : σ}
    (made : reader.makeRoom scope = (.ok (), roomy))
    (answer :
      SourceCalls.read roomy.source (roomy.inputLength - roomy.inputRead) = (result, source))
    (chunks : List Bytes) :
    reader.gather scope chunks =
      match result with
      | .ok [] =>
          (.ok (), chunks, { roomy with source := source, sourceDone := true })
      | .ok (byte :: rest) =>
          let count := rest.length + 1
          let buffered := roomy.inputRead + count
          let transferred : Reader σ ε :=
            { roomy with
              source := source
              inputRead := buffered
              sourceTotal := roomy.sourceTotal + count }
          gather
            (transferred.report scope (.transferred count buffered roomy.inputLength))
            scope
            ((byte :: rest) :: chunks)
      | .error error =>
          if error.kind = .interrupted then
            gather { roomy with source := source } scope chunks
          else
            (.error (.ofTransport error), chunks, { roomy with source := source }) := by
  rw [gather]
  split
  · rename_i same
    rw [made] at same
    cases same
  · rename_i same
    rw [made] at same
    cases same
    split <;> rename_i same <;> rw [answer] at same <;> cases same
    · rfl
    · rfl
    · dsimp only
      split <;> rfl

/--
The input side of a stream while its source is gathered: the chunks, newest
first, are all that the source has handed out.
-/
structure Gathers
    (reader : Reader (RecordedSource σ) ε)
    (chunks : List Bytes) :
    Prop where
  chunks : chunks.reverse.flatten = reader.source.upstream
  inputRead : reader.inputRead = reader.source.upstream.length
  sourceTotal : reader.sourceTotal = reader.source.upstream.length
  fits : reader.source.upstream.length < 2 ^ (63 : Nat) → reader.inputRead ≤ reader.inputLength
  /-- Every read has asked for something. -/
  asked :
    reader.source.upstream.length < 2 ^ (63 : Nat) →
      ∀ read, read ∈ reader.source.reads → 0 < read.capacity

/-- Making room keeps to what has been gathered. -/
theorem gathers_makeRoom
    {reader roomy : Reader (RecordedSource σ) ε}
    {scope : Scope}
    {chunks : List Bytes}
    {result : Except StreamError Unit}
    (gathers : reader.Gathers chunks)
    (room : reader.makeRoom scope = (result, roomy)) :
    roomy.Gathers chunks := by
  have roomier := roomier_of_makeRoom room
  have source := roomier.source
  have inputRead := roomier.inputRead
  refine ⟨?_, ?_, ?_, ?_, ?_⟩
  · rw [source, gathers.chunks]
  · rw [source, inputRead, gathers.inputRead]
  · rw [source, roomier.sourceTotal, gathers.sourceTotal]
  · intro short
    rw [source] at short
    have fits := gathers.fits short
    rw [inputRead]
    unfold makeRoom at room
    split at room
    · rename_i full
      split at room
      · rename_i length grown
        cases room
        change reader.inputRead ≤ length
        have longer := GrowthPolicy.lt_of_nextInputLength grown
          (lt_maxLength_of_short (by rw [← full, gathers.inputRead]; exact short))
        omega
      · cases room
        exact fits
    · cases room
      exact fits
  · rw [source]
    exact gathers.asked

/-- A read adds what it brought, as a chunk or not, to what has been gathered. -/
theorem gathers_read
    [Source σ]
    {reader : Reader (RecordedSource σ) ε}
    {chunks : List Bytes}
    {answer : Except TransportError Bytes}
    (next : Reader (RecordedSource σ) ε)
    (more : List Bytes)
    (gathers : reader.Gathers chunks)
    (unended : reader.source.Unended)
    (room : reader.inputRead < 2 ^ (63 : Nat) → reader.inputRead < reader.inputLength)
    (answered :
      SourceCalls.read reader.source (reader.inputLength - reader.inputRead) =
        (answer, next.source))
    (brought :
      more.reverse.flatten = SourceRead.bytes ⟨reader.inputLength - reader.inputRead, answer⟩)
    (inputLength : next.inputLength = reader.inputLength)
    (inputRead : next.inputRead = reader.inputRead + more.reverse.flatten.length)
    (sourceTotal : next.sourceTotal = reader.sourceTotal + more.reverse.flatten.length) :
    next.Gathers (more ++ chunks) := by
  have upstream := RecordedSource.upstream_of_read unended answered
  rw [← brought] at upstream
  have enough : more.reverse.flatten.length ≤ reader.inputLength - reader.inputRead := by
    rw [brought]
    cases answer with
    | ok bytes =>
        exact Source.length_le _ _ _ _ answered
    | error error =>
        exact Nat.zero_le _
  have length := congrArg List.length upstream
  rw [List.length_append] at length
  refine ⟨?_, ?_, ?_, ?_, ?_⟩
  · rw [upstream, List.reverse_append, List.flatten_append, gathers.chunks]
  · rw [inputRead, gathers.inputRead, length]
  · rw [sourceTotal, gathers.sourceTotal, length]
  · intro short
    have before := room (by rw [gathers.inputRead]; omega)
    rw [inputRead, inputLength]
    omega
  · intro short read member
    rw [RecordedSource.reads_of_read answered] at member
    rcases List.mem_cons.mp member with rfl | earlier
    · have before := room (by rw [gathers.inputRead]; omega)
      change 0 < reader.inputLength - reader.inputRead
      omega
    · exact gathers.asked (by omega) read earlier

/-- There is room for a read while not too much has been gathered. -/
theorem room_of_gathers
    {reader roomy : Reader (RecordedSource σ) ε}
    {scope : Scope}
    {chunks : List Bytes}
    (gathers : reader.Gathers chunks)
    (room : reader.makeRoom scope = (.ok (), roomy)) :
    roomy.inputRead < 2 ^ (63 : Nat) → roomy.inputRead < roomy.inputLength := by
  intro short
  rw [(roomier_of_makeRoom room).inputRead] at short
  have fits := gathers.fits (by rw [← gathers.inputRead]; exact short)
  exact lt_of_makeRoom room fits (lt_maxLength_of_short short)

theorem gathers_of_roomy
    {reader roomy : Reader (RecordedSource σ) ε}
    {scope : Scope}
    {chunks : List Bytes}
    {result : Except StreamError Unit}
    (gathers : reader.Gathers chunks)
    (unended : reader.source.Unended)
    (room : reader.makeRoom scope = (result, roomy)) :
    roomy.Gathers chunks ∧ roomy.source.Unended := by
  refine ⟨gathers_makeRoom gathers room, ?_⟩
  rw [(roomier_of_makeRoom room).source]
  exact unended

/-- Gathering keeps everything that the source hands out, whether or not it fails. -/
theorem gathers_gather
    [Source σ]
    (reader : Reader (RecordedSource σ) ε)
    (scope : Scope)
    (chunks : List Bytes)
    (gathers : reader.Gathers chunks)
    (unended : reader.source.Unended) :
    (reader.gather scope chunks).2.2.Gathers (reader.gather scope chunks).2.1 := by
  fun_induction gather reader scope chunks with
  | case1 reader chunks error full room =>
      exact gathers_makeRoom gathers room
  | case2 reader chunks roomy room source answer =>
      obtain ⟨roomyGathers, roomyUnended⟩ := gathers_of_roomy gathers unended room
      exact gathers_read { roomy with source := source, sourceDone := true } [] roomyGathers
        roomyUnended (room_of_gathers gathers room) answer rfl rfl rfl rfl
  | case3 reader chunks roomy room byte rest source answer count buffered transferred ih =>
      obtain ⟨roomyGathers, roomyUnended⟩ := gathers_of_roomy gathers unended room
      apply ih
      · have one : [byte :: rest].reverse.flatten = byte :: rest := by
          simp
        refine gathers_read _ [byte :: rest] roomyGathers roomyUnended
          (room_of_gathers gathers room) answer one rfl ?_ ?_
        · rw [one]
          rfl
        · rw [one]
          rfl
      · exact RecordedSource.unended_of_read roomyUnended answer rfl
  | case4 reader chunks roomy room error source answer interrupted ih =>
      obtain ⟨roomyGathers, roomyUnended⟩ := gathers_of_roomy gathers unended room
      apply ih
      · exact gathers_read { roomy with source := source } [] roomyGathers roomyUnended
          (room_of_gathers gathers room) answer rfl rfl rfl rfl
      · exact RecordedSource.unended_of_read roomyUnended answer rfl
  | case5 reader chunks roomy room error source answer terminal =>
      obtain ⟨roomyGathers, roomyUnended⟩ := gathers_of_roomy gathers unended room
      exact gathers_read { roomy with source := source } [] roomyGathers roomyUnended
        (room_of_gathers gathers room) answer rfl rfl rfl rfl

/-- Gathering leaves the output alone, and the offset into the input. -/
theorem sameOutput_gather
    [Source σ]
    (reader : Reader σ ε)
    (scope : Scope)
    (chunks : List Bytes) :
    SameOutput (reader.gather scope chunks).2.2 reader ∧
      (reader.gather scope chunks).2.2.inputOffset = reader.inputOffset := by
  fun_induction gather reader scope chunks with
  | case1 reader chunks error full room =>
      have roomier := roomier_of_makeRoom room
      exact ⟨roomier.toSameOutput, roomier.inputOffset⟩
  | case2 reader chunks roomy room source answer
  | case5 reader chunks roomy room error source answer terminal =>
      have roomier := roomier_of_makeRoom room
      exact ⟨.trans (by constructor <;> rfl) roomier.toSameOutput, roomier.inputOffset⟩
  | case3 reader chunks roomy room byte rest source answer count buffered transferred ih
  | case4 reader chunks roomy room error source answer interrupted ih =>
      have roomier := roomier_of_makeRoom room
      exact
        ⟨ih.1.trans (.trans (by constructor <;> rfl) roomier.toSameOutput),
          ih.2.trans roomier.inputOffset⟩

/-- Filling the input leaves the output alone. -/
theorem sameOutput_fillInput
    [Source σ]
    (reader : Reader σ ε)
    (scope : Scope) :
    SameOutput (reader.fillInput scope).2 reader := by
  have gathered :=
    (sameOutput_gather { reader with inputOffset := 0, inputRead := 0, unread := [] }
      (scope ++ ["input"]) []).1
  exact .trans (by constructor <;> rfl) (gathered.trans (by constructor <;> rfl))

/-- Ensuring the input fills it when it is used up, or leaves the reader alone. -/
theorem ensureInput_reader
    [Source σ]
    (reader : Reader σ ε)
    (scope : Scope) :
    (reader.inputExhausted = true ∧
        (reader.ensureInput scope).2 = (reader.fillInput scope).2) ∨
      (reader.ensureInput scope).2 = reader := by
  unfold ensureInput
  split
  · rename_i unfilled
    refine .inl ⟨(Bool.and_eq_true_iff.mp unfilled).1, ?_⟩
    split
    · rename_i answer
      rw [answer]
    · rename_i answer
      rw [answer]
      split <;> rfl
  · split <;> exact .inr rfl

theorem sameOutput_ensureInput
    [Source σ]
    (reader : Reader σ ε)
    (scope : Scope) :
    SameOutput (reader.ensureInput scope).2 reader := by
  rcases ensureInput_reader reader scope with ⟨-, same⟩ | same <;> rw [same]
  · exact sameOutput_fillInput reader scope
  · exact .refl reader

/-- A stream that has read nothing yet. -/
structure Untouched
    (reader : Reader (RecordedSource σ) ε) :
    Prop where
  reads : reader.source.reads = []
  inputOffset : reader.inputOffset = 0
  inputRead : reader.inputRead = 0
  sourceTotal : reader.sourceTotal = 0
  sourceDone : reader.sourceDone = false

/-- A stream whose source has been gathered, and that has consumed the front of it. -/
structure Loaded
    (reader : Reader (RecordedSource σ) ε) :
    Prop where
  unread : reader.unread = reader.source.upstream.drop reader.inputOffset
  inputRead : reader.inputRead = reader.source.upstream.length
  sourceTotal : reader.sourceTotal = reader.source.upstream.length
  sourceDone : reader.sourceDone = true

/-- Every read of a stream has asked for something, as long as not too much has been read. -/
def Asked
    (reader : Reader (RecordedSource σ) ε) :
    Prop :=
  reader.source.upstream.length < 2 ^ (63 : Nat) →
    ∀ read, read ∈ reader.source.reads → 0 < read.capacity

/-- A source that has not been read has handed nothing out, and can be gathered. -/
theorem gathers_of_untouched
    {reader : Reader (RecordedSource σ) ε}
    (untouched : reader.Untouched) :
    reader.Gathers [] ∧ reader.source.Unended := by
  have unended : reader.source.Unended := by
    intro read member
    rw [untouched.reads] at member
    cases member
  have upstream : reader.source.upstream = [] := by
    rw [RecordedSource.upstream_of_unended unended, untouched.reads]
    rfl
  refine ⟨⟨?_, ?_, ?_, ?_, ?_⟩, unended⟩
  · rw [upstream]
    rfl
  · rw [upstream, untouched.inputRead]
    rfl
  · rw [upstream, untouched.sourceTotal]
    rfl
  · intro _
    rw [untouched.inputRead]
    exact Nat.zero_le _
  · intro _ read member
    rw [untouched.reads] at member
    cases member

/-- Filling the input leaves the output alone; it loads the stream unless it fails. -/
theorem loaded_of_fillInput
    [Source σ]
    {reader filled : Reader (RecordedSource σ) ε}
    {scope : Scope}
    {result : Except StreamError Unit}
    (untouched : reader.Untouched)
    (fills : reader.fillInput scope = (result, filled)) :
    SameOutput filled reader ∧
      filled.Asked ∧
      (result = .ok () → filled.Loaded ∧ filled.inputOffset = 0) := by
  unfold fillInput at fills
  dsimp only at fills
  have emptied : Untouched { reader with inputOffset := 0, inputRead := 0, unread := [] } :=
    ⟨untouched.reads, rfl, rfl, untouched.sourceTotal, untouched.sourceDone⟩
  obtain ⟨start, unended⟩ := gathers_of_untouched emptied
  have gathers := gathers_gather _ (scope ++ ["input"]) [] start unended
  have ended := gather_sourceDone { reader with inputOffset := 0, inputRead := 0, unread := [] }
    (scope ++ ["input"]) []
  have output :=
    sameOutput_gather { reader with inputOffset := 0, inputRead := 0, unread := [] }
      (scope ++ ["input"]) []
  cases gathering :
      gather { reader with inputOffset := 0, inputRead := 0, unread := [] }
        (scope ++ ["input"]) [] with
  | mk outcome rest =>
      obtain ⟨chunks, gathered⟩ := rest
      rw [gathering] at fills gathers ended output
      dsimp only at fills gathers ended output
      obtain ⟨same, offset⟩ := output
      cases fills
      refine ⟨.trans (by constructor <;> rfl) (same.trans (by constructor <;> rfl)),
        gathers.asked, ?_⟩
      intro succeeded
      refine ⟨⟨?_, gathers.inputRead, gathers.sourceTotal, ended succeeded⟩, offset⟩
      change chunks.reverse.flatten = gathered.source.upstream.drop gathered.inputOffset
      rw [offset, gathers.chunks]
      rfl

/-- An untouched stream is loaded when its input is ensured, unless that fails. -/
theorem ensureInput_of_untouched
    [Source σ]
    {reader filled : Reader (RecordedSource σ) ε}
    {scope : Scope}
    {result : Except StreamError Unit}
    (untouched : reader.Untouched)
    (ensures : reader.ensureInput scope = (result, filled)) :
    SameOutput filled reader ∧
      filled.Asked ∧
      (result = .ok () → filled.Loaded ∧ filled.inputOffset = 0) := by
  have empty : (reader.inputExhausted && !reader.sourceDone) = true := by
    simp [inputExhausted, untouched.inputOffset, untouched.inputRead, untouched.sourceDone]
  unfold ensureInput at ensures
  rw [if_pos empty] at ensures
  split at ensures
  · rename_i error failed fills
    cases ensures
    obtain ⟨same, asked, -⟩ := loaded_of_fillInput untouched fills
    exact ⟨same, asked, nofun⟩
  · rename_i loaded fills
    obtain ⟨same, asked, loads⟩ := loaded_of_fillInput untouched fills
    split at ensures
    · cases ensures
      exact ⟨same, asked, nofun⟩
    · cases ensures
      exact ⟨same, asked, loads⟩

/-- A loaded stream has its input already, or none at all. -/
theorem ensureInput_of_loaded
    [Source σ]
    {reader : Reader (RecordedSource σ) ε}
    (scope : Scope)
    (loaded : reader.Loaded) :
    reader.ensureInput scope =
      (if reader.source.upstream = [] then .error .emptyBuffer else .ok (), reader) := by
  unfold ensureInput
  have done : (reader.inputExhausted && !reader.sourceDone) = false := by
    simp [loaded.sourceDone]
  rw [done, loaded.sourceTotal]
  by_cases nothing : reader.source.upstream = []
  · simp [nothing]
  · simp [nothing]

end Reader

end MemberStream
