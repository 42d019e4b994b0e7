import MemberStream.Proofs.Reader.Ledger
import MemberStream.Proofs.Reader.Phases
import MemberStream.Rehearsal.Engine
import MemberStream.Rehearsal.Transport

namespace MemberStream

/-!
# No output is lost, repeated or reordered

A session of a reader is a sequence of reads between two resets, each into a
buffer of its caller.  It starts from a fresh reader: one that has just been
built, or whose reset has just succeeded.  Every round of every read keeps the
ledger, so whatever the engine and the source answer, the callers get what the
engine put out, in order, and the engine gets what the source handed out.
-/

/-- One read of a session: the buffer before it, its result and the buffer after it. -/
structure ReadRecord where
  before : Bytes
  result : Except StreamError Nat
  after : Bytes

namespace ReadRecord

/-- The bytes that a read delivered. -/
def delivered
    (record : ReadRecord) :
    Bytes :=
  match record.result with
  | .ok count =>
      record.after.take count
  | .error _ =>
      []

/-- A read writes the bytes it delivers to the front of its buffer, and nothing else. -/
def WritesFrontOnly
    (record : ReadRecord) :
    Prop :=
  match record.result with
  | .ok count =>
      count ≤ record.before.length ∧
        record.after.length = record.before.length ∧
        record.after.drop count = record.before.drop count
  | .error _ =>
      record.after = record.before

end ReadRecord

/-- The bytes that some reads delivered, in order. -/
def ReadRecord.deliveredBy
    (records : List ReadRecord) :
    Bytes :=
  records.flatMap ReadRecord.delivered

namespace Reader

variable {σ ε : Type}

/-- Read into some buffers, one after the other. -/
def runReads
    [EngineCalls ε]
    [Source σ]
    (reader : Reader σ ε) :
    List Bytes →
    List ReadRecord × Reader σ ε
  | [] =>
      ([], reader)
  | buffer :: rest =>
      let (result, after, next) := reader.readInto buffer
      let (records, last) := next.runReads rest
      (⟨buffer, result, after⟩ :: records, last)

/-- The same reader on a recorded source and a recorded engine. -/
def observed
    (reader : Reader σ ε) :
    Reader (RecordedSource σ) (RecordedEngine ε) :=
  { reader with
    source := { source := reader.source }
    engine := { engine := reader.engine } }

/-- A reader at the start of a session. -/
structure IsFresh
    (reader : Reader σ ε) :
    Prop where
  failure : reader.failure = none
  inputOffset : reader.inputOffset = 0
  inputRead : reader.inputRead = 0
  sourceTotal : reader.sourceTotal = 0
  sourceDone : reader.sourceDone = false
  window : reader.window = []
  counters : reader.counters = {}
  crc : reader.crc = .empty

/-- A reader is fresh when it has been built, whatever options are applied to it. -/
theorem isFresh_of_built
    (source : σ)
    (engine : ε)
    (overrides : Overrides)
    (staged : ParameterSet) :
    IsFresh ({ source, engine, overrides, staged } : Reader σ ε) := by
  constructor <;> rfl

/-- A session that starts makes a reader without a failure fresh. -/
theorem isFresh_of_startSession
    [EngineCalls ε]
    {reader started : Reader σ ε}
    {scope : Scope}
    (unfailed : reader.failure = none)
    (starts : reader.startSession scope = (.ok (), started)) :
    started.IsFresh := by
  unfold startSession at starts
  dsimp only at starts
  split at starts
  · cases starts
  · cases starts
    exact ⟨unfailed, rfl, rfl, rfl, rfl, rfl, rfl, rfl⟩

/-- A reader is fresh when a reset has succeeded. -/
theorem isFresh_of_reset
    [EngineCalls ε]
    {reader renewed : Reader σ ε}
    {source previous : σ}
    (resets : reader.reset source = (.ok previous, renewed)) :
    renewed.IsFresh := by
  rw [reset_eq] at resets
  split at resets
  · rename_i started starts
    cases resets
    obtain ⟨failure, inputOffset, inputRead, sourceTotal, sourceDone, window, counters, crc⟩ :=
      isFresh_of_startSession rfl starts
    exact ⟨failure, inputOffset, inputRead, sourceTotal, sourceDone, window, counters, crc⟩
  · cases resets

/-- The ledger of a reader between two reads. -/
structure Books
    (reader : Reader (RecordedSource σ) (RecordedEngine ε))
    (delivered : Bytes) :
    Prop extends Ledger reader delivered where
  input : reader.failure = none → reader.Unstarted ∨ reader.Walking
  idle : reader.failure = none → reader.phase = .idle → reader.IsFresh ∧ reader.Unstarted
  /-- What was produced before a failure has been delivered. -/
  drained : reader.failure ≠ none → reader.window = []

/-- A fresh observed reader has delivered nothing. -/
theorem books_observed
    {reader : Reader σ ε}
    (fresh : reader.IsFresh) :
    reader.observed.Books [] := by
  have unstarted : reader.observed.Unstarted :=
    ⟨⟨rfl, fresh.inputOffset, fresh.inputRead, fresh.sourceTotal, fresh.sourceDone⟩,
      fun _ member => by cases member⟩
  refine ⟨⟨?_, ?_, ?_, ?_, ?_⟩, ?_, ?_, ?_⟩
  · intro input capacity reply past earlier
    exact absurd (List.suffix_nil.mp earlier) (List.cons_ne_nil _ _)
  · exact fresh.window
  · exact fresh.crc
  · exact congrArg Counters.bytesOut fresh.counters
  · intro _ read member
    cases member
  · intro _
    exact Or.inl unstarted
  · intro _ _
    obtain ⟨failure, inputOffset, inputRead, sourceTotal, sourceDone, window, counters, crc⟩ :=
      fresh
    exact ⟨⟨failure, inputOffset, inputRead, sourceTotal, sourceDone, window, counters, crc⟩,
      unstarted⟩
  · intro _
    exact fresh.window

/-- A stream that can go on, and is no longer idle, keeps its books. -/
theorem Sound.books
    {reader : Reader (RecordedSource σ) (RecordedEngine ε)}
    {delivered : Bytes}
    (sound : reader.Sound delivered)
    (unfailed : reader.failure = none)
    (phase : reader.phase = .active) :
    reader.Books delivered where
  toLedger := sound.toLedger
  input := fun _ => sound.input
  idle := by
    simp [phase]
  drained := fun failed => absurd unfailed failed

/-- A failure with an empty window keeps the books. -/
theorem Ledger.books_of_fail
    {reader : Reader (RecordedSource σ) (RecordedEngine ε)}
    {delivered : Bytes}
    (scope : Scope)
    (error : StreamError)
    (ledger : reader.Ledger delivered)
    (empty : reader.window = []) :
    (reader.fail scope error).Books delivered where
  offered := ledger.offered
  content := ledger.content
  crc := ledger.crc
  bytesOut := ledger.bytesOut
  asked := ledger.asked
  input := nofun
  idle := nofun
  drained := fun _ => empty

/-- A session that starts finds the books of a fresh reader as it would have them. -/
theorem sound_of_startSession
    [EngineCalls ε]
    {reader started : Reader (RecordedSource σ) (RecordedEngine ε)}
    {scope : Scope}
    {delivered : Bytes}
    (ledger : reader.Ledger delivered)
    (fresh : reader.IsFresh)
    (unstarted : reader.Unstarted)
    (starts : reader.startSession scope = (.ok (), started)) :
    started.Sound delivered ∧ started.failure = none ∧ started.phase = .active := by
  unfold startSession at starts
  dsimp only at starts
  split at starts
  · cases starts
  · rename_i engine answer
    have calls := RecordedEngine.calls_of_start answer
    cases starts
    refine ⟨⟨?_, Or.inl ⟨⟨unstarted.reads, rfl, rfl, rfl, rfl⟩, ?_⟩⟩, fresh.failure, rfl⟩
    · exact ledger_of_quiet ledger calls rfl rfl fresh.window.symm fresh.crc.symm
        fresh.counters.symm
    · intro call member
      change call ∈ engine.calls at member
      rw [calls] at member
      rcases List.mem_cons.mp member with rfl | earlier
      · rfl
      · exact unstarted.quiet call earlier

/-- A session that does not start leaves the ledger as it is. -/
theorem ledger_of_startSession_error
    [EngineCalls ε]
    {reader idle : Reader (RecordedSource σ) (RecordedEngine ε)}
    {scope : Scope}
    {delivered : Bytes}
    {error : StreamError}
    (ledger : reader.Ledger delivered)
    (starts : reader.startSession scope = (.error error, idle)) :
    idle.Ledger delivered ∧ idle.window = reader.window := by
  obtain ⟨engine, span, trace, answer, rfl⟩ := refused_of_startSession starts
  have calls := RecordedEngine.calls_of_start answer
  exact ⟨ledger_of_quiet ledger calls rfl rfl rfl rfl rfl, rfl⟩

/-- A reader that is ready can go on. -/
theorem sound_of_ready_ok
    [EngineCalls ε]
    {reader active : Reader (RecordedSource σ) (RecordedEngine ε)}
    {scope : Scope}
    {delivered : Bytes}
    (books : reader.Books delivered)
    (readies : reader.ready scope = (.ok (), active)) :
    active.Sound delivered ∧ active.failure = none ∧ active.phase = .active := by
  unfold ready at readies
  split at readies
  · cases readies
  · rename_i unfailed
    split at readies
    · cases readies
    · rename_i phase
      cases readies
      exact ⟨⟨books.toLedger, books.input unfailed⟩, unfailed, phase⟩
    · rename_i phase
      obtain ⟨fresh, unstarted⟩ := books.idle unfailed phase
      split at readies
      · rename_i started starts
        cases readies
        exact sound_of_startSession books.toLedger fresh unstarted starts
      · cases readies

/-- A reader that is not ready keeps its books. -/
theorem books_of_ready_error
    [EngineCalls ε]
    {reader next : Reader (RecordedSource σ) (RecordedEngine ε)}
    {scope : Scope}
    {delivered : Bytes}
    {error : StreamError}
    (books : reader.Books delivered)
    (readies : reader.ready scope = (.error error, next)) :
    next.Books delivered := by
  unfold ready at readies
  split at readies
  · cases readies
    exact books
  · rename_i unfailed
    split at readies
    · cases readies
      exact books
    · cases readies
    · rename_i phase
      obtain ⟨fresh, -⟩ := books.idle unfailed phase
      split at readies
      · cases readies
      · rename_i cause idle starts
        obtain ⟨ledger, window⟩ := ledger_of_startSession_error books.toLedger starts
        cases readies
        exact ledger.books_of_fail scope error (window.trans fresh.window)

end Reader

namespace ReadLoop

variable {σ ε : Type}

/-- A read under way, with `delivered` delivered by the reads before it into other buffers. -/
structure Sound
    (loop : ReadLoop (RecordedSource σ) (RecordedEngine ε))
    (before delivered : Bytes) :
    Prop where
  reader : loop.reader.Sound (delivered ++ loop.buffer.take loop.filled)
  unfailed : loop.reader.failure = none
  phase : loop.reader.phase = .active
  fits : loop.filled ≤ loop.buffer.length
  length : loop.buffer.length = before.length
  /-- The part of the buffer that is not filled is as it was. -/
  rest : loop.buffer.drop loop.filled = before.drop loop.filled

/-- What a read that has stopped leaves behind. -/
structure Stopped
    (before delivered : Bytes)
    (result : Except StreamError Nat)
    (last : ReadLoop (RecordedSource σ) (RecordedEngine ε)) :
    Prop where
  books : last.reader.Books (delivered ++ ReadRecord.delivered ⟨before, result, last.buffer⟩)
  front : ReadRecord.WritesFrontOnly ⟨before, result, last.buffer⟩

/-- A read from a sound stream is sound before its first round. -/
theorem sound_of_active
    {reader : Reader (RecordedSource σ) (RecordedEngine ε)}
    {delivered : Bytes}
    (buffer : Bytes)
    (sound : reader.Sound delivered)
    (unfailed : reader.failure = none)
    (phase : reader.phase = .active) :
    ReadLoop.Sound ⟨reader, buffer, 0⟩ buffer delivered where
  reader := by
    rw [List.take_zero, List.append_nil]
    exact sound
  unfailed := unfailed
  phase := phase
  fits := Nat.zero_le _
  length := rfl
  rest := rfl

variable [EngineCalls ε] [Source σ]

/-- A round that goes on keeps a read sound. -/
theorem sound_of_step
    {loop next : ReadLoop (RecordedSource σ) (RecordedEngine ε)}
    {scope : Scope}
    {before delivered : Bytes}
    (sound : loop.Sound before delivered)
    (goes : loop.step scope = .inl next) :
    next.Sound before delivered := by
  have keeps := Reader.keeps_round scope loop.room sound.reader
  rcases took_or_moved_of_step goes with ⟨some, bytes, reader, takes, rfl⟩ | ⟨reader, moves, rfl⟩
  · obtain ⟨-, enough⟩ := Reader.length_of_took takes (Nat.pos_of_ne_zero some)
    rw [takes] at keeps
    obtain ⟨after, phase, failure⟩ := keeps
    have length := length_put reader sound.fits enough
    refine ⟨?_, failure.trans sound.unfailed, phase.trans sound.phase, ?_,
      length.trans sound.length, ?_⟩
    · rw [take_put bytes reader sound.fits, ← List.append_assoc]
      exact after
    · rw [length]
      change loop.filled + bytes.length ≤ _
      unfold room at enough
      have := sound.fits
      omega
    · rw [drop_put bytes reader sound.fits, sound.rest, List.drop_drop]
      rfl
  · rw [moves] at keeps
    obtain ⟨after, phase, failure⟩ := keeps
    exact ⟨after, failure.trans sound.unfailed, phase.trans sound.phase, sound.fits,
      sound.length, sound.rest⟩

/-- A round that stops leaves the books and the buffer in order. -/
theorem stopped_of_step
    {loop last : ReadLoop (RecordedSource σ) (RecordedEngine ε)}
    {scope : Scope}
    {before delivered : Bytes}
    {result : Except StreamError Nat}
    (sound : loop.Sound before delivered)
    (stops : loop.step scope = .inr (result, last)) :
    Stopped before delivered result last := by
  have keeps := Reader.keeps_round scope loop.room sound.reader
  have front : ReadRecord.WritesFrontOnly ⟨before, .ok loop.filled, loop.buffer⟩ :=
    ⟨sound.length ▸ sound.fits, sound.length, sound.rest⟩
  unfold step at stops
  split at stops
  · cases stops
    exact ⟨sound.reader.books sound.unfailed sound.phase, front⟩
  · split at stops
    · cases stops
    · cases stops
    · rename_i reader ends
      rw [ends] at keeps
      obtain ⟨after, phase, failure⟩ := keeps
      cases stops
      exact ⟨after.books (failure.trans sound.unfailed) (phase.trans sound.phase), front⟩
    · rename_i error reader fails
      rw [fails] at keeps
      obtain ⟨ledger, empty, -⟩ := keeps
      dsimp only at stops
      split at stops
      · rename_i none
        cases stops
        rw [none, List.take_zero] at ledger
        have untouched : loop.buffer = before := by
          have rest := sound.rest
          rwa [none, List.drop_zero, List.drop_zero] at rest
        exact ⟨ledger.books_of_fail scope error empty, untouched⟩
      · cases stops
        exact ⟨ledger.books_of_fail scope error empty, front⟩

/-- Every state that a sound read passes through is sound. -/
theorem sound_of_visits
    {loop last : ReadLoop (RecordedSource σ) (RecordedEngine ε)}
    {scope : Scope}
    {before delivered : Bytes}
    (visits : Visits scope loop last)
    (sound : loop.Sound before delivered) :
    last.Sound before delivered := by
  induction visits with
  | here loop =>
      exact sound
  | later goes visits ih =>
      exact ih (sound_of_step sound goes)

/-- A sound read leaves the books and the buffer in order. -/
theorem stopped_of_run
    (loop : ReadLoop (RecordedSource σ) (RecordedEngine ε))
    (scope : Scope)
    {before delivered : Bytes}
    (sound : loop.Sound before delivered) :
    Stopped before delivered (loop.run scope).1 (loop.run scope).2 := by
  fun_induction run loop scope with
  | case1 loop next goes ih =>
      exact ih (sound_of_step sound goes)
  | case2 loop outcome stops =>
      exact stopped_of_step sound stops

/-- The reader after a round, whether or not the read goes on. -/
def readerAfter
    (loop : ReadLoop σ ε)
    (scope : Scope) :
    Reader σ ε :=
  match loop.step scope with
  | .inl next =>
      next.reader
  | .inr (_, last) =>
      last.reader

/-- No engine call is made while the window holds bytes. -/
theorem engine_of_window
    {loop : ReadLoop σ ε}
    {scope : Scope}
    (holds : loop.reader.window ≠ []) :
    (loop.readerAfter scope).engine = loop.reader.engine := by
  have some : 0 < loop.reader.outputLeft := by
    rw [loop.reader.windowed]
    exact List.length_pos_iff.mpr holds
  unfold readerAfter step Reader.round
  by_cases full : loop.room = 0
  · rw [if_pos full]
  · rw [if_neg full, if_pos some]
    rfl

end ReadLoop

namespace Reader

variable {σ ε : Type} [EngineCalls ε] [Source σ]

/-- A read keeps the books, and writes to the front of its buffer only. -/
theorem books_of_readInto
    {reader next : Reader (RecordedSource σ) (RecordedEngine ε)}
    {delivered buffer after : Bytes}
    {result : Except StreamError Nat}
    (books : reader.Books delivered)
    (reads : reader.readInto buffer = (result, after, next)) :
    next.Books (delivered ++ ReadRecord.delivered ⟨buffer, result, after⟩) ∧
      ReadRecord.WritesFrontOnly ⟨buffer, result, after⟩ := by
  unfold readInto at reads
  split at reads
  · rename_i error idle readies
    cases reads
    refine ⟨?_, rfl⟩
    rw [ReadRecord.delivered, List.append_nil]
    exact books_of_ready_error books readies
  · rename_i active readies
    obtain ⟨sound, unfailed, phase⟩ := sound_of_ready_ok books readies
    have stopped := ReadLoop.stopped_of_run _ (reader.scope ++ ["read"])
      (ReadLoop.sound_of_active buffer sound unfailed phase)
    cases reads
    exact ⟨stopped.books, stopped.front⟩

/-- A session keeps the books, and every read in it writes to the front of its buffer only. -/
theorem books_of_runReads
    {reader : Reader (RecordedSource σ) (RecordedEngine ε)}
    {delivered : Bytes}
    (books : reader.Books delivered)
    (buffers : List Bytes) :
    (reader.runReads buffers).2.Books
        (delivered ++ ReadRecord.deliveredBy (reader.runReads buffers).1) ∧
      ∀ record, record ∈ (reader.runReads buffers).1 → record.WritesFrontOnly := by
  induction buffers generalizing reader delivered with
  | nil =>
      refine ⟨?_, nofun⟩
      rw [runReads, ReadRecord.deliveredBy, List.flatMap_nil, List.append_nil]
      exact books
  | cons buffer rest ih =>
      cases reads : reader.readInto buffer with
      | mk result left =>
          obtain ⟨after, next⟩ := left
          have kept := books_of_readInto books reads
          obtain ⟨later, fronts⟩ := ih kept.1
          simp only [runReads, reads]
          refine ⟨?_, ?_⟩
          · rw [ReadRecord.deliveredBy, List.flatMap_cons, ← List.append_assoc]
            exact later
          · intro record member
            rcases List.mem_cons.mp member with rfl | member
            · exact kept.2
            · exact fronts record member

/-- What is true of a reader when `delivered` has been delivered in its session. -/
structure InOrder
    (delivered : Bytes)
    (reader : Reader (RecordedSource σ) (RecordedEngine ε)) :
    Prop where
  /-- Every call was offered the source from where the calls before it had left it. -/
  offered :
    ∀ input capacity reply past,
      .decompress input capacity reply :: past <:+ reader.engine.calls →
        input = reader.source.upstream.drop (EngineFigures.ofCalls past).consumedCount
  /-- What was delivered and what is in the window is what successful steps put out. -/
  content : delivered ++ reader.window = reader.engine.figures.produced
  crc : reader.crc.value = crc32 delivered
  bytesOut :
    reader.counters.bytesOut.toNat = (delivered.length + reader.window.length) % 2 ^ (64 : Nat)
  /-- When a failure is kept, everything that was produced has been delivered. -/
  drained : reader.failure ≠ none → reader.window = []
  /-- A read from the source that brought nothing did so because the source had ended. -/
  asked :
    reader.source.upstream.length < 2 ^ (63 : Nat) →
      ∀ read, read ∈ reader.source.reads → 0 < read.capacity

omit [EngineCalls ε] [Source σ] in
/-- What the ledger says is what is true of a reader. -/
theorem inOrder_of_ledger
    {reader : Reader (RecordedSource σ) (RecordedEngine ε)}
    {delivered : Bytes}
    (ledger : reader.Ledger delivered)
    (drained : reader.failure ≠ none → reader.window = []) :
    InOrder delivered reader where
  offered := ledger.offered
  content := ledger.content
  crc := by
    rw [ledger.crc]
    rfl
  bytesOut := by
    rw [ledger.bytesOut, UInt64.toNat_ofNat', ← ledger.content, List.length_append]
  drained := drained
  asked := ledger.asked

/--
Whatever the engine and the source answer, the reads of a session deliver what
the engine puts out, whole and in order, while the engine walks what the source
handed out.  This holds between two reads and before every round of a read; no
round calls the engine while the window holds bytes; and a read writes nothing
to its buffer but what it delivers, which is what `readChunk` delivers.
-/
theorem inOrder_runReads
    (reader : Reader σ ε)
    (fresh : reader.IsFresh)
    (buffers : List Bytes) :
    let (records, last) := reader.observed.runReads buffers
    InOrder (ReadRecord.deliveredBy records) last ∧
      (∀ record, record ∈ records → record.WritesFrontOnly) ∧
      ∀ buffer,
        last.readInto buffer = intoBuffer buffer (last.readChunk buffer.length) ∧
          ∀ active loop,
            last.ready last.scope = (.ok (), active) →
              ReadLoop.Visits (last.scope ++ ["read"]) ⟨active, buffer, 0⟩ loop →
                InOrder
                    (ReadRecord.deliveredBy records ++ loop.buffer.take loop.filled)
                    loop.reader ∧
                  (loop.reader.window ≠ [] →
                    (loop.readerAfter (last.scope ++ ["read"])).engine = loop.reader.engine) := by
  obtain ⟨books, fronts⟩ := books_of_runReads (books_observed fresh) buffers
  rw [List.nil_append] at books
  refine ⟨inOrder_of_ledger books.toLedger books.drained, fronts, ?_⟩
  intro buffer
  refine ⟨readInto_eq _ buffer, ?_⟩
  intro active loop readies visits
  obtain ⟨sound, unfailed, phase⟩ := sound_of_ready_ok books readies
  have within :=
    ReadLoop.sound_of_visits visits (ReadLoop.sound_of_active buffer sound unfailed phase)
  refine ⟨inOrder_of_ledger within.reader.toLedger ?_, ReadLoop.engine_of_window⟩
  intro failed
  exact absurd within.unfailed failed

/-- The law holds of a reader between a source that fails and an engine that overreports. -/
theorem inOrder_runReads_scripted :
    let source : ScriptedSource := { data := [1, 2, 3, 4, 5], interruptEvery := 2 }
    let engine : ScriptedEngine := { chunk := some 2, onCall := [(3, .claim ⟨9, 1⟩)] }
    let reader : Reader ScriptedSource ScriptedEngine := { source := source, engine := engine }
    reader.IsFresh ∧
      InOrder (ReadRecord.deliveredBy (reader.observed.runReads [[0, 0, 0], [0]]).1)
        (reader.observed.runReads [[0, 0, 0], [0]]).2 := by
  intro source engine reader
  have fresh : reader.IsFresh := isFresh_of_built source engine {} {}
  exact ⟨fresh, (inOrder_runReads reader fresh [[0, 0, 0], [0]]).1⟩

end Reader

end MemberStream
