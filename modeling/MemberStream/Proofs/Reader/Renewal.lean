import MemberStream.Proofs.Engine.Member
import MemberStream.Proofs.Reader.Past

namespace MemberStream

/-!
# What a reset leaves of a reader

As with writers, a reset that succeeds starts the session of a reader that has
just been built under the same options, whatever has become of the session
before it.
-/

variable {encoders : Encoders}

/-- A request to a reader, at any time of its life. -/
inductive ReaderRequest (σ : Type)
  | readInto (buffer : Bytes)
  /-- Read through the byte-stream interface. -/
  | read (length : Nat)
  | close
  | apply (options : List StreamOption)
  | override (overrides : Overrides)
  /-- Change the source behind the back of the reader. -/
  | alter (change : σ → σ)
  | reset (source : σ)

/-- Whether a request resets the reader. -/
def ReaderRequest.isReset
    {σ : Type} :
    ReaderRequest σ → Bool
  | .reset _ =>
      true
  | _ =>
      false

/-- What a request to a reader came to. -/
inductive ReaderReply (σ : Type)
  /-- The result of a read, and the buffer of the caller behind it. -/
  | filled (result : Except StreamError Nat) (buffer : Bytes)
  | delivered (result : Except TransportError Bytes)
  | closed (result : Except StreamError Unit)
  | applied (result : Except StreamError Unit)
  | done
  | handedBack (result : Except StreamError σ)

/-- What a reader shows of itself. -/
structure ReaderView (σ ε : Type) where
  source : σ
  engine : ε
  parameters : ParameterSet
  counters : Counters
  checksum : UInt32

namespace Reader

variable {σ ε : Type}

/-- What can be seen of a reader. -/
def view
    (reader : Reader σ ε) :
    ReaderView σ ε where
  source := reader.source
  engine := reader.engine
  parameters := reader.parameters
  counters := reader.counters
  checksum := reader.crc.value

theorem windowed_empty :
    0 = ([] : Bytes).length :=
  rfl

/-- A reader that has just been built, under the options of another. -/
def rebuilt
    (reader : Reader σ (MemberEngine encoders))
    (source : σ) :
    Reader σ (MemberEngine encoders) where
  source := source
  engine := {}
  overrides := reader.overrides
  staged := reader.staged
  outputLeft := 0
  windowed := windowed_empty

/-- A session starts if one has started under the same options. -/
theorem startSession_of_startSession
    {first second started : Reader σ (MemberEngine encoders)}
    {scope : Scope}
    (overrides : second.overrides = first.overrides)
    (staged : second.staged = first.staged)
    (starts : first.startSession scope = (.ok (), started)) :
    ∃ other, second.startSession scope = (.ok (), other) := by
  have answer := MemberEngine.start_of_start (started_of_startSession starts).engine second.engine
  unfold startSession
  dsimp only
  rw [overrides, staged, answer]
  exact ⟨_, rfl⟩

/-- A session that starts is that of a reader just built, behind what has been recorded. -/
theorem started_eq_behind
    {reader started : Reader σ (MemberEngine encoders)}
    {scope : Scope}
    (unfailed : reader.failure = none)
    (unclosed : reader.closeResult = none)
    (starts : reader.startSession scope = (.ok (), started))
    (source : σ) :
    { started with source := source } =
      ((reader.rebuilt source).startSession scope).2.behind reader.trace := by
  unfold startSession at starts ⊢
  dsimp only at starts ⊢
  split at starts
  · cases starts
  · rename_i engine answer
    cases starts
    have again : EngineCalls.start (reader.rebuilt source).engine
        ((reader.rebuilt source).staged.resolve (reader.rebuilt source).overrides) = _ :=
      MemberEngine.start_of_start answer {}
    rw [again]
    dsimp only [behind, report, rebuilt]
    congr 1
    exact Trace.record_append [.opened _] reader.trace _ _ _

/-- A reset that succeeds leaves a reader just built, behind what has been recorded. -/
theorem reset_eq_behind
    {reader renewed : Reader σ (MemberEngine encoders)}
    {source previous : σ}
    (resets : reader.reset source = (.ok previous, renewed)) :
    renewed = ((reader.rebuilt source).startSession []).2.behind reader.cleared.trace := by
  obtain ⟨overrides, staged⟩ := options_cleared reader
  have rebuilt : reader.cleared.rebuilt source = reader.rebuilt source := by
    unfold Reader.rebuilt
    rw [overrides, staged]
  rw [reset_eq] at resets
  split at resets
  · rename_i started starts
    cases resets
    rw [← rebuilt]
    exact started_eq_behind rfl rfl starts source
  · cases resets

/-- A reader can be reset if another one can that is under the same options. -/
theorem reset_of_reset
    {first second renewed : Reader σ (MemberEngine encoders)}
    {source previous : σ}
    (overrides : second.overrides = first.overrides)
    (staged : second.staged = first.staged)
    (resets : first.reset source = (.ok previous, renewed)) :
    ∃ handed other, second.reset source = (.ok handed, other) := by
  obtain ⟨firstOverrides, firstStaged⟩ := options_cleared first
  obtain ⟨secondOverrides, secondStaged⟩ := options_cleared second
  rw [reset_eq] at resets
  split at resets
  · rename_i started starts
    have sameOverrides : second.cleared.overrides = first.cleared.overrides := by
      rw [secondOverrides, overrides, firstOverrides]
    have sameStaged : second.cleared.staged = first.cleared.staged := by
      rw [secondStaged, staged, firstStaged]
    obtain ⟨other, startsOther⟩ := startSession_of_startSession sameOverrides sameStaged starts
    rw [reset_eq, startsOther]
    exact ⟨_, _, rfl⟩
  · cases resets

variable [EngineCalls ε] [Source σ]

/-- Serve a request. -/
def serve
    (reader : Reader σ ε) :
    ReaderRequest σ →
    ReaderReply σ × Reader σ ε
  | .readInto buffer =>
      let (result, filled, next) := reader.readInto buffer
      (.filled result filled, next)
  | .read length =>
      let (result, next) := reader.read length
      (.delivered result, next)
  | .close =>
      let (result, next) := reader.close
      (.closed result, next)
  | .apply options =>
      let (result, next) := reader.apply options
      (.applied result, next)
  | .override overrides =>
      (.done, { reader with overrides := overrides })
  | .alter change =>
      (.done, { reader with source := change reader.source })
  | .reset source =>
      let (result, next) := reader.reset source
      (.handedBack result, next)

/-- Reading into a buffer leaves a reader as reading a chunk of its length does. -/
theorem readInto_reader
    (reader : Reader σ ε)
    (buffer : Bytes) :
    (reader.readInto buffer).2.2 = (reader.readChunk buffer.length).2 := by
  rw [readInto_eq]
  generalize reader.readChunk buffer.length = outcome
  obtain ⟨result, next⟩ := outcome
  cases result with
  | ok =>
      rfl
  | error error =>
      rfl

/-- Everything that a request can come to: the reader behind it. -/
inductive Served
    (reader : Reader σ ε) :
    ReaderRequest σ →
    Reader σ ε →
    Prop where
  | readInto
      (buffer : Bytes) :
      Served reader (.readInto buffer) (reader.readChunk buffer.length).2
  | read
      (length : Nat) :
      Served reader (.read length) (reader.readChunk length).2
  | closed :
      Served reader .close reader.close.2
  | applied
      (options : List StreamOption) :
      Served reader (.apply options) (reader.apply options).2
  | overridden
      (overrides : Overrides) :
      Served reader (.override overrides) { reader with overrides := overrides }
  | altered
      (change : σ → σ) :
      Served reader (.alter change) { reader with source := change reader.source }
  | reset
      (source : σ) :
      Served reader (.reset source) (reader.reset source).2

/-- Every request comes to one of the cases. -/
theorem served_serve
    (reader : Reader σ ε)
    (request : ReaderRequest σ) :
    Served reader request (reader.serve request).2 := by
  cases request with
  | readInto buffer =>
      change Served reader _ (reader.readInto buffer).2.2
      rw [readInto_reader]
      exact .readInto buffer
  | read length =>
      exact .read length
  | close =>
      exact .closed
  | apply options =>
      exact .applied options
  | override overrides =>
      exact .overridden overrides
  | alter change =>
      exact .altered change
  | reset source =>
      exact .reset source

/-- The reader after some requests. -/
def serveEach
    (reader : Reader σ ε) :
    List (ReaderRequest σ) →
    Reader σ ε
  | [] =>
      reader
  | request :: rest =>
      (reader.serve request).2.serveEach rest

/-- What each of some requests keeps holds when all of them have been served. -/
theorem serveEach_keeps
    {motive : Reader σ ε → Prop}
    {requests : List (ReaderRequest σ)}
    (keeps :
      ∀ (reader : Reader σ ε) (request : ReaderRequest σ),
        request ∈ requests → motive reader → motive (reader.serve request).2)
    {reader : Reader σ ε}
    (holds : motive reader) :
    motive (reader.serveEach requests) := by
  induction requests generalizing reader with
  | nil =>
      exact holds
  | cons request rest ih =>
      have served := keeps reader request List.mem_cons_self holds
      exact ih (fun reader other member =>
        keeps reader other (List.mem_cons_of_mem request member)) served

/-- Serve some requests: every reply, and what can be seen of the reader behind it. -/
def observe
    (reader : Reader σ ε) :
    List (ReaderRequest σ) →
    List (ReaderReply σ × ReaderView σ ε)
  | [] =>
      []
  | request :: rest =>
      let (reply, next) := reader.serve request
      (reply, next.view) :: next.observe rest

/-- A request is served alike whatever has been recorded before. -/
theorem serve_behind
    (reader : Reader σ ε)
    (past : Trace)
    (request : ReaderRequest σ) :
    (reader.behind past).serve request = outcomeBehind (reader.serve request) past := by
  cases request with
  | readInto buffer =>
      exact congrArg (fun outcome => (ReaderReply.filled outcome.1 outcome.2.1, outcome.2.2))
        (readInto_behind reader past buffer)
  | read length =>
      exact congrArg
        (fun outcome => (ReaderReply.delivered (outcome.1.mapError .wrapped), outcome.2))
        (readChunk_behind reader past length)
  | close =>
      exact congrArg (fun outcome => (ReaderReply.closed outcome.1, outcome.2))
        (close_behind reader past)
  | apply options =>
      rfl
  | override overrides =>
      rfl
  | alter change =>
      rfl
  | reset source =>
      exact congrArg (fun outcome => (ReaderReply.handedBack outcome.1, outcome.2))
        (reset_behind reader past source)

/-- Nothing can be observed of what has been recorded before. -/
theorem observe_behind
    (reader : Reader σ ε)
    (past : Trace)
    (requests : List (ReaderRequest σ)) :
    (reader.behind past).observe requests = reader.observe requests := by
  induction requests generalizing reader with
  | nil =>
      rfl
  | cons request rest ih =>
      unfold observe
      rw [serve_behind]
      exact congrArg (List.cons _) (ih (reader.serve request).2)

/-- Two readers show the same of themselves, and go on doing so whatever is requested of them. -/
structure Alike
    (first second : Reader σ ε) :
    Prop where
  view : first.view = second.view
  observe : ∀ requests, first.observe requests = second.observe requests

/-- Readers that differ in what they have recorded before are alike. -/
theorem alike_behind
    (reader : Reader σ ε)
    (first second : Trace) :
    Alike (reader.behind first) (reader.behind second) where
  view := rfl
  observe requests := by
    rw [observe_behind, observe_behind]

/-- Readers under the same options are alike when they have been reset. -/
theorem alike_of_reset
    {first second renewed : Reader σ (MemberEngine encoders)}
    {source previous : σ}
    (overrides : second.overrides = first.overrides)
    (staged : second.staged = first.staged)
    (resets : first.reset source = (.ok previous, renewed)) :
    ∃ handed other,
      second.reset source = (.ok handed, other) ∧ Alike renewed other := by
  obtain ⟨handed, other, again⟩ := reset_of_reset overrides staged resets
  have rebuilt : second.rebuilt source = first.rebuilt source := by
    unfold Reader.rebuilt
    rw [overrides, staged]
  refine ⟨handed, other, again, ?_⟩
  rw [reset_eq_behind resets, reset_eq_behind again, rebuilt]
  exact alike_behind _ _ _

end Reader

end MemberStream
