import MemberStream.Proofs.Engine.Operating
import MemberStream.Proofs.Reader.Showing

namespace MemberStream

/-!
# How a reader operates its engine

As with writers, every request makes its calls on the engine under the options that it
finds, and changes the options for the next request only.  A reader never compresses, and
closing it starts no session.
-/

/-- The overrides in force behind a request. -/
def ReaderRequest.overriding
    {σ : Type}
    (overrides : Overrides) :
    ReaderRequest σ → Overrides
  | .override replaced =>
      replaced
  | _ =>
      overrides

namespace Reader

variable {σ ε : Type}

/-- A reader has gone on under its options, and its engine has been operated under them. -/
structure Operates
    [EngineCalls ε]
    (reader next : Reader σ ε) :
    Prop where
  overrides : next.overrides = reader.overrides
  staged : next.staged = reader.staged
  engine :
    Operated .reader (reader.staged.resolve reader.overrides) reader.engine next.engine

variable [EngineCalls ε]

theorem Operates.refl
    (reader : Reader σ ε) :
    Operates reader reader where
  overrides := rfl
  staged := rfl
  engine := .rest

/-- A reader may go on from where it has gone. -/
theorem Operates.trans
    {reader next last : Reader σ ε}
    (earlier : Operates reader next)
    (later : Operates next last) :
    Operates reader last where
  overrides := later.overrides.trans earlier.overrides
  staged := later.staged.trans earlier.staged
  engine := by
    have same := later.engine
    rw [earlier.staged, earlier.overrides] at same
    exact earlier.engine.trans same

/-- A session is started with what is staged and the overrides. -/
theorem operates_startSession
    (reader : Reader σ ε)
    (scope : Scope) :
    Operates reader (reader.startSession scope).2 := by
  unfold startSession
  dsimp only
  split
  · rename_i answer
    exact ⟨rfl, rfl, Operated.rest.start answer⟩
  · rename_i answer
    exact ⟨rfl, rfl, Operated.rest.start answer⟩

/-- Getting ready starts a session at most. -/
theorem operates_ready
    (reader : Reader σ ε)
    (scope : Scope) :
    Operates reader (reader.ready scope).2 := by
  have starts := operates_startSession reader scope
  apply ready_keeps (motive := fun next => Operates reader next) (.refl reader)
  · intro _ started answer
    rwa [answer] at starts
  · intro _ error idle answer
    rw [answer] at starts
    exact starts.trans ⟨rfl, rfl, .rest⟩

/-- Tearing a session down closes the engine at most. -/
theorem operates_teardown
    (reader : Reader σ ε) :
    Operates reader reader.teardown := by
  unfold teardown
  split
  · exact ⟨rfl, rfl, Operated.rest.close rfl⟩
  · exact .refl reader

/-- Closing a reader closes the engine at most. -/
theorem operates_close
    (reader : Reader σ ε) :
    Operates reader reader.close.2 := by
  have closes := closes_close reader
  generalize reader.close = outcome at closes
  cases closes with
  | again phase =>
      exact .refl reader
  | idle phase =>
      exact ⟨rfl, rfl, .rest⟩
  | failed phase kept =>
      exact (operates_teardown reader).trans ⟨rfl, rfl, .rest⟩
  | closed phase unfailed answer | refused phase unfailed answer =>
      exact ⟨rfl, rfl, Operated.rest.close answer⟩

/-- A reset starts one session under the options that it finds. -/
theorem operates_reset
    (reader : Reader σ ε)
    (source : σ) :
    Operates reader (reader.reset source).2 := by
  have cleared : Operates reader reader.cleared :=
    (operates_teardown reader).trans ⟨rfl, rfl, .rest⟩
  have starts := cleared.trans (operates_startSession reader.cleared [])
  rw [reset_eq]
  split <;> rename_i answer <;> rw [answer] at starts
  · exact starts.trans ⟨rfl, rfl, .rest⟩
  · exact starts.trans ⟨rfl, rfl, .rest⟩

variable [Source σ]

/-- A round decompresses at most. -/
theorem operates_round
    (reader : Reader σ ε)
    (scope : Scope)
    (wanted : Nat) :
    Operates reader (reader.round scope wanted).reader := by
  have same := sameSession_round reader scope wanted
  refine ⟨same.overrides, same.staged, ?_⟩
  rcases decompressed_of_round reader scope wanted with silent | ⟨input, capacity, reply, answer⟩
  · rw [silent]
    exact .rest
  · exact Operated.rest.decompress rfl answer

/-- A read starts a session at most, and decompresses. -/
theorem operates_readChunk
    (reader : Reader σ ε)
    (length : Nat) :
    Operates reader (reader.readChunk length).2 := by
  apply readChunk_keeps
    (motive := fun next => Operates reader next) _ _ (operates_ready reader _) length
  · intro next wanted operates
    exact operates.trans (operates_round next _ wanted)
  · intro next error operates
    exact operates.trans ⟨rfl, rfl, .rest⟩

/-- Every request operates the engine under the options that it finds. -/
theorem operated_serve
    (reader : Reader σ ε)
    (request : ReaderRequest σ) :
    Operated .reader (reader.staged.resolve reader.overrides) reader.engine
      (reader.serve request).2.engine := by
  have served := served_serve reader request
  generalize (reader.serve request).2 = next at served ⊢
  cases served with
  | readInto buffer | read length =>
      exact (operates_readChunk reader _).engine
  | closed =>
      exact (operates_close reader).engine
  | applied options | overridden overrides | altered change =>
      exact .rest
  | reset source =>
      exact (operates_reset reader source).engine

/-- The options behind a request are those before it, changed as it says. -/
structure Restages
    (reader : Reader σ ε)
    (request : ReaderRequest σ)
    (next : Reader σ ε) :
    Prop where
  overrides : next.overrides = request.overriding reader.overrides
  staged : next.staged = reader.staged.stageEach (reader.takenBy request)

/-- Every request changes the options as it says, and not otherwise. -/
theorem restages_serve
    (reader : Reader σ ε)
    (request : ReaderRequest σ) :
    Restages reader request (reader.serve request).2 := by
  have served := served_serve reader request
  generalize (reader.serve request).2 = next at served ⊢
  cases served with
  | readInto buffer | read length =>
      have same := operates_readChunk reader
      exact ⟨(same _).overrides, (same _).staged⟩
  | closed =>
      have same := operates_close reader
      exact ⟨same.overrides, same.staged⟩
  | applied options =>
      refine ⟨rfl, ?_⟩
      change (reader.apply options).2.staged = reader.staged.stageEach (ite _ _ _)
      by_cases idle : reader.phase = .idle
      · rw [apply_of_idle idle, if_pos idle]
        exact stageOptions_snd .reader options reader.staged
      · rw [apply_of_unidle idle, if_neg idle]
        rfl
  | overridden overrides | altered change =>
      exact ⟨rfl, rfl⟩
  | reset source =>
      have same := operates_reset reader source
      exact ⟨same.overrides, same.staged⟩

/-- Some requests stage the options that they say, in order, and leave the newest overrides. -/
theorem restages_serveEach
    (reader : Reader σ ε)
    (requests : List (ReaderRequest σ)) :
    (reader.serveEach requests).overrides =
        requests.foldl ReaderRequest.overriding reader.overrides ∧
      (reader.serveEach requests).staged =
        reader.staged.stageEach (reader.takenOptions requests) := by
  induction requests generalizing reader with
  | nil =>
      exact ⟨rfl, rfl⟩
  | cons request rest ih =>
      have ⟨overrides, staged⟩ := restages_serve reader request
      have ⟨laterOverrides, laterStaged⟩ := ih (reader.serve request).2
      constructor
      · rw [serveEach, laterOverrides, overrides, List.foldl_cons]
      · rw [serveEach, laterStaged, staged, takenOptions, ParameterSet.stageEach_append]

end Reader

end MemberStream
