import MemberStream.Parameter.Option
import MemberStream.Proofs.Engine.Record

namespace MemberStream

/-!
# How a stream operates its engine

Between two changes of its options a stream starts its engine with one set of parameters
only, however many sessions it starts, and it compresses or decompresses, never both.
What every such call keeps true of an engine is true of it in the end.
-/

/--
What an engine can become through the calls of a stream of a given role that starts it
with given parameters only.
-/
inductive Operated
    {ε : Type}
    [EngineCalls ε]
    (role : TargetRole)
    (parameters : ParameterSet)
    (engine : ε) :
    ε →
    Prop where
  | rest :
      Operated role parameters engine engine
  | start
      {current next : ε}
      {result : Except StreamError Unit}
      (earlier : Operated role parameters engine current)
      (answer : EngineCalls.start current parameters = (result, next)) :
      Operated role parameters engine next
  | compress
      {current next : ε}
      {input : Bytes}
      {capacity : Nat}
      {reply : Reply}
      (writer : role = .writer)
      (earlier : Operated role parameters engine current)
      (answer : EngineCalls.compress current input capacity = (reply, next)) :
      Operated role parameters engine next
  | decompress
      {current next : ε}
      {input : Bytes}
      {capacity : Nat}
      {reply : Reply}
      (reader : role = .reader)
      (earlier : Operated role parameters engine current)
      (answer : EngineCalls.decompress current input capacity = (reply, next)) :
      Operated role parameters engine next
  | setLast
      {current : ε}
      (last : Bool)
      (earlier : Operated role parameters engine current) :
      Operated role parameters engine (EngineCalls.setLast current last)
  | close
      {current next : ε}
      {result : Except StreamError Unit}
      (earlier : Operated role parameters engine current)
      (answer : EngineCalls.close current = (result, next)) :
      Operated role parameters engine next

namespace Operated

variable
  {ε : Type}
  [EngineCalls ε]
  {role : TargetRole}
  {parameters : ParameterSet}

/-- Calls after calls are calls. -/
theorem trans
    {engine next last : ε}
    (earlier : Operated role parameters engine next)
    (later : Operated role parameters next last) :
    Operated role parameters engine last := by
  induction later with
  | rest =>
      exact earlier
  | start _ answer ih =>
      exact ih.start answer
  | compress writer _ answer ih =>
      exact ih.compress writer answer
  | decompress reader _ answer ih =>
      exact ih.decompress reader answer
  | setLast last _ ih =>
      exact ih.setLast last
  | close _ answer ih =>
      exact ih.close answer

end Operated

namespace EngineCall

/-- The parameters that a start hands over, whatever the engine answers to it. -/
def handed? : EngineCall → Option ParameterSet
  | .start parameters _ =>
      some parameters
  | _ =>
      none

/-- The parameters that some calls hand over, newest first. -/
def handed
    (calls : List EngineCall) :
    List ParameterSet :=
  calls.filterMap handed?

/-- A stream hands over nothing but the parameters that it starts its engine with. -/
theorem handed_of_operated
    {ε : Type}
    [EngineCalls ε]
    {role : TargetRole}
    {parameters : ParameterSet}
    {recorded next : RecordedEngine ε}
    (operated : Operated role parameters recorded next) :
    ∃ count, handed next.calls = List.replicate count parameters ++ handed recorded.calls := by
  induction operated with
  | rest =>
      exact ⟨0, rfl⟩
  | start _ answer ih =>
      obtain ⟨count, same⟩ := ih
      refine ⟨count + 1, ?_⟩
      rw [RecordedEngine.calls_of_start answer, List.replicate_succ, List.cons_append, ← same]
      rfl
  | compress _ _ answer ih =>
      rwa [RecordedEngine.calls_of_compress answer]
  | decompress _ _ answer ih =>
      rwa [RecordedEngine.calls_of_decompress answer]
  | setLast last _ ih =>
      exact ih
  | close _ answer ih =>
      rwa [RecordedEngine.calls_of_close answer]

end EngineCall

end MemberStream
