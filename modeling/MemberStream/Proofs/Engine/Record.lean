import MemberStream.Engine.Recorded

namespace MemberStream

/-!
# What a record of engine calls shows

A record lists the calls on an engine with their answers, newest first.  Its
figures are the bytes that the engine reported as consumed and those that its
successful steps put out, each from the oldest call on, and the counts that it
reported.  A step that reports more than it was offered, or nothing at all, is
no success.
-/

namespace EngineCall

/-- The counts that a data call reports; all other calls report none. -/
def counts : EngineCall → Step
  | .compress _ _ ⟨.ok step, _⟩ =>
      step
  | .decompress _ _ ⟨.ok step, _⟩ =>
      step
  | _ =>
      ⟨0, 0⟩

/-- The input that a data call was offered. -/
def offered : EngineCall → Bytes
  | .compress input _ _ =>
      input
  | .decompress input _ _ =>
      input
  | _ =>
      []

/-- Whether a call is a data call. -/
def isData : EngineCall → Bool
  | .compress _ _ _ | .decompress _ _ _ =>
      true
  | _ =>
      false

/-- The slice of its input that a data call reports as consumed. -/
def consumed
    (call : EngineCall) :
    Bytes :=
  call.offered.take call.counts.consumed

/-- Whether a reply is a step that keeps to what was offered and makes progress. -/
def isStep
    (available capacity : Nat)
    (reply : Reply) :
    Bool :=
  match reply.result with
  | .ok step =>
      !step.exceeds available capacity && !step.isIdle
  | .error _ =>
      false

/-- Whether a call is a successful step. -/
def succeeds : EngineCall → Bool
  | .compress input capacity reply =>
      isStep input.length capacity reply
  | .decompress input capacity reply =>
      isStep input.length capacity reply
  | _ =>
      false

/-- The bytes that a successful step put out. -/
def produced
    (call : EngineCall) :
    Bytes :=
  match call with
  | .compress input capacity reply | .decompress input capacity reply =>
      if isStep input.length capacity reply then
        reply.front call.counts.produced
      else
        []
  | _ =>
      []

end EngineCall

/-- The figures of a record. -/
structure EngineFigures where
  consumed : Bytes := []
  produced : Bytes := []
  consumedCount : Nat := 0
  producedCount : Nat := 0
  /-- Whether any step succeeded. -/
  succeeded : Bool := false

namespace EngineFigures

/-- The figures after one more call. -/
def add
    (figures : EngineFigures)
    (call : EngineCall) :
    EngineFigures where
  consumed :=
    figures.consumed ++ call.consumed
  produced :=
    figures.produced ++ call.produced
  consumedCount :=
    figures.consumedCount + call.counts.consumed
  producedCount :=
    figures.producedCount + call.counts.produced
  succeeded :=
    figures.succeeded || call.succeeds

/-- The figures of some calls, given newest first. -/
def ofCalls : List EngineCall → EngineFigures
  | [] =>
      {}
  | call :: earlier =>
      (ofCalls earlier).add call

/-- A call that is no data call adds nothing to the figures. -/
theorem add_of_not_isData
    (figures : EngineFigures)
    {call : EngineCall}
    (quiet : call.isData = false) :
    figures.add call = figures := by
  cases call with
  | compress input capacity reply =>
      cases quiet
  | decompress input capacity reply =>
      cases quiet
  | start parameters result =>
      simp [add, EngineCall.consumed, EngineCall.offered, EngineCall.produced, EngineCall.counts,
        EngineCall.succeeds]
  | setLast last =>
      simp [add, EngineCall.consumed, EngineCall.offered, EngineCall.produced, EngineCall.counts,
        EngineCall.succeeds]
  | close result =>
      simp [add, EngineCall.consumed, EngineCall.offered, EngineCall.produced, EngineCall.counts,
        EngineCall.succeeds]

@[simp]
theorem ofCalls_start
    (parameters : ParameterSet)
    (result : Except StreamError Unit)
    (calls : List EngineCall) :
    ofCalls (.start parameters result :: calls) = ofCalls calls :=
  add_of_not_isData _ rfl

@[simp]
theorem ofCalls_setLast
    (last : Bool)
    (calls : List EngineCall) :
    ofCalls (.setLast last :: calls) = ofCalls calls :=
  add_of_not_isData _ rfl

@[simp]
theorem ofCalls_close
    (result : Except StreamError Unit)
    (calls : List EngineCall) :
    ofCalls (.close result :: calls) = ofCalls calls :=
  add_of_not_isData _ rfl

/-- Without data calls there are no figures. -/
theorem ofCalls_of_quiet
    {calls : List EngineCall}
    (quiet : ∀ call, call ∈ calls → call.isData = false) :
    ofCalls calls = {} := by
  induction calls with
  | nil =>
      rfl
  | cons call earlier ih =>
      rw [ofCalls, add_of_not_isData _ (quiet call List.mem_cons_self)]
      exact ih (fun other member => quiet other (List.mem_cons_of_mem call member))

/-- What was consumed in the past comes first in what has been consumed since. -/
theorem consumed_prefix_of_suffix
    {past calls : List EngineCall}
    (earlier : past <:+ calls) :
    (ofCalls past).consumed <+: (ofCalls calls).consumed := by
  obtain ⟨later, rfl⟩ := earlier
  induction later with
  | nil =>
      exact List.prefix_rfl
  | cons call rest ih =>
      exact ih.trans (List.prefix_append _ _)

/-- A call that does not succeed puts nothing out. -/
theorem produced_eq_nil_of_call
    {call : EngineCall}
    (failed : call.succeeds = false) :
    call.produced = [] := by
  cases call with
  | compress input capacity reply =>
      have failed : EngineCall.isStep input.length capacity reply = false := failed
      simp [EngineCall.produced, failed]
  | decompress input capacity reply =>
      have failed : EngineCall.isStep input.length capacity reply = false := failed
      simp [EngineCall.produced, failed]
  | start parameters result =>
      rfl
  | setLast last =>
      rfl
  | close result =>
      rfl

/-- Without a successful step nothing has been put out. -/
theorem produced_eq_nil
    {calls : List EngineCall}
    (none : (ofCalls calls).succeeded = false) :
    (ofCalls calls).produced = [] := by
  induction calls with
  | nil =>
      rfl
  | cons call earlier ih =>
      simp only [ofCalls, add, Bool.or_eq_false_iff] at none ⊢
      rw [ih none.1, produced_eq_nil_of_call none.2, List.append_nil]

end EngineFigures

namespace RecordedEngine

/-- The figures of the calls on a recorded engine. -/
def figures
    {ε : Type}
    (recorded : RecordedEngine ε) :
    EngineFigures :=
  .ofCalls recorded.calls

@[simp]
theorem figures_start
    {ε : Type}
    [EngineCalls ε]
    (recorded : RecordedEngine ε)
    (parameters : ParameterSet) :
    (EngineCalls.start recorded parameters).2.figures = recorded.figures :=
  EngineFigures.ofCalls_start _ _ _

@[simp]
theorem figures_setLast
    {ε : Type}
    [EngineCalls ε]
    (recorded : RecordedEngine ε)
    (last : Bool) :
    (EngineCalls.setLast recorded last).figures = recorded.figures :=
  EngineFigures.ofCalls_setLast _ _

@[simp]
theorem figures_close
    {ε : Type}
    [EngineCalls ε]
    (recorded : RecordedEngine ε) :
    (EngineCalls.close recorded).2.figures = recorded.figures :=
  EngineFigures.ofCalls_close _ _

theorem calls_of_start
    {ε : Type}
    [EngineCalls ε]
    {recorded next : RecordedEngine ε}
    {parameters : ParameterSet}
    {result : Except StreamError Unit}
    (answer : EngineCalls.start recorded parameters = (result, next)) :
    next.calls = .start parameters result :: recorded.calls := by
  cases answer
  rfl

theorem calls_of_compress
    {ε : Type}
    [EngineCalls ε]
    {recorded next : RecordedEngine ε}
    {input : Bytes}
    {capacity : Nat}
    {reply : Reply}
    (answer : EngineCalls.compress recorded input capacity = (reply, next)) :
    next.calls = .compress input capacity reply :: recorded.calls := by
  cases answer
  rfl

theorem calls_of_decompress
    {ε : Type}
    [EngineCalls ε]
    {recorded next : RecordedEngine ε}
    {input : Bytes}
    {capacity : Nat}
    {reply : Reply}
    (answer : EngineCalls.decompress recorded input capacity = (reply, next)) :
    next.calls = .decompress input capacity reply :: recorded.calls := by
  cases answer
  rfl

theorem calls_of_close
    {ε : Type}
    [EngineCalls ε]
    {recorded next : RecordedEngine ε}
    {result : Except StreamError Unit}
    (answer : EngineCalls.close recorded = (result, next)) :
    next.calls = .close result :: recorded.calls := by
  cases answer
  rfl

end RecordedEngine

end MemberStream
