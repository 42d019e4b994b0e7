import MemberStream.Engine.Basic

namespace MemberStream

/-!
# Scripted engines

A scripted engine copies bytes under given limits and answers chosen calls with
given errors or counts.  It stands in for a real engine when a stream is
rehearsed against faults.
-/

/-- What a script answers to a data call instead of doing it. -/
inductive ScriptedAnswer
  | failure (error : StreamError)
  /-- Report exactly these counts. -/
  | claim (step : Step)
  deriving Repr, DecidableEq

/-- A copying engine with a script; calls of each kind are numbered from 1. -/
structure ScriptedEngine where
  /-- The most bytes consumed per call. -/
  chunk : Option Nat := none
  /-- The shortest output slice that is accepted. -/
  minOutput : Nat := 0
  /-- How often each byte is written. -/
  repetition : Nat := 1
  onCall : List (Nat × ScriptedAnswer) := []
  onStart : List (Nat × StreamError) := []
  onClose : List (Nat × StreamError) := []
  active : Bool := false
  last : Bool := false
  starts : Nat := 0
  closes : Nat := 0
  dataCalls : Nat := 0

namespace ScriptedEngine

/-- The byte that fills the output of a claimed step. -/
def fillByte : UInt8 :=
  0x2e

/-- Copy from the front of the input as far as the limits allow. -/
def copy
    (engine : ScriptedEngine)
    (input : Bytes)
    (capacity : Nat) :
    Reply :=
  if capacity < engine.minOutput then
    { result := .error .insufficientBuffer }
  else
    let offered := min input.length (capacity / engine.repetition)
    let count := min offered (engine.chunk.getD offered)
    if count = 0 then
      { result := .error .insufficientBuffer }
    else
      { result := .ok ⟨count, count * engine.repetition⟩
        filled := (input.take count).flatMap (List.replicate engine.repetition) }

/-- Answer a data call, as the script says or by copying. -/
def call
    (engine : ScriptedEngine)
    (input : Bytes)
    (capacity : Nat) :
    Reply × ScriptedEngine :=
  if engine.active then
    let number := engine.dataCalls + 1
    let counted := { engine with dataCalls := number }
    match engine.onCall.lookup number with
    | some (.failure error) =>
        ({ result := .error error }, counted)
    | some (.claim step) =>
        ({ result := .ok step
           filled := List.replicate (min step.produced capacity) fillByte }, counted)
    | none =>
        (engine.copy input capacity, counted)
  else
    ({ result := .error .notYetStarted }, engine)

instance : EngineCalls ScriptedEngine where
  start engine _ :=
    let number := engine.starts + 1
    let counted := { engine with starts := number }
    match engine.onStart.lookup number with
    | some error =>
        (.error error, counted)
    | none =>
        (.ok (), { counted with active := true, last := false })
  compress :=
    call
  decompress :=
    call
  setLast engine last :=
    { engine with last := last }
  close engine :=
    let number := engine.closes + 1
    let closed := { engine with closes := number, active := false }
    match engine.onClose.lookup number with
    | some error =>
        (.error error, closed)
    | none =>
        if engine.active then
          (.ok (), closed)
        else
          (.error .notYetStarted, closed)

/-- How many entries of the data script are still to come. -/
def pending
    (engine : ScriptedEngine) :
    Nat :=
  engine.onCall.countP (fun entry => decide (engine.dataCalls < entry.1))

/-- Copying consumes at least one byte. -/
theorem copy_consumes
    (engine : ScriptedEngine)
    (input : Bytes)
    (capacity produced : Nat) :
    (engine.copy input capacity).result ≠ .ok ⟨0, produced⟩ := by
  unfold copy
  dsimp only
  split
  · simp
  · split
    · simp
    · rename_i positive
      intro same
      simp only [Except.ok.injEq, Step.mk.injEq] at same
      exact positive same.1

/-- An entry for the next call is one of those to come, and it is past afterwards. -/
theorem countP_lt_of_lookup
    (entries : List (Nat × ScriptedAnswer))
    (calls : Nat)
    (answer : ScriptedAnswer)
    (found : entries.lookup (calls + 1) = some answer) :
    entries.countP (fun entry => decide (calls + 1 < entry.1)) <
      entries.countP (fun entry => decide (calls < entry.1)) := by
  induction entries with
  | nil =>
      simp at found
  | cons entry rest ih =>
      obtain ⟨number, scripted⟩ := entry
      have weaker :
          rest.countP (fun entry => decide (calls + 1 < entry.1)) ≤
            rest.countP (fun entry => decide (calls < entry.1)) := by
        apply List.countP_mono_left
        intro later _ past
        simp only [decide_eq_true_eq] at past ⊢
        omega
      by_cases same : calls + 1 = number
      · subst same
        simp only [List.countP_cons, Nat.lt_irrefl, decide_false, Bool.false_eq_true,
          if_false, Nat.lt_succ_self, decide_true, if_true]
        omega
      · have different : (calls + 1 == number) = false := by
          simpa using same
        simp only [List.lookup_cons, different] at found
        have shorter := ih found
        simp only [List.countP_cons, decide_eq_true_eq]
        by_cases later : calls + 1 < number
        · have : calls < number := by omega
          simp only [later, this, if_true]
          omega
        · have : ¬ calls < number := by omega
          simp only [later, this, if_false]
          exact shorter

/-- A stall uses up an entry of the data script. -/
theorem pending_of_stalls
    {next current : ScriptedEngine}
    (stalled : Stalls next current) :
    next.pending < current.pending := by
  obtain ⟨ready, input, capacity, produced, filled, origin, positive, answer⟩ := stalled
  have same : ready.onCall = current.onCall ∧ ready.dataCalls = current.dataCalls := by
    rcases origin with rfl | rfl
    · exact ⟨rfl, rfl⟩
    · exact ⟨rfl, rfl⟩
  change ready.call input capacity = _ at answer
  unfold call at answer
  split at answer
  · dsimp only at answer
    split at answer
    · cases answer
    · rename_i step found
      cases answer
      have shorter := countP_lt_of_lookup _ _ _ found
      simp only [pending]
      rw [same.1, same.2] at *
      exact shorter
    · exfalso
      exact copy_consumes ready input capacity produced
        (congrArg (fun pair => pair.1.result) answer)
  · cases answer

instance : Engine ScriptedEngine where
  settles :=
    Subrelation.wf pending_of_stalls (InvImage.wf pending Nat.lt_wfRel.wf)

end ScriptedEngine

end MemberStream
