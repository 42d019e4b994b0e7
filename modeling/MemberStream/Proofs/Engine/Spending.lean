import MemberStream.Proofs.Engine.Attempts

namespace MemberStream

/-!
# What a loop of data calls spends

A stream that drives its engine on has so many bytes to offer.  If every successful step
consumes some of them, there are no more such steps than bytes, and every other data call
found the output buffer too short, or ended the loop.
-/

namespace EngineCall

/-- A call that found the output buffer too short is no successful step. -/
theorem succeeds_of_short
    {call : EngineCall}
    (short : call.isShort = true) :
    call.succeeds = false := by
  have refused {reply : Reply} (short : reply.isShort = true) (available capacity : Nat) :
      isStep available capacity reply = false := by
    unfold Reply.isShort at short
    unfold isStep
    cases result : reply.result with
    | ok step =>
        rw [result] at short
        cases short
    | error error =>
        rfl
  cases call with
  | compress input capacity reply | decompress input capacity reply =>
      exact refused short input.length capacity
  | _ =>
      rfl

/-- Whether every successful step among some calls consumed something. -/
def Consume
    (calls : List EngineCall) :
    Prop :=
  ∀ call ∈ calls, call.succeeds = true → 0 < call.counts.consumed

/--
What some calls, of which every successful step consumed something, came to for a stream
that had so many bytes to offer: at most as many steps as there were bytes, and no other
data call but those that found the output buffer too short and one that ended it all.
-/
structure Spent
    (calls : List EngineCall)
    (bytes : Nat) :
    Prop where
  steps : Consume calls → calls.countP succeeds ≤ bytes
  all : Consume calls → calls.countP isData ≤ bytes + calls.countP isShort

namespace Spent

theorem mono
    {calls : List EngineCall}
    {bytes more : Nat}
    (spent : Spent calls bytes)
    (enough : bytes ≤ more) :
    Spent calls more where
  steps consume := Nat.le_trans (spent.steps consume) enough
  all consume := Nat.le_trans (spent.all consume) (Nat.add_le_add_right enough _)

/-- Calls in two groups spend what the groups spend. -/
theorem append
    {later earlier : List EngineCall}
    {first second : Nat}
    (after : Spent later second)
    (before : Spent earlier first) :
    Spent (later ++ earlier) (first + second) := by
  have parts (consume : Consume (later ++ earlier)) : Consume later ∧ Consume earlier :=
    ⟨fun call member => consume call (List.mem_append_left earlier member),
      fun call member => consume call (List.mem_append_right later member)⟩
  refine ⟨fun consume => ?_, fun consume => ?_⟩
  · have steps := before.steps (parts consume).2
    have more := after.steps (parts consume).1
    rw [List.countP_append]
    omega
  · have all := before.all (parts consume).2
    have more := after.all (parts consume).1
    rw [List.countP_append, List.countP_append]
    omega

/-- Calls that are no data calls spend nothing. -/
theorem of_quiet
    {calls : List EngineCall}
    (quiet : ∀ call, call ∈ calls → call.isData = false) :
    Spent calls 0 := by
  refine ⟨fun _ => ?_, fun _ => ?_⟩
  · refine Nat.le_of_eq (List.countP_eq_zero.mpr fun call member succeeds => ?_)
    have silent := quiet call member
    cases call with
    | compress input capacity reply | decompress input capacity reply =>
        cases silent
    | _ =>
        cases succeeds
  · refine Nat.le_trans (Nat.le_of_eq (List.countP_eq_zero.mpr fun call member => ?_))
      (Nat.zero_le _)
    rw [quiet call member]
    exact Bool.false_ne_true

/-- A call that found the output buffer too short spends nothing. -/
theorem of_short
    {call : EngineCall}
    (short : call.isShort = true) :
    Spent [call] 0 := by
  refine ⟨fun _ => ?_, fun _ => ?_⟩
  · refine Nat.le_of_eq (List.countP_eq_zero.mpr fun other member => ?_)
    rw [List.mem_singleton.mp member, succeeds_of_short short]
    exact Bool.false_ne_true
  · have most := List.countP_le_length (p := isData) (l := [call])
    have counted : [call].countP isShort = 1 := by
      simp [short]
    rw [counted, Nat.zero_add]
    exact most

/-- One call spends a byte at most, whatever it comes to. -/
theorem of_call
    (call : EngineCall) :
    Spent [call] 1 where
  steps _ := List.countP_le_length
  all _ := Nat.le_trans List.countP_le_length (Nat.le_add_right 1 _)

/-- A successful step spends what it consumes. -/
theorem of_succeeds
    {call : EngineCall}
    (succeeds : call.succeeds = true) :
    Spent [call] call.counts.consumed := by
  have some (consume : Consume [call]) : 1 ≤ call.counts.consumed :=
    consume call List.mem_cons_self succeeds
  exact ⟨fun consume => ((of_call call).mono (some consume)).steps consume,
    fun consume => ((of_call call).mono (some consume)).all consume⟩

end Spent

end EngineCall

namespace RecordedEngine

variable {ε : Type}

/-- Whether the calls that drove an engine on have spent no more than some bytes. -/
def Spends
    (recorded next : RecordedEngine ε)
    (bytes : Nat) :
    Prop :=
  ∃ more,
    next.calls = more ++ recorded.calls ∧ EngineCall.Spent more bytes

namespace Spends

variable {recorded next last : RecordedEngine ε} {bytes : Nat}

theorem refl
    (recorded : RecordedEngine ε) :
    recorded.Spends recorded 0 := by
  refine ⟨[], rfl, .of_quiet ?_⟩
  intro call member
  cases member

theorem of_quiet
    {call : EngineCall}
    (calls : next.calls = call :: recorded.calls)
    (quiet : call.isData = false) :
    recorded.Spends next 0 := by
  refine ⟨[call], calls, .of_quiet ?_⟩
  intro other member
  rwa [List.mem_singleton.mp member]

theorem of_decompress
    [EngineCalls ε]
    {input : Bytes}
    {capacity : Nat}
    {reply : Reply}
    (answer : EngineCalls.decompress recorded input capacity = (reply, next))
    (spent : EngineCall.Spent [.decompress input capacity reply] bytes) :
    recorded.Spends next bytes :=
  ⟨_, RecordedEngine.calls_of_decompress answer, spent⟩

theorem mono
    {more : Nat}
    (spends : recorded.Spends next bytes)
    (enough : bytes ≤ more) :
    recorded.Spends next more := by
  obtain ⟨calls, driven, spent⟩ := spends
  exact ⟨calls, driven, spent.mono enough⟩

/-- An engine that is driven on twice spends what it spends each time. -/
theorem trans
    {more : Nat}
    (first : recorded.Spends next bytes)
    (second : next.Spends last more) :
    recorded.Spends last (bytes + more) := by
  obtain ⟨earlier, before, spent⟩ := first
  obtain ⟨later, after, spentMore⟩ := second
  refine ⟨later ++ earlier, ?_, spentMore.append spent⟩
  rw [after, before, List.append_assoc]

end Spends

end RecordedEngine

end MemberStream
