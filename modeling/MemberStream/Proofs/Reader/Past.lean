import MemberStream.Proofs.Reader.Phases

namespace MemberStream

/-!
# What a reader has recorded before

As with writers, records that were made before have no part in what calls on a
reader answer, nor in any other field: they stay behind the records of the calls.
-/

namespace Reader

variable {σ ε α : Type}

/-- The same reader, with some records before those in its trace. -/
def behind
    (reader : Reader σ ε)
    (past : Trace) :
    Reader σ ε :=
  { reader with trace := reader.trace ++ past }

/-- The same outcome, with some records before those in the trace of the reader. -/
def outcomeBehind
    (outcome : α × Reader σ ε)
    (past : Trace) :
    α × Reader σ ε :=
  (outcome.1, outcome.2.behind past)

/-- The same round, with some records before those in the trace of the reader. -/
def Round.behind
    (round : Round σ ε)
    (past : Trace) :
    Round σ ε :=
  match round with
  | .took bytes next =>
      .took bytes (next.behind past)
  | .moved next =>
      .moved (next.behind past)
  | .ended last =>
      .ended (last.behind past)
  | .failed error last =>
      .failed error (last.behind past)

section Fields

variable (reader : Reader σ ε) (past : Trace)

@[simp]
theorem behind_engine :
    (reader.behind past).engine = reader.engine :=
  rfl

@[simp]
theorem behind_failure :
    (reader.behind past).failure = reader.failure :=
  rfl

@[simp]
theorem behind_phase :
    (reader.behind past).phase = reader.phase :=
  rfl

@[simp]
theorem behind_growth :
    (reader.behind past).growth = reader.growth :=
  rfl

@[simp]
theorem behind_inputLength :
    (reader.behind past).inputLength = reader.inputLength :=
  rfl

@[simp]
theorem behind_unread :
    (reader.behind past).unread = reader.unread :=
  rfl

@[simp]
theorem behind_outputLength :
    (reader.behind past).outputLength = reader.outputLength :=
  rfl

@[simp]
theorem behind_scope :
    (reader.behind past).scope = reader.scope :=
  rfl

/-- Reporting an event goes in front of what has been recorded before. -/
@[simp]
theorem report_behind
    (scope : Scope)
    (event : Event) :
    (reader.behind past).report scope event = (reader.report scope event).behind past := by
  unfold report behind
  dsimp only
  congr 1
  exact Trace.record_append _ past _ _ _

@[simp]
theorem fail_behind
    (scope : Scope)
    (error : StreamError) :
    (reader.behind past).fail scope error = (reader.fail scope error).behind past := by
  unfold fail
  rw [report_behind]
  rfl

end Fields

theorem accept_behind
    (reader : Reader σ ε)
    (past : Trace)
    (scope : Scope)
    (step : Step)
    (reply : Reply) :
    (reader.behind past).accept scope step reply =
      (reader.accept scope step reply).behind past := by
  unfold accept
  rw [report_behind]
  rfl

section Session

variable [EngineCalls ε]

/-- A session starts alike whatever has been recorded before. -/
theorem startSession_behind
    (reader : Reader σ ε)
    (past : Trace)
    (scope : Scope) :
    (reader.behind past).startSession scope =
      outcomeBehind (reader.startSession scope) past := by
  unfold startSession
  dsimp only [behind]
  split
  · rfl
  · dsimp only [report, outcomeBehind, behind]
    congr 2
    exact Trace.record_append (.opened _ :: reader.trace) past _ _ _

/-- Tearing a session down is the same whatever has been recorded before. -/
theorem teardown_behind
    (reader : Reader σ ε)
    (past : Trace) :
    (reader.behind past).teardown = reader.teardown.behind past := by
  unfold teardown
  change (if reader.sessionOpen then _ else _) = _
  by_cases opened : reader.sessionOpen = true
  · rw [if_pos opened, if_pos opened]
    rfl
  · rw [if_neg opened, if_neg opened]

/-- A reader gets ready alike whatever has been recorded before. -/
theorem ready_behind
    (reader : Reader σ ε)
    (past : Trace)
    (scope : Scope) :
    (reader.behind past).ready scope = outcomeBehind (reader.ready scope) past := by
  unfold ready
  rw [startSession_behind, behind_failure, behind_phase]
  cases reader.failure with
  | some error =>
      rfl
  | none =>
      cases reader.phase with
      | closed =>
          rfl
      | active =>
          rfl
      | idle =>
          dsimp only
          cases reader.startSession scope with
          | mk result started =>
              cases result with
              | ok =>
                  rfl
              | error error =>
                  exact congrArg (Prod.mk _) (fail_behind started past scope error)

/-- One engine call comes to the same whatever has been recorded before. -/
theorem advance_behind
    (reader : Reader σ ε)
    (past : Trace)
    (scope : Scope)
    (wanted : Nat) :
    (reader.behind past).advance scope wanted = (reader.advance scope wanted).behind past := by
  unfold advance
  rw [behind_engine, behind_unread, behind_growth, behind_outputLength]
  generalize EngineCalls.decompress reader.engine reader.unread reader.outputLength = answer
  obtain ⟨⟨result, bytes⟩, engine⟩ := answer
  let called : Reader σ ε := { reader with engine := engine }
  cases result with
  | ok step =>
      dsimp only
      change (if step.exceeds (reader.inputRead - reader.inputOffset) reader.outputLength = true
        then _ else _) = _
      by_cases beyond :
          step.exceeds (reader.inputRead - reader.inputOffset) reader.outputLength = true
      · rw [if_pos beyond, if_pos beyond]
        rfl
      · rw [if_neg beyond, if_neg beyond]
        by_cases idle : step.isIdle = true
        · rw [if_pos idle, if_pos idle]
          rfl
        · rw [if_neg idle, if_neg idle]
          exact congrArg Round.moved (accept_behind called past scope step _)
  | error error =>
      by_cases small : error = .insufficientBuffer
      · subst small
        dsimp only
        generalize reader.growth.nextOutputLength wanted reader.outputLength = grown
        obtain ⟨result, growth⟩ := grown
        cases result with
        | error error =>
            rfl
        | ok length =>
            let event : Event := .outputExpanded reader.outputLength length
            have reports :=
              report_behind ({ called with growth := growth } : Reader σ ε) past scope event
            dsimp only
            change (if reader.outputLength < length then _ else _) = _
            by_cases larger : reader.outputLength < length
            · rw [if_pos larger, if_pos larger]
              exact congrArg
                (fun expanded : Reader σ ε =>
                  Round.moved { expanded with outputLength := length }) reports
            · rw [if_neg larger, if_neg larger]
              exact congrArg (Round.failed _) reports
      · cases error with
        | insufficientBuffer =>
            exact absurd rfl small
        | _ =>
            rfl

end Session

/-- Room is made alike whatever has been recorded before. -/
theorem makeRoom_behind
    (reader : Reader σ ε)
    (past : Trace)
    (scope : Scope) :
    (reader.behind past).makeRoom scope = outcomeBehind (reader.makeRoom scope) past := by
  unfold makeRoom
  rw [behind_growth, behind_inputLength]
  change (if reader.inputRead = reader.inputLength then _ else _) = _
  by_cases full : reader.inputRead = reader.inputLength
  · rw [if_pos full, if_pos full]
    cases reader.growth.nextInputLength reader.inputLength with
    | error error =>
        rfl
    | ok length =>
        exact congrArg
          (fun reported : Reader σ ε => (Except.ok (), { reported with inputLength := length }))
          (report_behind reader past scope _)
  · rw [if_neg full, if_neg full]
    rfl

section Input

variable [Source σ]

/-- The source is gathered alike whatever has been recorded before. -/
theorem gather_behind
    (reader : Reader σ ε)
    (past : Trace)
    (scope : Scope)
    (chunks : List Bytes) :
    (reader.behind past).gather scope chunks =
      ((reader.gather scope chunks).1, (reader.gather scope chunks).2.1,
        (reader.gather scope chunks).2.2.behind past) := by
  have makes {reader next : Reader σ ε} {result : Except StreamError Unit}
      (made : reader.makeRoom scope = (result, next)) :
      (reader.behind past).makeRoom scope = (result, next.behind past) := by
    rw [makeRoom_behind, made]
    rfl
  fun_induction gather reader scope chunks with
  | case1 reader chunks error full made =>
      exact gather_of_full (makes made) chunks
  | case2 reader chunks roomy made source answer =>
      exact gather_of_read (makes made) answer chunks
  | case3 reader chunks roomy made byte rest source answer count buffered transferred ih =>
      rw [gather_of_read (makes made) answer chunks, ← ih,
        ← report_behind]
      rfl
  | case4 reader chunks roomy made error source answer interrupted ih =>
      rw [gather_of_read (makes made) answer chunks, ← ih]
      exact if_pos interrupted
  | case5 reader chunks roomy made error source answer terminal =>
      rw [gather_of_read (makes made) answer chunks]
      exact if_neg terminal

/-- The input buffer is filled alike whatever has been recorded before. -/
theorem fillInput_behind
    (reader : Reader σ ε)
    (past : Trace)
    (scope : Scope) :
    (reader.behind past).fillInput scope = outcomeBehind (reader.fillInput scope) past := by
  let emptied : Reader σ ε := { reader with inputOffset := 0, inputRead := 0, unread := [] }
  exact congrArg
    (fun outcome : Except StreamError Unit × List Bytes × Reader σ ε =>
      (outcome.1, { outcome.2.2 with unread := outcome.2.1.reverse.flatten }))
    (gather_behind emptied past (scope ++ ["input"]) [])

/-- Input is made ready alike whatever has been recorded before. -/
theorem ensureInput_behind
    (reader : Reader σ ε)
    (past : Trace)
    (scope : Scope) :
    (reader.behind past).ensureInput scope = outcomeBehind (reader.ensureInput scope) past := by
  unfold ensureInput
  rw [fillInput_behind]
  change (if (reader.inputExhausted && !reader.sourceDone) = true then _
    else if reader.sourceTotal = 0 then _ else _) = _
  by_cases unfilled : (reader.inputExhausted && !reader.sourceDone) = true
  · rw [if_pos unfilled, if_pos unfilled]
    cases reader.fillInput scope with
    | mk result filled =>
        cases result with
        | error error =>
            rfl
        | ok =>
            dsimp only [outcomeBehind]
            change (if filled.sourceTotal = 0 then _ else _) = _
            by_cases nothing : filled.sourceTotal = 0
            · rw [if_pos nothing, if_pos nothing]
            · rw [if_neg nothing, if_neg nothing]
  · rw [if_neg unfilled, if_neg unfilled]
    by_cases nothing : reader.sourceTotal = 0
    · rw [if_pos nothing, if_pos nothing]
      rfl
    · rw [if_neg nothing, if_neg nothing]
      rfl

variable [EngineCalls ε]

/-- A round comes to the same whatever has been recorded before. -/
theorem round_behind
    (reader : Reader σ ε)
    (past : Trace)
    (scope : Scope)
    (wanted : Nat) :
    (reader.behind past).round scope wanted = (reader.round scope wanted).behind past := by
  unfold round
  rw [ensureInput_behind]
  change (if 0 < reader.outputLeft then _ else _) = _
  by_cases left : 0 < reader.outputLeft
  · rw [if_pos left, if_pos left]
    rfl
  · rw [if_neg left, if_neg left]
    cases reader.ensureInput scope with
    | mk result filled =>
        cases result with
        | error error =>
            rfl
        | ok =>
            dsimp only [outcomeBehind]
            change (if filled.inputExhausted = true then _ else _) = _
            by_cases exhausted : filled.inputExhausted = true
            · rw [if_pos exhausted, if_pos exhausted]
              rfl
            · rw [if_neg exhausted, if_neg exhausted]
              exact advance_behind filled past scope wanted

/-- Bytes are delivered alike whatever has been recorded before. -/
theorem deliver_behind
    (reader : Reader σ ε)
    (past : Trace)
    (scope : Scope)
    (wanted : Nat)
    (delivered : Bytes) :
    (reader.behind past).deliver scope wanted delivered =
      outcomeBehind (reader.deliver scope wanted delivered) past := by
  have rounds {reader : Reader σ ε} {wanted : Nat} {round : Round σ ε}
      (same : reader.round scope wanted = round) :
      (reader.behind past).round scope wanted = round.behind past := by
    rw [round_behind, same]
  fun_induction deliver reader scope wanted delivered with
  | case1 reader delivered =>
      exact deliver_zero _ scope delivered
  | case2 reader wanted delivered some bytes next takes ih =>
      rw [deliver_of_pos _ scope delivered some, rounds takes]
      exact ih
  | case3 reader wanted delivered some next moves ih =>
      rw [deliver_of_pos _ scope delivered some, rounds moves]
      exact ih
  | case4 reader wanted delivered some last ends =>
      rw [deliver_of_pos _ scope delivered some, rounds ends]
      rfl
  | case5 reader wanted delivered some error last fails =>
      rw [deliver_of_pos _ scope delivered some, rounds fails]
      dsimp only [Round.behind]
      unfold failAfter
      rw [fail_behind]
      dsimp only
      split <;> rfl

/-- A chunk is read alike whatever has been recorded before. -/
theorem readChunk_behind
    (reader : Reader σ ε)
    (past : Trace)
    (length : Nat) :
    (reader.behind past).readChunk length = outcomeBehind (reader.readChunk length) past := by
  unfold readChunk
  dsimp only
  rw [behind_scope, ready_behind]
  cases reader.ready reader.scope with
  | mk result active =>
      cases result with
      | error error =>
          rfl
      | ok =>
          exact deliver_behind active past _ length []

/-- A buffer is read into alike whatever has been recorded before. -/
theorem readInto_behind
    (reader : Reader σ ε)
    (past : Trace)
    (buffer : Bytes) :
    (reader.behind past).readInto buffer =
      ((reader.readInto buffer).1, (reader.readInto buffer).2.1,
        (reader.readInto buffer).2.2.behind past) := by
  rw [readInto_eq, readInto_eq, readChunk_behind]
  cases reader.readChunk buffer.length with
  | mk result next =>
      cases result with
      | ok bytes =>
          rfl
      | error error =>
          rfl

end Input

variable [EngineCalls ε]

/-- The engine is closed alike whatever has been recorded before. -/
theorem closeEngine_behind
    (reader : Reader σ ε)
    (past : Trace)
    (scope : Scope) :
    (reader.behind past).closeEngine scope = outcomeBehind (reader.closeEngine scope) past := by
  unfold closeEngine
  rw [behind_failure, behind_engine]
  split
  · exact congrArg (Prod.mk _) (teardown_behind reader past)
  · cases EngineCalls.close reader.engine with
      | mk result engine =>
          let closed : Reader σ ε := { reader with engine := engine, sessionOpen := false }
          cases result with
          | ok =>
              rfl
          | error error =>
              exact congrArg (Prod.mk _) (fail_behind closed past scope error)

/-- A stream is closed alike whatever has been recorded before. -/
theorem close_behind
    (reader : Reader σ ε)
    (past : Trace) :
    (reader.behind past).close = outcomeBehind reader.close past := by
  unfold close
  rw [behind_phase]
  cases reader.phase with
  | closed =>
      rfl
  | idle =>
      rfl
  | active =>
      let ended : Reader σ ε := { reader with phase := .closed }
      let conclude (outcome : Except StreamError Unit × Reader σ ε) :
          Except StreamError Unit × Reader σ ε :=
        (outcome.1,
          { outcome.2.report reader.scope (.readerClosed outcome.1.isOk) with
            closeResult := some outcome.1 })
      change conclude ((ended.behind past).closeEngine reader.scope) =
        outcomeBehind (conclude (ended.closeEngine reader.scope)) past
      rw [closeEngine_behind]
      generalize ended.closeEngine reader.scope = outcome
      obtain ⟨result, closed⟩ := outcome
      exact congrArg
        (fun reported : Reader σ ε => (result, { reported with closeResult := some result }))
        (report_behind closed past reader.scope _)

theorem cleared_behind
    (reader : Reader σ ε)
    (past : Trace) :
    (reader.behind past).cleared = reader.cleared.behind past := by
  unfold cleared
  rw [teardown_behind]
  rfl

/-- A stream is reset alike whatever has been recorded before. -/
theorem reset_behind
    (reader : Reader σ ε)
    (past : Trace)
    (source : σ) :
    (reader.behind past).reset source = outcomeBehind (reader.reset source) past := by
  rw [reset_eq, reset_eq, cleared_behind, startSession_behind]
  cases reader.cleared.startSession [] with
  | mk result started =>
      cases result with
      | ok =>
          rfl
      | error error =>
          exact congrArg (Prod.mk _) (fail_behind started past [] error)

end Reader

end MemberStream
