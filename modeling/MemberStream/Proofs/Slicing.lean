import MemberStream.Proofs.Reader.Filling
import MemberStream.Proofs.Reader.Slicing
import MemberStream.Proofs.Transport.Serving
import MemberStream.Proofs.Writer.Slicing
import MemberStream.Rehearsal.Engine
import MemberStream.Rehearsal.Transport

namespace MemberStream

/-!
# No engine makes a stream slice out of range

Whatever an engine reports, the streams take no slice beyond their buffers, and a faulty
step of the engine ends what the stream is doing before anything of it is used.
-/

/--
Every slice that a writer takes lies within its buffer, in any state of the writer and
whatever the engine answers: where a write is split, and all along a submission.  A request
whose submission comes to a faulty step answers with that fault and keeps it, and nothing of
the step reaches the sink, the counters or the checksum.  Only a reset forgets a fault that
it comes to when it closes the stream before.

The places of a reader lie within its buffers after any requests, and in every state that a
read passes through; so does every slice that it takes there, and the one it offers its
source.  A read that comes to a faulty step answers with that fault, or with the bytes that it
has delivered before, and the fault is kept; nothing of the step reaches the buffer of the
caller, the counters or the checksum.
-/
theorem inRange_of_requests
    {σ ρ ε η : Type}
    [Sink σ]
    [Source ρ]
    [Engine ε]
    [EngineCalls η] :
    (∀ (bounceLength : Nat) (bytes : Bytes),
      InputBufferMode.reserve.holdsAll bounceLength bytes.length = false →
        ∃ split,
          split + bounceLength = bytes.length ∧
            (Slice.mk 0 split bytes.length).Within ∧
            (Slice.mk split bytes.length bytes.length).Within ∧
            InputBufferMode.reserve.cut bounceLength bytes =
              (bytes.take split, bytes.drop split)) ∧
      (∀ (writer : Writer σ η) (scope : Scope) (input : Bytes) (visited : Submission σ η),
        Submission.Visits scope { writer, rest := input } visited →
          visited.Along input ∧
            ∀ slice, slice ∈ visited.slices input.length → slice.Within) ∧
      (∀ (writer : Writer σ ε) (request : WriterRequest σ) (scope : Scope)
          (start visited : Submission σ ε) (error : StreamError),
        writer.Submits request scope start →
          Submission.Visits scope start visited →
            visited.Faults error →
              Writer.StoppedAt visited.writer error (writer.serve request) ∧
                (request = .call .close →
                  writer.phase = .active →
                    ∀ sink,
                      Writer.Forgotten writer visited.writer.sink sink
                        (writer.serve (.reset sink)))) ∧
      (∀ (source : ρ) (engine : η) (overrides : Overrides) (requests : List (ReaderRequest ρ)),
        (∀ request, request ∈ requests → request.Measured) →
          let built : Reader ρ η := { source, engine, overrides, staged := {} }
          let reader := built.serveEach requests
          let scope := reader.scope ++ ["read"]
          reader.Placed ∧
            ∀ (buffer : Bytes) (active : Reader ρ η) (visited : ReadLoop ρ η),
              reader.ready reader.scope = (.ok (), active) →
                ReadLoop.Visits scope { reader := active, buffer } visited →
                  visited.Placed ∧
                    (∀ slice, slice ∈ visited.slices scope → slice.Within) ∧
                    (∀ offering,
                      Reader.Offers (scope ++ ["input"]) visited.reader.emptied offering →
                        offering.InRange ∧
                          (Slice.mk offering.inputRead offering.inputLength
                            offering.inputLength).Within) ∧
                    ∀ error,
                      visited.Faults scope error →
                        Reader.StoppedAt visited error (reader.readInto buffer)) := by
  refine ⟨?_, ?_, ?_, ?_⟩
  · intro bounceLength bytes splits
    obtain ⟨split, lengths, parts⟩ := InputBufferMode.split_of_reserve splits
    have fits : split ≤ bytes.length := by omega
    exact ⟨split, lengths, ⟨Nat.zero_le split, fits⟩, Slice.within_rest fits, parts⟩
  · intro writer scope input visited visits
    have along := Submission.along_of_visits visits ⟨Nat.zero_le _, rfl⟩
    exact ⟨along, Submission.within_of_along along⟩
  · intro writer request scope start visited error submits visits faults
    refine ⟨Writer.stoppedAt_of_faults submits visits faults, ?_⟩
    rintro rfl active sink
    exact Writer.forgotten_of_faults active submits visits faults sink
  · intro source engine overrides requests measured built reader scope
    have default : ({} : ParameterSet).inputBufferLength ≤ maxLength := by
      decide
    have start : built.Placed :=
      ⟨⟨⟨Nat.le_refl 0, Nat.le_refl 0, Nat.le_refl 0⟩, Nat.zero_le _, default⟩, rfl⟩
    have placed : reader.Placed :=
      Reader.serveEach_keeps (motive := Reader.Placed)
        (fun _ request member => Reader.placed_serve (measured request member)) start
    refine ⟨placed, ?_⟩
    intro buffer active visited readies visits
    have ready := Reader.placed_ready placed reader.scope
    rw [readies] at ready
    have along : visited.Placed := ReadLoop.placed_of_visits visits ⟨ready, Nat.zero_le _⟩
    refine ⟨along, ReadLoop.within_of_placed along scope, ?_, ?_⟩
    · intro offering offers
      have bounded := Reader.bounded_of_offers Source.length_le offers
        (Reader.bounded_emptied along.reader.toBounded)
      exact ⟨bounded.toInRange, Slice.within_rest bounded.inputRead⟩
    · intro error faults
      exact Reader.stoppedAt_of_faults readies visits faults

/--
The law holds of a writer that is closed on an engine that reports too much, and of a
reader that has just been built on an engine that reports nothing.
-/
theorem inRange_of_requests_faulty :
    let writer : Writer ScriptedSink ScriptedEngine :=
      { sink := {}
        engine := { active := true, onCall := [(1, .claim ⟨5, 0⟩)] }
        phase := .active
        sessionOpen := true
        held := [1]
        outputLength := 4 }
    let built : Reader ScriptedSource ScriptedEngine :=
      { source := { data := [1] }
        engine := { onCall := [(1, .claim ⟨0, 0⟩)] }
        overrides := {}
        staged := {} }
    let reader := built.serveEach [.apply [.inputBufferLength 131072]]
    (writer.serve (.call .close)).1.error? = some (Step.overreport ⟨5, 0⟩ 1 4) ∧
      (writer.serve (.call .close)).2.crc = writer.crc ∧
      reader.Placed ∧
      (reader.readInto [7, 8]).1 = .error (.corruptInput "truncated stream") ∧
      (reader.readInto [7, 8]).2.1 = [7, 8] := by
  intro writer built reader
  obtain ⟨-, -, writers, readers⟩ :=
    inRange_of_requests (σ := ScriptedSink) (ρ := ScriptedSource) (ε := ScriptedEngine)
      (η := ScriptedEngine)
  have submits :
      writer.Submits (.call .close) ["close"]
        { writer := { writer.markedLast with held := [] }, rest := [1] } :=
    .closing (.inl rfl) rfl rfl
  have beyond :
      (Step.mk 5 0).Faulty 1 4 (.engineFault "engine made no progress")
        (Step.overreport ⟨5, 0⟩ 1 4) :=
    .overreport (.inl (by decide))
  obtain ⟨stopped, -⟩ :=
    writers writer _ _ _ _ _ submits (.here _) ⟨by simp, ⟨5, 0⟩, rfl, beyond⟩
  have measured :
      ∀ request,
        request ∈ [ReaderRequest.apply (σ := ScriptedSource) [.inputBufferLength 131072]] →
          request.Measured := by
    intro request member
    rw [List.mem_singleton.mp member]
    intro option among
    rw [List.mem_singleton.mp among]
    change 131072 ≤ maxLength
    decide
  obtain ⟨placed, reads⟩ :=
    readers { data := [1] } { onCall := [(1, .claim ⟨0, 0⟩)] } {} _ measured
  let active : Reader ScriptedSource ScriptedEngine := (reader.ready reader.scope).2
  have readies : reader.ready reader.scope = (.ok (), active) :=
    rfl
  have unread : active.Unread [1] :=
    ⟨ScriptedSource.serves { data := [1] } rfl (by simp), rfl, rfl, rfl, rfl⟩
  obtain ⟨filled, ensures, same, content, offset⟩ :=
    Reader.ensureInput_of_unread ["read"] unread (Reader.hasRoom_of_unlimited rfl _) (by decide)
  obtain ⟨-, -, -, stops⟩ := reads [7, 8] active ⟨active, [7, 8], 0⟩ readies (.here _)
  have idle :
      ReadLoop.Faults ⟨active, [7, 8], 0⟩ ["read"] (.corruptInput "truncated stream") := by
    refine ⟨by decide, rfl, filled, ⟨0, 0⟩, ensures, ?_, ?_, .idle rfl rfl⟩
    · rw [Reader.inputExhausted, offset, content.inputRead]
      rfl
    · rw [same.engine]
      rfl
  have stoppedToo := stops _ idle
  exact ⟨stopped.answer, stopped.crc, placed, stoppedToo.answer, stoppedToo.buffer⟩

/--
A reset does not answer with a fault: here the engine reports five bytes consumed of the one
that the closing of the stream before offers it, and the reset succeeds with no failure kept.
-/
theorem overreport_forgotten :
    let built : Writer ScriptedSink (RecordedEngine ScriptedEngine) :=
      { sink := {}, engine := { engine := { onCall := [(1, .claim ⟨5, 0⟩)] } } }
    let writer := (built.serve (.call (.writeChunk [120]))).2
    let outcome := writer.serve (.reset {})
    (Step.mk 5 0).Faulty 1 134217728 (.engineFault "engine made no progress")
        (Step.overreport ⟨5, 0⟩ 1 134217728) ∧
      (∃ later filled,
        outcome.2.engine.calls =
          later ++ .compress [120] 134217728 ⟨.ok ⟨5, 0⟩, filled⟩ :: .setLast true ::
            writer.engine.calls) ∧
      outcome.1.error? = none ∧
      outcome.2.failure = none := by
  intro built writer outcome
  have beyond :
      (Step.mk 5 0).Faulty 1 134217728 (.engineFault "engine made no progress")
        (Step.overreport ⟨5, 0⟩ 1 134217728) :=
    .overreport (.inl (by decide))
  let active : Writer ScriptedSink (RecordedEngine ScriptedEngine) :=
    (built.ready built.scope).2
  have readied : built.ready built.scope = (.ok (), active) :=
    rfl
  have holds :
      active.effective.inputBufferMode.holdsAll active.effective.bounceBufferLength
        ([120] : Bytes).length = true :=
    rfl
  have wrote := Writer.writeChunk_of_holdsAll readied (Writer.flushHeld_nil rfl _) holds
  have same : writer = (built.writeChunk [120]).2 :=
    rfl
  rw [wrote] at same
  have readies : writer.ready writer.scope = (.ok (), writer) := by
    rw [same]
    rfl
  have busy : writer.isBlank = false := by
    rw [same]
    rfl
  have faults :
      Submission.Faults
        { writer := { writer.markedLast with held := [] }, rest := writer.held }
        (Step.overreport ⟨5, 0⟩ 1 134217728) := by
    rw [same]
    exact ⟨by decide, ⟨5, 0⟩, rfl, beyond⟩
  have closes :=
    Writer.close_of_submit_error readies busy
      (Submission.submit_of_faults faults (writer.scope ++ ["close"]))
  have cleared :=
    Writer.cleared_of_close_error (by rw [same]; rfl) (by rw [same]; rfl) closes
  have resets : outcome = (.handedBack (writer.reset {}).1, (writer.reset {}).2) :=
    rfl
  refine ⟨beyond, ?_⟩
  rw [resets, Writer.reset_eq, cleared, same]
  exact ⟨⟨[_, _], _, rfl⟩, rfl, rfl⟩

end MemberStream
