import MemberStream.Proofs.Reader.Renewal
import MemberStream.Proofs.Writer.Renewal
import MemberStream.Rehearsal.Transport

namespace MemberStream

/-!
# A reset erases history

Two streams under the same options may have come to where they are in any way, by
way of failures, too: reset to equal sinks, or sources, they are alike.
-/

variable {encoders : Encoders}

/--
If a writer, or a reader, can be reset, so can any other one under the same options,
and no requests tell the two apart from then on: every reply is the same, and so are
the sink, or the source and the buffers of the caller, the engine, the parameters, the
counters and the checksum behind it.
-/
theorem alike_of_resets
    {σ ρ : Type}
    [Sink σ]
    [Source ρ] :
    (∀ (first second renewed : Writer σ (MemberEngine encoders)) (sink previous : σ),
      second.overrides = first.overrides →
        second.staged = first.staged →
          first.reset sink = (.ok previous, renewed) →
            ∃ handed other,
              second.reset sink = (.ok handed, other) ∧ renewed.Alike other) ∧
      ∀ (first second renewed : Reader ρ (MemberEngine encoders)) (source previous : ρ),
        second.overrides = first.overrides →
          second.staged = first.staged →
            first.reset source = (.ok previous, renewed) →
              ∃ handed other,
                second.reset source = (.ok handed, other) ∧ renewed.Alike other := by
  constructor
  · intro first second renewed sink previous overrides staged resets
    exact Writer.alike_of_reset ⟨overrides, staged⟩ resets
  · intro first second renewed source previous overrides staged resets
    exact Reader.alike_of_reset overrides staged resets

/-- A stream that has failed with bytes held and a member parked is alike one just built. -/
theorem alike_of_resets_failed :
    let engine : MemberEngine :=
      { session := some {}, last := true, parked := some ⟨.compress, 2, 2, [7]⟩ }
    let writer : Writer ScriptedSink MemberEngine :=
      { sink := { room := some 0 }
        engine := engine
        phase := .active
        sessionOpen := true
        failure := some .shortWrite
        held := [9]
        wroteOutput := true }
    let reader : Reader ScriptedSource MemberEngine :=
      { source := { data := [1] }
        engine := engine
        phase := .closed
        sessionOpen := true
        failure := some .shortWrite
        closeResult := some (.error .shortWrite)
        unread := [9]
        inputRead := 1
        sourceDone := true
        sourceTotal := 1 }
    (∃ handed renewed,
      ({ sink := {}, engine := {} } : Writer ScriptedSink MemberEngine).reset {} =
          (.ok handed, renewed) ∧
        (writer.reset {}).2.Alike renewed) ∧
      ∃ handed renewed,
        ({ source := {}, engine := {} } : Reader ScriptedSource MemberEngine).reset {} =
            (.ok handed, renewed) ∧
          (reader.reset {}).2.Alike renewed := by
  intro engine writer reader
  have writes : writer.reset {} = (.ok writer.sink, (writer.reset {}).2) := rfl
  have reads : reader.reset {} = (.ok reader.source, (reader.reset {}).2) := rfl
  obtain ⟨writers, readers⟩ := alike_of_resets (σ := ScriptedSink) (ρ := ScriptedSource)
  exact ⟨writers writer _ _ _ _ rfl rfl writes, readers reader _ _ _ _ rfl rfl reads⟩

end MemberStream
