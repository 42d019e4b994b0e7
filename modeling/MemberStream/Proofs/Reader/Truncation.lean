import MemberStream.Proofs.Codec.Joined
import MemberStream.Proofs.Reader.Refinement

namespace MemberStream

/-!
# Reading streams that are cut

A reader of a stream of members that has been cut delivers the members before
the cut and then tells a cut behind a member, which is the end of the stream,
from one that goes through a member.  The members need room in a buffer one by
one, so there is no bound on what they hold together.
-/

variable {encoders : Encoders}

namespace ParameterSet

variable {reader : ParameterSet} {members : List SurveyedMember}

/-- Behind members of a stream that is cut there are other members and what is left of one. -/
theorem reaches_joined
    {torn rest : Bytes}
    (written : ∀ member ∈ members, reader.Written member)
    (fails : ∃ error, reader.decodeMember torn = .error error)
    (reaches : reader.Reaches (joined members ++ torn) rest) :
    ∃ others, (∀ member ∈ others, reader.Written member) ∧ rest = joined others ++ torn := by
  induction reaches with
  | front =>
      exact ⟨members, written, rfl⟩
  | behind reaches decoded ih =>
      obtain ⟨_, writtenLeft, rfl⟩ := ih
      obtain ⟨member, others, rfl, rfl, -⟩ := first_of_decodeMember writtenLeft fails decoded
      refine ⟨others, ?_, ?_⟩
      · exact fun other among => writtenLeft other (List.mem_cons_of_mem member among)
      · rw [joined_cons_append, List.drop_left]

/-- The content of a written member has room in a buffer. -/
theorem Written.length_content_le
    {reader : ParameterSet}
    {member : SurveyedMember}
    (written : reader.Written member) :
    member.content.length ≤ maxLength := by
  cases written with
  | encoded understands short encoded =>
      simp only [maxLength]
      omega
  | placeholder understands =>
      exact Nat.zero_le _

/-- Every member of a stream that is cut has room in a buffer. -/
theorem roomy_joined
    {torn : Bytes}
    (written : ∀ member ∈ members, reader.Written member)
    (fails : ∃ error, reader.decodeMember torn = .error error)
    (contents : Bytes) :
    reader.Roomy (joined members ++ torn) contents := by
  intro rest content length reaches decoded _
  obtain ⟨_, writtenLeft, rfl⟩ := reaches_joined written fails reaches
  obtain ⟨member, others, rfl, -, rfl⟩ := first_of_decodeMember writtenLeft fails decoded
  exact (writtenLeft member List.mem_cons_self).length_content_le

end ParameterSet

namespace Reader

variable {σ : Type} [Source σ]

/--
A reader of a stream that has been cut anywhere gets the content of the members
that lie wholly before the cut, and nothing of the member that the cut goes
through.  Behind it every read gets the same answer: none but an empty stream is
reported as empty, a cut behind a member is the end of the stream, and a cut
within a member is corrupt input.  A stream that is not cut is read whole.
-/
theorem readChunks_of_truncated
    {reader : Reader σ (MemberEngine encoders)}
    {parameters : ParameterSet}
    {members : List SurveyedMember}
    {cut : Nat}
    {sizes : List Nat}
    (opened : reader.Opened parameters)
    (unlimited : parameters.maxBufferLength = none)
    (written : ∀ member ∈ members, parameters.Written member)
    (served : Serves reader.source ((joined members).take cut))
    (short : ((joined members).take cut).length < 2 ^ (63 : Nat))
    (positive : ∀ size ∈ sizes, size ≠ 0) :
    let upstream := (joined members).take cut
    let whole := membersBefore cut members
    let torn := upstream.drop (joined whole).length
    let contents := joinedContent whole
    let results := (reader.readChunks sizes).1
    let last := (reader.readChunks sizes).2
    ∃ ending,
      CutEnding upstream torn ending ∧
        results = answers contents ending sizes ∧
        deliveredBy results = contents.take sizes.sum ∧
        (contents.length ≤ sizes.sum →
          ∀ later : List Nat,
            (∀ size ∈ later, size ≠ 0) →
              (last.readChunks later).1 =
                List.replicate later.length
                  (match ending with
                    | some error => .error error
                    | none => .ok [])) ∧
        ((joined members).length ≤ cut → whole = members) := by
  intro upstream whole torn contents results last
  obtain ⟨rest, split, left⟩ := take_joined cut members
  have same : torn = rest := by
    change ((joined members).take cut).drop _ = rest
    rw [split]
    exact List.drop_left
  rw [← same] at split left
  have before : ∀ member ∈ whole, parameters.Written member :=
    fun member among => written member (mem_of_mem_membersBefore among)
  have fails := ParameterSet.decodeMember_torn written left
  have roomy := ParameterSet.roomy_joined before
    (fails.imp fun error failed => failed.1) contents
  obtain ⟨content, ending⟩ := ParameterSet.unpackStream_joined before fails
  have stands := stands_of_opened opened unlimited served
  rw [split, content] at stands
  rw [← split] at roomy ending stands
  obtain ⟨all, after⟩ := readChunks_of_roomy stands short roomy positive
  refine ⟨_, ending, all, ?_, ?_, membersBefore_of_le⟩
  · rw [← deliveredBy_answers contents]
    exact congrArg deliveredBy all
  · intro enough later positiveLater
    rw [List.drop_of_length_le enough] at after
    have nothing : parameters.Roomy upstream [] :=
      roomy.of_le (Nat.zero_le _)
    rw [(readChunks_of_roomy after short nothing positiveLater).1]
    exact answers_nil _ later

/-- The law holds of a placeholder and two members, cut within the checksum of the last one. -/
theorem readChunks_of_truncated_within :
    let parameters : ParameterSet := { level := 0 }
    let stored (source : Bytes) : Bytes :=
      Deflate.contain .gzipExtended 0 source (Deflate.storedBlockOf true source)
    let members : List SurveyedMember :=
      [⟨parameters.placeholder, []⟩, ⟨stored [1, 2], [1, 2]⟩, ⟨stored [3], [3]⟩]
    let source : ScriptedSource :=
      { data := (joined members).take 108, perRead := some 3, interruptEvery := 2 }
    let reader : Reader ScriptedSource MemberEngine :=
      applyAll { source := source, engine := {}, overrides := { level := some 0 } } []
    reader.Opened parameters ∧
      (joined members).length = 114 ∧
      ∃ message,
        (reader.readChunks [1, 5, 5, 5]).1 =
          [.ok [1], .ok [2], .error (.corruptInput message), .error (.corruptInput message)] := by
  intro parameters stored members source reader
  have opened : reader.Opened parameters :=
    .built source {} { level := some 0 } [] rfl rfl
  have understands : parameters.Understands parameters :=
    ⟨rfl, Or.inl rfl⟩
  have written : ∀ member ∈ members, parameters.Written member := by
    intro member among
    rcases List.mem_cons.mp among with rfl | among
    · exact .placeholder understands
    · rcases List.mem_cons.mp among with rfl | among
      · exact .encoded .own understands (by decide) (encodeMember_stored (by decide))
      · rw [List.mem_singleton.mp among]
        exact .encoded .own understands (by decide) (encodeMember_stored (by decide))
  have served : Serves reader.source ((joined members).take 108) :=
    source.serves rfl (by intro most same; cases same; decide)
  have length : (joined members).length = 114 :=
    rfl
  obtain ⟨ending, ends, results, -⟩ := readChunks_of_truncated opened rfl written served
    (by rw [List.length_take]; omega) (by decide : ∀ size ∈ [1, 5, 5, 5], size ≠ 0)
  refine ⟨opened, length, ?_⟩
  cases ends with
  | empty nothing =>
      cases nothing
  | between some whole =>
      cases whole
  | within message partly =>
      exact ⟨message, results⟩

end Reader

end MemberStream
