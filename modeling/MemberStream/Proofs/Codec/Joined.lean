import MemberStream.Codec.Survey
import MemberStream.Proofs.Basic
import MemberStream.Proofs.Codec.Boundary
import MemberStream.Proofs.Codec.RoundTrip

namespace MemberStream

/-!
# Streams of members that are cut

A stream of members may be cut anywhere.  The members that lie wholly before the
cut are unpacked as if nothing were missing, and of the member that the cut goes
through nothing is: the bytes that are left of it are corrupt, and never taken
for a shorter member or for one whose content disagrees with its checksum.
-/

/-- The stream of some members, one behind the other. -/
def joined
    (members : List SurveyedMember) :
    Bytes :=
  members.flatMap SurveyedMember.stored

/-- The content of some members, one behind the other. -/
def joinedContent
    (members : List SurveyedMember) :
    Bytes :=
  members.flatMap SurveyedMember.content

theorem joined_cons_append
    (member : SurveyedMember)
    (members : List SurveyedMember)
    (rest : Bytes) :
    joined (member :: members) ++ rest = member.stored ++ (joined members ++ rest) :=
  List.append_assoc _ _ _

/-- The members of a stream that lie wholly before a cut. -/
def membersBefore
    (cut : Nat) :
    List SurveyedMember →
    List SurveyedMember
  | [] =>
      []
  | member :: members =>
      if member.stored.length ≤ cut then
        member :: membersBefore (cut - member.stored.length) members
      else
        []

/-- Nothing is cut off behind the last member. -/
theorem membersBefore_of_le
    {cut : Nat}
    {members : List SurveyedMember}
    (enough : (joined members).length ≤ cut) :
    membersBefore cut members = members := by
  induction members generalizing cut with
  | nil =>
      rfl
  | cons member members ih =>
      have split : (joined (member :: members)).length =
          member.stored.length + (joined members).length :=
        List.length_append
      rw [membersBefore, if_pos (by omega), ih (by omega)]

/-- The members before a cut are members of the stream. -/
theorem mem_of_mem_membersBefore
    {cut : Nat}
    {member : SurveyedMember}
    {members : List SurveyedMember}
    (before : member ∈ membersBefore cut members) :
    member ∈ members := by
  induction members generalizing cut with
  | nil =>
      exact before
  | cons first members ih =>
      unfold membersBefore at before
      split at before
      · rcases List.mem_cons.mp before with rfl | later
        · exact List.mem_cons_self
        · exact List.mem_cons_of_mem first (ih later)
      · cases before

/-- What is left of the member that a stream is cut in: nothing, or its front. -/
inductive Torn
    (members : List SurveyedMember) :
    Bytes →
    Prop where
  | nothing :
      Torn members []
  | front
      {member : SurveyedMember}
      {left : Nat}
      (among : member ∈ members)
      (inside : left < member.stored.length) :
      Torn members (member.stored.take left)

/-- A stream that is cut consists of the members before the cut and what is left of another. -/
theorem take_joined
    (cut : Nat)
    (members : List SurveyedMember) :
    ∃ torn,
      (joined members).take cut = joined (membersBefore cut members) ++ torn ∧
        Torn members torn := by
  induction members generalizing cut with
  | nil =>
      exact ⟨[], List.take_nil, .nothing⟩
  | cons member members ih =>
      have split : (joined (member :: members)).take cut =
          member.stored.take cut ++ (joined members).take (cut - member.stored.length) :=
        List.take_append
      by_cases enough : member.stored.length ≤ cut
      · obtain ⟨torn, same, left⟩ := ih (cut - member.stored.length)
        refine ⟨torn, ?_, ?_⟩
        · rw [split, List.take_of_length_le enough, same, ← List.append_assoc, membersBefore,
            if_pos enough]
          rfl
        · cases left with
          | nothing =>
              exact .nothing
          | front among inside =>
              exact .front (List.mem_cons_of_mem member among) inside
      · refine ⟨member.stored.take cut, ?_, .front List.mem_cons_self (Nat.lt_of_not_le enough)⟩
        have beyond : cut - member.stored.length = 0 := by
          omega
        rw [split, beyond, List.take_zero, List.append_nil, membersBefore, if_neg enough]
        rfl

/-- How a stream ends that has been cut, if some bytes are left of the member that it is cut in. -/
inductive CutEnding
    (upstream torn : Bytes) :
    Option StreamError →
    Prop where
  /-- There is nothing before the cut. -/
  | empty
      (nothing : upstream = []) :
      CutEnding upstream torn (some .emptyBuffer)
  /-- The cut is behind a member. -/
  | between
      (some : upstream ≠ [])
      (whole : torn = []) :
      CutEnding upstream torn none
  /-- The cut goes through a member. -/
  | within
      (message : String)
      (partly : torn ≠ []) :
      CutEnding upstream torn (some (.corruptInput message))

namespace ParameterSet

/-- A member that was written under parameters which those of a reader understand. -/
inductive Written
    (reader : ParameterSet) :
    SurveyedMember →
    Prop where
  | encoded
      {writer : ParameterSet}
      {encoders : Encoders}
      {content stored : Bytes}
      (inverted : encoders.Inverted)
      (understands : reader.Understands writer)
      (short : content.length < 2 ^ (64 : Nat))
      (encoded : writer.encodeMember encoders content = .ok stored) :
      Written reader ⟨stored, content⟩
  | placeholder
      {writer : ParameterSet}
      (understands : reader.Understands writer) :
      Written reader ⟨writer.placeholder, []⟩

/-- A written member is read whatever is behind it. -/
theorem Written.decodeMember
    {reader : ParameterSet}
    {member : SurveyedMember}
    (written : reader.Written member)
    (more : Bytes) :
    reader.decodeMember (member.stored ++ more) =
      .ok (member.stored.length, member.content) := by
  cases written with
  | encoded inverted understands short encoded =>
      exact decodeMember_of_encodeMember inverted understands short encoded more
  | placeholder understands =>
      exact decodeMember_of_placeholder understands more

/-- What is left of a written member that has been cut is corrupt. -/
theorem Written.decodeMember_take
    {reader : ParameterSet}
    {member : SurveyedMember}
    {cut : Nat}
    (written : reader.Written member)
    (torn : cut < member.stored.length) :
    ∃ error,
      reader.decodeMember (member.stored.take cut) = .error error ∧ error.Corrupts := by
  have front := written.decodeMember []
  rw [List.append_nil] at front
  exact (boundary_of_decodeMember front).cut torn

section Stream

variable {reader : ParameterSet} {members : List SurveyedMember}

/-- What is behind some written members is unpacked behind their content. -/
theorem unpack_joined_append
    (written : ∀ member ∈ members, reader.Written member)
    (rest : Bytes) :
    reader.unpack (joined members ++ rest) =
      (joinedContent members ++ (reader.unpack rest).1, (reader.unpack rest).2) := by
  induction members with
  | nil =>
      rfl
  | cons member members ih =>
      have front := (written member List.mem_cons_self).decodeMember (joined members ++ rest)
      have others := ih (fun other among => written other (List.mem_cons_of_mem member among))
      rw [joined_cons_append, unpack_append _ front, others, ← List.append_assoc]
      rfl

/-- A packed stream consists of written members, which hold its pieces. -/
theorem Packs.written
    {writer : ParameterSet}
    {encoders : Encoders}
    {pieces : List Bytes}
    {stream : Bytes}
    (packs : writer.Packs encoders pieces stream)
    (inverted : encoders.Inverted)
    (understands : reader.Understands writer)
    (short : ∀ piece ∈ pieces, piece.length < 2 ^ (64 : Nat)) :
    ∃ members,
      (∀ member ∈ members, reader.Written member) ∧
        joined members = stream ∧ joinedContent members = pieces.flatten := by
  induction packs with
  | nil =>
      exact ⟨[], nofun, rfl, rfl⟩
  | @cons piece member stream pieces encoded packs ih =>
      obtain ⟨members, written, rfl, contents⟩ :=
        ih (fun other among => short other (List.mem_cons_of_mem piece among))
      refine ⟨⟨member, piece⟩ :: members, ?_, rfl, ?_⟩
      · intro other among
        rcases List.mem_cons.mp among with rfl | among
        · exact .encoded inverted understands (short piece List.mem_cons_self) encoded
        · exact written other among
      · rw [List.flatten_cons, ← contents]
        rfl

/-- A packed stream holds the pieces that it was packed from. -/
theorem Packs.unpack
    {writer : ParameterSet}
    {encoders : Encoders}
    {pieces : List Bytes}
    {stream : Bytes}
    (packs : writer.Packs encoders pieces stream)
    (inverted : encoders.Inverted)
    (understands : reader.Understands writer)
    (short : ∀ piece ∈ pieces, piece.length < 2 ^ (64 : Nat)) :
    reader.unpack stream = (pieces.flatten, none) := by
  obtain ⟨members, written, rfl, contents⟩ := packs.written inverted understands short
  have all := unpack_joined_append written []
  rw [unpack_nil, List.append_nil, List.append_nil, contents] at all
  exact all

/-- A packed stream of a short content consists of written members, which hold its pieces. -/
theorem members_of_packs
    {writer : ParameterSet}
    {encoders : Encoders}
    {pieces : List Bytes}
    {stream : Bytes}
    (inverted : encoders.Inverted)
    (understands : reader.Understands writer)
    (short : pieces.flatten.length < 2 ^ (64 : Nat))
    (packs : writer.Packs encoders pieces stream) :
    ∃ members,
      (∀ member ∈ members, reader.Written member) ∧
        joined members = stream ∧ joinedContent members = pieces.flatten :=
  packs.written inverted understands (length_lt_of_mem_flatten short)

/-- There is no member in what is left of one. -/
theorem decodeMember_torn
    {torn : Bytes}
    (written : ∀ member ∈ members, reader.Written member)
    (left : Torn members torn) :
    ∃ error, reader.decodeMember torn = .error error ∧ (torn ≠ [] → error.Corrupts) := by
  cases left with
  | nothing =>
      cases front : reader.decodeMember [] with
      | error error =>
          exact ⟨error, rfl, fun some => absurd rfl some⟩
      | ok member =>
          have bounds := decodeMember_bounds front
          exact absurd (Nat.le_trans bounds.1 bounds.2) (Nat.not_succ_le_zero 0)
  | front among inside =>
      obtain ⟨error, fails, corrupts⟩ := (written _ among).decodeMember_take inside
      exact ⟨error, fails, fun _ => corrupts⟩

/-- What is read from the front of some members is the first of them. -/
theorem first_of_decodeMember
    {torn content : Bytes}
    {length : Nat}
    (written : ∀ member ∈ members, reader.Written member)
    (fails : ∃ error, reader.decodeMember torn = .error error)
    (decoded : reader.decodeMember (joined members ++ torn) = .ok (length, content)) :
    ∃ member others,
      members = member :: others ∧
        length = member.stored.length ∧ content = member.content := by
  cases members with
  | nil =>
      obtain ⟨error, fails⟩ := fails
      change reader.decodeMember torn = _ at decoded
      rw [fails] at decoded
      cases decoded
  | cons member others =>
      have front := (written member List.mem_cons_self).decodeMember (joined others ++ torn)
      rw [joined_cons_append, front] at decoded
      cases decoded
      exact ⟨member, others, rfl, rfl, rfl⟩

/-- A stream that is cut holds the content of the members before the cut, and ends accordingly. -/
theorem unpackStream_joined
    {torn : Bytes}
    (written : ∀ member ∈ members, reader.Written member)
    (fails :
      ∃ error, reader.decodeMember torn = .error error ∧ (torn ≠ [] → error.Corrupts)) :
    (reader.unpackStream (joined members ++ torn)).1 = joinedContent members ∧
      CutEnding (joined members ++ torn) torn
        (reader.unpackStream (joined members ++ torn)).2 := by
  have unpacked := unpack_joined_append written torn
  unfold unpackStream
  split
  · rename_i nothing
    rw [nothing, unpack_nil] at unpacked
    have empty := congrArg Prod.fst unpacked
    exact ⟨(List.append_eq_nil_iff.mp empty.symm).1.symm, .empty nothing⟩
  · rename_i some
    obtain ⟨error, fails, corrupts⟩ := fails
    rw [unpacked]
    by_cases whole : torn = []
    · have nothing : reader.unpack torn = ([], none) := by
        rw [whole, unpack_nil]
      rw [nothing, List.append_nil]
      exact ⟨rfl, .between some whole⟩
    · have reported : error.toStreamError = .corruptInput error.message :=
        corrupts whole
      rw [unpack_error whole fails, List.append_nil]
      refine ⟨rfl, ?_⟩
      dsimp only [Option.map_some]
      rw [reported]
      exact .within error.message whole

end Stream

end ParameterSet

end MemberStream
