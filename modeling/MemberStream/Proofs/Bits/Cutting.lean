import MemberStream.Proofs.Bits.Reads
import MemberStream.Proofs.Bits.SelfDelimiting

namespace MemberStream

/-!
# Values that are cut short

A self-delimiting decoder finds a value in the octets that the value takes up,
with anything or nothing behind them.  If one of these octets is missing it
comes to the end of the stream: there is no value yet, and no reason to refuse
one either.
-/

open BitStream

namespace Decoder

/-- Octets are unfinished if there are too few of them. -/
theorem bind_octets_unfinished
    {α : Type}
    {count : Nat}
    {next : Bytes → Decoder α}
    {bytes : Bytes}
    (few : bytes.length < count) :
    (octets count >>= next) (behind [] bytes) = .unfinished := by
  have missing : ¬ count ≤ (behind [] bytes).octetsLeft :=
    Nat.not_le_of_lt few
  have nothing : (behind [] bytes).take? count = none := by
    rw [take?, if_neg missing]
  change Decoder.bind (octets count) next _ = _
  rw [Decoder.bind, octets, nothing]

end Decoder

/-- A decoder reads a value from all of some octets, up to a place in the last of them. -/
def ReadsAll
    {α : Type}
    (after : Place)
    (decoder : Decoder α)
    (value : α)
    (written : Bytes) :
    Prop :=
  ∃ left,
    after.Admits left ∧ decoder (behind [] written) = .done value (behind left [])

/-- What is read whatever is behind it is read with nothing behind it. -/
theorem Reads.all
    {α : Type}
    {after : Place}
    {decoder : Decoder α}
    {value : α}
    {written : Bytes}
    (reads : Reads .boundary after decoder value written) :
    ReadsAll after decoder value written := by
  obtain ⟨left, there, done⟩ := reads [] [] rfl
  rw [List.append_nil] at done
  exact ⟨left, there, done⟩

namespace SelfDelimiting

variable {α : Type} {decoder : Decoder α} {value : α} {input : Bytes} {rest : BitStream}

/-- What is read with nothing behind it is read whatever is behind it. -/
theorem reads
    {after : Place}
    {written : Bytes}
    (delimiting : SelfDelimiting decoder)
    (all : ReadsAll after decoder value written) :
    Reads .boundary after decoder value written := by
  intro held more admits
  obtain rfl : held = [] := admits
  obtain ⟨left, there, done⟩ := all
  obtain ⟨used, split, whatever⟩ := delimiting.accepts _ _ _ _ done
  obtain rfl : written = used := split.trans (List.append_nil used)
  exact ⟨left, there, whatever more⟩

/-- The octets that a value takes up tell it, whatever is behind them. -/
theorem run_take_append
    (delimiting : SelfDelimiting decoder)
    (accepted : decoder.run (.ofBytes input) = .done value rest)
    (more : Bytes) :
    decoder.run (.ofBytes (input.take (input.length - rest.octetsLeft) ++ more)) =
      .done value (behind rest.held more) := by
  obtain ⟨used, rfl, whatever⟩ := delimiting.accepts [] input value rest accepted
  have front :
      (used ++ rest.bytes).take ((used ++ rest.bytes).length - rest.octetsLeft) = used := by
    rw [rest.octetsLeft_eq, List.length_append, Nat.add_sub_cancel, List.take_left]
  rw [front]
  exact whatever more

/-- A value is unfinished if one of the octets that it takes up is missing. -/
theorem run_take
    (delimiting : SelfDelimiting decoder)
    (accepted : decoder.run (.ofBytes input) = .done value rest)
    {cut : Nat}
    (inside : cut < input.length - rest.octetsLeft) :
    decoder.run (.ofBytes (input.take cut)) = .unfinished := by
  obtain ⟨used, rfl, whatever⟩ := delimiting.accepts [] input value rest accepted
  have shorter : cut < used.length := by
    rw [rest.octetsLeft_eq, List.length_append] at inside
    omega
  have whole : decoder (behind [] used) = .done value (behind rest.held []) := by
    have alone := whatever []
    rwa [List.append_nil] at alone
  rw [List.take_append_of_le_length (Nat.le_of_lt shorter)]
  -- Any other outcome would stand with the missing octets put back.
  cases outcome : decoder (behind [] (used.take cut)) with
  | unfinished =>
      exact outcome
  | refused failure =>
      have still := delimiting.refuses _ _ _ outcome (used.drop cut)
      rw [List.take_append_drop, whole] at still
      cases still
  | done other left =>
      obtain ⟨less, front, early⟩ := delimiting.accepts _ _ _ _ outcome
      have behindIt := early (left.bytes ++ used.drop cut)
      rw [← List.append_assoc, ← front, List.take_append_drop, whole] at behindIt
      have bytes := congrArg (fun outcome : Outcome α =>
        match outcome with
        | .done _ rest => rest.bytes
        | _ => []) behindIt
      have nothing := List.drop_eq_nil_iff.mp (List.append_eq_nil_iff.mp bytes.symm).2
      omega

end SelfDelimiting

end MemberStream
