import MemberStream.Proofs.Bits.Reads

namespace MemberStream

/-!
# What was there if a value has been read

A decoder that is done with a value has found octets of a certain form.  The
lemmas here go back from the value to the octets: a decoder that is put together
from others is done if each of them was, one behind the other.
-/

open BitStream

/-- The octets of a word are told by the number that they are read as. -/
theorem littleEndian_ofLittleEndian
    (octets : Bytes) :
    littleEndian octets.length (ofLittleEndian octets) = octets := by
  induction octets with
  | nil =>
      rfl
  | cons byte octets ih =>
      have lowest : UInt8.ofNat (byte.toNat + 256 * ofLittleEndian octets) = byte := by
        rw [← UInt8.toNat_inj, UInt8.toNat_ofNat', Nat.add_mul_mod_self_left]
        exact Nat.mod_eq_of_lt byte.toNat_lt
      have others : (byte.toNat + 256 * ofLittleEndian octets) / 256 = ofLittleEndian octets := by
        have small := byte.toNat_lt
        omega
      rw [List.length_cons, littleEndian, ofLittleEndian, lowest, others, ih]

/-- A word of some octets is below the power that they make up. -/
theorem ofLittleEndian_lt
    (octets : Bytes) :
    ofLittleEndian octets < 256 ^ octets.length := by
  induction octets with
  | nil =>
      exact Nat.one_pos
  | cons byte octets ih =>
      have small := byte.toNat_lt
      rw [ofLittleEndian, List.length_cons, Nat.pow_succ]
      omega

namespace Decoder

variable {α β : Type} {stream rest : BitStream}

/-- A chain of decoders is done if the first is, and behind it the others. -/
theorem done_of_bind
    {decoder : Decoder α}
    {next : α → Decoder β}
    {value : β}
    (accepted : (decoder >>= next) stream = .done value rest) :
    ∃ first left,
      decoder stream = .done first left ∧ next first left = .done value rest := by
  change Decoder.bind decoder next stream = _ at accepted
  unfold Decoder.bind at accepted
  split at accepted
  · rename_i first left front
    exact ⟨first, left, front, accepted⟩
  · cases accepted
  · cases accepted

/-- Decoding goes on behind a condition only if it holds, and it reads nothing. -/
theorem done_of_require
    {condition : Bool}
    {failure : CodecFailure}
    {value : Unit}
    (accepted : require condition failure stream = .done value rest) :
    condition = true ∧ rest = stream := by
  unfold require at accepted
  split at accepted
  · rename_i holds
    cases accepted
    exact ⟨holds, rfl⟩
  · cases accepted

/-- Octets that are read were there, and reading goes on behind them. -/
theorem done_of_octets
    {count : Nat}
    {taken : Bytes}
    (accepted : octets count stream = .done taken rest) :
    ∃ more,
      stream.bytes = taken ++ more ∧ taken.length = count ∧ rest = behind [] more := by
  unfold octets take? at accepted
  split at accepted
  · rename_i found
    split at found
    · rename_i enough
      cases found
      cases accepted
      rw [stream.octetsLeft_eq] at enough
      refine ⟨stream.bytes.drop count, (List.take_append_drop _ _).symm, ?_, eq_behind rfl rfl⟩
      exact List.length_take_of_le enough
    · cases found
  · cases accepted

/-- An octet that is read was there. -/
theorem done_of_octet
    {byte : UInt8}
    (accepted : octet stream = .done byte rest) :
    ∃ more, stream.bytes = byte :: more ∧ rest = behind [] more := by
  obtain ⟨taken, left, front, last⟩ := done_of_bind accepted
  obtain ⟨more, bytes, single, rfl⟩ := done_of_octets front
  obtain ⟨first, rfl⟩ := List.length_eq_one_iff.mp single
  cases last
  exact ⟨more, bytes, rfl⟩

/-- A number that is read from octets was written there. -/
theorem done_of_word
    {width value : Nat}
    (accepted : word width stream = .done value rest) :
    ∃ more,
      stream.bytes = littleEndian width value ++ more ∧
        value < 256 ^ width ∧ rest = behind [] more := by
  obtain ⟨taken, left, front, last⟩ := done_of_bind accepted
  obtain ⟨more, bytes, rfl, rfl⟩ := done_of_octets front
  cases last
  rw [littleEndian_ofLittleEndian]
  exact ⟨more, bytes, ofLittleEndian_lt taken, rfl⟩

section Bind

variable {value : β}

theorem done_of_require_bind
    {condition : Bool}
    {failure : CodecFailure}
    {next : Unit → Decoder β}
    (accepted : (require condition failure >>= next) stream = .done value rest) :
    condition = true ∧ next () stream = .done value rest := by
  obtain ⟨_, _, first, others⟩ := done_of_bind accepted
  obtain ⟨holds, rfl⟩ := done_of_require first
  exact ⟨holds, others⟩

theorem done_of_octets_bind
    {count : Nat}
    {next : Bytes → Decoder β}
    (accepted : (octets count >>= next) stream = .done value rest) :
    ∃ taken more,
      stream.bytes = taken ++ more ∧ taken.length = count ∧
        next taken (behind [] more) = .done value rest := by
  obtain ⟨taken, _, first, others⟩ := done_of_bind accepted
  obtain ⟨more, split, sized, rfl⟩ := done_of_octets first
  exact ⟨taken, more, split, sized, others⟩

theorem done_of_octet_bind
    {next : UInt8 → Decoder β}
    (accepted : (octet >>= next) stream = .done value rest) :
    ∃ byte more,
      stream.bytes = byte :: more ∧ next byte (behind [] more) = .done value rest := by
  obtain ⟨byte, _, first, others⟩ := done_of_bind accepted
  obtain ⟨more, split, rfl⟩ := done_of_octet first
  exact ⟨byte, more, split, others⟩

theorem done_of_word_bind
    {width : Nat}
    {next : Nat → Decoder β}
    (accepted : (word width >>= next) stream = .done value rest) :
    ∃ number more,
      stream.bytes = littleEndian width number ++ more ∧ number < 256 ^ width ∧
        next number (behind [] more) = .done value rest := by
  obtain ⟨number, _, first, others⟩ := done_of_bind accepted
  obtain ⟨more, split, fits, rfl⟩ := done_of_word first
  exact ⟨number, more, split, fits, others⟩

end Bind

/-- A piece that has been cut out was decoded, and the stream is where it was. -/
theorem done_of_within
    {piece : BitStream}
    {decoder : Decoder α}
    {value : α}
    (accepted : within piece decoder stream = .done value rest) :
    (∃ left, decoder piece = .done value left) ∧ rest = stream := by
  unfold within at accepted
  split at accepted
  · rename_i left front
    cases accepted
    exact ⟨⟨left, front⟩, rfl⟩
  · cases accepted
  · cases accepted

end Decoder

end MemberStream
