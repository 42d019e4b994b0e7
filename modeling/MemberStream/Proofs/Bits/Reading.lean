import MemberStream.Bits.Huffman

namespace MemberStream

/-!
# Reading bits and octets

What the elementary decoders read from a stream that is given by the bits of an
octet that is being read and the octets behind it.
-/

namespace BitStream

/-- The stream of some bits of an octet that is being read and the octets behind it. -/
def behind
    (held : List Bool)
    (bytes : Bytes) :
    BitStream :=
  { ofBytes bytes with held := held }

/-- A stream is told by its held bits and its octets. -/
theorem eq_behind
    {stream : BitStream}
    {held : List Bool}
    {bytes : Bytes}
    (sameHeld : stream.held = held)
    (sameBytes : stream.bytes = bytes) :
    stream = behind held bytes := by
  obtain ⟨given, octets, octetsLeft, same⟩ := stream
  cases sameHeld
  cases sameBytes
  cases same
  rfl

/-- Every stream is of that form. -/
theorem behind_held_bytes
    (stream : BitStream) :
    behind stream.held stream.bytes = stream :=
  (eq_behind rfl rfl).symm

theorem size_behind
    (held : List Bool)
    (bytes : Bytes) :
    (behind held bytes).size = held.length + 8 * bytes.length := by
  rfl

/-- Octets are taken from the front, and the bits before them are skipped. -/
theorem take?_append
    (held : List Bool)
    (bytes more : Bytes) :
    (behind held (bytes ++ more)).take? bytes.length = some (bytes, behind [] more) := by
  have enough : bytes.length ≤ (behind held (bytes ++ more)).octetsLeft := by
    change bytes.length ≤ (bytes ++ more).length
    rw [List.length_append]
    exact Nat.le_add_right _ _
  rw [take?, if_pos enough]
  congr 1
  apply Prod.ext
  · exact List.take_left
  · exact eq_behind rfl List.drop_left

end BitStream

open BitStream

namespace Decoder

theorem octets_append
    (held : List Bool)
    (bytes more : Bytes) :
    octets bytes.length (behind held (bytes ++ more)) = .done bytes (behind [] more) := by
  rw [octets, take?_append]

theorem bind_done
    {α β : Type}
    {decoder : Decoder α}
    {next : α → Decoder β}
    {stream rest : BitStream}
    {value : α}
    (first : decoder stream = .done value rest) :
    (decoder >>= next) stream = next value rest := by
  change Decoder.bind decoder next stream = _
  rw [Decoder.bind, first]

theorem bind_refused
    {α β : Type}
    {decoder : Decoder α}
    {next : α → Decoder β}
    {stream : BitStream}
    {failure : CodecFailure}
    (first : decoder stream = .refused failure) :
    (decoder >>= next) stream = .refused failure := by
  change Decoder.bind decoder next stream = _
  rw [Decoder.bind, first]

/-- What the first decoder makes of a stream is all that the others see of it. -/
theorem bind_congr
    {α β : Type}
    {decoder : Decoder α}
    {stream other : BitStream}
    (same : decoder stream = decoder other)
    (next : α → Decoder β) :
    (decoder >>= next) stream = (decoder >>= next) other := by
  change Decoder.bind decoder next stream = Decoder.bind decoder next other
  rw [Decoder.bind, Decoder.bind, same]

/-- A word is read as it is written wherever the stream stands before it. -/
theorem word_append
    {width value : Nat}
    {held : List Bool}
    {more : Bytes}
    (fits : value < 256 ^ width) :
    word width (behind held (littleEndian width value ++ more)) =
      .done value (behind [] more) := by
  have taken := octets_append held (littleEndian width value) more
  rw [length_littleEndian] at taken
  rw [word, bind_done taken, ofLittleEndian_littleEndian width value fits]
  rfl

theorem require_done
    {condition : Bool}
    {failure : CodecFailure}
    (holds : condition = true)
    (stream : BitStream) :
    require condition failure stream = .done () stream := by
  rw [require, if_pos holds]
  rfl

theorem require_refused
    {condition : Bool}
    {failure : CodecFailure}
    (fails : condition = false)
    (stream : BitStream) :
    require condition failure stream = .refused failure := by
  rw [require, fails]
  rfl

/-- A round that asks for another one is followed by it if it has consumed something. -/
theorem iterate_again
    {σ ρ : Type}
    {round : σ → Decoder (Round σ ρ)}
    {state next : σ}
    {stream rest : BitStream}
    (first : round state stream = .done (.again next) rest)
    (consumed : rest.size < stream.size) :
    iterate round state stream = iterate round next rest := by
  rw [iterate, first]
  dsimp only
  rw [if_pos consumed]

/-- A round that stops the loop gives its result. -/
theorem iterate_stop
    {σ ρ : Type}
    {round : σ → Decoder (Round σ ρ)}
    {state : σ}
    {result : ρ}
    {stream rest : BitStream}
    (last : round state stream = .done (.stop result) rest) :
    iterate round state stream = .done result rest := by
  rw [iterate, last]

end Decoder

end MemberStream
