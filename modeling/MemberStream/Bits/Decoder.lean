import MemberStream.Bits.Stream
import MemberStream.Codec.Error

namespace MemberStream

/-!
# Decoders

A decoder reads a value from the front of a bit stream.  It ends in one of three
ways: with a value and the bits behind it, with a refusal of what it has read,
or unfinished because the stream ended.  Decoders are put together from single
bits and octets only, so they never look ahead of what they consume: more bytes
behind a value change neither the value nor a refusal.
-/

/-- How decoding ends. -/
inductive Outcome (α : Type)
  | done (value : α) (rest : BitStream)
  | refused (failure : CodecFailure)
  | unfinished

/-- A reader of values from bit streams. -/
def Decoder (α : Type) : Type :=
  BitStream → Outcome α

namespace Decoder

/-- Decode a stream. -/
def run
    {α : Type}
    (decoder : Decoder α)
    (stream : BitStream) :
    Outcome α :=
  decoder stream

/-- Read nothing. -/
@[always_inline, inline]
protected def pure
    {α : Type}
    (value : α) :
    Decoder α :=
  fun stream => .done value stream

/-- Go on with what follows a value. -/
@[always_inline, inline]
protected def bind
    {α β : Type}
    (decoder : Decoder α)
    (next : α → Decoder β) :
    Decoder β :=
  fun stream =>
    match decoder stream with
    | .done value rest =>
        next value rest
    | .refused failure =>
        .refused failure
    | .unfinished =>
        .unfinished

instance : Monad Decoder where
  pure :=
    Decoder.pure
  bind :=
    Decoder.bind

/-- Refuse what has been read. -/
@[inline]
def refuse
    {α : Type}
    (failure : CodecFailure) :
    Decoder α :=
  fun _ => .refused failure

/-- Refuse malformed data. -/
@[inline]
def malformed
    {α : Type} :
    Decoder α :=
  refuse .decodeFailed

/-- Go on only if a condition on what has been read holds. -/
@[inline]
def require
    (condition : Bool)
    (failure : CodecFailure) :
    Decoder Unit :=
  if condition then
    Decoder.pure ()
  else
    refuse failure

/-- Read one bit. -/
def bit : Decoder Bool :=
  fun stream =>
    match stream.next? with
    | some (value, rest) =>
        .done value rest
    | none =>
        .unfinished

/-- Read octets from the next octet boundary on. -/
def octets
    (count : Nat) :
    Decoder Bytes :=
  fun stream =>
    match stream.take? count with
    | some (taken, rest) =>
        .done taken rest
    | none =>
        .unfinished

/-- Read one octet. -/
def octet : Decoder UInt8 := do
  let taken ← octets 1
  return taken.headD 0

/-- Read a number of the given width in octets, least significant first. -/
def word
    (width : Nat) :
    Decoder Nat := do
  let taken ← octets width
  return ofLittleEndian taken

/--
Whether the stream is used up.  This is the one answer that more bytes would
change, so it is meant for data that has been cut to its length.
-/
def atEnd : Decoder Bool :=
  fun stream => .done stream.isEmpty stream

/-- Read all octets that are left; like `atEnd`, for data that has been cut to its length. -/
def remainder : Decoder Bytes :=
  fun stream => .done stream.bytes (.ofBytes [])

/--
Read a value, or nothing if the stream ends inside it; like `atEnd`, for data
that has been cut to its length.
-/
def attempt
    {α : Type}
    (decoder : Decoder α) :
    Decoder (Option α) :=
  fun stream =>
    match decoder stream with
    | .done value rest =>
        .done (some value) rest
    | .refused failure =>
        .refused failure
    | .unfinished =>
        .done none stream

/--
Decode a piece that has been cut out of the stream; a piece that ends inside the
value is malformed.
-/
def within
    {α : Type}
    (piece : BitStream)
    (decoder : Decoder α) :
    Decoder α :=
  fun stream =>
    match decoder piece with
    | .done value _ =>
        .done value stream
    | .refused failure =>
        .refused failure
    | .unfinished =>
        .refused .decodeFailed

/-- Decode a piece that is read from its end; one without a mark is malformed. -/
def backward
    {α : Type}
    (bytes : Bytes)
    (decoder : Decoder α) :
    Decoder α :=
  match BitStream.backward? bytes with
  | some piece =>
      within piece decoder
  | none =>
      malformed

/-- Decode a value behind which nothing is left. -/
def entire
    {α : Type}
    (decoder : Decoder α) :
    Decoder α := do
  let value ← decoder
  let ended ← atEnd
  require ended .decodeFailed
  return value

/-- Read a number of the given width in bits, lowest first. -/
def number : Nat → Decoder Nat
  | 0 =>
      return 0
  | width + 1 => do
      let low ← bit
      let high ← number width
      return low.toNat + 2 * high

/-- Read a number of the given width in bits, highest first, behind the bits of `high`. -/
def numberFrom
    (high : Nat) :
    Nat →
    Decoder Nat
  | 0 =>
      return high
  | width + 1 => do
      let next ← bit
      numberFrom (2 * high + next.toNat) width

/-- Read a number of the given width in bits, highest first. -/
def bigNumber
    (width : Nat) :
    Decoder Nat :=
  numberFrom 0 width

/-- What one round of a loop comes to. -/
inductive Round (σ ρ : Type)
  | again (state : σ)
  | stop (result : ρ)

/--
Decode round after round until one stops the loop.  Every round that asks for
another one has to consume something.
-/
def iterate
    {σ ρ : Type}
    (round : σ → Decoder (Round σ ρ))
    (state : σ)
    (stream : BitStream) :
    Outcome ρ :=
  match round state stream with
  | .done (.again next) rest =>
      if rest.size < stream.size then
        iterate round next rest
      else
        .refused .decodeFailed
  | .done (.stop result) rest =>
      .done result rest
  | .refused failure =>
      .refused failure
  | .unfinished =>
      .unfinished
termination_by stream.size

end Decoder

end MemberStream
