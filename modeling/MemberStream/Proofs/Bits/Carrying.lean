import MemberStream.Bits.Packing
import MemberStream.Proofs.Bits.Reads

namespace MemberStream

/-!
# Reading written bits

`ReadsBits` relates a decoder to the bits that are written for a value.  The bits
that a stream carries before some octets are those that it holds and those of the
octets before them; the last of them only fill up an octet.
-/

open BitStream

/-- The bits of some octets, in the order in which they are read. -/
def bitsOf
    (octets : Bytes) :
    List Bool :=
  octets.flatMap bitsOfByte

/-- There are eight bits in every octet. -/
theorem length_bitsOf
    (octets : Bytes) :
    (bitsOf octets).length = 8 * octets.length := by
  induction octets with
  | nil =>
      rfl
  | cons byte octets ih =>
      rw [bitsOf, List.flatMap_cons, List.length_append, length_bitsOfByte, List.length_cons]
      rw [bitsOf] at ih
      omega

/-- A number has as many bits as it is given. -/
theorem length_numberBits
    (width value : Nat) :
    (numberBits width value).length = width := by
  induction width generalizing value with
  | zero =>
      rfl
  | succ width ih =>
      rw [numberBits, List.length_cons, ih]

/-- The lowest bits of a number are those of its remainder. -/
theorem numberBits_mod
    (width value : Nat) :
    numberBits width (value % 2 ^ width) = numberBits width value := by
  induction width generalizing value with
  | zero =>
      rfl
  | succ width ih =>
      have low : value % 2 ^ (width + 1) % 2 = value % 2 :=
        Nat.mod_mod_of_dvd value (Nat.dvd_of_pow_dvd (Nat.le_add_left 1 width) (Nat.dvd_refl _))
      have high : value % 2 ^ (width + 1) / 2 = value / 2 % 2 ^ width := by
        rw [Nat.pow_succ, Nat.mul_comm, Nat.mod_mul_right_div_self]
      rw [numberBits, numberBits, low, high, ih]

/-- The highest bit of a number comes last. -/
theorem numberBits_succ
    (width value : Nat) :
    numberBits (width + 1) value =
      numberBits width value ++ [value / 2 ^ width % 2 == 1] := by
  induction width generalizing value with
  | zero =>
      rw [Nat.pow_zero, Nat.div_one]
      rfl
  | succ width ih =>
      rw [numberBits, ih, numberBits, List.cons_append, Nat.div_div_eq_div_mul,
        Nat.pow_succ, Nat.mul_comm 2]

/-- A stream carries some bits, and behind them padding up to the octets `more`. -/
def BitStream.Carries
    (stream : BitStream)
    (bits padding : List Bool)
    (more : Bytes) :
    Prop :=
  ∃ octets,
    stream.bytes = octets ++ more ∧ stream.held ++ bitsOf octets = bits ++ padding

/-- The size of a stream is told by the bits that it carries. -/
theorem BitStream.Carries.size
    {stream : BitStream}
    {bits padding : List Bool}
    {more : Bytes}
    (carries : stream.Carries bits padding more) :
    stream.size = bits.length + padding.length + 8 * more.length := by
  obtain ⟨octets, bytes_eq, bits_eq⟩ := carries
  have length := congrArg List.length bits_eq
  rw [List.length_append, List.length_append, length_bitsOf] at length
  rw [BitStream.size, stream.octetsLeft_eq, bytes_eq, List.length_append]
  omega

/-- When only padding is left, a stream has come to the octets behind it. -/
theorem BitStream.Carries.behind_padding
    {stream : BitStream}
    {padding : List Bool}
    {more : Bytes}
    (carries : stream.Carries [] padding more)
    (short : padding.length < 8) :
    stream = behind padding more := by
  obtain ⟨octets, bytes_eq, bits_eq⟩ := carries
  have length := congrArg List.length bits_eq
  rw [List.nil_append, List.length_append, length_bitsOf] at length
  have none : octets = [] := List.length_eq_zero_iff.mp (by omega)
  subst none
  rw [bitsOf, List.flatMap_nil, List.append_nil, List.nil_append] at bits_eq
  exact eq_behind bits_eq bytes_eq

/-- A decoder reads a value from the bits written for it. -/
def ReadsBits
    {α : Type}
    (decoder : Decoder α)
    (value : α)
    (written : List Bool) :
    Prop :=
  ∀ (stream : BitStream) rest padding more,
    stream.Carries (written ++ rest) padding more →
      ∃ next,
        decoder stream = .done value next ∧ next.Carries rest padding more

namespace ReadsBits

variable {α β : Type}

theorem pure
    (value : α) :
    ReadsBits (Pure.pure value : Decoder α) value [] := by
  intro stream rest padding more carries
  exact ⟨stream, rfl, carries⟩

/-- What is read one after the other is written one behind the other. -/
theorem bind
    {decoder : Decoder α}
    {next : α → Decoder β}
    {value : α}
    {result : β}
    {front back : List Bool}
    (first : ReadsBits decoder value front)
    (second : ReadsBits (next value) result back) :
    ReadsBits (decoder >>= next) result (front ++ back) := by
  intro stream rest padding more carries
  rw [List.append_assoc] at carries
  obtain ⟨middle, reads, carriesOn⟩ := first stream _ padding more carries
  obtain ⟨last, readsOn, left⟩ := second middle rest padding more carriesOn
  refine ⟨last, ?_, left⟩
  rw [Decoder.bind_done reads]
  exact readsOn

theorem last
    {decoder : Decoder α}
    {next : α → Decoder β}
    {value : α}
    {result : β}
    {written : List Bool}
    (reads : ReadsBits decoder value written)
    (goesOn : ReadsBits (next value) result []) :
    ReadsBits (decoder >>= next) result written := by
  have all := reads.bind goesOn
  rw [List.append_nil] at all
  exact all

theorem silent
    {decoder : Decoder α}
    {next : α → Decoder β}
    {value : α}
    {result : β}
    {written : List Bool}
    (quiet : ReadsBits decoder value [])
    (reads : ReadsBits (next value) result written) :
    ReadsBits (decoder >>= next) result written :=
  quiet.bind reads

theorem require
    {condition : Bool}
    (failure : CodecFailure)
    (holds : condition = true) :
    ReadsBits (Decoder.require condition failure) () [] := by
  rw [Decoder.require, if_pos holds]
  exact pure ()

/-- A bit is read as it is written. -/
theorem bit
    (value : Bool) :
    ReadsBits Decoder.bit value [value] := by
  intro stream rest padding more carries
  obtain ⟨octets, bytes_eq, bits_eq⟩ := carries
  rw [← behind_held_bytes stream]
  cases held_eq : stream.held with
  | cons first held =>
      rw [held_eq] at bits_eq
      obtain ⟨first, left_eq⟩ := List.cons.inj bits_eq
      subst first
      exact ⟨behind held stream.bytes, rfl, octets, bytes_eq, left_eq⟩
  | nil =>
      rw [held_eq, List.nil_append] at bits_eq
      cases octets with
      | nil =>
          cases bits_eq
      | cons byte octets =>
          rw [bytes_eq]
          rw [bitsOf, List.flatMap_cons] at bits_eq
          obtain ⟨first, left_eq⟩ := List.cons.inj bits_eq
          subst first
          exact ⟨behind ((bitsOfByte byte).drop 1) (octets ++ more), rfl, octets, rfl, left_eq⟩

/-- A number is read from its bits, lowest first. -/
theorem number
    {width value : Nat}
    (fits : value < 2 ^ width) :
    ReadsBits (Decoder.number width) value (numberBits width value) := by
  induction width generalizing value with
  | zero =>
      rw [Nat.pow_zero, Nat.lt_one_iff] at fits
      subst fits
      exact pure 0
  | succ width ih =>
      have half : value / 2 < 2 ^ width := by
        rw [Nat.pow_succ] at fits
        omega
      have all : ReadsBits (Decoder.number (width + 1))
          ((value % 2 == 1).toNat + 2 * (value / 2))
          ([value % 2 == 1] ++ numberBits width (value / 2)) :=
        bind (bit _) (last (ih half) (pure _))
      have same : (value % 2 == 1).toNat + 2 * (value / 2) = value := by
        rcases Nat.mod_two_eq_zero_or_one value with even | odd
        · rw [even]
          change 0 + 2 * (value / 2) = value
          omega
        · rw [odd]
          change 1 + 2 * (value / 2) = value
          omega
      rw [same] at all
      exact all

/-- A number is read behind higher bits from its bits, highest first. -/
theorem numberFrom
    (high : Nat)
    {width value : Nat}
    (fits : value < 2 ^ width) :
    ReadsBits (Decoder.numberFrom high width) (high * 2 ^ width + value)
      (numberBits width value).reverse := by
  induction width generalizing high value with
  | zero =>
      rw [Nat.pow_zero, Nat.lt_one_iff] at fits
      subst fits
      rw [Nat.pow_zero, Nat.mul_one]
      exact pure high
  | succ width ih =>
      have whole := Nat.div_add_mod value (2 ^ width)
      have bound := Nat.mod_lt value (Nat.two_pow_pos width)
      have top : value / 2 ^ width < 2 :=
        (Nat.div_lt_iff_lt_mul (Nat.two_pow_pos width)).mpr (by
          rw [Nat.pow_succ, Nat.mul_comm] at fits
          exact fits)
      have first : (value / 2 ^ width % 2 == 1).toNat = value / 2 ^ width := by
        rcases Nat.lt_or_ge (value / 2 ^ width) 1 with zero | one
        · rw [Nat.lt_one_iff.mp zero]
          rfl
        · rw [Nat.le_antisymm (Nat.le_of_lt_succ top) one]
          rfl
      have all : ReadsBits (Decoder.numberFrom high (width + 1))
          ((2 * high + (value / 2 ^ width % 2 == 1).toNat) * 2 ^ width + value % 2 ^ width)
          ([value / 2 ^ width % 2 == 1] ++ (numberBits width (value % 2 ^ width)).reverse) :=
        bind (bit _) (ih _ bound)
      have same : (2 * high + (value / 2 ^ width % 2 == 1).toNat) * 2 ^ width +
          value % 2 ^ width = high * 2 ^ (width + 1) + value := by
        rw [first, Nat.add_mul, Nat.mul_comm (value / 2 ^ width), Nat.add_assoc, whole,
          Nat.pow_succ, Nat.mul_comm 2 high, Nat.mul_assoc, Nat.mul_comm 2]
      rw [same, numberBits_mod] at all
      rw [numberBits_succ, List.reverse_append]
      exact all

theorem bigNumber
    {width value : Nat}
    (fits : value < 2 ^ width) :
    ReadsBits (Decoder.bigNumber width) value (numberBits width value).reverse := by
  have reads := numberFrom 0 fits
  rw [Nat.zero_mul, Nat.zero_add] at reads
  exact reads

/-- Rounds that are read one after the other are written one behind the other. -/
theorem again
    {σ ρ : Type}
    {round : σ → Decoder (Decoder.Round σ ρ)}
    {state next : σ}
    {result : ρ}
    {front back : List Bool}
    (first : ReadsBits (round state) (.again next) front)
    (some : front ≠ [])
    (others : ReadsBits (Decoder.iterate round next) result back) :
    ReadsBits (Decoder.iterate round state) result (front ++ back) := by
  intro stream rest padding more carries
  rw [List.append_assoc] at carries
  obtain ⟨middle, reads, carriesOn⟩ := first stream _ padding more carries
  obtain ⟨last, readsOn, left⟩ := others middle rest padding more carriesOn
  refine ⟨last, ?_, left⟩
  have less : middle.size < stream.size := by
    have positive := List.length_pos_iff.mpr some
    rw [carries.size, carriesOn.size]
    simp only [List.length_append]
    omega
  rw [Decoder.iterate_again reads less]
  exact readsOn

theorem stop
    {σ ρ : Type}
    {round : σ → Decoder (Decoder.Round σ ρ)}
    {state : σ}
    {result : ρ}
    {written : List Bool}
    (last : ReadsBits (round state) (.stop result) written) :
    ReadsBits (Decoder.iterate round state) result written := by
  intro stream rest padding more carries
  obtain ⟨next, reads, left⟩ := last stream rest padding more carries
  exact ⟨next, Decoder.iterate_stop reads, left⟩

/-- Bits are read from the octets that they fill up with padding. -/
theorem reads
    {decoder : Decoder α}
    {value : α}
    {bits padding : List Bool}
    {written : Bytes}
    (reads : ReadsBits decoder value bits)
    (whole : bitsOf written = bits ++ padding)
    (short : padding.length < 8) :
    Reads .boundary .anywhere decoder value written := by
  intro held more admits
  rw [show held = [] from admits]
  have carries : (behind [] (written ++ more)).Carries (bits ++ []) padding more := by
    refine ⟨written, rfl, ?_⟩
    rw [List.append_nil, ← whole]
    rfl
  obtain ⟨next, done, left⟩ := reads _ _ _ _ carries
  rw [left.behind_padding short] at done
  exact ⟨padding, short, done⟩

/-- Bits that fill up octets exactly are read to the next boundary. -/
theorem readsWhole
    {decoder : Decoder α}
    {value : α}
    {bits : List Bool}
    {written : Bytes}
    (reads : ReadsBits decoder value bits)
    (whole : bitsOf written = bits) :
    Reads .boundary .boundary decoder value written := by
  intro held more admits
  rw [show held = [] from admits]
  have carries : (behind [] (written ++ more)).Carries (bits ++ []) [] more := by
    refine ⟨written, rfl, ?_⟩
    rw [List.append_nil, List.append_nil, ← whole]
    rfl
  obtain ⟨next, done, left⟩ := reads _ _ _ _ carries
  rw [left.behind_padding (Nat.zero_lt_succ 7)] at done
  exact ⟨[], rfl, done⟩

end ReadsBits

end MemberStream
