import MemberStream.Bits.Huffman
import MemberStream.Proofs.Bits.Carrying

namespace MemberStream

/-!
# The bits of written octets

What bits the octets have that are written for packed bits, for words and for
pieces that are read from their end.
-/

open BitStream

theorem bitsOfByte_byteOfBits
    (b0 b1 b2 b3 b4 b5 b6 b7 : Bool) :
    bitsOfByte (byteOfBits b0 b1 b2 b3 b4 b5 b6 b7) = [b0, b1, b2, b3, b4, b5, b6, b7] := by
  revert b0 b1 b2 b3 b4 b5 b6 b7
  decide

theorem bitsOf_append
    (front back : Bytes) :
    bitsOf (front ++ back) = bitsOf front ++ bitsOf back :=
  List.flatMap_append

theorem bitsOf_cons
    (byte : UInt8)
    (octets : Bytes) :
    bitsOf (byte :: octets) = bitsOfByte byte ++ bitsOf octets :=
  rfl

theorem bitsOf_singleton
    (byte : UInt8) :
    bitsOf [byte] = bitsOfByte byte :=
  List.append_nil _

/-- Packed bits are those given, and zeros that fill up the last octet. -/
theorem bitsOf_packOnto
    (packed : Bytes)
    (bits : List Bool) :
    ∃ count,
      count < 8 ∧
        bitsOf (packOnto packed bits) =
          bitsOf packed.reverse ++ (bits ++ List.replicate count false) := by
  fun_induction packOnto packed bits with
  | case1 packed b0 b1 b2 b3 b4 b5 b6 b7 rest ih =>
      obtain ⟨count, short, same⟩ := ih
      refine ⟨count, short, ?_⟩
      rw [same, List.reverse_cons, bitsOf_append, bitsOf_singleton, bitsOfByte_byteOfBits,
        List.append_assoc]
      rfl
  | case2 packed =>
      exact ⟨0, Nat.zero_lt_succ 7, (List.append_nil _).symm⟩
  | case3 packed rest whole nonempty bit last =>
      have filled
          (count : Nat)
          (short : count < 8)
          (same : bitsOfByte last = rest ++ List.replicate count false) :
          ∃ count,
            count < 8 ∧
              bitsOf (last :: packed).reverse =
                bitsOf packed.reverse ++ (rest ++ List.replicate count false) := by
        refine ⟨count, short, ?_⟩
        rw [List.reverse_cons, bitsOf_append, bitsOf_singleton, same]
      have given := bitsOfByte_byteOfBits (bit 0) (bit 1) (bit 2) (bit 3) (bit 4) (bit 5) (bit 6)
        (bit 7)
      rcases rest with _ | ⟨b0, _ | ⟨b1, _ | ⟨b2, _ | ⟨b3, _ | ⟨b4, _ | ⟨b5, _ | ⟨b6, rest⟩⟩⟩⟩⟩⟩⟩
      · exact absurd rfl nonempty
      · exact filled 7 (by decide) given
      · exact filled 6 (by decide) given
      · exact filled 5 (by decide) given
      · exact filled 4 (by decide) given
      · exact filled 3 (by decide) given
      · exact filled 2 (by decide) given
      · cases rest with
        | nil =>
            exact filled 1 (by decide) given
        | cons b7 rest =>
            exact absurd rfl (whole b0 b1 b2 b3 b4 b5 b6 b7 rest)

/-- Packed bits are those given, and zeros that fill up the last octet. -/
theorem bitsOf_packBits
    (bits : List Bool) :
    ∃ count,
      count < 8 ∧ bitsOf (packBits bits) = bits ++ List.replicate count false :=
  bitsOf_packOnto [] bits

/-- Packed bits take up no more octets than they need. -/
theorem length_packBits_le
    {bits : List Bool}
    {limit : Nat}
    (short : bits.length ≤ 8 * limit) :
    (packBits bits).length ≤ limit := by
  obtain ⟨count, less, same⟩ := bitsOf_packBits bits
  have length := congrArg List.length same
  rw [length_bitsOf, List.length_append, List.length_replicate] at length
  omega

/-- An octet has the bits of the number that it holds. -/
theorem bitsOfByte_ofNat
    (value : Nat) :
    bitsOfByte (UInt8.ofNat value) = numberBits 8 value := by
  have all : ∀ low < 256, bitsOfByte (UInt8.ofNat low) = numberBits 8 low := by
    decide +kernel
  have same : UInt8.ofNat value = UInt8.ofNat (value % 256) := by
    apply UInt8.toNat.inj
    simp
  rw [same, all _ (Nat.mod_lt _ (by decide))]
  exact numberBits_mod 8 value

/-- The bits of a number are the lower ones and those of the quotient. -/
theorem numberBits_add
    (low high value : Nat) :
    numberBits (low + high) value = numberBits low value ++ numberBits high (value / 2 ^ low) := by
  induction low generalizing value with
  | zero =>
      rw [Nat.zero_add, Nat.pow_zero, Nat.div_one]
      rfl
  | succ low ih =>
      rw [Nat.succ_add_eq_add_succ, Nat.add_succ, numberBits, ih, numberBits, List.cons_append,
        Nat.div_div_eq_div_mul, Nat.pow_succ, Nat.mul_comm 2]

/-- A word has the bits of the number that it holds. -/
theorem bitsOf_littleEndian
    (width value : Nat) :
    bitsOf (littleEndian width value) = numberBits (8 * width) value := by
  induction width generalizing value with
  | zero =>
      rfl
  | succ width ih =>
      have octet : numberBits (8 + 8 * width) value =
          numberBits 8 value ++ numberBits (8 * width) (value / 256) :=
        numberBits_add 8 (8 * width) value
      rw [littleEndian, bitsOf_cons, bitsOfByte_ofNat, ih, Nat.mul_succ, Nat.add_comm, octet]

/-- Behind fewer zeros than bits are given stands the mark that follows the zeros. -/
theorem dropWhile_of_mark
    {count : Nat}
    {front back bits : List Bool}
    (whole : front ++ back = List.replicate count false ++ true :: bits)
    (short : count < front.length) :
    ∃ left,
      front.dropWhile (fun bit => !bit) = true :: left ∧ left ++ back = bits := by
  induction count generalizing front with
  | zero =>
      cases front with
      | nil =>
          exact absurd short (Nat.not_lt_zero 0)
      | cons bit front =>
          obtain ⟨rfl, rest⟩ := List.cons.inj whole
          exact ⟨front, rfl, rest⟩
  | succ count ih =>
      cases front with
      | nil =>
          exact absurd short (Nat.not_lt_zero _)
      | cons bit front =>
          rw [List.replicate_succ] at whole
          obtain ⟨rfl, rest⟩ := List.cons.inj whole
          obtain ⟨left, marked, same⟩ := ih rest (Nat.lt_of_succ_lt_succ short)
          exact ⟨left, marked, same⟩

/-- Bits that end with a mark are read back from their end, once they are packed. -/
theorem backward?_packBits
    (bits : List Bool) :
    backward? (packBits (bits ++ [true])) = some (ofBits bits.reverse) := by
  obtain ⟨count, short, whole⟩ := bitsOf_packBits (bits ++ [true])
  have reversed := congrArg List.reverse whole
  rw [bitsOf, List.reverse_flatMap, List.append_assoc, List.reverse_append, List.reverse_append,
    List.reverse_replicate, List.append_assoc] at reversed
  unfold backward?
  cases octets : (packBits (bits ++ [true])).reverse with
  | nil =>
      rw [octets] at reversed
      cases count with
      | zero =>
          cases reversed
      | succ count =>
          cases reversed
  | cons last rest =>
      rw [octets, List.flatMap_cons] at reversed
      obtain ⟨left, marked, same⟩ := dropWhile_of_mark reversed short
      dsimp only
      rw [show (bitsOfByte last).reverse.dropWhile (fun bit => !bit) = true :: left from marked]
      dsimp only
      exact congrArg (fun bits => some (ofBits bits)) same

/-- A piece that is packed from its end is read as a whole. -/
theorem ReadsBits.backward
    {α : Type}
    {place : Place}
    {decoder : Decoder α}
    {value : α}
    {bits : List Bool}
    (reads : ReadsBits decoder value bits.reverse) :
    Reads place place
      (Decoder.backward (packBits (bits ++ [true])) (Decoder.entire decoder)) value [] := by
  have carries : (ofBits bits.reverse).Carries (bits.reverse ++ []) [] [] := by
    refine ⟨[], rfl, ?_⟩
    rw [List.append_nil]
    rfl
  obtain ⟨next, done, left⟩ := reads _ _ _ _ carries
  have whole : Decoder.entire decoder (ofBits bits.reverse) = .done value next := by
    unfold Decoder.entire
    rw [Decoder.bind_done done, left.behind_padding (Nat.zero_lt_succ 7)]
    rfl
  unfold Decoder.backward
  rw [backward?_packBits]
  exact .cut whole

namespace HuffmanTree

/-- The code of a symbol leads to its leaf. -/
theorem readsBits_of_mem_paths
    {tree : HuffmanTree}
    {trail path : List Bool}
    {symbol : Nat}
    (member : (symbol, path) ∈ tree.paths trail) :
    ∃ written,
      path = trail.reverse ++ written ∧ ReadsBits tree.symbol symbol written := by
  induction tree generalizing trail with
  | unassigned =>
      cases member
  | leaf value =>
      rw [paths, List.mem_singleton] at member
      cases member
      exact ⟨[], (List.append_nil _).symm, .pure symbol⟩
  | node zero one zeroCase oneCase =>
      rw [paths, List.mem_append] at member
      rcases member with left | right
      · obtain ⟨written, same, reads⟩ := zeroCase left
        refine ⟨false :: written, ?_, ?_⟩
        · rw [same, List.reverse_cons, List.append_assoc]
          rfl
        · exact ReadsBits.bind (.bit false) reads
      · obtain ⟨written, same, reads⟩ := oneCase right
        refine ⟨true :: written, ?_, ?_⟩
        · rw [same, List.reverse_cons, List.append_assoc]
          rfl
        · exact ReadsBits.bind (.bit true) reads

/-- A symbol is read from its code. -/
theorem readsBits_of_code?
    {tree : HuffmanTree}
    {symbol : Nat}
    {code : List Bool}
    (found : tree.code? symbol = some code) :
    ReadsBits tree.symbol symbol code := by
  obtain ⟨front, back, split, -⟩ := List.lookup_eq_some_iff.mp found
  have member : (symbol, code) ∈ tree.paths [] := by
    rw [split]
    exact List.mem_append_right front List.mem_cons_self
  obtain ⟨written, same, reads⟩ := readsBits_of_mem_paths member
  rw [same]
  exact reads

end HuffmanTree

end MemberStream
