import MemberStream.Deflate.Encode
import MemberStream.Deflate.Inflate
import MemberStream.Proofs.Bits.Packed
import MemberStream.Proofs.Bits.Ranges
import MemberStream.Proofs.Lz.Replay

namespace MemberStream

/-!
# Blocks in the fixed codes

The items of a parsed source are read back from the bits that they are written
in, and a block of them gives the source.
-/

namespace Deflate

theorem literal_symbols :
    (BlockCodes.fixed.literals.paths []).map Prod.fst =
      List.range' 256 24 ++ List.range' 0 144 ++ List.range' 280 8 ++ List.range' 144 112 := by
  decide +kernel

theorem distance_symbols :
    (BlockCodes.fixed.distances.paths []).map Prod.fst = List.range 32 := by
  decide +kernel

/-- The most bits that a symbol of the fixed literal and length code has. -/
def literalWidth
    (symbol : Nat) :
    Nat :=
  if symbol < endSymbol then
    9
  else if symbol = endSymbol then
    7
  else
    8

theorem literal_paths :
    ((BlockCodes.fixed.literals.paths []).all fun entry =>
      !entry.2.isEmpty && decide (entry.2.length ≤ literalWidth entry.1)) = true := by
  decide +kernel

theorem distance_paths :
    ((BlockCodes.fixed.distances.paths []).all fun entry =>
      !entry.2.isEmpty && decide (entry.2.length ≤ 5)) = true := by
  decide +kernel

theorem getD_codeTable
    {tree : HuffmanTree}
    {count symbol : Nat}
    (inside : symbol < count) :
    (codeTable tree count).getD symbol [] = (tree.code? symbol).getD [] := by
  simp [codeTable, inside]

/-- A symbol of a tree has a code. -/
theorem code?_of_mem
    {tree : HuffmanTree}
    {symbol : Nat}
    (member : symbol ∈ (tree.paths []).map Prod.fst) :
    ∃ code, tree.code? symbol = some code ∧ (symbol, code) ∈ tree.paths [] := by
  cases found : tree.code? symbol with
  | none =>
      obtain ⟨entry, inside, same⟩ := List.mem_map.mp member
      have other := List.lookup_eq_none_iff.mp found entry inside
      rw [same] at other
      simp at other
  | some code =>
      obtain ⟨front, back, split, -⟩ := List.lookup_eq_some_iff.mp found
      refine ⟨code, rfl, ?_⟩
      rw [split]
      exact List.mem_append_right front List.mem_cons_self

/-- A symbol of the fixed literal and length code is read from its code. -/
theorem readsBits_literalTable
    {symbol : Nat}
    (inside : symbol < 288) :
    ReadsBits BlockCodes.fixed.literals.symbol symbol (literalTable.getD symbol []) ∧
      literalTable.getD symbol [] ≠ [] ∧
      (literalTable.getD symbol []).length ≤ literalWidth symbol := by
  have member : symbol ∈ (BlockCodes.fixed.literals.paths []).map Prod.fst := by
    rw [literal_symbols]
    simp only [List.mem_append, List.mem_range'_1]
    omega
  obtain ⟨code, found, listed⟩ := code?_of_mem member
  have bounds := List.all_eq_true.mp literal_paths _ listed
  simp only [Bool.and_eq_true, Bool.not_eq_true', decide_eq_true_eq] at bounds
  have entry : literalTable.getD symbol [] = code := by
    rw [literalTable, getD_codeTable inside, found]
    rfl
  rw [entry]
  exact ⟨HuffmanTree.readsBits_of_code? found, List.isEmpty_eq_false_iff.mp bounds.1, bounds.2⟩

/-- A symbol of the fixed distance code is read from its code. -/
theorem readsBits_distanceTable
    {symbol : Nat}
    (inside : symbol < 32) :
    ReadsBits BlockCodes.fixed.distances.symbol symbol (distanceTable.getD symbol []) ∧
      distanceTable.getD symbol [] ≠ [] ∧
      (distanceTable.getD symbol []).length ≤ 5 := by
  have member : symbol ∈ (BlockCodes.fixed.distances.paths []).map Prod.fst := by
    rw [distance_symbols]
    exact List.mem_range.mpr inside
  obtain ⟨code, found, listed⟩ := code?_of_mem member
  have bounds := List.all_eq_true.mp distance_paths _ listed
  simp only [Bool.and_eq_true, Bool.not_eq_true', decide_eq_true_eq] at bounds
  have entry : distanceTable.getD symbol [] = code := by
    rw [distanceTable, getD_codeTable inside, found]
    rfl
  rw [entry]
  exact ⟨HuffmanTree.readsBits_of_code? found, List.isEmpty_eq_false_iff.mp bounds.1, bounds.2⟩

/-- The offset in the range of a symbol gives the value. -/
theorem readsBits_rangeValue
    {ranges : List (Nat × Nat)}
    {symbol base width value : Nat}
    (found : ranges[symbol]? = some (base, width))
    (low : base ≤ value)
    (high : value < base + 2 ^ width) :
    ReadsBits (rangeValue ranges symbol) value (numberBits width (value - base)) := by
  have offset : value - base < 2 ^ width := by
    omega
  have all : ReadsBits (Decoder.number width >>= fun extra => Pure.pure (base + extra))
      (base + (value - base)) (numberBits width (value - base) ++ []) :=
    .bind (.number offset) (.pure _)
  rw [Nat.add_sub_cancel' low, List.append_nil] at all
  rw [rangeValue, found]
  exact all

/-- What an item must be like to be written. -/
def Writable : Token → Prop
  | .literal _ =>
      True
  | .copy distance length =>
      1 ≤ distance ∧ distance ≤ limits.farthest ∧
        limits.shortest ≤ length ∧ length ≤ limits.longest
  | .finish =>
      True

/-- A length has a symbol and up to five extra bits that it is read from. -/
theorem readsBits_length
    {length : Nat}
    (shortest : limits.shortest ≤ length)
    (longest : length ≤ limits.longest) :
    ∃ symbol base width,
      rangeOf lengthRanges length = (symbol, base, width) ∧
        symbol < 29 ∧ width ≤ 5 ∧
        ReadsBits (rangeValue lengthRanges symbol) length (numberBits width (length - base)) := by
  have covers : coversUpTo 259 lengthRanges = true := by
    decide
  have widths : ∀ range ∈ lengthRanges, range.2 ≤ 5 := by
    decide
  simp only [limits] at shortest longest
  obtain ⟨symbol, base, width, range, found, low, high⟩ :=
    rangeOf_eq covers (show 3 ≤ length by omega) (show length < 259 by omega)
  refine ⟨symbol, base, width, range, ?_, ?_, readsBits_rangeValue found low high⟩
  · exact (List.getElem?_eq_some_iff.mp found).1
  · exact widths (base, width) (List.mem_of_getElem? found)

/-- A distance has a symbol and up to thirteen extra bits that it is read from. -/
theorem readsBits_distance
    {distance : Nat}
    (positive : 1 ≤ distance)
    (near : distance ≤ limits.farthest) :
    ∃ symbol base width,
      rangeOf distanceRanges distance = (symbol, base, width) ∧
        symbol < 30 ∧ width ≤ 13 ∧
        ReadsBits (rangeValue distanceRanges symbol) distance
          (numberBits width (distance - base)) := by
  have covers : coversUpTo 32769 distanceRanges = true := by
    decide
  have widths : ∀ range ∈ distanceRanges, range.2 ≤ 13 := by
    decide
  simp only [limits] at near
  obtain ⟨symbol, base, width, range, found, low, high⟩ :=
    rangeOf_eq covers positive (show distance < 32769 by omega)
  refine ⟨symbol, base, width, range, ?_, ?_, readsBits_rangeValue found low high⟩
  · exact (List.getElem?_eq_some_iff.mp found).1
  · exact widths (base, width) (List.mem_of_getElem? found)

/-- An item of a block is read from the bits that it is written in, and there are some. -/
theorem readsBits_token
    {item : Token}
    (writable : Writable item) :
    ReadsBits (token .fixed) item (tokenBits item) ∧ tokenBits item ≠ [] := by
  cases item with
  | literal byte =>
      have below : byte.toNat < 256 := byte.toNat_lt
      obtain ⟨reads, some, -⟩ := readsBits_literalTable (show byte.toNat < 288 by omega)
      refine ⟨?_, some⟩
      have all : ReadsBits (token .fixed) (.literal byte)
          (literalTable.getD byte.toNat [] ++ []) := by
        refine .bind reads ?_
        rw [if_pos (show byte.toNat < endSymbol from below), UInt8.ofNat_toNat]
        exact .pure _
      rw [List.append_nil] at all
      exact all
  | finish =>
      obtain ⟨reads, some, -⟩ := readsBits_literalTable (show endSymbol < 288 by decide)
      refine ⟨?_, some⟩
      have all : ReadsBits (token .fixed) .finish (literalTable.getD endSymbol [] ++ []) :=
        .bind reads (.pure Token.finish)
      rw [List.append_nil] at all
      exact all
  | copy distance length =>
      obtain ⟨positive, near, shortest, longest⟩ := writable
      obtain ⟨lengthSymbol, lengthBase, lengthWidth, lengthRange, lengthInside, -,
        lengthReads⟩ :=
        readsBits_length shortest longest
      obtain ⟨farSymbol, farBase, farWidth, farRange, farInside, -, farReads⟩ :=
        readsBits_distance positive near
      obtain ⟨first, some, -⟩ :=
        readsBits_literalTable (show endSymbol + 1 + lengthSymbol < 288 by
          simp only [endSymbol]
          omega)
      obtain ⟨second, -⟩ := readsBits_distanceTable (show 0 + farSymbol < 32 by omega)
      rw [Nat.zero_add] at second
      have written : tokenBits (.copy distance length) =
          literalTable.getD (endSymbol + 1 + lengthSymbol) [] ++
            (numberBits lengthWidth (length - lengthBase) ++
              (distanceTable.getD farSymbol [] ++
                (numberBits farWidth (distance - farBase) ++ []))) := by
        rw [tokenBits, rangeBits, rangeBits, lengthRange, farRange]
        simp only [Nat.zero_add, List.append_assoc, List.append_nil]
      rw [written]
      refine ⟨.bind first ?_, List.append_ne_nil_of_left_ne_nil some _⟩
      rw [if_neg (by simp only [endSymbol]; omega), if_neg (by simp only [endSymbol]; omega),
        Nat.add_sub_cancel_left]
      exact .bind lengthReads (.bind second (.bind farReads (.pure _)))

/-- What an item that does not end a block does to the content before it. -/
def extend
    (history : History) :
    Token →
    Option History
  | .literal byte =>
      some (history.push byte)
  | .copy distance length =>
      some (history.copy distance length)
  | .finish =>
      none

/-- An item of a block is read before those behind it. -/
theorem readsBits_compressedBlock_cons
    {history next last : History}
    {item : Token}
    {bits : List Bool}
    (writable : Writable item)
    (extends' : extend history item = some next)
    (others : ReadsBits (compressedBlock .fixed next) last bits) :
    ReadsBits (compressedBlock .fixed history) last (tokenBits item ++ bits) := by
  obtain ⟨reads, nonempty⟩ := readsBits_token writable
  refine .again ?_ nonempty others
  rw [← List.append_nil (tokenBits item)]
  refine .bind reads ?_
  cases item with
  | literal byte =>
      cases extends'
      exact .pure _
  | copy distance length =>
      cases extends'
      exact .pure _
  | finish =>
      cases extends'

/-- A block ends where it says so. -/
theorem readsBits_compressedBlock_finish
    (history : History) :
    ReadsBits (compressedBlock .fixed history) history (tokenBits .finish) := by
  obtain ⟨reads, -⟩ := readsBits_token (show Writable .finish from trivial)
  refine .stop ?_
  rw [← List.append_nil (tokenBits .finish)]
  exact .bind reads (.pure _)

/-- Literals are read before the items behind them. -/
theorem readsBits_compressedBlock_literals
    {history last : History}
    {bits : List Bool}
    (literals : Bytes)
    (others : ReadsBits (compressedBlock .fixed (history.append literals)) last bits) :
    ReadsBits (compressedBlock .fixed history) last
      ((literals.map Token.literal).flatMap tokenBits ++ bits) := by
  induction literals generalizing history with
  | nil =>
      exact others
  | cons byte literals ih =>
      rw [List.map_cons, List.flatMap_cons, List.append_assoc]
      exact readsBits_compressedBlock_cons trivial rfl (ih others)

theorem tokens_cons
    (sequence : LzSequence)
    (rest : List LzSequence)
    (tail : Bytes) :
    (tokens ⟨sequence :: rest, tail⟩).flatMap tokenBits =
      (sequence.literals.map Token.literal).flatMap tokenBits ++
        (tokenBits (.copy sequence.distance sequence.length) ++
          (tokens ⟨rest, tail⟩).flatMap tokenBits) := by
  simp [tokens]

/-- The items that stand for a source from a position on are read as the rest of it. -/
theorem readsBits_of_covers
    {source tail : Bytes}
    {position : Nat}
    {sequences : List LzSequence}
    {history : History}
    (covers : Covers limits source position sequences tail)
    (content : history.toList = source.take position) :
    ReadsBits (compressedBlock .fixed history) source.toArray
      ((tokens ⟨sequences, tail⟩).flatMap tokenBits) := by
  induction covers generalizing history with
  | @tail position within =>
      have whole : history.append (source.drop position) = source.toArray := by
        apply Array.toList_inj.mp
        rw [History.toList_append, content, List.take_append_drop]
      have last := readsBits_compressedBlock_literals (source.drop position)
        (readsBits_compressedBlock_finish (history.append (source.drop position)))
      rw [whole] at last
      have written : (tokens ⟨[], source.drop position⟩).flatMap tokenBits =
          ((source.drop position).map Token.literal).flatMap tokenBits ++ tokenBits .finish := by
        simp [tokens]
      rw [written]
      exact last
  | @sequence position sequence rest tail fits covers ih =>
      rw [tokens_cons]
      refine readsBits_compressedBlock_literals sequence.literals
        (readsBits_compressedBlock_cons ?_ rfl (ih ?_))
      · exact ⟨fits.distance_pos, fits.near, fits.shortest, fits.longest⟩
      · have front : history.toList = [] ++ source.take position := content
        exact History.toList_of_fits front fits

end Deflate

end MemberStream
