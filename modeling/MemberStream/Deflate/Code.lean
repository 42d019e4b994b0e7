import MemberStream.Bits.Huffman

namespace MemberStream

/-!
# Deflate codes

A compressed deflate block is a sequence of literals and copies in two Huffman
codes.  A copy is a length symbol and a distance symbol, each with a base and a
number of extra bits.  The fixed codes are those of blocks that carry none of
their own.
-/

namespace Deflate

/-- The symbol that ends a block. -/
def endSymbol : Nat :=
  256

/-- Base and extra bits of the length symbols from 257 on. -/
def lengthRanges : List (Nat × Nat) :=
  [(3, 0), (4, 0), (5, 0), (6, 0), (7, 0), (8, 0), (9, 0), (10, 0), (11, 1), (13, 1),
    (15, 1), (17, 1), (19, 2), (23, 2), (27, 2), (31, 2), (35, 3), (43, 3), (51, 3),
    (59, 3), (67, 4), (83, 4), (99, 4), (115, 4), (131, 5), (163, 5), (195, 5),
    (227, 5), (258, 0)]

/-- Base and extra bits of the distance symbols. -/
def distanceRanges : List (Nat × Nat) :=
  [(1, 0), (2, 0), (3, 0), (4, 0), (5, 1), (7, 1), (9, 2), (13, 2), (17, 3), (25, 3),
    (33, 4), (49, 4), (65, 5), (97, 5), (129, 6), (193, 6), (257, 7), (385, 7),
    (513, 8), (769, 8), (1025, 9), (1537, 9), (2049, 10), (3073, 10), (4097, 11),
    (6145, 11), (8193, 12), (12289, 12), (16385, 13), (24577, 13)]

/-- The code lengths of the fixed literal and length code. -/
def fixedLiteralLengths : List Nat :=
  List.replicate 144 8 ++ List.replicate 112 9 ++ List.replicate 24 7 ++ List.replicate 8 8

/-- The code lengths of the fixed distance code. -/
def fixedDistanceLengths : List Nat :=
  List.replicate 32 5

/-- The longest code of a deflate block. -/
def longestCode : Nat :=
  15

/-- The two codes of a block. -/
structure BlockCodes where
  literals : HuffmanTree
  distances : HuffmanTree

namespace BlockCodes

/-- The codes with given lengths. -/
def ofLengths
    (literals distances : List Nat) :
    BlockCodes where
  literals :=
    .ofCodes longestCode (canonicalCodes longestCode literals)
  distances :=
    .ofCodes longestCode (canonicalCodes longestCode distances)

/-- The fixed codes. -/
def fixed : BlockCodes :=
  ofLengths fixedLiteralLengths fixedDistanceLengths

end BlockCodes

/-- One item of a compressed block. -/
inductive Token
  | literal (byte : UInt8)
  | copy (distance length : Nat)
  | finish
  deriving Repr, DecidableEq

end Deflate

end MemberStream
