import MemberStream.Bits.Decoder

namespace MemberStream

/-!
# Huffman trees

A code is given by its symbols with their lengths, in the order in which the
codes of a full tree appear from left to right.  The tree takes its leaves from
that list: a position at the depth of the next symbol's length is its leaf, and
any other position splits.  Positions for which no symbol is left are
unassigned, and a decoder that reaches one refuses.
-/

/-- A binary tree with symbols at its leaves. -/
inductive HuffmanTree
  | unassigned
  | leaf (symbol : Nat)
  | node (zero one : HuffmanTree)
  deriving Repr, DecidableEq

namespace HuffmanTree

/--
The tree at some depth, at most `levels` further levels high, and the symbols
that are left for the positions to the right of it.
-/
def grow
    (levels depth : Nat)
    (codes : List (Nat × Nat)) :
    HuffmanTree × List (Nat × Nat) :=
  match codes with
  | [] =>
      (.unassigned, [])
  | (symbol, length) :: rest =>
      if length = depth then
        (.leaf symbol, rest)
      else
        match levels with
        | 0 =>
            (.unassigned, codes)
        | levels + 1 =>
            let (zero, codes) := grow levels (depth + 1) codes
            let (one, codes) := grow levels (depth + 1) codes
            (.node zero one, codes)

/-- The tree of a code with lengths from 1 to `longest`; its root is always a node. -/
def ofCodes
    (longest : Nat)
    (codes : List (Nat × Nat)) :
    HuffmanTree :=
  let (zero, codes) := grow (longest - 1) 1 codes
  let (one, _) := grow (longest - 1) 1 codes
  .node zero one

/-- Walk down the tree, one bit per level, and read the symbol at the leaf. -/
def symbol : HuffmanTree → Decoder Nat
  | .unassigned =>
      Decoder.malformed
  | .leaf symbol =>
      return symbol
  | .node zero one => do
      if ← Decoder.bit then
        one.symbol
      else
        zero.symbol

/-- The codes of all symbols of a tree, behind the bits that lead to it, given last bit first. -/
def paths : HuffmanTree → List Bool → List (Nat × List Bool)
  | .unassigned, _ =>
      []
  | .leaf symbol, trail =>
      [(symbol, trail.reverse)]
  | .node zero one, trail =>
      zero.paths (false :: trail) ++ one.paths (true :: trail)

/-- The code of a symbol. -/
def code?
    (tree : HuffmanTree)
    (symbol : Nat) :
    Option (List Bool) :=
  (tree.paths []).lookup symbol

end HuffmanTree

/--
How much of a full tree some codes take up, in units of the leaves at depth
`longest`.
-/
def codeSpace
    (longest : Nat)
    (codes : List (Nat × Nat)) :
    Nat :=
  codes.foldl (fun total code => total + 2 ^ (longest - code.2)) 0

/-- The symbols that have a code, with their lengths, by length and then by symbol. -/
def canonicalCodes
    (longest : Nat)
    (lengths : List Nat) :
    List (Nat × Nat) :=
  let numbered := lengths.zipIdx.map (fun entry => (entry.2, entry.1))
  (List.range longest).flatMap fun shorter =>
    numbered.filter (fun code => code.2 == shorter + 1)

end MemberStream
