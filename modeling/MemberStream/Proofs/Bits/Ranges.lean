import MemberStream.Bits.Packing

namespace MemberStream

/-!
# Symbols of ranges

A table of ranges covers the numbers from its first base up to a limit if every
range goes on at least up to the next one.  The symbol of a number is then that
of a range that holds it.
-/

/-- Whether ranges that follow each other cover all numbers up to a limit. -/
def coversUpTo
    (limit : Nat) :
    List (Nat × Nat) →
    Bool
  | [] =>
      false
  | [(base, width)] =>
      limit ≤ base + 2 ^ width
  | (base, width) :: next :: rest =>
      next.1 ≤ base + 2 ^ width && coversUpTo limit (next :: rest)

/-- A number between the first base and the limit is in the last range reached. -/
theorem mem_range_reached
    {limit value : Nat}
    {range : Nat × Nat}
    {ranges : List (Nat × Nat)}
    (covers : coversUpTo limit (range :: ranges) = true)
    (low : range.1 ≤ value)
    (high : value < limit) :
    ∃ base width,
      (range :: ranges)[(ranges.takeWhile (fun next => decide (next.1 ≤ value))).length]? =
          some (base, width) ∧
        base ≤ value ∧ value < base + 2 ^ width := by
  induction ranges generalizing range with
  | nil =>
      refine ⟨range.1, range.2, rfl, low, ?_⟩
      simp only [coversUpTo, decide_eq_true_eq] at covers
      omega
  | cons next ranges ih =>
      simp only [coversUpTo, Bool.and_eq_true, decide_eq_true_eq] at covers
      by_cases reached : next.1 ≤ value
      · obtain ⟨base, width, found, bounds⟩ := ih covers.2 reached
        refine ⟨base, width, ?_, bounds⟩
        simp only [List.takeWhile_cons, reached, decide_true, if_true, List.length_cons,
          List.getElem?_cons_succ]
        exact found
      · refine ⟨range.1, range.2, ?_, low, by omega⟩
        simp only [List.takeWhile_cons, reached, decide_false, Bool.false_eq_true, if_false]
        rfl

/-- The symbol of a number is that of a range that holds it. -/
theorem rangeOf_eq
    {limit value : Nat}
    {range : Nat × Nat}
    {ranges : List (Nat × Nat)}
    (covers : coversUpTo limit (range :: ranges) = true)
    (low : range.1 ≤ value)
    (high : value < limit) :
    ∃ symbol base width,
      rangeOf (range :: ranges) value = (symbol, base, width) ∧
        (range :: ranges)[symbol]? = some (base, width) ∧
        base ≤ value ∧ value < base + 2 ^ width := by
  obtain ⟨base, width, found, bounds⟩ := mem_range_reached covers low high
  refine ⟨_, base, width, ?_, found, bounds⟩
  simp only [rangeOf, List.takeWhile_cons, low, decide_true, if_true, List.length_cons,
    Nat.add_sub_cancel, List.getD_eq_getElem?_getD, found, Option.getD_some]

end MemberStream
