import MemberStream.Bytes

namespace MemberStream

/-!
# Lists and results

Facts about lists and results in general, which the theory of codecs and streams
builds on.
-/

/-- What succeeds with its error renamed succeeds. -/
theorem ok_of_mapError
    {α β γ : Type}
    {rename : α → β}
    {result : Except α γ}
    {value : γ}
    (succeeds : result.mapError rename = .ok value) :
    result = .ok value := by
  cases result with
  | error error =>
      cases succeeds
  | ok given =>
      cases succeeds
      rfl

/-- The first element of a list that is not good is there once, and in one place. -/
theorem eq_of_first
    {α : Type}
    {Good : α → Prop}
    {done rest other more : List α}
    {first again : α}
    (parts : done ++ first :: rest = other ++ again :: more)
    (before : ∀ piece ∈ done, Good piece)
    (beforeAgain : ∀ piece ∈ other, Good piece)
    (bad : ¬ Good first)
    (badAgain : ¬ Good again) :
    done = other ∧ first = again := by
  rcases List.append_eq_append_iff.mp parts with ⟨between, same, left⟩ | ⟨between, same, left⟩
  · cases between with
    | nil =>
        cases left
        exact ⟨by rw [same, List.append_nil], rfl⟩
    | cons next between =>
        cases left
        exact absurd (beforeAgain first (by simp [same])) bad
  · cases between with
    | nil =>
        cases left
        exact ⟨by rw [same, List.append_nil], rfl⟩
    | cons next between =>
        cases left
        exact absurd (before again (by simp [same])) badAgain

theorem length_lt_of_mem_flatten
    {pieces : List Bytes}
    {bound : Nat}
    (short : pieces.flatten.length < bound) :
    ∀ piece ∈ pieces, piece.length < bound := by
  intro piece among
  exact Nat.lt_of_le_of_lt (List.sublist_flatten_of_mem among).length_le short

end MemberStream
