import MemberStream.Lz.History
import MemberStream.Lz.Parse

namespace MemberStream

/-!
# Replaying a parse

A parse covers its source: its sequences and its tail follow each other without
gaps, and every copy repeats bytes that are before it.  So a history that ends
with the front of the source and goes through a sequence ends with a longer
front of it.
-/

/-- A sequence stands for the bytes of a source from a position on. -/
structure LzSequence.Fits
    (limits : LzLimits)
    (source : Bytes)
    (position : Nat)
    (sequence : LzSequence) :
    Prop where
  literals : sequence.literals = (source.drop position).take sequence.literals.length
  distance_pos : 0 < sequence.distance
  distance_le : sequence.distance ≤ position + sequence.literals.length
  near : sequence.distance ≤ limits.farthest
  shortest : limits.shortest ≤ sequence.length
  longest : sequence.length ≤ limits.longest
  within :
    position + sequence.literals.length + sequence.length + limits.margin ≤ source.length
  /-- What is copied is what comes next. -/
  repeats :
    ∀ index < sequence.length,
      source[position + sequence.literals.length - sequence.distance + index]? =
        source[position + sequence.literals.length + index]?

/-- Where a sequence ends that starts at a position. -/
def LzSequence.stop
    (position : Nat)
    (sequence : LzSequence) :
    Nat :=
  position + sequence.literals.length + sequence.length

/-- Some sequences and a tail stand for a source from a position on. -/
inductive Covers
    (limits : LzLimits)
    (source : Bytes) :
    Nat →
    List LzSequence →
    Bytes →
    Prop where
  | tail
      {position : Nat} :
      position ≤ source.length →
      Covers limits source position [] (source.drop position)
  | sequence
      {position : Nat}
      {sequence : LzSequence}
      {rest : List LzSequence}
      {tail : Bytes}
      (fits : sequence.Fits limits source position)
      (covers : Covers limits source (sequence.stop position) rest tail) :
      Covers limits source position (sequence :: rest) tail

namespace History

theorem size_append
    (history : History)
    (bytes : Bytes) :
    (append history bytes).size = history.size + bytes.length := by
  rw [← Array.length_toList, toList_append, List.length_append, Array.length_toList]

theorem append_append
    (history : History)
    (first second : Bytes) :
    append (append history first) second = append history (first ++ second) := by
  apply Array.toList_inj.mp
  rw [toList_append, toList_append, toList_append, List.append_assoc]

theorem append_nothing
    (bytes : Bytes) :
    append #[] bytes = bytes.toArray := by
  apply Array.toList_inj.mp
  rw [toList_append]
  rfl

/-- The byte at a distance behind the end of a history whose content is given. -/
theorem behind_eq
    {history : History}
    {content : Bytes}
    {distance : Nat}
    (same : history.toList = content)
    (positive : 0 < distance)
    (enough : distance ≤ content.length) :
    some (history.behind distance) = content[content.length - distance]? := by
  have size : history.size = content.length := by
    rw [← same, Array.length_toList]
  have below : history.size - distance < history.size := by
    omega
  subst same
  rw [behind, if_pos (by omega), Array.getD_eq_getD_getElem?, Array.getElem?_toList,
    Array.length_toList, Array.getElem?_eq_getElem below]
  rfl

/-- A copy that repeats what comes next in a source goes on with the source. -/
theorem toList_copy
    {history : History}
    {prior source : Bytes}
    {position distance : Nat}
    (length : Nat)
    (content : history.toList = prior ++ source.take position)
    (positive : 0 < distance)
    (enough : distance ≤ position)
    (within : position + length ≤ source.length)
    (repeats :
      ∀ index < length, source[position - distance + index]? = source[position + index]?) :
    (history.copy distance length).toList = prior ++ source.take (position + length) := by
  induction length generalizing history position with
  | zero =>
      exact content
  | succ length ih =>
      have known : (prior ++ source.take position).length = prior.length + position := by
        rw [List.length_append, List.length_take, Nat.min_eq_left (by omega)]
      have first := behind_eq content positive (by omega)
      rw [known, List.getElem?_append_right (by omega), List.getElem?_take_of_lt (by omega),
        show prior.length + position - distance - prior.length = position - distance by omega]
        at first
      have next := repeats 0 (Nat.zero_lt_succ length)
      rw [Nat.add_zero, Nat.add_zero, ← first] at next
      have pushed : (history.push (history.behind distance)).toList =
          prior ++ source.take (position + 1) := by
        rw [Array.toList_push, content, List.take_add_one, ← next, List.append_assoc]
        rfl
      have rest := ih pushed (Nat.le_succ_of_le enough) (by omega) (by
        intro index below
        have later := repeats (index + 1) (Nat.succ_lt_succ below)
        rw [show position + 1 - distance + index = position - distance + (index + 1) by omega,
          show position + 1 + index = position + (index + 1) by omega]
        exact later)
      rw [copy, rest, Nat.add_assoc, Nat.add_comm 1]

/-- A history goes through a sequence from one front of a source to the next. -/
theorem toList_of_fits
    {limits : LzLimits}
    {history : History}
    {prior source : Bytes}
    {position : Nat}
    {sequence : LzSequence}
    (content : history.toList = prior ++ source.take position)
    (fits : sequence.Fits limits source position) :
    ((history.append sequence.literals).copy sequence.distance sequence.length).toList =
      prior ++ source.take (sequence.stop position) := by
  have literal : (history.append sequence.literals).toList =
      prior ++ source.take (position + sequence.literals.length) := by
    rw [toList_append, content, List.append_assoc, List.take_add, ← fits.literals]
  have within := fits.within
  exact toList_copy sequence.length literal fits.distance_pos fits.distance_le (by omega)
    fits.repeats

end History

namespace LzParse

/-- Matched bytes are equal, and they are below the limit. -/
theorem matchLength_spec
    (source : Array UInt8)
    (candidate position limit matched : Nat)
    (below : position + matched ≤ limit)
    (equal :
      ∀ index < matched, source.getD (candidate + index) 0 = source.getD (position + index) 0) :
    let length := matchLength source candidate position limit matched
    position + length ≤ limit ∧
      ∀ index < length, source.getD (candidate + index) 0 = source.getD (position + index) 0 := by
  fun_induction matchLength source candidate position limit matched with
  | case1 matched goes ih =>
      refine ih (by omega) ?_
      intro index before
      rcases Nat.lt_succ_iff_lt_or_eq.mp before with earlier | rfl
      · exact equal index earlier
      · exact goes.2
  | case2 matched stops =>
      exact ⟨below, equal⟩

theorem slice_eq
    (source : Bytes)
    (first last : Nat) :
    slice source.toArray first last = (source.drop first).take (last - first) := by
  rw [slice, Array.toList_extract, List.extract_eq_take_drop]

/-- A confirmed copy, put behind the literals since the last one, stands for what comes next. -/
theorem fits_of_confirm?
    {limits : LzLimits}
    {source : Bytes}
    {anchor position candidate distance length : Nat}
    (order : anchor ≤ position)
    (inside : position ≤ source.length - limits.margin)
    (confirmed :
      confirm? limits source.toArray position candidate = some (distance, length)) :
    LzSequence.Fits limits source anchor
      { literals := slice source.toArray anchor position, distance, length } := by
  simp only [confirm?, List.size_toArray, Option.ite_none_right_eq_some, Option.some.injEq,
    Prod.mk.injEq] at confirmed
  obtain ⟨⟨before, near, positive, enough⟩, rfl, rfl⟩ := confirmed
  obtain ⟨within, equal⟩ := matchLength_spec source.toArray candidate position
    (min (source.length - limits.margin) (position + limits.longest)) 0
    (by omega) (fun index impossible => absurd impossible (Nat.not_lt_zero index))
  generalize matchLength source.toArray candidate position
    (min (source.length - limits.margin) (position + limits.longest)) 0 = length at *
  have count : (slice source.toArray anchor position).length = position - anchor := by
    rw [slice_eq, List.length_take, List.length_drop]
    omega
  have here : anchor + (slice source.toArray anchor position).length = position := by
    omega
  refine
    { literals := ?_
      distance_pos := Nat.sub_pos_of_lt before
      distance_le := ?_
      near := near
      shortest := enough
      longest := ?_
      within := ?_
      repeats := ?_ }
  · dsimp only
    rw [count]
    exact slice_eq source anchor position
  · dsimp only
    omega
  · dsimp only
    omega
  · dsimp only
    omega
  · dsimp only
    intro index below
    rw [here, show position - (position - candidate) + index = candidate + index by omega]
    have same := equal index below
    simp only [Array.getD_eq_getD_getElem?, List.getElem?_toArray] at same
    rw [List.getElem?_eq_getElem (by omega), List.getElem?_eq_getElem (by omega)] at same ⊢
    exact congrArg some same

/-- A scan adds sequences that stand for the source from its anchor on. -/
theorem covers_scan
    (limits : LzLimits)
    (source : Bytes)
    (table : Array (Option Nat))
    (anchor position : Nat)
    (sequences : List LzSequence)
    (order : anchor ≤ position)
    (within : position ≤ source.length) :
    ∃ rest,
      (scan limits source.toArray table anchor position sequences).sequences =
          sequences.reverse ++ rest ∧
        Covers limits source anchor rest
          (scan limits source.toArray table anchor position sequences).tail := by
  fun_induction scan limits source.toArray table anchor position sequences with
  | case1 table anchor position sequences inside distance length proposed next ih =>
      obtain ⟨candidate, -, confirmed⟩ := Option.bind_eq_some_iff.mp proposed
      rw [List.size_toArray] at inside
      have fits := fits_of_confirm? order (by omega) confirmed
      have stop : LzSequence.stop anchor
          { literals := slice source.toArray anchor position, distance, length } = next := by
        have count : (slice source.toArray anchor position).length = position - anchor := by
          rw [slice_eq, List.length_take, List.length_drop]
          omega
        simp only [LzSequence.stop, count, next]
        omega
      have ahead := fits.within
      obtain ⟨rest, same, covers⟩ := ih (Nat.le_refl _) (by
        rw [← stop]
        exact Nat.le_trans (Nat.le_add_right _ limits.margin) ahead)
      refine ⟨_ :: rest, ?_, .sequence fits (stop ▸ covers)⟩
      rw [same, List.reverse_cons, List.append_assoc]
      rfl
  | case2 table anchor position sequences inside proposed ih =>
      rw [List.size_toArray] at inside
      exact ih (Nat.le_succ_of_le order) (by omega)
  | case3 table anchor position sequences outside =>
      refine ⟨[], (List.append_nil _).symm, ?_⟩
      have tail : slice source.toArray anchor source.toArray.size = source.drop anchor := by
        rw [slice_eq, List.size_toArray, List.take_of_length_le (Nat.le_of_eq List.length_drop)]
      rw [tail]
      exact .tail (by omega)

/-- A parse covers its source. -/
theorem covers_ofBytes
    (limits : LzLimits)
    (source : Bytes) :
    Covers limits source 0 (ofBytes limits source).sequences (ofBytes limits source).tail := by
  obtain ⟨rest, same, covers⟩ :=
    covers_scan limits source (Array.replicate tableSize none) 0 0 [] (Nat.le_refl 0)
      (Nat.zero_le _)
  unfold ofBytes
  rw [same]
  exact covers

end LzParse

end MemberStream
