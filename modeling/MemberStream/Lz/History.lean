import MemberStream.Bytes

namespace MemberStream

/-!
# Histories

The content decoded so far is the history that later copies refer to by a
distance.  A copy may run into the bytes it produces itself.
-/

/-- The content decoded so far. -/
abbrev History := Array UInt8

namespace History

/-- The byte at a distance behind the end; before the start there are zeros. -/
def behind
    (history : History)
    (distance : Nat) :
    UInt8 :=
  if distance ≤ history.size then
    history.getD (history.size - distance) 0
  else
    0

/-- Copy bytes from a distance behind the end, one after the other. -/
def copy
    (history : History)
    (distance : Nat) :
    Nat →
    History
  | 0 =>
      history
  | count + 1 =>
      let byte := history.behind distance
      copy (history.push byte) distance count

/-- Add bytes at the end. -/
def append
    (history : History)
    (bytes : Bytes) :
    History :=
  bytes.foldl Array.push history

/-- Added bytes follow the content. -/
@[simp]
theorem toList_append
    (history : History)
    (bytes : Bytes) :
    (append history bytes).toList = history.toList ++ bytes := by
  unfold append
  induction bytes generalizing history with
  | nil =>
      simp
  | cons byte rest ih =>
      simp

/-- A copy adds as many bytes as it is asked for. -/
@[simp]
theorem size_copy
    (history : History)
    (distance count : Nat) :
    (copy history distance count).size = history.size + count := by
  induction count generalizing history with
  | zero =>
      rfl
  | succ count ih =>
      simp [copy, ih]
      omega

end History

end MemberStream
