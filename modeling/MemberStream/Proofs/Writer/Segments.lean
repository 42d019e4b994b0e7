import MemberStream.Stream.Writer

namespace MemberStream

/-!
# How a stream is cut into pieces

Every write first puts out what was held back before it, and then, as the input
buffer mode says, puts out or holds back the parts of its buffer; closing puts
out what is left.  What is put out at once is cut into pieces that an engine
takes in one call.  This says where the pieces start and end without regard to
engines, buffers or sinks.
-/

/-- Cut some bytes into pieces of a given length, the last of which may be shorter. -/
def pieces
    (length : Nat)
    (bytes : Bytes) :
    List Bytes :=
  if bytes.isEmpty ∨ length = 0 then
    []
  else
    bytes.take length :: pieces length (bytes.drop length)
termination_by bytes.length
decreasing_by
  rename_i more
  cases bytes with
  | nil =>
      simp at more
  | cons byte rest =>
      simp only [List.length_drop, List.length_cons]
      omega

@[simp]
theorem pieces_nil
    (length : Nat) :
    pieces length [] = [] := by
  rw [pieces, if_pos (.inl rfl)]

/-- The first piece is the front of the bytes, and the others are cut from what is behind it. -/
theorem pieces_of_nonempty
    {length : Nat}
    {bytes : Bytes}
    (positive : 0 < length)
    (nonempty : bytes ≠ []) :
    pieces length bytes = bytes.take length :: pieces length (bytes.drop length) := by
  rw [pieces, if_neg]
  rintro (empty | zero)
  · exact nonempty (List.isEmpty_iff.mp empty)
  · omega

theorem pieces_of_short
    {length : Nat}
    {bytes : Bytes}
    (nonempty : bytes ≠ [])
    (short : bytes.length ≤ length) :
    pieces length bytes = [bytes] := by
  have positive := List.length_pos_iff.mpr nonempty
  rw [pieces_of_nonempty (by omega) nonempty, List.take_of_length_le short,
    List.drop_of_length_le short, pieces_nil]

/-- Cutting loses nothing. -/
theorem flatten_pieces
    {length : Nat}
    (bytes : Bytes)
    (positive : 0 < length) :
    (pieces length bytes).flatten = bytes := by
  fun_induction pieces length bytes with
  | case1 bytes ends =>
      rcases ends with empty | zero
      · rw [List.isEmpty_iff.mp empty, List.flatten_nil]
      · omega
  | case2 bytes goes ih =>
      rw [List.flatten_cons, ih, List.take_append_drop]

/-- No piece is longer than it should be. -/
theorem length_le_of_mem_pieces
    {length : Nat}
    {bytes piece : Bytes}
    (member : piece ∈ pieces length bytes) :
    piece.length ≤ length := by
  fun_induction pieces length bytes with
  | case1 bytes ends =>
      cases member
  | case2 bytes goes ih =>
      rcases List.mem_cons.mp member with rfl | member
      · exact List.length_take_le length bytes
      · exact ih member

/-- No piece is empty. -/
theorem ne_nil_of_mem_pieces
    {length : Nat}
    {bytes piece : Bytes}
    (member : piece ∈ pieces length bytes) :
    piece ≠ [] := by
  fun_induction pieces length bytes with
  | case1 bytes ends =>
      cases member
  | case2 bytes goes ih =>
      rcases List.mem_cons.mp member with rfl | member
      · intro nothing
        rcases List.take_eq_nil_iff.mp nothing with zero | empty
        · exact goes (.inr zero)
        · exact goes (.inl (List.isEmpty_iff.mpr empty))
      · exact ih member

namespace InputBufferMode

/-- Cutting a write loses nothing. -/
theorem append_cut
    (mode : InputBufferMode)
    (bounceLength : Nat)
    (bytes : Bytes) :
    (mode.cut bounceLength bytes).1 ++ (mode.cut bounceLength bytes).2 = bytes := by
  cases mode with
  | reserve =>
      simp only [cut, List.splitAt_eq]
      exact List.take_append_drop _ _
  | bounce | last | noLast =>
      exact List.append_nil _

/-- The parts of a write: what is put out at once, and what is held back. -/
def part
    (mode : InputBufferMode)
    (bounceLength : Nat)
    (bytes : Bytes) :
    Bytes × Bytes :=
  match mode with
  | .noLast =>
      (bytes, [])
  | .bounce =>
      ([], bytes)
  | .reserve =>
      bytes.splitAt (bytes.length - bounceLength)
  | .last =>
      if bytes.length ≤ bounceLength then
        ([], bytes)
      else
        (bytes, [])

/-- The parts of a write are all of it. -/
theorem append_part
    (mode : InputBufferMode)
    (bounceLength : Nat)
    (bytes : Bytes) :
    (mode.part bounceLength bytes).1 ++ (mode.part bounceLength bytes).2 = bytes := by
  cases mode with
  | noLast =>
      exact List.append_nil _
  | bounce =>
      rfl
  | reserve =>
      simp only [part, List.splitAt_eq]
      exact List.take_append_drop _ _
  | last =>
      unfold part
      dsimp only
      split
      · rfl
      · exact List.append_nil _

/-- Where chunks are told apart, only an empty write leaves nothing to hold back. -/
theorem part_snd_eq_nil_iff
    {mode : InputBufferMode}
    {bounceLength : Nat}
    (other : mode ≠ .last)
    (positive : 0 < bounceLength)
    (bytes : Bytes) :
    (mode.part bounceLength bytes).2 = [] ↔ mode = .noLast ∨ bytes = [] := by
  cases mode with
  | last =>
      exact absurd rfl other
  | noLast =>
      simp [part]
  | bounce =>
      simp [part]
  | reserve =>
      simp only [part, List.splitAt_eq, reduceCtorEq, false_or, ← List.length_eq_zero_iff,
        List.length_drop]
      omega

/-- A write that is held back as a whole has nothing that is put out. -/
theorem part_of_holdsAll
    {mode : InputBufferMode}
    {bounceLength : Nat}
    {bytes : Bytes}
    (holds : mode.holdsAll bounceLength bytes.length = true) :
    mode.part bounceLength bytes = ([], bytes) := by
  cases mode with
  | noLast =>
      cases holds
  | bounce =>
      rfl
  | reserve =>
      have short : bytes.length ≤ bounceLength := of_decide_eq_true holds
      simp only [part, Nat.sub_eq_zero_of_le short, List.splitAt_eq, List.take_zero,
        List.drop_zero]
  | last =>
      exact if_pos (of_decide_eq_true holds)

/-- Any other write is cut into its parts. -/
theorem part_of_cut
    {mode : InputBufferMode}
    {bounceLength : Nat}
    {bytes : Bytes}
    (holds : ¬ mode.holdsAll bounceLength bytes.length = true) :
    mode.part bounceLength bytes = mode.cut bounceLength bytes := by
  cases mode with
  | noLast =>
      rfl
  | bounce =>
      exact absurd rfl holds
  | reserve =>
      rfl
  | last =>
      exact if_neg (fun short => holds (decide_eq_true short))

end InputBufferMode

namespace ParameterSet

/-- The pieces of what is held back and of the writes that follow, up to the end of the stream. -/
def segments
    (parameters : ParameterSet)
    (held : Bytes) :
    List Bytes →
    List Bytes
  | [] =>
      pieces parameters.chunkLength held
  | bytes :: buffers =>
      let (front, kept) := parameters.inputBufferMode.part parameters.bounceBufferLength bytes
      pieces parameters.chunkLength held ++ pieces parameters.chunkLength front ++
        parameters.segments kept buffers

/-- The pieces of a stream are all that is written to it, in order. -/
theorem flatten_segments
    (parameters : ParameterSet)
    (held : Bytes)
    (buffers : List Bytes) :
    (parameters.segments held buffers).flatten = held ++ buffers.flatten := by
  have whole (bytes : Bytes) : (pieces parameters.chunkLength bytes).flatten = bytes :=
    flatten_pieces bytes parameters.chunkLength_pos
  induction buffers generalizing held with
  | nil =>
      rw [segments, whole, List.flatten_nil, List.append_nil]
  | cons bytes buffers ih =>
      have parts := parameters.inputBufferMode.append_part parameters.bounceBufferLength bytes
      rw [segments, List.flatten_append, List.flatten_append, whole, whole, ih,
        List.flatten_cons, List.append_assoc, ← List.append_assoc _ _ buffers.flatten, parts]

/-- Every piece of a stream is one of some bytes that are cut into chunks. -/
theorem mem_pieces_of_mem_segments
    {parameters : ParameterSet}
    {held piece : Bytes}
    {buffers : List Bytes}
    (member : piece ∈ parameters.segments held buffers) :
    ∃ bytes, piece ∈ pieces parameters.chunkLength bytes := by
  induction buffers generalizing held with
  | nil =>
      exact ⟨held, member⟩
  | cons bytes buffers ih =>
      rw [segments] at member
      rcases List.mem_append.mp member with now | later
      · rcases List.mem_append.mp now with first | second
        · exact ⟨_, first⟩
        · exact ⟨_, second⟩
      · exact ih later

theorem length_le_of_mem_segments
    {parameters : ParameterSet}
    {held piece : Bytes}
    {buffers : List Bytes}
    (member : piece ∈ parameters.segments held buffers) :
    piece.length ≤ parameters.chunkLength := by
  obtain ⟨_, among⟩ := mem_pieces_of_mem_segments member
  exact length_le_of_mem_pieces among

theorem ne_nil_of_mem_segments
    {parameters : ParameterSet}
    {held piece : Bytes}
    {buffers : List Bytes}
    (member : piece ∈ parameters.segments held buffers) :
    piece ≠ [] := by
  obtain ⟨_, among⟩ := mem_pieces_of_mem_segments member
  exact ne_nil_of_mem_pieces among

end ParameterSet

end MemberStream
