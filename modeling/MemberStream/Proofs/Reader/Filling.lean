import MemberStream.Proofs.Reader.Gather
import MemberStream.Proofs.Transport.Serving

namespace MemberStream

/-!
# Filling the input from a source that serves

Below its ceiling the input buffer always grows, so a source that serves a byte
string is gathered whole, however it cuts the string into pieces, if there is no
ceiling or the string is shorter.
-/

namespace GrowthPolicy

/-- An input buffer can grow unless it is at its ceiling, and not beyond. -/
theorem nextInputLength_of_lt
    {policy : GrowthPolicy}
    {current : Nat}
    (below : ∀ limit, policy.limit = some limit → current < limit) :
    ∃ length,
      policy.nextInputLength current = .ok length ∧
        ∀ limit, policy.limit = some limit → length ≤ limit := by
  unfold nextInputLength
  have outcome := policy.clamp_cases (max (saturatingDouble current) 1) current
  cases grown : policy.clamp (max (saturatingDouble current) 1) current with
  | ok length =>
      exact ⟨length, rfl, fun _ limited => le_limit_of_clamp grown limited⟩
  | error _ =>
      rw [grown] at outcome
      cases outcome with
      | refused ceiling beyond reached =>
          exact absurd (below _ ceiling) (Nat.not_lt_of_le reached)

end GrowthPolicy

namespace Reader

variable {σ ε : Type}

/-- There is no ceiling to the input buffer, or one that is higher than some length. -/
def HasRoom
    (reader : Reader σ ε)
    (total : Nat) :
    Prop :=
  ∀ limit, reader.growth.limit = some limit → reader.inputLength ≤ limit ∧ total < limit

/-- Without a ceiling there is room for any length. -/
theorem hasRoom_of_unlimited
    {reader : Reader σ ε}
    (unlimited : reader.growth.limit = none)
    (total : Nat) :
    reader.HasRoom total := by
  intro limit limited
  rw [unlimited] at limited
  cases limited

/-- There is room to be made for what there is room for. -/
theorem hasRoom_makeRoom
    {reader : Reader σ ε}
    {total : Nat}
    (scope : Scope)
    (room : reader.HasRoom total)
    (within : reader.inputRead ≤ total) :
    (reader.makeRoom scope).1 = .ok () ∧ (reader.makeRoom scope).2.HasRoom total := by
  unfold makeRoom
  split
  · rename_i full
    have below (limit : Nat) (limited : reader.growth.limit = some limit) :
        reader.inputLength < limit := by
      have enough := (room limit limited).2
      omega
    obtain ⟨length, grown, capped⟩ := GrowthPolicy.nextInputLength_of_lt below
    rw [grown]
    exact ⟨rfl, fun limit limited => ⟨capped limit limited, (room limit limited).2⟩⟩
  · exact ⟨rfl, room⟩

/-- What gathering comes to when the source hands out `more` behind the chunks so far. -/
structure GathersAll
    (reader : Reader σ ε)
    (chunks : List Bytes)
    (more : Bytes)
    (outcome : Except StreamError Unit × List Bytes × Reader σ ε) :
    Prop where
  result : outcome.1 = .ok ()
  chunks : outcome.2.1.reverse.flatten = chunks.reverse.flatten ++ more
  inputRead : outcome.2.2.inputRead = reader.inputRead + more.length
  sourceTotal : outcome.2.2.sourceTotal = reader.sourceTotal + more.length

/-- What is gathered behind a chunk is gathered behind the chunks before it. -/
theorem GathersAll.behind
    {reader next : Reader σ ε}
    {chunks : List Bytes}
    {chunk more : Bytes}
    {outcome : Except StreamError Unit × List Bytes × Reader σ ε}
    (gathered : next.GathersAll (chunk :: chunks) more outcome)
    (inputRead : next.inputRead = reader.inputRead + chunk.length)
    (sourceTotal : next.sourceTotal = reader.sourceTotal + chunk.length) :
    reader.GathersAll chunks (chunk ++ more) outcome where
  result := gathered.result
  chunks := by
    rw [gathered.chunks, List.reverse_cons, List.flatten_append, List.flatten_singleton,
      List.append_assoc]
  inputRead := by
    rw [gathered.inputRead, inputRead, List.length_append, Nat.add_assoc]
  sourceTotal := by
    rw [gathered.sourceTotal, sourceTotal, List.length_append, Nat.add_assoc]

/-- A source that serves a byte string is gathered whole. -/
theorem gathersAll_of_serves
    [Source σ]
    (reader : Reader σ ε)
    (scope : Scope)
    (chunks : List Bytes)
    {upstream : Bytes}
    (served : Serves reader.source upstream)
    (hasRoom : reader.HasRoom (reader.inputRead + upstream.length))
    (fits : reader.inputRead ≤ reader.inputLength)
    (short : reader.inputRead + upstream.length < maxLength) :
    reader.GathersAll chunks upstream (reader.gather scope chunks) := by
  fun_induction gather reader scope chunks generalizing upstream with
  | case1 reader chunks error full room =>
      have makes := (hasRoom_makeRoom scope hasRoom (Nat.le_add_right _ _)).1
      rw [room] at makes
      cases makes
  | case2 reader chunks roomy room source answer =>
      have roomier := roomier_of_makeRoom room
      have inputRead := roomier.inputRead
      have some := lt_of_makeRoom room fits (by omega)
      rw [← roomier.source] at served
      have nothing := served.eq_nil_of_read (by omega) answer
      subst nothing
      exact ⟨rfl, (List.append_nil _).symm, inputRead, roomier.sourceTotal⟩
  | case3 reader chunks roomy room byte rest source answer count buffered transferred =>
      rename_i ih
      have roomier := roomier_of_makeRoom room
      have inputRead := roomier.inputRead
      have some := lt_of_makeRoom room fits (by omega)
      have makes := (hasRoom_makeRoom scope hasRoom (Nat.le_add_right _ _)).2
      rw [room, ← inputRead] at makes
      have enough := Source.length_le _ _ _ _ answer
      rw [List.length_cons] at enough
      rw [← roomier.source] at served
      obtain ⟨left, rfl, behind⟩ := served.append_of_read (List.cons_ne_nil _ _) answer
      rw [List.length_append, List.length_cons] at makes short
      have total :
          buffered + left.length = roomy.inputRead + (rest.length + 1 + left.length) := by
        change roomy.inputRead + (rest.length + 1) + left.length = _
        omega
      have gathered := ih behind
        (by change roomy.HasRoom (buffered + left.length); rw [total]; exact makes)
        (by change roomy.inputRead + (rest.length + 1) ≤ roomy.inputLength; omega)
        (by change buffered + left.length < maxLength; omega)
      refine gathered.behind ?_ ?_
      · rw [← inputRead]
        rfl
      · rw [← roomier.sourceTotal]
        rfl
  | case4 reader chunks roomy room error source answer interrupted ih =>
      have roomier := roomier_of_makeRoom room
      have inputRead := roomier.inputRead
      have some := lt_of_makeRoom room fits (by omega)
      have makes := (hasRoom_makeRoom scope hasRoom (Nat.le_add_right _ _)).2
      rw [room, ← inputRead] at makes
      rw [← roomier.source] at served
      have gathered := ih (served.interrupted_of_read answer).2 makes
        (by change roomy.inputRead ≤ roomy.inputLength; omega)
        (by change roomy.inputRead + upstream.length < maxLength; omega)
      refine ⟨gathered.result, gathered.chunks, ?_, ?_⟩
      · rw [gathered.inputRead]
        change roomy.inputRead + _ = _
        rw [inputRead]
      · rw [gathered.sourceTotal]
        change roomy.sourceTotal + _ = _
        rw [roomier.sourceTotal]
  | case5 reader chunks roomy room error source answer terminal =>
      rw [← (roomier_of_makeRoom room).source] at served
      exact absurd (served.interrupted_of_read answer).1 terminal

/-- A stream that has read nothing from a source that serves some bytes. -/
structure Unread
    [Source σ]
    (reader : Reader σ ε)
    (upstream : Bytes) :
    Prop where
  served : Serves reader.source upstream
  inputOffset : reader.inputOffset = 0
  inputRead : reader.inputRead = 0
  sourceTotal : reader.sourceTotal = 0
  sourceDone : reader.sourceDone = false

/-- A stream that has gathered some bytes, and has the end of them still to be consumed. -/
structure Filled
    (reader : Reader σ ε)
    (upstream : Bytes) :
    Prop where
  unread : reader.unread = upstream.drop reader.inputOffset
  offset : reader.inputOffset ≤ upstream.length
  inputRead : reader.inputRead = upstream.length
  sourceTotal : reader.sourceTotal = upstream.length
  sourceDone : reader.sourceDone = true

theorem Filled.available
    {reader : Reader σ ε}
    {upstream : Bytes}
    (filled : reader.Filled upstream) :
    reader.inputRead - reader.inputOffset = reader.unread.length := by
  rw [filled.inputRead, filled.unread, List.length_drop]

/-- A filled input is exhausted when nothing is unread. -/
theorem Filled.exhausted_iff
    {reader : Reader σ ε}
    {upstream : Bytes}
    (filled : reader.Filled upstream) :
    reader.inputExhausted = true ↔ reader.unread = [] := by
  have available := filled.available
  have offset := filled.offset
  rw [inputExhausted, beq_iff_eq, ← List.length_eq_zero_iff, ← available, filled.inputRead]
  omega

/-- Ensuring the input of a stream that has read nothing fills it; there must be some. -/
theorem ensureInput_of_unread
    [Source σ]
    {reader : Reader σ ε}
    {upstream : Bytes}
    (scope : Scope)
    (unread : reader.Unread upstream)
    (hasRoom : reader.HasRoom upstream.length)
    (short : upstream.length < maxLength) :
    ∃ filled,
      reader.ensureInput scope =
          (if upstream = [] then .error .emptyBuffer else .ok (), filled) ∧
        SameOutput filled reader ∧
        filled.Filled upstream ∧
        filled.inputOffset = 0 := by
  have empty : (reader.inputExhausted && !reader.sourceDone) = true := by
    simp [inputExhausted, unread.inputOffset, unread.inputRead, unread.sourceDone]
  have gathers :=
    gathersAll_of_serves { reader with inputOffset := 0, inputRead := 0, unread := [] }
      (scope ++ ["input"]) [] unread.served (by rw [Nat.zero_add]; exact hasRoom) (Nat.zero_le _)
      (by rw [Nat.zero_add]; exact short)
  have output :=
    sameOutput_gather { reader with inputOffset := 0, inputRead := 0, unread := [] }
      (scope ++ ["input"]) []
  have done := gather_sourceDone { reader with inputOffset := 0, inputRead := 0, unread := [] }
    (scope ++ ["input"]) [] gathers.result
  unfold ensureInput
  rw [if_pos empty]
  unfold fillInput
  dsimp only
  cases gathering :
      gather { reader with inputOffset := 0, inputRead := 0, unread := [] }
        (scope ++ ["input"]) [] with
  | mk outcome left =>
      obtain ⟨chunks, gathered⟩ := left
      rw [gathering] at gathers output done
      obtain ⟨result, content, inputRead, sourceTotal⟩ := gathers
      obtain ⟨same, offset⟩ := output
      dsimp only at result content inputRead sourceTotal offset done
      rw [Nat.zero_add] at inputRead
      rw [unread.sourceTotal, Nat.zero_add] at sourceTotal
      subst result
      refine ⟨{ gathered with unread := chunks.reverse.flatten }, ?_, ?_, ⟨?_, ?_, inputRead,
        sourceTotal, done⟩, offset⟩
      · dsimp only
        rw [sourceTotal]
        by_cases nothing : upstream = []
        · simp [nothing]
        · simp [nothing]
      · exact .trans (by constructor <;> rfl) (same.trans (by constructor <;> rfl))
      · change chunks.reverse.flatten = upstream.drop gathered.inputOffset
        rw [offset, content]
        rfl
      · change gathered.inputOffset ≤ _
        rw [offset]
        exact Nat.zero_le _

/-- A filled input is there already. -/
theorem ensureInput_of_filled
    [Source σ]
    {reader : Reader σ ε}
    {upstream : Bytes}
    (scope : Scope)
    (filled : reader.Filled upstream)
    (nonempty : upstream ≠ []) :
    reader.ensureInput scope = (.ok (), reader) := by
  unfold ensureInput
  have done : (reader.inputExhausted && !reader.sourceDone) = false := by
    simp [filled.sourceDone]
  rw [done, filled.sourceTotal]
  simp [nonempty]

end Reader

end MemberStream
