import MemberStream.Proofs.Bits.Reading

namespace MemberStream

/-!
# Self-delimiting decoders

A decoder is self-delimiting if it never looks ahead of what it consumes: a
value that it accepts is told by the octets it takes up, whatever is behind
them, and a refusal stands whatever is behind what was read.  The decoders that
are put together from bits and octets are all of this kind.
-/

open BitStream

/-- A decoder that does not look ahead of what it consumes. -/
structure SelfDelimiting
    {α : Type}
    (decoder : Decoder α) :
    Prop where
  /-- A value is told by the octets it takes up. -/
  accepts :
    ∀ held bytes value rest,
      decoder (behind held bytes) = .done value rest →
        ∃ used,
          bytes = used ++ rest.bytes ∧
            ∀ more,
              decoder (behind held (used ++ more)) = .done value (behind rest.held more)
  /-- A refusal does not depend on what is behind. -/
  refuses :
    ∀ held bytes failure,
      decoder (behind held bytes) = .refused failure →
        ∀ more, decoder (behind held (bytes ++ more)) = .refused failure

namespace SelfDelimiting

variable {α β : Type}

/-- Nothing is read for a value that is given. -/
theorem pure
    (value : α) :
    SelfDelimiting (Pure.pure value : Decoder α) where
  accepts := by
    intro held bytes given rest accepted
    cases accepted
    exact ⟨[], rfl, fun more => rfl⟩
  refuses := by
    intro held bytes failure refused
    cases refused

/-- What follows a value does not look ahead either. -/
theorem bind
    {decoder : Decoder α}
    {next : α → Decoder β}
    (first : SelfDelimiting decoder)
    (second : ∀ value, SelfDelimiting (next value)) :
    SelfDelimiting (decoder >>= next) where
  accepts := by
    intro held bytes value rest accepted
    change Decoder.bind decoder next (behind held bytes) = _ at accepted
    unfold Decoder.bind at accepted
    split at accepted
    · rename_i middle left front
      obtain ⟨used, rfl, whatever⟩ := first.accepts _ _ _ _ front
      rw [← behind_held_bytes left] at accepted
      obtain ⟨more, rest_eq, later⟩ := (second middle).accepts _ _ _ _ accepted
      refine ⟨used ++ more, by rw [rest_eq, List.append_assoc], ?_⟩
      intro other
      change Decoder.bind decoder next _ = _
      rw [Decoder.bind, List.append_assoc, whatever (more ++ other)]
      exact later other
    · cases accepted
    · cases accepted
  refuses := by
    intro held bytes failure refused more
    change Decoder.bind decoder next (behind held bytes) = _ at refused
    change Decoder.bind decoder next _ = _
    unfold Decoder.bind at refused
    split at refused
    · rename_i middle left front
      obtain ⟨used, rfl, whatever⟩ := first.accepts _ _ _ _ front
      rw [← behind_held_bytes left] at refused
      rw [Decoder.bind, List.append_assoc, whatever (left.bytes ++ more)]
      exact (second middle).refuses _ _ _ refused more
    · rename_i front
      cases refused
      rw [Decoder.bind, first.refuses _ _ _ front more]
    · cases refused

/-- A refusal reads nothing. -/
theorem refuse
    (failure : CodecFailure) :
    SelfDelimiting (Decoder.refuse failure : Decoder α) where
  accepts := by
    intro held bytes value rest accepted
    cases accepted
  refuses := by
    intro held bytes given refused more
    exact refused

theorem malformed :
    SelfDelimiting (Decoder.malformed : Decoder α) :=
  refuse .decodeFailed

/-- A condition on what has been read reads nothing more. -/
theorem require
    (condition : Bool)
    (failure : CodecFailure) :
    SelfDelimiting (Decoder.require condition failure) := by
  unfold Decoder.require
  split
  · exact pure ()
  · exact refuse failure

theorem ite
    {condition : Prop}
    [Decidable condition]
    {first second : Decoder α}
    (yes : SelfDelimiting first)
    (no : SelfDelimiting second) :
    SelfDelimiting (if condition then first else second) := by
  split
  · exact yes
  · exact no

/-- A bit is told by the octet it is in. -/
theorem bit :
    SelfDelimiting Decoder.bit where
  accepts := by
    intro held bytes value rest accepted
    cases held with
    | cons first held =>
        cases accepted
        exact ⟨[], rfl, fun more => rfl⟩
    | nil =>
        cases bytes with
        | nil =>
            cases accepted
        | cons byte bytes =>
            cases accepted
            exact ⟨[byte], rfl, fun more => rfl⟩
  refuses := by
    intro held bytes failure refused
    cases held with
    | cons first held =>
        cases refused
    | nil =>
        cases bytes with
        | nil =>
            cases refused
        | cons byte bytes =>
            cases refused

/-- Octets are told by themselves. -/
theorem octets
    (count : Nat) :
    SelfDelimiting (Decoder.octets count) where
  accepts := by
    intro held bytes value rest accepted
    simp only [Decoder.octets, take?] at accepted
    split at accepted
    · rename_i taken left found
      split at found
      · rename_i enough
        cases found
        cases accepted
        change count ≤ bytes.length at enough
        refine ⟨bytes.take count, (List.take_append_drop count bytes).symm, ?_⟩
        intro more
        have length : (bytes.take count).length = count := by
          rw [List.length_take, Nat.min_eq_left enough]
        have whole := Decoder.octets_append held (bytes.take count) more
        rw [length] at whole
        exact whole
      · cases found
    · cases accepted
  refuses := by
    intro held bytes failure refused
    simp only [Decoder.octets] at refused
    split at refused
    · cases refused
    · cases refused

theorem octet :
    SelfDelimiting Decoder.octet :=
  bind (octets 1) (fun _ => pure _)

theorem word
    (width : Nat) :
    SelfDelimiting (Decoder.word width) :=
  bind (octets width) (fun _ => pure _)

/-- A number is told by its bits. -/
theorem number
    (width : Nat) :
    SelfDelimiting (Decoder.number width) := by
  induction width with
  | zero =>
      exact pure 0
  | succ width ih =>
      exact bind bit (fun _ => bind ih (fun _ => pure _))

/-- What follows `held` bits of a stream depends on nothing behind a loop's last round. -/
theorem accepts_iterate
    {σ ρ : Type}
    {round : σ → Decoder (Decoder.Round σ ρ)}
    (each : ∀ state, SelfDelimiting (round state))
    (state : σ)
    (stream : BitStream)
    {result : ρ}
    {rest : BitStream}
    (accepted : Decoder.iterate round state stream = .done result rest) :
    ∃ used,
      stream.bytes = used ++ rest.bytes ∧
        ∀ more,
          Decoder.iterate round state (behind stream.held (used ++ more)) =
            .done result (behind rest.held more) := by
  fun_induction Decoder.iterate round state stream with
  | case1 state stream next left front consumed ih =>
      rw [← behind_held_bytes stream] at front
      obtain ⟨used, bytes_eq, whatever⟩ := (each state).accepts _ _ _ _ front
      obtain ⟨later, left_eq, behindLater⟩ := ih accepted
      refine ⟨used ++ later, by rw [bytes_eq, left_eq, List.append_assoc], ?_⟩
      intro more
      -- The loop asks how much a round has consumed, and that does not depend on what is behind.
      have less : (behind left.held (later ++ more)).size <
          (behind stream.held (used ++ later ++ more)).size := by
        rw [← behind_held_bytes left, ← behind_held_bytes stream, bytes_eq, left_eq] at consumed
        simp only [size_behind, List.length_append] at consumed ⊢
        omega
      rw [List.append_assoc] at less ⊢
      rw [Decoder.iterate_again (whatever (later ++ more)) less]
      exact behindLater more
  | case2 =>
      cases accepted
  | case3 state stream result left front =>
      cases accepted
      rw [← behind_held_bytes stream] at front
      obtain ⟨used, bytes_eq, whatever⟩ := (each state).accepts _ _ _ _ front
      exact ⟨used, bytes_eq, fun more => Decoder.iterate_stop (whatever more)⟩
  | case4 =>
      cases accepted
  | case5 =>
      cases accepted

/-- A loop that refuses does so whatever is behind. -/
theorem refuses_iterate
    {σ ρ : Type}
    {round : σ → Decoder (Decoder.Round σ ρ)}
    (each : ∀ state, SelfDelimiting (round state))
    (state : σ)
    (stream : BitStream)
    {failure : CodecFailure}
    (refused : Decoder.iterate round state stream = .refused failure)
    (more : Bytes) :
    Decoder.iterate round state (behind stream.held (stream.bytes ++ more)) =
      .refused failure := by
  fun_induction Decoder.iterate round state stream with
  | case1 state stream next left front consumed ih =>
      rw [← behind_held_bytes stream] at front
      obtain ⟨used, bytes_eq, whatever⟩ := (each state).accepts _ _ _ _ front
      have later := ih refused
      have less : (behind left.held (left.bytes ++ more)).size <
          (behind stream.held (used ++ (left.bytes ++ more))).size := by
        rw [← behind_held_bytes left, ← behind_held_bytes stream, bytes_eq] at consumed
        simp only [size_behind, List.length_append] at consumed ⊢
        omega
      rw [bytes_eq, List.append_assoc,
        Decoder.iterate_again (whatever (left.bytes ++ more)) less]
      exact later
  | case2 state stream next left front stuck =>
      cases refused
      rw [← behind_held_bytes stream] at front
      obtain ⟨used, bytes_eq, whatever⟩ := (each state).accepts _ _ _ _ front
      have still : ¬ (behind left.held (left.bytes ++ more)).size <
          (behind stream.held (used ++ (left.bytes ++ more))).size := by
        rw [← behind_held_bytes left, ← behind_held_bytes stream, bytes_eq] at stuck
        simp only [size_behind, List.length_append] at stuck ⊢
        omega
      rw [bytes_eq, List.append_assoc, Decoder.iterate, whatever (left.bytes ++ more)]
      dsimp only
      rw [if_neg still]
  | case3 =>
      cases refused
  | case4 state stream failure front =>
      cases refused
      rw [← behind_held_bytes stream] at front
      rw [Decoder.iterate, (each state).refuses _ _ _ front more]
  | case5 =>
      cases refused

/-- A loop does not look ahead if none of its rounds does. -/
theorem iterate
    {σ ρ : Type}
    {round : σ → Decoder (Decoder.Round σ ρ)}
    (each : ∀ state, SelfDelimiting (round state))
    (state : σ) :
    SelfDelimiting (Decoder.iterate round state) where
  accepts := by
    intro held bytes result rest accepted
    exact accepts_iterate each state (behind held bytes) accepted
  refuses := by
    intro held bytes failure refused more
    exact refuses_iterate each state (behind held bytes) refused more

/-- Decoding a piece that has been cut out leaves the stream alone. -/
theorem within
    (piece : BitStream)
    (decoder : Decoder α) :
    SelfDelimiting (Decoder.within piece decoder) where
  accepts := by
    intro held bytes value rest accepted
    simp only [Decoder.within] at accepted
    split at accepted
    · rename_i front
      cases accepted
      refine ⟨[], rfl, fun more => ?_⟩
      simp only [Decoder.within, front, List.nil_append]
      rfl
    · cases accepted
    · cases accepted
  refuses := by
    intro held bytes failure refused more
    simp only [Decoder.within] at refused ⊢
    split at refused
    · cases refused
    · exact refused
    · exact refused

/-- A value that is told by an octet at least is not there without one. -/
theorem length_lt_of_accepts
    {decoder : Decoder α}
    (delimiting : SelfDelimiting decoder)
    (needy : ∀ value rest, decoder (behind [] []) ≠ .done value rest)
    {bytes : Bytes}
    {value : α}
    {rest : BitStream}
    (accepted : decoder (behind [] bytes) = .done value rest) :
    rest.bytes.length < bytes.length := by
  obtain ⟨used, bytes_eq, whatever⟩ := delimiting.accepts _ _ _ _ accepted
  cases used with
  | nil =>
      exact absurd (whatever []) (needy _ _)
  | cons byte used =>
      rw [bytes_eq, List.length_append, List.length_cons]
      omega

end SelfDelimiting

end MemberStream
