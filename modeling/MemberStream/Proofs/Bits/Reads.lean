import MemberStream.Proofs.Bits.Reading

namespace MemberStream

/-!
# Reading written octets

`Reads` relates a decoder to the octets that are written for a value: whatever
follows them, the decoder takes up these octets and gives the value.  A stream
may stand in the middle of an octet before or behind them; octets are read from
the next boundary on.
-/

open BitStream

/-- A word that does not fit its width is written without its highest octets. -/
theorem ofLittleEndian_littleEndian_mod
    (width value : Nat) :
    ofLittleEndian (littleEndian width value) = value % 256 ^ width := by
  induction width generalizing value with
  | zero =>
      rw [Nat.pow_zero, Nat.mod_one]
      rfl
  | succ width ih =>
      have lowest : (UInt8.ofNat value).toNat = value % 256 :=
        UInt8.toNat_ofNat'
      rw [littleEndian, ofLittleEndian, ih, lowest, Nat.pow_succ, Nat.mul_comm (256 ^ width),
        Nat.mod_mul]

/-- Where in an octet a stream stands. -/
inductive Place
  | boundary
  | anywhere
  deriving Repr, DecidableEq

/-- The bits that a stream may hold at a place. -/
def Place.Admits : Place → List Bool → Prop
  | .boundary, held =>
      held = []
  | .anywhere, held =>
      held.length < 8

/-- A stream never holds a whole octet. -/
theorem Place.Admits.short
    {place : Place}
    {held : List Bool}
    (admits : place.Admits held) :
    held.length < 8 := by
  cases place with
  | boundary =>
      rw [show held = [] from admits]
      exact Nat.zero_lt_succ 7
  | anywhere =>
      exact admits

/-- From one place to another a decoder reads a value from the octets written for it. -/
def Reads
    {α : Type}
    (before after : Place)
    (decoder : Decoder α)
    (value : α)
    (written : Bytes) :
    Prop :=
  ∀ held more,
    before.Admits held →
      ∃ left,
        after.Admits left ∧
          decoder (behind held (written ++ more)) = .done value (behind left more)

namespace Reads

variable {α β : Type} {before between after : Place}

theorem pure
    (value : α) :
    Reads before before (Pure.pure value : Decoder α) value [] := by
  intro held more admits
  exact ⟨held, admits, rfl⟩

/-- What is read one after the other is written one behind the other. -/
theorem bind
    {decoder : Decoder α}
    {next : α → Decoder β}
    {value : α}
    {result : β}
    {front back : Bytes}
    (first : Reads before between decoder value front)
    (second : Reads between after (next value) result back) :
    Reads before after (decoder >>= next) result (front ++ back) := by
  intro held more admits
  obtain ⟨middle, here, reads⟩ := first held (back ++ more) admits
  obtain ⟨left, there, readsOn⟩ := second middle more here
  refine ⟨left, there, ?_⟩
  rw [List.append_assoc, Decoder.bind_done reads]
  exact readsOn

theorem last
    {decoder : Decoder α}
    {next : α → Decoder β}
    {value : α}
    {result : β}
    {written : Bytes}
    (reads : Reads before between decoder value written)
    (goesOn : Reads between after (next value) result []) :
    Reads before after (decoder >>= next) result written := by
  have all := reads.bind goesOn
  rw [List.append_nil] at all
  exact all

theorem silent
    {decoder : Decoder α}
    {next : α → Decoder β}
    {value : α}
    {result : β}
    {written : Bytes}
    (quiet : Reads before between decoder value [])
    (reads : Reads between after (next value) result written) :
    Reads before after (decoder >>= next) result written :=
  quiet.bind reads

theorem ending
    {decoder : Decoder α}
    {value : α}
    {written : Bytes}
    (reads : Reads before .boundary decoder value written) :
    Reads before .anywhere decoder value written := by
  intro held more admits
  obtain ⟨left, there, done⟩ := reads held more admits
  exact ⟨left, there.short, done⟩

theorem require
    {condition : Bool}
    (failure : CodecFailure)
    (holds : condition = true) :
    Reads before before (Decoder.require condition failure) () [] := by
  rw [Decoder.require, if_pos holds]
  exact pure ()

theorem first
    {condition : Prop}
    [Decidable condition]
    {chosen other : Decoder α}
    {value : α}
    {written : Bytes}
    (holds : condition)
    (reads : Reads before after chosen value written) :
    Reads before after (if condition then chosen else other) value written := by
  rw [if_pos holds]
  exact reads

theorem second
    {condition : Prop}
    [Decidable condition]
    {chosen other : Decoder α}
    {value : α}
    {written : Bytes}
    (fails : ¬ condition)
    (reads : Reads before after other value written) :
    Reads before after (if condition then chosen else other) value written := by
  rw [if_neg fails]
  exact reads

theorem octets
    (written : Bytes) :
    Reads before .boundary (Decoder.octets written.length) written written := by
  intro held more _
  exact ⟨[], rfl, Decoder.octets_append held written more⟩

theorem octets_of_length
    {count : Nat}
    {written : Bytes}
    (same : written.length = count) :
    Reads before .boundary (Decoder.octets count) written written :=
  same ▸ octets written

theorem octet
    (byte : UInt8) :
    Reads before .boundary Decoder.octet byte [byte] :=
  bind (octets [byte]) (pure byte)

/-- A word is read without its highest octets if it does not fit its width. -/
theorem wordMod
    (width value : Nat) :
    Reads before .boundary (Decoder.word width) (value % 256 ^ width)
      (littleEndian width value) := by
  have taken : Reads before .boundary _ _ _ := octets (littleEndian width value)
  rw [length_littleEndian] at taken
  have all : Reads before .boundary (Decoder.word width)
      (ofLittleEndian (littleEndian width value)) (littleEndian width value ++ []) :=
    bind taken (pure _)
  rw [List.append_nil, ofLittleEndian_littleEndian_mod] at all
  exact all

theorem word
    {width value : Nat}
    (fits : value < 256 ^ width) :
    Reads before .boundary (Decoder.word width) value (littleEndian width value) := by
  have reads : Reads before .boundary _ _ _ := wordMod width value
  rw [Nat.mod_eq_of_lt fits] at reads
  exact reads

/-- Rounds that are read one after the other are written one behind the other. -/
theorem again
    {σ ρ : Type}
    {round : σ → Decoder (Decoder.Round σ ρ)}
    {state next : σ}
    {result : ρ}
    {front back : Bytes}
    (first : Reads before between (round state) (.again next) front)
    (some : front ≠ [])
    (others : Reads between after (Decoder.iterate round next) result back) :
    Reads before after (Decoder.iterate round state) result (front ++ back) := by
  intro held more admits
  obtain ⟨middle, here, reads⟩ := first held (back ++ more) admits
  obtain ⟨left, there, readsOn⟩ := others middle more here
  refine ⟨left, there, ?_⟩
  have less : (behind middle (back ++ more)).size <
      (behind held (front ++ (back ++ more))).size := by
    have positive := List.length_pos_iff.mpr some
    have short := here.short
    simp only [size_behind, List.length_append]
    omega
  rw [List.append_assoc, Decoder.iterate_again reads less]
  exact readsOn

theorem stop
    {σ ρ : Type}
    {round : σ → Decoder (Decoder.Round σ ρ)}
    {state : σ}
    {result : ρ}
    {written : Bytes}
    (last : Reads before after (round state) (.stop result) written) :
    Reads before after (Decoder.iterate round state) result written := by
  intro held more admits
  obtain ⟨left, there, reads⟩ := last held more admits
  exact ⟨left, there, Decoder.iterate_stop reads⟩

/-- A piece that has been cut out is decoded apart. -/
theorem cut
    {decoder : Decoder α}
    {value : α}
    {piece rest : BitStream}
    (reads : decoder piece = .done value rest) :
    Reads before before (Decoder.within piece decoder) value [] := by
  intro held more admits
  refine ⟨held, admits, ?_⟩
  rw [Decoder.within, reads]
  rfl

theorem done
    {decoder : Decoder α}
    {value : α}
    {written : Bytes}
    (reads : Reads .boundary .boundary decoder value written)
    (more : Bytes) :
    decoder (behind [] (written ++ more)) = .done value (behind [] more) := by
  obtain ⟨_, rfl, done⟩ := reads [] more rfl
  exact done

theorem run
    {decoder : Decoder α}
    {value : α}
    {written : Bytes}
    (reads : Reads .boundary after decoder value written)
    (more : Bytes) :
    ∃ rest : BitStream,
      decoder.run (.ofBytes (written ++ more)) = .done value rest ∧
        rest.octetsLeft = more.length := by
  obtain ⟨left, -, done⟩ := reads [] more rfl
  exact ⟨behind left more, done, rfl⟩

/-- The end has not come before octets that are still to be read. -/
theorem more
    {next : Bool → Decoder α}
    {value : α}
    {written : Bytes}
    (reads : Reads before after (next false) value written)
    (some : written ≠ []) :
    Reads before after (Decoder.atEnd >>= next) value written := by
  intro held more admits
  obtain ⟨left, there, done⟩ := reads held more admits
  refine ⟨left, there, ?_⟩
  rw [← done]
  apply Decoder.bind_done
  cases written with
  | nil =>
      exact absurd rfl some
  | cons byte written =>
      change Outcome.done (held.isEmpty && false) _ = _
      rw [Bool.and_false]

end Reads

/-- A decoder reads a value from octets behind which there is nothing. -/
def ReadsToEnd
    {α : Type}
    (before : Place)
    (decoder : Decoder α)
    (value : α)
    (written : Bytes) :
    Prop :=
  ∀ held,
    before.Admits held →
      ∃ rest, decoder (behind held written) = .done value rest

namespace ReadsToEnd

variable {α β : Type} {before between : Place}

theorem pure
    (value : α)
    (written : Bytes) :
    ReadsToEnd before (Pure.pure value : Decoder α) value written :=
  fun held _ => ⟨behind held written, rfl⟩

/-- What is read to the end follows what is read before it. -/
theorem bind
    {decoder : Decoder α}
    {next : α → Decoder β}
    {value : α}
    {result : β}
    {front back : Bytes}
    (first : Reads before between decoder value front)
    (second : ReadsToEnd between (next value) result back) :
    ReadsToEnd before (decoder >>= next) result (front ++ back) := by
  intro held admits
  obtain ⟨middle, here, reads⟩ := first held back admits
  obtain ⟨rest, readsOn⟩ := second middle here
  refine ⟨rest, ?_⟩
  rw [Decoder.bind_done reads]
  exact readsOn

/-- At the end decoders that read nothing still go on. -/
theorem after
    {decoder : Decoder α}
    {next : α → Decoder β}
    {value : α}
    {result : β}
    {written : Bytes}
    (first : ReadsToEnd before decoder value written)
    (second : ∀ stream, next value stream = .done result stream) :
    ReadsToEnd before (decoder >>= next) result written := by
  intro held admits
  obtain ⟨rest, done⟩ := first held admits
  refine ⟨rest, ?_⟩
  rw [Decoder.bind_done done]
  exact second rest

/-- At the end there is nothing left. -/
theorem ended
    {next : Bool → Decoder α}
    {value : α}
    (reads : ReadsToEnd .boundary (next true) value []) :
    ReadsToEnd .boundary (Decoder.atEnd >>= next) value [] := by
  intro held admits
  obtain ⟨rest, done⟩ := reads held admits
  refine ⟨rest, ?_⟩
  rw [← done, show held = [] from admits]
  exact Decoder.bind_done rfl

/-- All octets that are left are taken at once. -/
theorem remainder
    {next : Bytes → Decoder α}
    {value : α}
    {written : Bytes}
    (reads : ReadsToEnd .boundary (next written) value []) :
    ReadsToEnd before (Decoder.remainder >>= next) value written := by
  intro held _
  obtain ⟨rest, done⟩ := reads [] rfl
  refine ⟨rest, ?_⟩
  rw [← done]
  exact Decoder.bind_done rfl

/-- Rounds that are read to the end follow those before them. -/
theorem again
    {σ ρ : Type}
    {round : σ → Decoder (Decoder.Round σ ρ)}
    {state next : σ}
    {result : ρ}
    {front back : Bytes}
    (first : Reads before between (round state) (.again next) front)
    (some : front ≠ [])
    (others : ReadsToEnd between (Decoder.iterate round next) result back) :
    ReadsToEnd before (Decoder.iterate round state) result (front ++ back) := by
  intro held admits
  obtain ⟨middle, here, reads⟩ := first held back admits
  obtain ⟨rest, readsOn⟩ := others middle here
  have less : (behind middle back).size < (behind held (front ++ back)).size := by
    have positive := List.length_pos_iff.mpr some
    have short := here.short
    simp only [size_behind, List.length_append]
    omega
  refine ⟨rest, ?_⟩
  rw [Decoder.iterate_again reads less]
  exact readsOn

theorem stop
    {σ ρ : Type}
    {round : σ → Decoder (Decoder.Round σ ρ)}
    {state : σ}
    {result : ρ}
    {written : Bytes}
    (last : ReadsToEnd before (round state) (.stop result) written) :
    ReadsToEnd before (Decoder.iterate round state) result written := by
  intro held admits
  obtain ⟨rest, reads⟩ := last held admits
  exact ⟨rest, Decoder.iterate_stop reads⟩

theorem within
    {decoder : Decoder α}
    {value : α}
    {written : Bytes}
    (reads : ReadsToEnd .boundary decoder value written) :
    Reads before before (Decoder.within (.ofBytes written) decoder) value [] := by
  obtain ⟨rest, done⟩ := reads [] rfl
  exact Reads.cut done

end ReadsToEnd

end MemberStream
