import MemberStream.Proofs.Reader.Refinement

namespace MemberStream

/-!
# Reading to the end

When a read comes to the end of a stream, all of the source has been consumed
and all of the contents have been delivered, and the figures of the reader say
so.
-/

variable {encoders : Encoders}

namespace Reader

variable {σ : Type} [Source σ]

/-- A reader has consumed a whole source and delivered all of its contents. -/
structure Exhausts
    (upstream delivered : Bytes)
    (reader : Reader σ (MemberEngine encoders)) :
    Prop where
  crc : reader.crc = Crc32.empty.update delivered
  bytesIn : reader.counters.bytesIn = UInt64.ofNat upstream.length
  bytesOut : reader.counters.bytesOut = UInt64.ofNat delivered.length

/-- A delivery that owes nothing exhausts the source. -/
theorem exhausts_of_deliver
    (reader : Reader σ (MemberEngine encoders))
    (scope : Scope)
    (wanted : Nat)
    (before : Bytes)
    {parameters : ParameterSet}
    {upstream delivered : Bytes}
    (underway : reader.Underway parameters upstream delivered [] none)
    (short : upstream.length < 2 ^ (63 : Nat))
    (some : wanted ≠ 0) :
    (reader.deliver scope wanted before).2.Exhausts upstream delivered := by
  have nothing : ([] : Bytes).length < 2 ^ 63 := Nat.two_pow_pos 63
  have roomy := parameters.roomy_of_short upstream nothing
  fun_induction deliver reader scope wanted before with
  | case1 reader before =>
      exact absurd rfl some
  | case2 reader wanted before _ bytes next takes ih =>
      have pays := pays_of_round underway short roomy scope wanted
      obtain ⟨more, -⟩ := length_of_took takes (Nat.pos_of_ne_zero some)
      rw [takes] at pays
      obtain ⟨left, none, -⟩ := pays
      rw [(List.append_eq_nil_iff.mp none.symm).1] at more
      exact absurd more (Nat.lt_irrefl 0)
  | case3 reader wanted before _ next moves ih =>
      have pays := pays_of_round underway short roomy scope wanted
      rw [moves] at pays
      exact ih pays some
  | case4 reader wanted before _ last ends =>
      have pays := pays_of_round underway short roomy scope wanted
      rw [ends] at pays
      obtain ⟨-, -, ⟨-, owes, accounts⟩, consumed⟩ := pays
      have drained : last.window = [] := by
        cases owes with
        | unread unread empty idle owed =>
            exact empty
        | filled filled nonempty reached parked content failure =>
            exact (List.append_eq_nil_iff.mp content.symm).1
      refine ⟨accounts.crc, ?_, ?_⟩
      · rw [accounts.bytesIn, consumed]
      · rw [accounts.bytesOut, drained, List.length_nil, Nat.add_zero]
  | case5 reader wanted before _ error last fails =>
      have pays := pays_of_round underway short roomy scope wanted
      rw [fails] at pays
      obtain ⟨-, none, -⟩ := pays
      cases none

/-- A read of a reader that owes nothing exhausts the source. -/
theorem exhausts_of_stands
    {reader : Reader σ (MemberEngine encoders)}
    {parameters : ParameterSet}
    {upstream delivered : Bytes}
    {size : Nat}
    (stands : reader.Stands parameters upstream delivered [] none)
    (short : upstream.length < 2 ^ (63 : Nat))
    (some : size ≠ 0) :
    (reader.readChunk size).2.Exhausts upstream delivered := by
  cases stands with
  | idle phase unfailed starts accounts =>
      obtain ⟨started, same, underway⟩ := starts reader.scope
      rw [readChunk_of_ready (ready_of_starts unfailed phase same)]
      exact exhausts_of_deliver _ _ size [] underway short some
  | underway underway =>
      have decompresses := underway.decompresses
      rw [readChunk_of_ready (ready_of_active decompresses.failure decompresses.phase _)]
      exact exhausts_of_deliver _ _ size [] underway short some
  | failed failure drained same accounts =>
      cases same

end Reader

end MemberStream
