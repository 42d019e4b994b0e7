import MemberStream.Deflate.Member
import MemberStream.Proofs.Bits.SelfDelimiting

namespace MemberStream

/-!
# Deflate members delimit themselves

Every part of a deflate body and of a gzip member is read without looking ahead.
A member that is read takes up an octet at least, and no more than there are.
-/

open BitStream

namespace HuffmanTree

/-- A symbol is told by the bits on the way to its leaf. -/
theorem selfDelimiting_symbol
    (tree : HuffmanTree) :
    SelfDelimiting tree.symbol := by
  induction tree with
  | unassigned =>
      exact .malformed
  | leaf symbol =>
      exact .pure symbol
  | node zero one zeroCase oneCase =>
      exact .bind .bit (fun _ => .ite oneCase zeroCase)

end HuffmanTree

namespace Deflate

/-- A stored block does not look ahead. -/
theorem selfDelimiting_storedBlock
    (history : History) :
    SelfDelimiting (storedBlock history) :=
  .bind (.word 2) fun _ =>
    .bind (.word 2) fun _ =>
      .bind (.require _ _) fun _ =>
        .bind (.octets _) fun _ =>
          .pure _

/-- The value of a range does not look ahead. -/
theorem selfDelimiting_rangeValue
    (ranges : List (Nat × Nat))
    (symbol : Nat) :
    SelfDelimiting (rangeValue ranges symbol) := by
  unfold rangeValue
  split
  · exact .bind (.number _) (fun _ => .pure _)
  · exact .malformed

/-- An item of a compressed block does not look ahead. -/
theorem selfDelimiting_token
    (codes : BlockCodes) :
    SelfDelimiting (token codes) :=
  .bind codes.literals.selfDelimiting_symbol fun _ =>
    .ite (.pure _) <|
      .ite (.pure _) <|
        .bind (selfDelimiting_rangeValue _ _) fun _ =>
          .bind codes.distances.selfDelimiting_symbol fun _ =>
            .bind (selfDelimiting_rangeValue _ _) fun _ =>
              .pure _

/-- A compressed block does not look ahead. -/
theorem selfDelimiting_compressedBlock
    (codes : BlockCodes)
    (history : History) :
    SelfDelimiting (compressedBlock codes history) := by
  refine .iterate (fun history => .bind (selfDelimiting_token codes) fun item => ?_) history
  split
  · exact .pure _
  · exact .pure _
  · exact .pure _

/-- The code lengths of code lengths do not look ahead. -/
theorem selfDelimiting_lengthCodeLengths
    (order : List Nat) :
    SelfDelimiting (lengthCodeLengths order) := by
  induction order with
  | nil =>
      exact .pure []
  | cons symbol rest ih =>
      exact .bind (.number 3) (fun _ => .bind ih (fun _ => .pure _))

/-- Code lengths do not look ahead. -/
theorem selfDelimiting_codeLengths
    (code : HuffmanTree)
    (total : Nat) :
    SelfDelimiting (codeLengths code total) := by
  have enough (extended : List Nat) :
      SelfDelimiting
        (if extended.length < total then
          (Pure.pure (.again extended) : Decoder (Decoder.Round (List Nat) (List Nat)))
        else do
          Decoder.require (extended.length == total) .decodeFailed
          return .stop extended.reverse) :=
    .ite (.pure _) (.bind (.require _ _) (fun _ => .pure _))
  refine .iterate (fun lengths => .bind code.selfDelimiting_symbol fun symbol => ?_) []
  refine .ite (.bind (.pure _) enough) (.ite ?_ (.ite ?_ ?_))
  · split
    · exact .bind .malformed enough
    · exact .bind (.number 2) (fun _ => .bind (.pure _) enough)
  · exact .bind (.number 3) (fun _ => .bind (.pure _) enough)
  · exact .bind (.number 7) (fun _ => .bind (.pure _) enough)

/-- The codes of a block do not look ahead. -/
theorem selfDelimiting_dynamicCodes :
    SelfDelimiting dynamicCodes :=
  .bind (.number 5) fun _ =>
    .bind (.number 5) fun _ =>
      .bind (.number 4) fun _ =>
        .bind (.require _ _) fun _ =>
          .bind (selfDelimiting_lengthCodeLengths _) fun _ =>
            .bind (.require _ _) fun _ =>
              .bind (selfDelimiting_codeLengths _ _) fun _ =>
                .bind (.require _ _) fun _ =>
                  .pure _

/-- A block does not look ahead. -/
theorem selfDelimiting_block
    (history : History) :
    SelfDelimiting (block history) := by
  refine .bind .bit fun last => .bind (.number 2) fun kind => ?_
  dsimp only
  split
  · exact .bind (selfDelimiting_storedBlock history) (fun _ => .pure _)
  · exact .bind (selfDelimiting_compressedBlock _ history) (fun _ => .pure _)
  · exact
      .bind selfDelimiting_dynamicCodes fun _ =>
        .bind (selfDelimiting_compressedBlock _ history) fun _ => .pure _
  · exact .bind .malformed (fun _ => .pure _)

theorem selfDelimiting_body :
    SelfDelimiting body :=
  .iterate (fun history => .bind (selfDelimiting_block history) fun _ =>
    .ite (.pure _) (.pure _)) #[]

theorem selfDelimiting_terminatedText :
    SelfDelimiting terminatedText :=
  .iterate (fun _ => .bind .octet fun _ =>
    .ite (.pure _) (.bind (.require _ _) (fun _ => .pure _))) (0, [])

theorem selfDelimiting_extraField :
    SelfDelimiting extraField :=
  .bind (.octets 2) fun _ => .bind (.octets _) fun _ => .pure _

theorem selfDelimiting_optionalField
    (present : Bool)
    {field : Decoder Bytes}
    (delimiting : SelfDelimiting field) :
    SelfDelimiting (optionalField present field) :=
  .ite delimiting (.pure [])

theorem selfDelimiting_headerChecksum
    (header : Bytes) :
    SelfDelimiting (headerChecksum header) :=
  .bind (.octets 2) fun _ => .bind (.require _ _) fun _ => .pure _

/-- A gzip header does not look ahead. -/
theorem selfDelimiting_gzipHead :
    SelfDelimiting gzipHead := by
  refine .bind (.octets _) fun head => .bind (.require _ _) fun _ =>
    .bind (.require _ _) fun _ => ?_
  split
  · exact .malformed
  · exact
      .bind (selfDelimiting_optionalField _ selfDelimiting_extraField) fun _ =>
        .bind (selfDelimiting_optionalField _ selfDelimiting_terminatedText) fun _ =>
          .bind (selfDelimiting_optionalField _ selfDelimiting_terminatedText) fun _ =>
            .bind (selfDelimiting_optionalField _ (selfDelimiting_headerChecksum _)) fun _ =>
              .pure _

/-- A gzip member does not look ahead. -/
theorem selfDelimiting_gzipMember :
    SelfDelimiting gzipMember :=
  .bind selfDelimiting_gzipHead fun _ =>
    .bind selfDelimiting_body fun _ =>
      .bind (.word 4) fun _ =>
        .bind (.word 4) fun _ =>
          .bind (.require _ _) fun _ =>
            .bind (.require _ _) fun _ =>
              .pure _

/-- There is no body in nothing. -/
theorem body_nothing
    (history : History)
    (rest : BitStream) :
    body (behind [] []) ≠ .done history rest := by
  unfold body blocks
  rw [Decoder.iterate]
  intro same
  cases same

theorem gzipMember_nothing
    (content : Bytes)
    (rest : BitStream) :
    gzipMember (behind [] []) ≠ .done content rest :=
  nofun

/-- A bare body that is read takes up an octet at least, and no more than there are. -/
theorem decodeRaw_bounds
    {input content : Bytes}
    {length : Nat}
    (decoded : decodeRaw input = .ok (length, content)) :
    1 ≤ length ∧ length ≤ input.length := by
  unfold decodeRaw at decoded
  dsimp only at decoded
  split at decoded
  · rename_i history rest accepted
    cases decoded
    have shorter := selfDelimiting_body.length_lt_of_accepts body_nothing accepted
    rw [rest.octetsLeft_eq]
    omega
  · cases decoded
  · cases decoded

/-- A body behind its length takes up an octet at least, and no more than there are. -/
theorem decodePrefixed_bounds
    {input content : Bytes}
    {length : Nat}
    (decoded : decodePrefixed input = .ok (length, content)) :
    1 ≤ length ∧ length ≤ input.length := by
  unfold decodePrefixed splitBytes? at decoded
  dsimp only at decoded
  split at decoded
  · cases decoded
  · rename_i first
    split at first
    · rename_i enough
      cases first
      split at decoded
      · cases decoded
      · rename_i second
        split at second
        · rename_i fits
          cases second
          split at decoded
          · cases decoded
            rw [List.length_take] at enough
            rw [List.length_take, List.length_drop] at fits
            omega
          · cases decoded
        · cases second
    · cases first

/-- A gzip member takes up an octet at least, and no more than there are. -/
theorem decodeGzip_bounds
    {input content : Bytes}
    {length : Nat}
    (decoded : decodeGzip input = .ok (length, content)) :
    1 ≤ length ∧ length ≤ input.length := by
  unfold decodeGzip at decoded
  dsimp only at decoded
  split at decoded
  · cases decoded
  · split at decoded
    · rename_i rest accepted
      cases decoded
      have shorter := selfDelimiting_gzipMember.length_lt_of_accepts gzipMember_nothing accepted
      rw [rest.octetsLeft_eq]
      omega
    · cases decoded
    · cases decoded

/-- A member takes up an octet at least, and no more than there are. -/
theorem decodeMember_bounds
    {format : DeflateFormat}
    {input content : Bytes}
    {length : Nat}
    (decoded : decodeMember format input = .ok (length, content)) :
    1 ≤ length ∧ length ≤ input.length := by
  cases format with
  | raw =>
      exact decodeRaw_bounds decoded
  | lengthPrefixed =>
      exact decodePrefixed_bounds decoded
  | gzip =>
      exact decodeGzip_bounds decoded
  | gzipExtended =>
      exact decodeGzip_bounds decoded

end Deflate

end MemberStream
