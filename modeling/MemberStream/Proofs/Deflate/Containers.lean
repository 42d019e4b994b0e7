import MemberStream.Proofs.Bits.Cutting
import MemberStream.Proofs.Deflate.Bodies
import MemberStream.Proofs.Deflate.Delimiting

namespace MemberStream

/-!
# Reading written deflate members

A member that is written for a source in some container is read as the source,
whatever is behind it.  Both gzip containers are read in the same way.
-/

open BitStream

theorem splitBytes?_append
    (front back : Bytes) :
    splitBytes? front.length (front ++ back) = some (front, back) := by
  unfold splitBytes?
  dsimp only
  rw [List.take_left, if_pos rfl, List.drop_left]

namespace Deflate

/-- A body that is read gives its source, whatever is behind it. -/
theorem decodeRaw_append
    {source written : Bytes}
    (reads : Reads .boundary .anywhere body source.toArray written)
    (more : Bytes) :
    decodeRaw (written ++ more) = .ok (written.length, source) := by
  obtain ⟨rest, done, left⟩ := reads.run more
  unfold decodeRaw
  rw [done]
  dsimp only
  rw [left, List.length_append, Nat.add_sub_cancel]

/-- A body behind its length is read as its source. -/
theorem decodePrefixed_append
    {source written : Bytes}
    (reads : Reads .boundary .anywhere body source.toArray written)
    (fits : written.length < 2 ^ (32 : Nat))
    (more : Bytes) :
    decodePrefixed (littleEndian 4 written.length ++ written ++ more) =
      .ok ((littleEndian 4 written.length ++ written).length, source) := by
  have number : ofLittleEndian (littleEndian 4 written.length) = written.length :=
    ofLittleEndian_littleEndian 4 written.length fits
  have front := splitBytes?_append (littleEndian 4 written.length) (written ++ more)
  have back := decodeRaw_append reads []
  rw [length_littleEndian] at front
  rw [List.append_nil] at back
  unfold decodePrefixed
  rw [List.append_assoc, front]
  dsimp only
  rw [number, splitBytes?_append]
  dsimp only
  rw [back, List.length_append, length_littleEndian]

/-- The checksum and the length of a source are read from its trailer. -/
theorem reads_gzipMember
    {source header written : Bytes}
    {value : Bytes}
    (head : Reads .boundary .boundary gzipHead value header)
    (reads : Reads .boundary .anywhere body source.toArray written) :
    Reads .boundary .boundary gzipMember source (header ++ (written ++ gzipTrailer source)) := by
  have sum : (crc32 source).toNat < 256 ^ 4 := (crc32 source).toNat_lt
  have all : Reads .boundary .boundary gzipMember source
      (header ++ (written ++ (littleEndian 4 (crc32 source).toNat ++
        (littleEndian 4 source.length ++ ([] ++ ([] ++ [])))))) := by
    refine .bind head (.bind reads (.bind (.word sum) (.bind (.wordMod 4 source.length) ?_)))
    refine .bind (.require _ ?_) (.bind (.require _ ?_) (.pure source))
    · exact beq_self_eq_true _
    · exact beq_self_eq_true _
  rw [List.nil_append, List.nil_append, List.append_nil] at all
  exact all

theorem reads_optionalField_absent
    {before : Place}
    (field : Decoder Bytes) :
    Reads before before (optionalField false field) [] [] :=
  .pure []

theorem reads_optionalField_present
    {before after : Place}
    {field : Decoder Bytes}
    {value written : Bytes}
    (reads : Reads before after field value written) :
    Reads before after (optionalField true field) value written :=
  reads

/-- The flags of a written header are read, and the fields that they announce. -/
theorem reads_gzipHead_of_flags
    {flagOctet : UInt8}
    {flags : GzipFlags}
    {field written : Bytes}
    (level : UInt32)
    (announced : GzipFlags.ofOctet? flagOctet = some flags)
    (extra :
      Reads .boundary .boundary (optionalField flags.extra extraField) field written)
    (name : flags.name = false)
    (comment : flags.comment = false)
    (checksum : flags.checksum = false) :
    ∃ value,
      Reads .boundary .boundary gzipHead value (gzipHeader flagOctet level ++ written) := by
  have fields : ∃ value,
      Reads .boundary .boundary
        (do
          let extra ← optionalField flags.extra extraField
          let name ← optionalField flags.name terminatedText
          let comment ← optionalField flags.comment terminatedText
          let header := gzipHeader flagOctet level ++ extra ++ name ++ comment
          let checksum ← optionalField flags.checksum (headerChecksum header)
          return header ++ checksum)
        value (written ++ ([] ++ ([] ++ ([] ++ [])))) := by
    rw [name, comment, checksum]
    exact ⟨_, .bind extra (.bind (reads_optionalField_absent _)
      (.bind (reads_optionalField_absent _) (.bind (reads_optionalField_absent _) (.pure _))))⟩
  obtain ⟨value, reads⟩ := fields
  rw [List.append_nil, List.append_nil, List.append_nil, List.append_nil] at reads
  have all : Reads .boundary .boundary gzipHead value
      (gzipHeader flagOctet level ++ ([] ++ ([] ++ written))) := by
    refine .bind (.octets (gzipHeader flagOctet level)) (.bind (.require _ rfl)
      (.bind (.require _ rfl) ?_))
    rw [show (gzipHeader flagOctet level).getD 3 0 = flagOctet from rfl, announced]
    exact reads
  exact ⟨value, all⟩

/-- A header without optional fields is read to its end. -/
theorem reads_gzipHead_plain
    (level : UInt32) :
    ∃ value, Reads .boundary .boundary gzipHead value (gzipHeader 0 level) := by
  have flags : GzipFlags.ofOctet? 0 = some ⟨false, false, false, false⟩ := rfl
  obtain ⟨value, reads⟩ :=
    reads_gzipHead_of_flags level flags (reads_optionalField_absent extraField) rfl rfl rfl
  rw [List.append_nil] at reads
  exact ⟨value, reads⟩

/-- A header with the field of two lengths is read to its end. -/
theorem reads_gzipHead_lengths
    (level : UInt32)
    (sourceLength bodyLength : Nat) :
    ∃ value,
      Reads .boundary .boundary gzipHead value
        (gzipHeader extraFieldFlag level ++ lengthsField sourceLength bodyLength) := by
  have flags : GzipFlags.ofOctet? extraFieldFlag = some ⟨true, false, false, false⟩ := rfl
  have field : Reads .boundary .boundary extraField _
      (littleEndian 2 12 ++ (lengthsFieldIdentifier ++ littleEndian 2 8 ++
        littleEndian 4 sourceLength ++ littleEndian 4 bodyLength ++ [])) :=
    .bind (.octets (littleEndian 2 12))
      (.bind
        (.octets (lengthsFieldIdentifier ++ littleEndian 2 8 ++ littleEndian 4 sourceLength ++
          littleEndian 4 bodyLength))
        (.pure _))
  have written : littleEndian 2 12 ++ (lengthsFieldIdentifier ++ littleEndian 2 8 ++
      littleEndian 4 sourceLength ++ littleEndian 4 bodyLength ++ []) =
        lengthsField sourceLength bodyLength := by
    simp only [lengthsField, List.append_assoc, List.append_nil]
  rw [written] at field
  exact reads_gzipHead_of_flags level flags (reads_optionalField_present field) rfl rfl rfl

/-- A gzip member that is read gives its source, whatever is behind it. -/
theorem decodeGzip_append
    {source written : Bytes}
    (reads : Reads .boundary .boundary gzipMember source written)
    (enough : gzipHeaderLength ≤ written.length)
    (more : Bytes) :
    decodeGzip (written ++ more) = .ok (written.length, source) := by
  obtain ⟨rest, done, left⟩ := reads.run more
  unfold decodeGzip
  rw [done]
  dsimp only
  rw [if_neg (by rw [List.length_append]; omega), left, List.length_append, Nat.add_sub_cancel]

/-- The formats that are read alike. -/
def readAs : DeflateFormat → DeflateFormat
  | .gzipExtended =>
      .gzip
  | format =>
      format

/-- A body in its container is read as its source, whatever is behind it. -/
theorem decodeMember_contain
    {written format : DeflateFormat}
    {source body' : Bytes}
    (level : UInt32)
    (reads : Reads .boundary .anywhere body source.toArray body')
    (fits : written = .lengthPrefixed → body'.length < 2 ^ (32 : Nat))
    (alike : readAs format = readAs written)
    (more : Bytes) :
    decodeMember format (contain written level source body' ++ more) =
      .ok ((contain written level source body').length, source) := by
  have gzip (header : Bytes)
      (head : ∃ value, Reads .boundary .boundary gzipHead value header)
      (enough : gzipHeaderLength ≤ header.length) :
      decodeGzip (header ++ body' ++ gzipTrailer source ++ more) =
        .ok ((header ++ body' ++ gzipTrailer source).length, source) := by
    obtain ⟨value, head⟩ := head
    have member := reads_gzipMember head reads
    rw [← List.append_assoc] at member
    refine decodeGzip_append member ?_ more
    rw [List.length_append, List.length_append]
    omega
  cases written with
  | raw =>
      cases format with
      | raw =>
          exact decodeRaw_append reads more
      | _ =>
          cases alike
  | lengthPrefixed =>
      cases format with
      | lengthPrefixed =>
          exact decodePrefixed_append reads (fits rfl) more
      | _ =>
          cases alike
  | gzip =>
      have plain := gzip (gzipHeader 0 level) (reads_gzipHead_plain level) (Nat.le_refl _)
      cases format with
      | gzip =>
          exact plain
      | gzipExtended =>
          exact plain
      | _ =>
          cases alike
  | gzipExtended =>
      have extended := gzip (gzipHeader extraFieldFlag level ++
        lengthsField source.length body'.length) (reads_gzipHead_lengths level _ _)
        (by rw [List.length_append]; exact Nat.le_add_right _ _)
      cases format with
      | gzip =>
          exact extended
      | gzipExtended =>
          exact extended
      | _ =>
          cases alike

/-- A member is a body in its container, and every length that is stored fits in a word. -/
theorem contain_of_member
    {format : DeflateFormat}
    {level : UInt32}
    {source body stored : Bytes}
    (wrote : member format level source body = .ok stored) :
    (∀ length ∈ storedLengths format source body, length < 2 ^ (32 : Nat)) ∧
      stored = contain format level source body := by
  unfold member at wrote
  split at wrote
  · cases wrote
  · rename_i none
    cases wrote
    rw [oversized?, List.find?_eq_none] at none
    refine ⟨?_, rfl⟩
    intro length among
    have fits := none length among
    rw [decide_eq_true_eq] at fits
    exact Nat.lt_of_not_le fits

/-- A body is put into its container if the lengths that this stores fit in a word. -/
theorem member_of_fits
    {format : DeflateFormat}
    {source body : Bytes}
    (level : UInt32)
    (fits : ∀ length ∈ storedLengths format source body, length < 2 ^ (32 : Nat)) :
    member format level source body = .ok (contain format level source body) := by
  have none : oversized? (storedLengths format source body) = none := by
    rw [oversized?, List.find?_eq_none]
    intro length among
    rw [decide_eq_true_eq]
    exact Nat.not_le_of_lt (fits length among)
  rw [member, none]

/-- The member of a body that is read to its end is read as the source, whatever is behind it. -/
theorem decodeMember_member
    {written format : DeflateFormat}
    {level : UInt32}
    {source body' stored : Bytes}
    (all : ReadsAll .anywhere body source.toArray body')
    (wrote : member written level source body' = .ok stored)
    (alike : readAs format = readAs written)
    (more : Bytes) :
    decodeMember format (stored ++ more) = .ok (stored.length, source) := by
  obtain ⟨fits, rfl⟩ := contain_of_member wrote
  refine decodeMember_contain level (selfDelimiting_body.reads all) ?_ alike more
  intro format
  subst format
  exact fits _ List.mem_cons_self

/-- The placeholder of a stream is read as nothing, whatever is behind it. -/
theorem decodeMember_emptyMember
    {written format : DeflateFormat}
    (level : UInt32)
    (alike : readAs format = readAs written)
    (more : Bytes) :
    decodeMember format (emptyMember written level ++ more) =
      .ok ((emptyMember written level).length, []) := by
  have same : storedBody [] = emptyStoredBlock := by
    have short : ([] : Bytes).length ≤ longestStored := Nat.zero_le _
    rw [storedBody, storedChunks, if_pos short]
    rfl
  have reads := (reads_storedBody []).ending
  rw [same] at reads
  exact decodeMember_contain level reads (fun _ => by decide) alike more

end Deflate

end MemberStream
