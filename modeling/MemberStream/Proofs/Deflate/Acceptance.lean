import MemberStream.Proofs.Bits.Accepted
import MemberStream.Proofs.Codec.Boundary

namespace MemberStream

/-!
# What is accepted as a gzip member

A byte string is read as a gzip member exactly if it starts with one: the fixed
part of a header, the fields that its flags announce, a deflate body, and the
checksum and the length of what the body holds.  `GzipHeader` and `GzipLayout`
say how these parts are written, without reading them.
-/

open BitStream

/-- A decoder recognises octets of a form if it is done with them, and with nothing else. -/
structure Recognises
    (decoder : Decoder Bytes)
    (form : Bytes → Prop) :
    Prop where
  /-- What is read is of the form. -/
  sound :
    ∀ {bytes octets rest},
      decoder (behind [] bytes) = .done octets rest →
        ∃ more, bytes = octets ++ more ∧ form octets ∧ rest = behind [] more
  /-- What is of the form is read. -/
  complete :
    ∀ {octets},
      form octets → Reads .boundary .boundary decoder octets octets

namespace Deflate

/-- The form of a field that is there only if a flag announces it. -/
def Announced
    (announced : Bool)
    (form : Bytes → Prop)
    (field : Bytes) :
    Prop :=
  if announced then form field else field = []

/-- An extra field is a length of two octets and as many octets as it says. -/
def IsExtraField
    (field : Bytes) :
    Prop :=
  ∃ content : Bytes,
    content.length < 2 ^ (16 : Nat) ∧ field = littleEndian 2 content.length ++ content

/-- A text ends with its only zero octet. -/
def IsText
    (field : Bytes) :
    Prop :=
  ∃ text : Bytes,
    0 ∉ text ∧ text.length ≤ longestText ∧ field = text ++ [0]

/-- A header checksum is the low half of the checksum of the header before it. -/
def IsHeaderChecksum
    (header field : Bytes) :
    Prop :=
  field = littleEndian 2 ((crc32 header).toNat % 2 ^ (16 : Nat))

/-- The parts of a gzip header. -/
structure GzipHeader where
  flags : UInt8
  /-- The time, the level and the system; whatever they are. -/
  provenance : Bytes
  extra : Bytes
  name : Bytes
  comment : Bytes
  checksum : Bytes

namespace GzipHeader

/-- What the header checksum is about. -/
def checked
    (header : GzipHeader) :
    Bytes :=
  [0x1f, 0x8b, 0x08, header.flags] ++ header.provenance ++ header.extra ++ header.name ++
    header.comment

/-- The octets of a header. -/
def octets
    (header : GzipHeader) :
    Bytes :=
  header.checked ++ header.checksum

/-- The fields of a header are those that its flags announce, and no other flag is set. -/
structure Valid
    (header : GzipHeader) :
    Prop where
  reserved : header.flags &&& 0xe0 = 0
  provenance : header.provenance.length = 6
  extra : Announced (header.flags &&& 4 != 0) IsExtraField header.extra
  name : Announced (header.flags &&& 8 != 0) IsText header.name
  comment : Announced (header.flags &&& 16 != 0) IsText header.comment
  checksum :
    Announced (header.flags &&& 2 != 0) (IsHeaderChecksum header.checked) header.checksum

end GzipHeader

/-- The parts of a gzip member. -/
structure GzipLayout where
  header : GzipHeader
  body : Bytes

namespace GzipLayout

/-- The octets of a member of some content: behind the body its checksum and its length. -/
def octets
    (layout : GzipLayout)
    (content : Bytes) :
    Bytes :=
  layout.header.octets ++ layout.body ++ littleEndian 4 (crc32 content).toNat ++
    littleEndian 4 (content.length % 2 ^ (32 : Nat))

/-- The parts are those of a member of some content if the body is one of just this content. -/
structure Holds
    (layout : GzipLayout)
    (content : Bytes) :
    Prop where
  header : layout.header.Valid
  body : decodeRaw layout.body = .ok (layout.body.length, content)

end GzipLayout

/-- A field that may be absent is recognised if the field is. -/
theorem recognises_optionalField
    (present : Bool)
    {field : Decoder Bytes}
    {form : Bytes → Prop}
    (recognises : Recognises field form) :
    Recognises (optionalField present field) (Announced present form) := by
  cases present with
  | true =>
      exact recognises
  | false =>
      refine ⟨?_, ?_⟩
      · intro bytes octets rest accepted
        cases accepted
        exact ⟨bytes, rfl, rfl, rfl⟩
      · intro octets absent
        cases absent
        exact reads_optionalField_absent field

/-- Extra fields are recognised. -/
theorem recognises_extraField :
    Recognises extraField IsExtraField where
  sound := by
    intro bytes octets rest accepted
    obtain ⟨length, left, split, two, accepted⟩ := Decoder.done_of_octets_bind accepted
    obtain ⟨content, more, rfl, same, last⟩ := Decoder.done_of_octets_bind accepted
    cases last
    have written := littleEndian_ofLittleEndian length
    rw [two] at written
    refine ⟨more, ?_, ⟨content, ?_, ?_⟩, rfl⟩
    · rw [List.append_assoc]
      exact split
    · have small := ofLittleEndian_lt length
      rw [two] at small
      rw [same]
      exact small
    · rw [same, written]
  complete := by
    rintro _ ⟨content, small, rfl⟩
    refine .bind (.octets_of_length (length_littleEndian 2 _)) (.last ?_ (.pure _))
    rw [ofLittleEndian_littleEndian 2 content.length small]
    exact .octets content

/-- One round of reading a text. -/
def textRound
    (state : Nat × Bytes) :
    Decoder (Decoder.Round (Nat × Bytes) Bytes) := do
  let (count, text) := state
  let byte ← Decoder.octet
  if byte = 0 then
    return .stop (byte :: text).reverse
  else do
    Decoder.require (count < longestText) .decodeFailed
    return .again (count + 1, byte :: text)

theorem terminatedText_eq :
    terminatedText = Decoder.iterate textRound (0, []) :=
  rfl

/-- A round of reading a text stops at a zero octet, and there only. -/
theorem done_of_textRound
    {count : Nat}
    {text : Bytes}
    {stream rest : BitStream}
    {outcome : Decoder.Round (Nat × Bytes) Bytes}
    (accepted : textRound (count, text) stream = .done outcome rest) :
    ∃ byte more,
      stream.bytes = byte :: more ∧ rest = behind [] more ∧
        ((byte = 0 ∧ outcome = .stop (text.reverse ++ [0])) ∨
          (byte ≠ 0 ∧ count < longestText ∧ outcome = .again (count + 1, byte :: text))) := by
  obtain ⟨byte, more, bytes, accepted⟩ := Decoder.done_of_octet_bind accepted
  split at accepted
  · rename_i zero
    cases accepted
    subst zero
    exact ⟨0, more, bytes, rfl, .inl ⟨rfl, by rw [List.reverse_cons]⟩⟩
  · rename_i nonzero
    obtain ⟨short, last⟩ := Decoder.done_of_require_bind accepted
    cases last
    exact ⟨byte, more, bytes, rfl, .inr ⟨nonzero, of_decide_eq_true short, rfl⟩⟩

/-- Texts are recognised behind what has been read of them. -/
theorem done_of_text
    {count : Nat}
    {text octets : Bytes}
    {stream rest : BitStream}
    (within : count ≤ longestText)
    (accepted : Decoder.iterate textRound (count, text) stream = .done octets rest) :
    ∃ others more,
      stream.bytes = others ++ [0] ++ more ∧ 0 ∉ others ∧
        count + others.length ≤ longestText ∧
        octets = text.reverse ++ others ++ [0] ∧ rest = behind [] more := by
  generalize same : (count, text) = state at accepted
  fun_induction Decoder.iterate textRound state stream generalizing count text with
  | case1 state stream next left front consumed ih =>
      subst same
      obtain ⟨byte, more, bytes, rfl, ⟨-, stops⟩ | ⟨nonzero, short, goesOn⟩⟩ :=
        done_of_textRound front
      · cases stops
      · cases goesOn
        obtain ⟨others, behindIt, split, none, enough, result, last⟩ := ih short rfl accepted
        change more = _ at split
        refine ⟨byte :: others, behindIt, by rw [bytes, split]; rfl, ?_, ?_, ?_, last⟩
        · rw [List.mem_cons, not_or]
          exact ⟨Ne.symm nonzero, none⟩
        · rw [List.length_cons]
          omega
        · rw [result, List.reverse_cons, List.append_assoc, List.append_assoc, List.append_assoc]
          rfl
  | case2 =>
      cases accepted
  | case3 state stream result left front =>
      subst same
      cases accepted
      obtain ⟨byte, more, bytes, rfl, ⟨rfl, stops⟩ | ⟨-, -, goesOn⟩⟩ :=
        done_of_textRound front
      · cases stops
        exact ⟨[], more, bytes, List.not_mem_nil, within, by rw [List.append_nil], rfl⟩
      · cases goesOn
  | case4 =>
      cases accepted
  | case5 =>
      cases accepted

/-- A text is read behind what has been read of it. -/
theorem reads_text
    {count : Nat}
    {text others : Bytes}
    (none : 0 ∉ others)
    (enough : count + others.length ≤ longestText) :
    Reads .boundary .boundary (Decoder.iterate textRound (count, text))
      (text.reverse ++ others ++ [0]) (others ++ [0]) := by
  induction others generalizing count text with
  | nil =>
      rw [List.append_nil, ← List.reverse_cons]
      exact .stop (.last (.octet 0) (.first rfl (.pure _)))
  | cons byte others ih =>
      rw [List.mem_cons, not_or] at none
      rw [List.length_cons] at enough
      have short : decide (count < longestText) = true := decide_eq_true (by omega)
      have round : Reads .boundary .boundary (textRound (count, text))
          (.again (count + 1, byte :: text)) [byte] :=
        .last (.octet byte) (.second (Ne.symm none.1) (.silent (.require _ short) (.pure _)))
      have rest := @ih (count + 1) (byte :: text) none.2 (by omega)
      rw [List.reverse_cons, List.append_assoc text.reverse] at rest
      exact round.again (List.cons_ne_nil _ _) rest

/-- Texts are recognised. -/
theorem recognises_terminatedText :
    Recognises terminatedText IsText where
  sound := by
    intro bytes octets rest accepted
    rw [terminatedText_eq] at accepted
    obtain ⟨text, more, split, none, enough, rfl, last⟩ := done_of_text (Nat.zero_le _) accepted
    rw [Nat.zero_add] at enough
    exact ⟨more, split, ⟨text, none, enough, rfl⟩, last⟩
  complete := by
    rintro _ ⟨text, none, enough, rfl⟩
    rw [terminatedText_eq]
    exact reads_text none (show 0 + text.length ≤ longestText by omega)

/-- The checksum of a header is recognised. -/
theorem recognises_headerChecksum
    (header : Bytes) :
    Recognises (headerChecksum header) (IsHeaderChecksum header) where
  sound := by
    intro bytes octets rest accepted
    obtain ⟨stored, more, rfl, two, accepted⟩ := Decoder.done_of_octets_bind accepted
    obtain ⟨same, last⟩ := Decoder.done_of_require_bind accepted
    cases last
    have written := littleEndian_ofLittleEndian octets
    rw [two, eq_of_beq same] at written
    exact ⟨more, rfl, written.symm, rfl⟩
  complete := by
    intro octets same
    have two : octets.length = 2 := by
      rw [same, length_littleEndian]
    refine .last (.octets_of_length two) (.silent (.require _ ?_) (.pure _))
    rw [same, ofLittleEndian_littleEndian 2 _ (Nat.mod_lt _ (Nat.two_pow_pos 16))]
    exact beq_self_eq_true _

/-- The fields that a flag octet announces are those of its bits, and the highest are clear. -/
theorem ofOctet?_eq_some_iff
    {octet : UInt8}
    {flags : GzipFlags} :
    GzipFlags.ofOctet? octet = some flags ↔
      octet &&& 0xe0 = 0 ∧
        flags = ⟨octet &&& 4 != 0, octet &&& 8 != 0, octet &&& 16 != 0, octet &&& 2 != 0⟩ := by
  unfold GzipFlags.ofOctet?
  split
  · rename_i reserved
    rw [bne_iff_ne] at reserved
    simp only [reserved, false_and, reduceCtorEq]
  · rename_i clear
    rw [bne_iff_ne, Decidable.not_not] at clear
    simp only [clear, true_and, Option.some.injEq]
    exact eq_comm

/-- The fixed part of a header is ten octets, and the fourth of them has the flags. -/
theorem fixedPart_eq
    {head : Bytes}
    (ten : head.length = gzipHeaderLength)
    (magic : head.take 2 = gzipMagic)
    (method : head.getD 2 0 = 8) :
    ∃ flags provenance,
      head = [0x1f, 0x8b, 0x08, flags] ++ provenance ∧ provenance.length = 6 := by
  obtain _ | ⟨first, _ | ⟨second, _ | ⟨third, _ | ⟨flags, provenance⟩⟩⟩⟩ := head
  · cases ten
  · cases ten
  · cases ten
  · cases ten
  · cases magic
    cases method
    have six : provenance.length + 4 = 6 + 4 := ten
    exact ⟨flags, provenance, rfl, Nat.add_right_cancel six⟩

/-- Gzip headers are recognised. -/
theorem recognises_gzipHead :
    Recognises gzipHead fun octets =>
      ∃ header : GzipHeader, header.Valid ∧ octets = header.octets where
  sound := by
    intro bytes octets rest accepted
    obtain ⟨head, behindHead, split, ten, accepted⟩ := Decoder.done_of_octets_bind accepted
    obtain ⟨magic, accepted⟩ := Decoder.done_of_require_bind accepted
    obtain ⟨method, accepted⟩ := Decoder.done_of_require_bind accepted
    cases announced : GzipFlags.ofOctet? (head.getD 3 0) with
    | none =>
        rw [announced] at accepted
        cases accepted
    | some announcedFlags =>
        rw [announced] at accepted
        obtain ⟨flags, provenance, rfl, six⟩ :=
          fixedPart_eq ten (eq_of_beq magic) (eq_of_beq method)
        obtain ⟨reserved, rfl⟩ := ofOctet?_eq_some_iff.mp announced
        obtain ⟨extra, _, first, accepted⟩ := Decoder.done_of_bind accepted
        obtain ⟨behindExtra, rfl, extraForm, rfl⟩ :=
          (recognises_optionalField _ recognises_extraField).sound first
        obtain ⟨name, _, second, accepted⟩ := Decoder.done_of_bind accepted
        obtain ⟨behindName, rfl, nameForm, rfl⟩ :=
          (recognises_optionalField _ recognises_terminatedText).sound second
        obtain ⟨comment, _, third, accepted⟩ := Decoder.done_of_bind accepted
        obtain ⟨behindComment, rfl, commentForm, rfl⟩ :=
          (recognises_optionalField _ recognises_terminatedText).sound third
        obtain ⟨checksum, _, fourth, last⟩ := Decoder.done_of_bind accepted
        obtain ⟨more, rfl, checksumForm, rfl⟩ :=
          (recognises_optionalField _ (recognises_headerChecksum _)).sound fourth
        cases last
        let header : GzipHeader := { flags, provenance, extra, name, comment, checksum }
        refine ⟨more, ?_, ⟨header, ?_, rfl⟩, rfl⟩
        · simp only [List.append_assoc]
          exact split
        · exact ⟨reserved, six, extraForm, nameForm, commentForm, checksumForm⟩
  complete := by
    rintro _ ⟨header, valid, rfl⟩
    have ten : ([0x1f, 0x8b, 0x08, header.flags] ++ header.provenance).length =
        gzipHeaderLength := by
      rw [List.length_append, valid.provenance]
      rfl
    have flags :
        ([0x1f, 0x8b, 0x08, header.flags] ++ header.provenance).getD 3 0 = header.flags :=
      rfl
    have announced : GzipFlags.ofOctet? header.flags = some _ :=
      ofOctet?_eq_some_iff.mpr ⟨valid.reserved, rfl⟩
    have extra := (recognises_optionalField _ recognises_extraField).complete valid.extra
    have name := (recognises_optionalField _ recognises_terminatedText).complete valid.name
    have comment := (recognises_optionalField _ recognises_terminatedText).complete valid.comment
    have checksum :=
      (recognises_optionalField _ (recognises_headerChecksum _)).complete valid.checksum
    have all : Reads .boundary .boundary gzipHead header.octets
        (([0x1f, 0x8b, 0x08, header.flags] ++ header.provenance) ++
          (header.extra ++ (header.name ++ (header.comment ++ header.checksum)))) := by
      refine .bind (.octets_of_length ten) (.silent (.require _ rfl) (.silent (.require _ rfl) ?_))
      rw [flags, announced]
      exact extra.bind (name.bind (comment.bind (.last checksum (.pure _))))
    have same : header.octets =
        ([0x1f, 0x8b, 0x08, header.flags] ++ header.provenance) ++
          (header.extra ++ (header.name ++ (header.comment ++ header.checksum))) := by
      simp only [GzipHeader.octets, GzipHeader.checked, List.append_assoc]
    rw [← same] at all
    exact all

/-- What is read as a body is a body of just the content that it is read as. -/
theorem decodeRaw_of_body
    {bytes : Bytes}
    {history : History}
    {rest : BitStream}
    (accepted : body (behind [] bytes) = .done history rest) :
    ∃ written,
      bytes = written ++ rest.bytes ∧
        decodeRaw written = .ok (written.length, history.toList) := by
  obtain ⟨written, split, whatever⟩ := selfDelimiting_body.accepts _ _ _ _ accepted
  have alone := whatever []
  rw [List.append_nil] at alone
  exact ⟨written, split, reports_decodeRaw.done alone⟩

/-- A body of just some content is read as it, whatever is behind it. -/
theorem body_of_decodeRaw
    {written content : Bytes}
    (decoded : decodeRaw written = .ok (written.length, content)) :
    ∃ held,
      ∀ more, body (behind [] (written ++ more)) = .done content.toArray (behind held more) := by
  unfold decodeRaw at decoded
  dsimp only at decoded
  split at decoded
  · rename_i history rest accepted
    injection decoded with decoded
    injection decoded with whole same
    have all := selfDelimiting_body.run_take_append accepted
    rw [whole, List.take_length] at all
    have same : history = content.toArray := by
      rw [← same, Array.toArray_toList]
    rw [← same]
    exact ⟨rest.held, all⟩
  · cases decoded
  · cases decoded

/-- What is read as a gzip member is one of the content that it is read as. -/
theorem done_of_gzipMember
    {bytes content : Bytes}
    {rest : BitStream}
    (accepted : gzipMember (behind [] bytes) = .done content rest) :
    ∃ (layout : GzipLayout) (more : Bytes),
      bytes = layout.octets content ++ more ∧ layout.Holds content ∧ rest = behind [] more := by
  obtain ⟨_, _, head, accepted⟩ := Decoder.done_of_bind accepted
  obtain ⟨_, rfl, ⟨header, valid, rfl⟩, rfl⟩ := recognises_gzipHead.sound head
  obtain ⟨history, behindBody, inflated, trailer⟩ := Decoder.done_of_bind accepted
  obtain ⟨body, rfl, decoded⟩ := decodeRaw_of_body inflated
  obtain ⟨checksum, behindSum, sumOctets, -, trailer⟩ := Decoder.done_of_word_bind trailer
  obtain ⟨length, more, lengthOctets, -, trailer⟩ := Decoder.done_of_word_bind trailer
  obtain ⟨sameSum, trailer⟩ := Decoder.done_of_require_bind trailer
  obtain ⟨sameLength, last⟩ := Decoder.done_of_require_bind trailer
  cases last
  change behindSum = _ at lengthOctets
  refine ⟨⟨header, body⟩, more, ?_, ⟨valid, decoded⟩, rfl⟩
  rw [sumOctets, lengthOctets, eq_of_beq sameSum, eq_of_beq sameLength]
  simp only [GzipLayout.octets, List.append_assoc]

/-- Compare the trailer of a gzip member, read as two numbers, with the content before it. -/
def checkTrailer
    (content : Bytes)
    (checksum length : Nat) :
    Decoder Bytes := do
  Decoder.require (checksum == (crc32 content).toNat) .checksumMismatch
  Decoder.require (length == content.length % 2 ^ (32 : Nat)) .checksumMismatch
  return content

/-- Behind the body of a gzip member two numbers are read and compared with its content. -/
theorem gzipMember_trailer
    {layout : GzipLayout}
    {content : Bytes}
    {checksum length : Nat}
    (holds : layout.Holds content)
    (sumFits : checksum < 256 ^ (4 : Nat))
    (lengthFits : length < 256 ^ (4 : Nat))
    (more : Bytes) :
    gzipMember
        (behind [] (layout.header.octets ++ layout.body ++
          (littleEndian 4 checksum ++ littleEndian 4 length) ++ more)) =
      checkTrailer content checksum length (behind [] more) := by
  have head := (recognises_gzipHead.complete ⟨layout.header, holds.header, rfl⟩).done
    (layout.body ++ (littleEndian 4 checksum ++ (littleEndian 4 length ++ more)))
  obtain ⟨held, inflated⟩ := body_of_decodeRaw holds.body
  simp only [List.append_assoc]
  rw [gzipMember, Decoder.bind_done head, Decoder.bind_done (inflated _),
    Decoder.bind_done (Decoder.word_append sumFits),
    Decoder.bind_done (Decoder.word_append lengthFits)]
  rfl

/-- A gzip member of some content is read as it, whatever is behind it. -/
theorem gzipMember_of_holds
    {layout : GzipLayout}
    {content : Bytes}
    (holds : layout.Holds content)
    (more : Bytes) :
    gzipMember (behind [] (layout.octets content ++ more)) = .done content (behind [] more) := by
  have sum : (crc32 content).toNat < 256 ^ 4 := (crc32 content).toNat_lt
  have length : content.length % 2 ^ 32 < 256 ^ 4 := Nat.mod_lt _ (Nat.two_pow_pos 32)
  rw [GzipLayout.octets, List.append_assoc (layout.header.octets ++ layout.body),
    gzipMember_trailer holds sum length, checkTrailer,
    Decoder.bind_done (Decoder.require_done (beq_self_eq_true _) _),
    Decoder.bind_done (Decoder.require_done (beq_self_eq_true _) _)]
  rfl

/-- A byte string is read as a gzip member exactly if it starts with one. -/
theorem decodeGzip_eq_ok_iff
    {input content : Bytes}
    {length : Nat} :
    decodeGzip input = .ok (length, content) ↔
      length ≤ input.length ∧
        ∃ layout : GzipLayout,
          layout.Holds content ∧ input.take length = layout.octets content := by
  constructor
  · intro decoded
    unfold decodeGzip at decoded
    dsimp only at decoded
    split at decoded
    · cases decoded
    · split at decoded
      · rename_i accepted
        cases decoded
        obtain ⟨layout, more, rfl, holds, rfl⟩ := done_of_gzipMember accepted
        refine ⟨Nat.sub_le _ _, layout, holds, ?_⟩
        have left : (behind [] more).octetsLeft = more.length := rfl
        rw [left, List.length_append, Nat.add_sub_cancel, List.take_left]
      · cases decoded
      · cases decoded
  · rintro ⟨inside, layout, holds, same⟩
    have accepted := gzipMember_of_holds holds (input.drop length)
    rw [← same, List.take_append_drop] at accepted
    have left : (behind [] (input.drop length)).octetsLeft = input.length - length :=
      List.length_drop
    have decoded := reports_decodeGzip.done accepted
    rw [left] at decoded
    rwa [← Nat.sub_sub_self inside]

end Deflate

namespace ParameterSet

/--
Both gzip containers are read alike, with the same failures and whatever they are
appended to.  What is read as a member starts with the octets of a gzip member of
just the content that is read, and takes up just these octets: its flags announce
its fields, its header checksum is right if there is one, its body is a bare body
of the content, and the checksum and the length of the content are behind it.
Nothing else is accepted, and nothing of this form is refused.
-/
theorem decodeMember_gzip_iff
    (parameters : ParameterSet) :
    let plain := { parameters with algorithm := .deflate, deflateFormat := .gzip }
    let extended := { parameters with algorithm := .deflate, deflateFormat := .gzipExtended }
    (∀ input output, plain.decodeOnto input output = extended.decodeOnto input output) ∧
      ∀ (input content : Bytes) (length : Nat),
        plain.decodeMember input = .ok (length, content) ↔
          length ≤ input.length ∧
            ∃ layout : Deflate.GzipLayout,
              layout.Holds content ∧ input.take length = layout.octets content := by
  intro plain extended
  refine ⟨fun _ _ => rfl, ?_⟩
  intro input content length
  rw [← Deflate.decodeGzip_eq_ok_iff]
  constructor
  · exact ok_of_mapError
  · intro decoded
    change (Deflate.decodeGzip input).mapError _ = _
    rw [decoded]
    rfl

end ParameterSet

end MemberStream
