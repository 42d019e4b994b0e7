import Mathlib
import MemberStream.Text.Blank
import MemberStream.Text.Numeral

namespace MemberStream

/-!
# Written words and numbers

Configuration text is read up to the blanks around it.  What is between them spells a
word, where the case of ASCII letters does not count, or writes a number in decimal
digits, with any number of leading zeros and with or without a plus sign.  These grammars
are stated without the functions that read them; each function accepts just its grammar.
-/

namespace Text

/-- A text of blanks only. -/
def Blank
    (text : List Char) :
    Prop :=
  ∀ character ∈ text, isBlank character = true

/-- A text is a core with blanks around it, and no blank begins or ends the core. -/
structure Trims
    (text core : List Char) :
    Prop where
  around : ∃ before after, text = before ++ core ++ after ∧ Blank before ∧ Blank after
  first : ∀ character, core.head? = some character → isBlank character = false
  last : ∀ character, core.getLast? = some character → isBlank character = false

theorem isBlank_head?_dropWhile
    (text : List Char)
    (character : Char)
    (first : (text.dropWhile isBlank).head? = some character) :
    isBlank character = false := by
  have unblank := List.head?_dropWhile_not isBlank text
  rwa [first] at unblank

/-- Leading blanks are dropped. -/
theorem dropWhile_blank
    {before core : List Char}
    (blank : Blank before)
    (first : ∀ character, core.head? = some character → isBlank character = false) :
    (before ++ core).dropWhile isBlank = core := by
  rw [List.dropWhile_append_of_pos blank]
  cases core with
  | nil =>
      rfl
  | cons character rest =>
      exact List.dropWhile_cons_of_neg (by simp [first character rfl])

/-- Trimming leaves the core of a text. -/
theorem trims_trim
    (text : List Char) :
    Trims text (trim text) := by
  let rest := text.dropWhile isBlank
  have core : trim text = (rest.reverse.dropWhile isBlank).reverse :=
    rfl
  have front : text = text.takeWhile isBlank ++ rest :=
    List.takeWhile_append_dropWhile.symm
  have back : rest = trim text ++ (rest.reverse.takeWhile isBlank).reverse := by
    rw [core, ← List.reverse_append, List.takeWhile_append_dropWhile, List.reverse_reverse]
  have blank (part : List Char) : Blank (part.takeWhile isBlank) := by
    intro character member
    exact List.all_eq_true.mp List.all_takeWhile character member
  refine ⟨⟨text.takeWhile isBlank, (rest.reverse.takeWhile isBlank).reverse, ?_, blank text, ?_⟩,
    ?_, ?_⟩
  · rw [List.append_assoc, ← back]
    exact front
  · intro character member
    exact blank rest.reverse character (List.mem_reverse.mp member)
  · intro character first
    apply isBlank_head?_dropWhile text character
    change rest.head? = _
    rw [back, List.head?_append, first]
    rfl
  · intro character last
    rw [core, List.getLast?_reverse] at last
    exact isBlank_head?_dropWhile rest.reverse character last

/-- A text has one core, which trimming finds. -/
theorem trims_iff
    {text core : List Char} :
    Trims text core ↔ trim text = core := by
  constructor
  · rintro ⟨⟨before, after, rfl, blankBefore, blankAfter⟩, first, last⟩
    cases core with
    | nil =>
        have blank : Blank (before ++ [] ++ after) := by
          intro character member
          simp only [List.append_nil, List.mem_append] at member
          exact member.elim (blankBefore character) (blankAfter character)
        have dropped : (before ++ [] ++ after ++ []).dropWhile isBlank = [] :=
          dropWhile_blank blank (by simp)
        rw [List.append_nil] at dropped
        rw [trim, dropped]
        rfl
    | cons character rest =>
        have front :
            (before ++ (character :: rest ++ after)).dropWhile isBlank =
              character :: rest ++ after :=
          dropWhile_blank blankBefore (by simpa using first)
        have back :
            (after.reverse ++ (character :: rest).reverse).dropWhile isBlank =
              (character :: rest).reverse := by
          apply dropWhile_blank
          · intro other member
            exact blankAfter other (List.mem_reverse.mp member)
          · intro other head
            rw [List.head?_reverse] at head
            exact last other head
        rw [trim, List.append_assoc, front, List.reverse_append, back, List.reverse_reverse]
  · rintro rfl
    exact trims_trim text

/-- Nothing is left of a text exactly if it is blank. -/
theorem trim_eq_nil_iff
    {text : List Char} :
    trim text = [] ↔ Blank text := by
  rw [← trims_iff]
  constructor
  · rintro ⟨⟨before, after, rfl, blankBefore, blankAfter⟩, -, -⟩
    intro character member
    simp only [List.append_nil, List.mem_append] at member
    exact member.elim (blankBefore character) (blankAfter character)
  · intro blank
    exact ⟨⟨text, [], by simp, blank, by simp [Blank]⟩, by simp, by simp⟩

/-- A character stands for a letter if it is that letter, or its capital in ASCII. -/
def StandsFor
    (character letter : Char) :
    Prop :=
  character = letter ∨
    ('A'.toNat ≤ character.toNat ∧ character.toNat ≤ 'Z'.toNat ∧
      character.toNat + ('a'.toNat - 'A'.toNat) = letter.toNat)

/-- A text spells a word up to the case of ASCII letters. -/
def Spells
    (word : String)
    (text : List Char) :
    Prop :=
  List.Forall₂ StandsFor text word.toList

theorem isUpper_iff
    {character : Char} :
    character.isUpper = true ↔
      'A'.toNat ≤ character.toNat ∧ character.toNat ≤ 'Z'.toNat := by
  simp [Char.isUpper, UInt32.le_iff_toNat_le]

/-- A capital has its small letter at a fixed distance. -/
theorem toNat_toLower
    {character : Char}
    (capital : character.isUpper = true) :
    character.toLower.toNat = character.toNat + ('a'.toNat - 'A'.toNat) := by
  have below : character.toNat ≤ 90 := (isUpper_iff.mp capital).2
  have valid : (character.toNat + 32).isValidChar := by
    left
    omega
  rw [Char.toLower_eq_of_isUpper capital, Char.toNat_ofNat, if_pos valid]
  rfl

/-- A character stands for a letter that is no capital if it is that in lower case. -/
theorem standsFor_iff
    {character letter : Char}
    (small : letter.isUpper = false) :
    StandsFor character letter ↔ character.toLower = letter := by
  cases capital : character.isUpper with
  | false =>
      rw [Char.toLower_eq_of_not_isUpper (by simp [capital])]
      constructor
      · rintro (rfl | ⟨above, below, -⟩)
        · rfl
        · rw [isUpper_iff.mpr ⟨above, below⟩] at capital
          contradiction
      · exact .inl
  | true =>
      rw [← Char.toNat_inj, toNat_toLower capital]
      constructor
      · rintro (rfl | ⟨-, -, place⟩)
        · rw [capital] at small
          contradiction
        · exact place
      · intro place
        obtain ⟨above, below⟩ := isUpper_iff.mp capital
        exact .inr ⟨above, below, place⟩

/-- A text spells letters exactly if it is those letters in lower case. -/
theorem forall₂_standsFor_iff
    {text letters : List Char}
    (small : ∀ letter ∈ letters, letter.isUpper = false) :
    List.Forall₂ StandsFor text letters ↔ lowerAscii text = letters := by
  induction text generalizing letters with
  | nil =>
      rw [List.forall₂_nil_left_iff]
      exact eq_comm
  | cons character text spells =>
      cases letters with
      | nil =>
          constructor
          · intro spelled
            cases spelled
          · intro shown
            cases shown
      | cons letter letters =>
          rw [List.forall₂_cons, standsFor_iff (small letter (by simp)),
            spells fun other member => small other (List.mem_cons_of_mem _ member)]
          exact List.cons.injEq .. ▸ Iff.rfl

/-- Lower case is what a text spells. -/
theorem spells_iff
    {word : String}
    {text : List Char}
    (small : ∀ letter ∈ word.toList, letter.isUpper = false) :
    Spells word text ↔ String.ofList (lowerAscii text) = word := by
  rw [Spells, forall₂_standsFor_iff small]
  constructor
  · intro same
    rw [same, String.ofList_toList]
  · rintro rfl
    rw [String.toList_ofList]

/-- A text spells one of some words exactly if it is that word in lower case. -/
theorem spells_mem_iff
    {words : List String}
    {text : List Char}
    (small : words.all (fun word => word.toList.all (!·.isUpper)) = true) :
    (∃ word ∈ words, Spells word text) ↔ String.ofList (lowerAscii text) ∈ words := by
  have smallEach (word : String) (member : word ∈ words) :
      ∀ letter ∈ word.toList, letter.isUpper = false := by
    intro letter within
    have each := List.all_eq_true.mp (List.all_eq_true.mp small word member) letter within
    exact (Bool.not_eq_true' _).mp each
  constructor
  · rintro ⟨word, member, spells⟩
    rwa [(spells_iff (smallEach word member)).mp spells]
  · intro member
    exact ⟨_, member, (spells_iff (smallEach _ member)).mpr rfl⟩

/-- A text has the digits of a number in decimal, with any number of leading zeros. -/
def HasDigits
    (text : List Char)
    (number : Nat) :
    Prop :=
  ∃ digits : List Nat,
    digits ≠ [] ∧
      (∀ digit ∈ digits, digit < 10) ∧
      text = digits.map Nat.digitChar ∧
      number = Nat.ofDigits 10 digits.reverse

/-- A text writes a number in decimal digits, behind a plus sign or without one. -/
def Writes
    (text : List Char)
    (number : Nat) :
    Prop :=
  HasDigits text number ∨ ∃ digits, text = '+' :: digits ∧ HasDigits digits number

theorem isDigit_digitChar
    {digit : Nat}
    (small : digit < 10) :
    digit.digitChar.isDigit = true ∧ digit.digitChar.toNat - '0'.toNat = digit := by
  revert digit
  decide

/-- A digit character is that of its value. -/
theorem digitChar_of_isDigit
    {character : Char}
    (digit : character.isDigit = true) :
    character.toNat - '0'.toNat < 10 ∧
      Nat.digitChar (character.toNat - '0'.toNat) = character := by
  have bounds : '0'.toNat ≤ character.toNat ∧ character.toNat ≤ '9'.toNat := by
    simp only [Char.isDigit, Bool.and_eq_true, decide_eq_true_eq, ge_iff_le,
      UInt32.le_iff_toNat_le] at digit
    exact digit
  have width : '9'.toNat = '0'.toNat + 9 :=
    rfl
  have small : character.toNat - '0'.toNat < 10 := by
    omega
  have zeroed : ∀ value < 10, (Nat.digitChar value).toNat = '0'.toNat + value := by
    decide
  refine ⟨small, ?_⟩
  rw [← Char.toNat_inj, zeroed _ small]
  omega

/-- The value of written digits is that of their places. -/
theorem digitsValue_map
    {digits : List Nat}
    (small : ∀ digit ∈ digits, digit < 10) :
    digitsValue (digits.map Nat.digitChar) = Nat.ofDigits 10 digits.reverse := by
  induction digits using List.reverseRecOn with
  | nil =>
      rfl
  | append_singleton digits digit value =>
      have value := value fun other member => small other (List.mem_append_left _ member)
      have last := (isDigit_digitChar (small digit (by simp))).2
      rw [digitsValue] at value
      rw [digitsValue, List.map_append, List.foldl_append, value, List.reverse_append]
      simp only [List.map_cons, List.map_nil, List.foldl_cons, List.foldl_nil, last,
        List.reverse_singleton, List.singleton_append, Nat.ofDigits_cons]
      exact Nat.add_comm ..

/-- Digits are read exactly if they are written, with the value of their places. -/
theorem ofDigits?_eq_some_iff
    {text : List Char}
    {number : Nat} :
    ofDigits? text = some number ↔ HasDigits text number := by
  constructor
  · intro read
    simp only [ofDigits?, Option.ite_none_right_eq_some, List.all_eq_true] at read
    obtain ⟨⟨filled, shown⟩, value⟩ := read
    let digits := text.map fun character => character.toNat - '0'.toNat
    have small : ∀ digit ∈ digits, digit < 10 := by
      intro digit member
      obtain ⟨character, present, rfl⟩ := List.mem_map.mp member
      exact (digitChar_of_isDigit (shown character present)).1
    have written : text = digits.map Nat.digitChar := by
      rw [List.map_map, List.map_congr_left (g := id), List.map_id]
      intro character present
      exact (digitChar_of_isDigit (shown character present)).2
    refine ⟨digits, ?_, small, written, ?_⟩
    · rintro empty
      rw [List.map_eq_nil_iff.mp empty] at filled
      contradiction
    · rw [← digitsValue_map small, ← written]
      exact (Option.some.inj value).symm
  · rintro ⟨digits, filled, small, rfl, rfl⟩
    have shown : (digits.map Nat.digitChar).all Char.isDigit = true := by
      simp only [List.all_map, List.all_eq_true]
      intro digit member
      exact (isDigit_digitChar (small digit member)).1
    rw [ofDigits?, if_pos ⟨by simpa using filled, shown⟩, digitsValue_map small]

theorem not_hasDigits_sign
    {text : List Char}
    {number : Nat} :
    ¬ HasDigits ('+' :: text) number := by
  rw [← ofDigits?_eq_some_iff]
  simp [ofDigits?]

/-- A numeral is read exactly if it is written, with the number that it writes. -/
theorem ofNumeral?_eq_some_iff
    {text : List Char}
    {number : Nat} :
    ofNumeral? text = some number ↔ Writes text number := by
  unfold ofNumeral? Writes
  split
  · rename_i digits
    rw [ofDigits?_eq_some_iff]
    constructor
    · intro written
      exact .inr ⟨digits, rfl, written⟩
    · rintro (written | ⟨others, same, written⟩)
      · exact absurd written not_hasDigits_sign
      · cases same
        exact written
  · rename_i unsigned
    rw [ofDigits?_eq_some_iff]
    constructor
    · exact .inl
    · rintro (written | ⟨digits, rfl, -⟩)
      · exact written
      · exact absurd rfl (unsigned digits)

/-- Digits are in lower case. -/
theorem HasDigits.lowerAscii
    {text : List Char}
    {number : Nat}
    (written : HasDigits text number) :
    lowerAscii text = text := by
  obtain ⟨digits, -, small, rfl, -⟩ := written
  have kept : ∀ digit < 10, digit.digitChar.toLower = digit.digitChar := by
    decide
  rw [Text.lowerAscii, List.map_map]
  apply List.map_congr_left
  intro digit member
  exact kept digit (small digit member)

/-- A numeral is in lower case. -/
theorem Writes.lowerAscii
    {text : List Char}
    {number : Nat}
    (written : Writes text number) :
    lowerAscii text = text := by
  obtain written | ⟨digits, rfl, written⟩ := written
  · exact written.lowerAscii
  · rw [Text.lowerAscii, List.map_cons]
    exact congrArg ('+' :: ·) written.lowerAscii

end Text

end MemberStream
