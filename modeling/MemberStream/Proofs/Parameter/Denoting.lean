import MemberStream.Parameter.Lookup
import MemberStream.Proofs.Text.Written

namespace MemberStream

/-!
# What the keys of a lookup denote

A key that is unset or blank denotes nothing.  Otherwise what is between the blanks has
to spell a word for an algorithm or a debug level, or to write a number in its range.
Overrides are read exactly if each key denotes something, and an error names the first key
that does not, in the order algorithm, level and debug level.
-/

namespace Algorithm

/-- The words for an algorithm in configuration text. -/
def words : Algorithm → List String
  | .deflate =>
      ["deflate", "gzip"]
  | .lz4 =>
      ["lz4"]
  | .zstd =>
      ["zstd"]

/-- A text is a word for an algorithm. -/
def Written
    (text : List Char)
    (algorithm : Algorithm) :
    Prop :=
  ∃ word ∈ algorithm.words, Text.Spells word text

end Algorithm

namespace DebugLevel

/-- The words for a debug level in configuration text. -/
def words : DebugLevel → List String
  | .none =>
      ["none"]
  | .low =>
      ["low"]
  | .medium =>
      ["med", "medium"]
  | .high =>
      ["high"]
  | .debug =>
      ["debug"]

/-- A text is the number of a debug level, or a word for it. -/
def Written
    (text : List Char)
    (level : DebugLevel) :
    Prop :=
  Text.Writes text level.rank ∨ ∃ word ∈ level.words, Text.Spells word text

end DebugLevel

namespace Overrides

/-- A text writes a compression level, which is a positive machine integer. -/
def LevelWritten
    (text : List Char)
    (level : UInt32) :
    Prop :=
  0 < level.toNat ∧ Text.Writes text level.toNat

/-- What the entry of a key denotes, given what may be written between its blanks. -/
inductive Denotes
    {α : Type}
    (written : List Char → α → Prop) :
    Option String →
    Option α →
    Prop where
  | unset :
      Denotes written none none
  | blank
      {entry : String}
      (blank : Text.Blank entry.toList) :
      Denotes written (some entry) none
  | value
      {entry : String}
      {core : List Char}
      {value : α}
      (trims : Text.Trims entry.toList core)
      (writes : written core value) :
      Denotes written (some entry) (some value)

/-- A key denotes something, if only that there is no override. -/
def Denoting
    {α : Type}
    (written : List Char → α → Prop)
    (entry : Option String) :
    Prop :=
  ∃ value, Denotes written entry value

/-- The overrides are what the three keys of a lookup denote. -/
structure Denoted
    (lookup : String → Option String)
    (overrides : Overrides) :
    Prop where
  algorithm : Denotes Algorithm.Written (lookup algorithmKey) overrides.algorithm
  level : Denotes LevelWritten (lookup levelKey) overrides.level
  debugLevel : Denotes DebugLevel.Written (lookup debugLevelKey) overrides.debugLevel

/-- What is wrong with a lookup: its first key that denotes nothing at all. -/
inductive Offends
    (lookup : String → Option String) :
    ParameterError →
    Prop where
  | algorithm
      (offending : ¬ Denoting Algorithm.Written (lookup algorithmKey)) :
      Offends lookup .algorithm
  | level
      (algorithm : Denoting Algorithm.Written (lookup algorithmKey))
      (offending : ¬ Denoting LevelWritten (lookup levelKey)) :
      Offends lookup .compressionLevel
  | debugLevel
      (algorithm : Denoting Algorithm.Written (lookup algorithmKey))
      (level : Denoting LevelWritten (lookup levelKey))
      (offending : ¬ Denoting DebugLevel.Written (lookup debugLevelKey)) :
      Offends lookup .debugLevel

end Overrides

/-! ## What a reader of configuration text accepts -/

/-- A reader takes exactly what is written between the blanks, and has one error for the rest. -/
structure ReadsText
    {α : Type}
    (read : List Char → Except ParameterError α)
    (written : List Char → α → Prop)
    (cause : ParameterError) :
    Prop where
  accepts : ∀ text value, read text = .ok value ↔ written (Text.trim text) value
  refuses : ∀ text error, read text = .error error → error = cause
  filled : ∀ value, ¬ written [] value

namespace Algorithm

/-- A text is a word for an algorithm exactly if it is that word in lower case. -/
theorem written_iff
    {text : List Char}
    {algorithm : Algorithm} :
    Written text algorithm ↔ String.ofList (Text.lowerAscii text) ∈ algorithm.words := by
  apply Text.spells_mem_iff
  cases algorithm <;> rfl

/-- The reader of algorithms takes the words for them. -/
theorem readsText_ofText :
    ReadsText ofText Written .algorithm where
  accepts := by
    intro text algorithm
    rw [written_iff, ofText]
    cases algorithm <;> grind [words]
  refuses := by
    intro text error refused
    grind [ofText]
  filled := by
    intro algorithm
    rw [written_iff]
    cases algorithm <;> decide

end Algorithm

namespace Overrides

/-- The reader of compression levels takes the numbers in their range. -/
theorem readsText_levelOfText :
    ReadsText levelOfText LevelWritten .compressionLevel where
  accepts := by
    intro text level
    rw [LevelWritten, ← Text.ofNumeral?_eq_some_iff, levelOfText]
    cases Text.ofNumeral? (Text.trim text) with
    | none =>
        simp
    | some number =>
        simp only [Option.some.injEq]
        split
        · rename_i inside
          have kept : (UInt32.ofNat number).toNat = number :=
            UInt32.toNat_ofNat_of_lt' inside.2
          constructor
          · intro read
            cases read
            exact ⟨kept.symm ▸ inside.1, kept.symm⟩
          · rintro ⟨-, rfl⟩
            rw [UInt32.ofNat_toNat]
        · rename_i outside
          constructor
          · intro read
            cases read
          · rintro ⟨positive, rfl⟩
            exact absurd ⟨positive, level.toNat_lt⟩ outside
  refuses := by
    intro text error refused
    grind [levelOfText]
  filled := by
    rintro level ⟨-, written⟩
    rw [← Text.ofNumeral?_eq_some_iff] at written
    cases written

end Overrides

namespace DebugLevel

/-- A text is a word for a debug level exactly if it is that word in lower case. -/
theorem spelled_iff
    {text : List Char}
    {level : DebugLevel} :
    (∃ word ∈ level.words, Text.Spells word text) ↔
      String.ofList (Text.lowerAscii text) ∈ level.words := by
  apply Text.spells_mem_iff
  cases level <;> rfl

/-- No numeral is a word for a debug level. -/
theorem not_spelled_of_writes
    {text : List Char}
    {number : Nat}
    (writes : Text.Writes text number)
    (level : DebugLevel) :
    String.ofList (Text.lowerAscii text) ∉ level.words := by
  have unread : ∀ word ∈ level.words, Text.ofNumeral? word.toList = Option.none := by
    cases level <;> decide
  intro member
  have read := unread _ member
  rw [writes.lowerAscii, String.toList_ofList, Text.ofNumeral?_eq_some_iff.mpr writes] at read
  contradiction

/-- The reader of raw numbers takes the rank of each debug level. -/
theorem ofRaw_eq_ok_iff
    {raw : Nat}
    {level : DebugLevel} :
    Domain.ofRaw raw = .ok level ↔ raw = level.rank := by
  match raw with
  | 0 | 1 | 2 | 3 | 4 =>
      cases level <;> decide
  | raw + 5 =>
      have outside : Domain.ofRaw (raw + 5) = (.error .debugLevel : Except _ DebugLevel) :=
        rfl
      rw [outside]
      cases level <;> simp [rank]

/-- A raw number that is refused is no debug level. -/
theorem cause_of_ofRaw
    {raw : Nat}
    {error : ParameterError}
    (refused : Domain.ofRaw (α := DebugLevel) raw = .error error) :
    error = .debugLevel := by
  unfold Domain.ofRaw at refused
  split at refused
  · cases refused
  · exact (Except.error.inj refused).symm

/-- The reader of debug levels takes their numbers and the words for them. -/
theorem readsText_ofText :
    ReadsText ofText Written .debugLevel where
  accepts := by
    intro text level
    rw [Written, spelled_iff, ofText]
    cases number : Text.ofNumeral? (Text.trim text) with
    | none =>
        have unwritten : ¬ Text.Writes (Text.trim text) level.rank := by
          rw [← Text.ofNumeral?_eq_some_iff, number]
          simp
        cases level <;> grind [words]
    | some raw =>
        have writes := Text.ofNumeral?_eq_some_iff.mp number
        have unspelled := not_spelled_of_writes writes level
        rw [← Text.ofNumeral?_eq_some_iff, number, or_iff_left unspelled, Option.some.injEq]
        exact ofRaw_eq_ok_iff
  refuses := by
    intro text error refused
    grind [ofText, cause_of_ofRaw]
  filled := by
    intro level
    rw [Written, spelled_iff, ← Text.ofNumeral?_eq_some_iff]
    cases level <;> decide

end DebugLevel

namespace Overrides

/-! ## The keys one after the other -/

section Key

variable
  {α : Type}
  {read : List Char → Except ParameterError α}
  {written : List Char → α → Prop}
  {cause : ParameterError}
  {lookup : String → Option String}
  {key : String}

/-- A key is read with the value that its entry denotes. -/
theorem readKey_eq_ok_iff
    (reads : ReadsText read written cause)
    {value : Option α} :
    readKey lookup key read = .ok value ↔ Denotes written (lookup key) value := by
  unfold readKey
  cases lookup key with
  | none =>
      constructor
      · intro same
        cases same
        exact .unset
      · intro denotes
        cases denotes
        rfl
  | some entry =>
      simp only [List.isEmpty_iff]
      split
      · rename_i empty
        constructor
        · intro same
          cases same
          exact .blank (Text.trim_eq_nil_iff.mp empty)
        · intro denotes
          cases denotes with
          | blank blank =>
              rfl
          | value trims writes =>
              rw [← Text.trims_iff.mp trims, empty] at writes
              exact absurd writes (reads.filled _)
      · rename_i filled
        have accepted := reads.accepts entry.toList
        constructor
        · intro same
          split at same
          · rename_i result taken
            cases same
            exact .value (Text.trims_trim _) ((accepted result).mp taken)
          · cases same
        · intro denotes
          cases denotes with
          | blank blank =>
              exact absurd (Text.trim_eq_nil_iff.mpr blank) filled
          | value trims writes =>
              rw [← Text.trims_iff.mp trims] at writes
              rw [(accepted _).mpr writes]

/-- A key denotes something exactly if it can be read. -/
theorem denoting_iff
    (reads : ReadsText read written cause) :
    Denoting written (lookup key) ↔ ∃ value, readKey lookup key read = .ok value := by
  exact exists_congr fun value => (readKey_eq_ok_iff reads).symm

/-- A key that denotes nothing is refused, with the one error of its reader. -/
theorem readKey_eq_error_iff
    (reads : ReadsText read written cause)
    {error : StreamError} :
    readKey lookup key read = .error error ↔
      error = .invalidParameter cause ∧ ¬ Denoting written (lookup key) := by
  have sole {error : StreamError} (refused : readKey lookup key read = .error error) :
      error = .invalidParameter cause := by
    unfold readKey at refused
    split at refused
    · cases refused
    · split at refused
      · cases refused
      · split at refused
        · cases refused
        · rename_i offending
          cases refused
          rw [reads.refuses _ _ offending]
  rw [denoting_iff reads]
  constructor
  · intro refused
    exact ⟨sole refused, by simp [refused]⟩
  · rintro ⟨rfl, unread⟩
    cases result : readKey lookup key read with
    | ok value =>
        exact absurd ⟨value, result⟩ unread
    | error error =>
        rw [sole result]

end Key

/-- Overrides are read exactly if they are what the keys denote. -/
theorem ofLookup_eq_ok_iff
    {lookup : String → Option String}
    {overrides : Overrides} :
    ofLookup lookup = .ok overrides ↔ Denoted lookup overrides := by
  constructor
  · intro result
    unfold ofLookup at result
    split at result
    · cases result
    · rename_i algorithm readAlgorithm
      split at result
      · cases result
      · rename_i level readLevel
        split at result
        · cases result
        · rename_i debugLevel readDebugLevel
          cases result
          exact {
            algorithm := (readKey_eq_ok_iff Algorithm.readsText_ofText).mp readAlgorithm
            level := (readKey_eq_ok_iff readsText_levelOfText).mp readLevel
            debugLevel := (readKey_eq_ok_iff DebugLevel.readsText_ofText).mp readDebugLevel }
  · rintro ⟨algorithm, level, debugLevel⟩
    rw [← readKey_eq_ok_iff Algorithm.readsText_ofText] at algorithm
    rw [← readKey_eq_ok_iff readsText_levelOfText] at level
    rw [← readKey_eq_ok_iff DebugLevel.readsText_ofText] at debugLevel
    simp only [ofLookup, algorithm, level, debugLevel]

/-- A lookup is refused exactly for its first key that denotes nothing at all. -/
theorem ofLookup_eq_error_iff
    {lookup : String → Option String}
    {error : StreamError} :
    ofLookup lookup = .error error ↔
      ∃ cause, error = .invalidParameter cause ∧ Offends lookup cause := by
  have algorithmKnown : Denoting Algorithm.Written (lookup algorithmKey) ↔ _ :=
    denoting_iff Algorithm.readsText_ofText
  have levelKnown : Denoting LevelWritten (lookup levelKey) ↔ _ :=
    denoting_iff readsText_levelOfText
  constructor
  · intro refused
    unfold ofLookup at refused
    split at refused
    · rename_i error offending
      cases refused
      obtain ⟨rfl, senseless⟩ := (readKey_eq_error_iff Algorithm.readsText_ofText).mp offending
      exact ⟨_, rfl, .algorithm senseless⟩
    · rename_i algorithm readAlgorithm
      have known := algorithmKnown.mpr ⟨algorithm, readAlgorithm⟩
      split at refused
      · rename_i error offending
        cases refused
        obtain ⟨rfl, senseless⟩ := (readKey_eq_error_iff readsText_levelOfText).mp offending
        exact ⟨_, rfl, .level known senseless⟩
      · rename_i level readLevel
        split at refused
        · rename_i error offending
          cases refused
          obtain ⟨rfl, senseless⟩ :=
            (readKey_eq_error_iff DebugLevel.readsText_ofText).mp offending
          exact ⟨_, rfl, .debugLevel known (levelKnown.mpr ⟨level, readLevel⟩) senseless⟩
        · cases refused
  · rintro ⟨cause, rfl, offends⟩
    cases offends with
    | algorithm offending =>
        have refused := (readKey_eq_error_iff Algorithm.readsText_ofText).mpr ⟨rfl, offending⟩
        simp only [ofLookup, refused]
    | level algorithm offending =>
        obtain ⟨algorithm, readAlgorithm⟩ := algorithmKnown.mp algorithm
        have refused := (readKey_eq_error_iff readsText_levelOfText).mpr ⟨rfl, offending⟩
        simp only [ofLookup, readAlgorithm, refused]
    | debugLevel algorithm level offending =>
        obtain ⟨algorithm, readAlgorithm⟩ := algorithmKnown.mp algorithm
        obtain ⟨level, readLevel⟩ := levelKnown.mp level
        have refused := (readKey_eq_error_iff DebugLevel.readsText_ofText).mpr ⟨rfl, offending⟩
        simp only [ofLookup, readAlgorithm, readLevel, refused]

/--
Overrides are read from a lookup exactly if each of the three keys denotes something, and
they are then what the keys denote; otherwise the error is that of the first key that does
not.
-/
theorem ofLookup_exact
    (lookup : String → Option String) :
    (∀ overrides, ofLookup lookup = .ok overrides ↔ Denoted lookup overrides) ∧
      ((∃ overrides, ofLookup lookup = .ok overrides) ↔
        Denoting Algorithm.Written (lookup algorithmKey) ∧
          Denoting LevelWritten (lookup levelKey) ∧
            Denoting DebugLevel.Written (lookup debugLevelKey)) ∧
      ∀ error,
        ofLookup lookup = .error error ↔
          ∃ cause, error = .invalidParameter cause ∧ Offends lookup cause := by
  refine ⟨fun overrides => ofLookup_eq_ok_iff, ?_, fun error => ofLookup_eq_error_iff⟩
  constructor
  · rintro ⟨overrides, result⟩
    obtain ⟨algorithm, level, debugLevel⟩ := ofLookup_eq_ok_iff.mp result
    exact ⟨⟨_, algorithm⟩, ⟨_, level⟩, ⟨_, debugLevel⟩⟩
  · rintro ⟨⟨algorithm, denoted⟩, ⟨level, levelDenoted⟩, ⟨debugLevel, debugLevelDenoted⟩⟩
    refine ⟨{ algorithm, level, debugLevel }, ofLookup_eq_ok_iff.mpr ?_⟩
    exact {
      algorithm := denoted
      level := levelDenoted
      debugLevel := debugLevelDenoted }

end Overrides

end MemberStream
