import MemberStream.Error.Basic
import MemberStream.Text.Blank
import MemberStream.Text.Numeral

namespace MemberStream

/-!
# Closed parameter domains

Each domain is a finite type.  Its members are listed in the order of their raw
numbers, and each has a label under which it is serialised; algorithms and
debug levels can also be read from configuration text.
-/

/-- A finite domain: its members in raw order, and the label of each. -/
class Domain (α : Type) where
  members : List α
  label : α → String
  /-- The error that a value outside the domain raises. -/
  violation : ParameterError

namespace Domain

/-- The member with a given raw number. -/
def ofRaw
    {α : Type}
    [domain : Domain α]
    (raw : Nat) :
    Except ParameterError α :=
  match domain.members[raw]? with
  | some member =>
      .ok member
  | none =>
      .error domain.violation

/-- The member with a given label. -/
def ofLabel?
    {α : Type}
    [domain : Domain α]
    (text : String) :
    Option α :=
  domain.members.find? (fun member => domain.label member == text)

end Domain

/-- A family of member formats. -/
inductive Algorithm
  | deflate
  | lz4
  | zstd
  deriving Repr, DecidableEq

namespace Algorithm

/-- The name of an algorithm in messages. -/
def name : Algorithm → String
  | .deflate =>
      "deflate"
  | .lz4 =>
      "lz4"
  | .zstd =>
      "zstd"

instance : Domain Algorithm where
  members :=
    [.deflate, .lz4, .zstd]
  label
    | .deflate =>
        "Deflate"
    | .lz4 =>
        "Lz4"
    | .zstd =>
        "Zstd"
  violation :=
    .algorithm

/--
Read an algorithm from configuration text: one of `deflate`, `gzip`, `lz4` and
`zstd`, up to ASCII case and blanks at the ends.
-/
def ofText
    (text : List Char) :
    Except ParameterError Algorithm :=
  let word := String.ofList (Text.lowerAscii (Text.trim text))
  if word = "deflate" ∨ word = "gzip" then
    .ok .deflate
  else if word = "lz4" then
    .ok .lz4
  else if word = "zstd" then
    .ok .zstd
  else
    .error .algorithm

end Algorithm

/-- The container around a deflate body. -/
inductive DeflateFormat
  /-- The body behind its length in four octets. -/
  | lengthPrefixed
  | gzip
  /-- A gzip member whose extra field holds the source and body lengths. -/
  | gzipExtended
  | raw
  deriving Repr, DecidableEq

instance : Domain DeflateFormat where
  members :=
    [.lengthPrefixed, .gzip, .gzipExtended, .raw]
  label
    | .lengthPrefixed =>
        "Deflate4B"
    | .gzip =>
        "Gzip"
    | .gzipExtended =>
        "GzipExt"
    | .raw =>
        "Raw"
  violation :=
    .deflateFormat

/-- Which way data may pass through a session. -/
inductive Direction
  | compress
  | decompress
  | both
  deriving Repr, DecidableEq

namespace Direction

instance : Domain Direction where
  members :=
    [.compress, .decompress, .both]
  label
    | .compress =>
        "Compress"
    | .decompress =>
        "Decompress"
    | .both =>
        "Both"
  violation :=
    .direction

/-- Whether a session of this direction compresses. -/
def allowsCompress
    (direction : Direction) :
    Bool :=
  direction != .decompress

/-- Whether a session of this direction decompresses. -/
def allowsDecompress
    (direction : Direction) :
    Bool :=
  direction != .compress

end Direction

/-- How a writer stages the caller's bytes before the engine sees them. -/
inductive InputBufferMode
  /-- Hold back the tail of each large write, so that it can be marked last. -/
  | reserve
  /-- Hold back every write until the next call. -/
  | bounce
  /-- Mark every engine call as the final one. -/
  | last
  /-- Never mark a chunk as final, and hold nothing back. -/
  | noLast
  deriving Repr, DecidableEq

instance : Domain InputBufferMode where
  members :=
    [.reserve, .bounce, .last, .noLast]
  label
    | .reserve =>
        "Reserve"
    | .bounce =>
        "Bounce"
    | .last =>
        "Last"
    | .noLast =>
        "NoLast"
  violation :=
    .inputBufferMode

/-- How an accelerator waits for its device. -/
inductive PollingMode
  | periodical
  | busy
  deriving Repr, DecidableEq

instance : Domain PollingMode where
  members :=
    [.periodical, .busy]
  label
    | .periodical =>
        "Periodical"
    | .busy =>
        "Busy"
  violation :=
    .pollingMode

/-- Which Huffman headers an accelerator writes. -/
inductive HuffmanHeader
  | dynamic
  | static
  deriving Repr, DecidableEq

instance : Domain HuffmanHeader where
  members :=
    [.dynamic, .static]
  label
    | .dynamic =>
        "Dynamic"
    | .static =>
        "Static"
  violation :=
    .huffmanHeader

/-- Trace verbosity, from silent to everything. -/
inductive DebugLevel
  | none
  | low
  | medium
  | high
  | debug
  deriving Repr, DecidableEq

namespace DebugLevel

instance : Domain DebugLevel where
  members :=
    [.none, .low, .medium, .high, .debug]
  label
    | .none =>
        "None"
    | .low =>
        "Low"
    | .medium =>
        "Med"
    | .high =>
        "High"
    | .debug =>
        "Debug"
  violation :=
    .debugLevel

/-- The place of a level in the order of verbosity. -/
def rank : DebugLevel → Nat
  | .none =>
      0
  | .low =>
      1
  | .medium =>
      2
  | .high =>
      3
  | .debug =>
      4

instance : LE DebugLevel where
  le lower upper :=
    lower.rank ≤ upper.rank

instance (lower upper : DebugLevel) : Decidable (lower ≤ upper) :=
  inferInstanceAs (Decidable (lower.rank ≤ upper.rank))

/--
Read a debug level from configuration text: a number, or one of `none`, `low`,
`med`, `medium`, `high` and `debug` up to ASCII case; blanks at the ends do not
count.
-/
def ofText
    (text : List Char) :
    Except ParameterError DebugLevel :=
  let trimmed := Text.trim text
  match Text.ofNumeral? trimmed with
  | some raw =>
      Domain.ofRaw raw
  | Option.none =>
      let word := String.ofList (Text.lowerAscii trimmed)
      if word = "none" then
        .ok .none
      else if word = "low" then
        .ok .low
      else if word = "med" ∨ word = "medium" then
        .ok .medium
      else if word = "high" then
        .ok .high
      else if word = "debug" then
        .ok .debug
      else
        .error .debugLevel

end DebugLevel

end MemberStream
