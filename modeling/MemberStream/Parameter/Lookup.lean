import MemberStream.Parameter.Set

namespace MemberStream

/-!
# Overrides from a key lookup

Overrides are read from three keys of a lookup, such as the process
environment.  An unset or blank key leaves its field empty; a value that does
not denote one is an invalid parameter, reported for the first such key.
-/

namespace Overrides

/-- The key of the algorithm override. -/
def algorithmKey : String :=
  "QZIO_ALGORITHM"

/-- The key of the compression level override. -/
def levelKey : String :=
  "QZIO_COMPRESSION_LEVEL"

/-- The key of the debug level override. -/
def debugLevelKey : String :=
  "QZIO_DEBUG_LEVEL"

/-- Read a compression level: an unsigned numeral from 1 to `2 ^ 32 - 1`. -/
def levelOfText
    (text : List Char) :
    Except ParameterError UInt32 :=
  match Text.ofNumeral? (Text.trim text) with
  | some value =>
      if 0 < value ∧ value < 2 ^ (32 : Nat) then
        .ok (UInt32.ofNat value)
      else
        .error .compressionLevel
  | none =>
      .error .compressionLevel

/-- Read a key with a given reader; an unset or blank key gives nothing. -/
def readKey
    {α : Type}
    (lookup : String → Option String)
    (key : String)
    (read : List Char → Except ParameterError α) :
    Except StreamError (Option α) :=
  match lookup key with
  | none =>
      .ok none
  | some value =>
      if (Text.trim value.toList).isEmpty then
        .ok none
      else
        match read value.toList with
        | .ok result =>
            .ok (some result)
        | .error cause =>
            .error (.invalidParameter cause)

/-- Read the three overrides, in the order algorithm, level and debug level. -/
def ofLookup
    (lookup : String → Option String) :
    Except StreamError Overrides :=
  match readKey lookup algorithmKey Algorithm.ofText with
  | .error error =>
      .error error
  | .ok algorithm =>
      match readKey lookup levelKey levelOfText with
      | .error error =>
          .error error
      | .ok level =>
          match readKey lookup debugLevelKey DebugLevel.ofText with
          | .error error =>
              .error error
          | .ok debugLevel =>
              .ok {
                algorithm := algorithm
                level := level
                debugLevel := debugLevel }

end Overrides

end MemberStream
