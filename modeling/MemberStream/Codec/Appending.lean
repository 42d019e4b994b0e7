import MemberStream.Bytes
import MemberStream.Codec.Error

namespace MemberStream

/-!
# Appending to an output

A codec appends a member to an output part by part.  What has been appended
stays there if a later part cannot be written, so a codec that is to leave the
output as it is has to fail before it appends anything.
-/

/-- Appending to an output, which may fail behind what has been appended. -/
abbrev Appending (α : Type) : Type :=
  ExceptT CodecFailure (StateM Bytes) α

namespace Appending

/-- Append some bytes. -/
def append
    (bytes : Bytes) :
    Appending Unit :=
  modify (fun output => output ++ bytes)

/-- Go on with what an encoder has written, or fail with its text. -/
def written
    (result : Except String Bytes) :
    Appending Bytes :=
  match result with
  | .ok bytes =>
      pure bytes
  | .error text =>
      throw (.encodeFailed text)

/-- What appending to some output comes to, and the output after it. -/
def onto
    (appending : Appending Unit)
    (output : Bytes) :
    Except CodecFailure Unit × Bytes :=
  StateT.run (ExceptT.run appending) output

theorem append_onto
    (bytes output : Bytes) :
    (append bytes).onto output = (.ok (), output ++ bytes) := by
  rfl

/-- What follows some bytes is appended behind them. -/
theorem append_bind_onto
    (bytes output : Bytes)
    (next : Unit → Appending Unit) :
    (append bytes >>= next).onto output = (next ()).onto (output ++ bytes) := by
  rfl

/-- What an encoder has written is what is gone on with. -/
theorem written_bind_onto
    (result : Except String Bytes)
    (output : Bytes)
    (next : Bytes → Appending Unit) :
    (written result >>= next).onto output =
      match result with
      | .ok bytes => (next bytes).onto output
      | .error text => (.error (.encodeFailed text), output) := by
  cases result with
  | ok bytes =>
      rfl
  | error text =>
      rfl

/-- What an encoder has written is appended as it is, or its failure is passed on. -/
theorem written_bind_append_onto
    (result : Except String Bytes)
    (output : Bytes) :
    (written result >>= append).onto output =
      match result.mapError .encodeFailed with
      | .ok bytes => (.ok (), output ++ bytes)
      | .error failure => (.error failure, output) := by
  rw [written_bind_onto]
  cases result with
  | ok bytes =>
      exact append_onto bytes output
  | error text =>
      rfl

end Appending

end MemberStream
