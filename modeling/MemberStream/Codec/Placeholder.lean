import MemberStream.Deflate.Framing
import MemberStream.Lz4.Header
import MemberStream.Parameter.Set
import MemberStream.Zstd.Header

namespace MemberStream

/-!
# Placeholders

A stream that is closed without any content still holds one member, so that it
can be told from a stream that was never written.  The placeholder of an
algorithm is a member that decodes to nothing.
-/

/--
Whether the placeholder of an algorithm is assembled from its container format
rather than produced by encoding the empty string.
-/
def Algorithm.assemblesPlaceholder : Algorithm → Bool
  | .deflate | .lz4 =>
      true
  | .zstd =>
      false

/-- The placeholder of a stream with the given parameters. -/
def ParameterSet.placeholder
    (parameters : ParameterSet) :
    Bytes :=
  match parameters.algorithm with
  | .deflate =>
      Deflate.emptyMember parameters.deflateFormat parameters.level
  | .lz4 =>
      Lz4.emptyFrame
  | .zstd =>
      Zstd.emptyFrame

end MemberStream
