import MemberStream.Stream.Writer

namespace MemberStream

/-!
# Whole streams

Writing a whole stream means writing its buffers in order and closing it, up to
the first failure.
-/

namespace Writer

variable {σ ε : Type} [Sink σ] [Engine ε]

/-- Write buffers in order up to the first failure; the result counts the bytes taken. -/
def writeChunks
    (writer : Writer σ ε)
    (taken : Nat) :
    List Bytes →
    Except StreamError Nat × Writer σ ε
  | [] =>
      (.ok taken, writer)
  | chunk :: rest =>
      match writer.writeChunk chunk with
      | (.ok count, writer) =>
          writeChunks writer (taken + count) rest
      | (.error error, writer) =>
          (.error error, writer)

/-- Write buffers in order and close. -/
def writeStream
    (writer : Writer σ ε)
    (chunks : List Bytes) :
    Except StreamError Nat × Writer σ ε :=
  match writer.writeChunks 0 chunks with
  | (.error error, writer) =>
      (.error error, writer)
  | (.ok taken, writer) =>
      match writer.close with
      | (.ok (), writer) =>
          (.ok taken, writer)
      | (.error error, writer) =>
          (.error error, writer)

end Writer

end MemberStream
