namespace MemberStream

/-!
# Phases of a stream

A stream is idle until its first session starts, and again after a reset that
could not start one.
-/

/-- Where a stream is in its life. -/
inductive Phase
  | idle
  | active
  | closed
  deriving Repr, DecidableEq

end MemberStream
