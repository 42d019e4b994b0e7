import MemberStream.Parameter.Domain

namespace MemberStream

/-!
# Parameter sets

A stream stages one parameter set while it is idle.  Options change it, and a
session starts with the effective set that `resolve` makes of it: a field set
by an option keeps its value, otherwise an override fills it, otherwise the
default stays.  Zero in an engine tuning field stands for the engine's default.
-/

/-- The fields that were set by an option and that overrides may not replace. -/
structure ExplicitFields where
  algorithm : Bool := false
  level : Bool := false
  debugLevel : Bool := false
  deriving Repr, DecidableEq

/-- Values that fill the fields no option has set. -/
structure Overrides where
  algorithm : Option Algorithm := none
  level : Option UInt32 := none
  debugLevel : Option DebugLevel := none
  deriving Repr, DecidableEq

namespace Overrides

/-- No override at all. -/
def empty : Overrides :=
  {}

/-- Whether no field is overridden. -/
def isEmpty
    (overrides : Overrides) :
    Bool :=
  overrides.algorithm.isNone && overrides.level.isNone && overrides.debugLevel.isNone

end Overrides

/-- The smallest input or output buffer and growth increment an option may ask for. -/
def minBufferLength : Nat :=
  128 * 1024

/-- The buffer length when no option sets one. -/
def defaultBufferLength : Nat :=
  128 * 1024 * 1024

/-- The growth increment when no option sets one. -/
def defaultBufferGrowth : Nat :=
  1024 * 1024

/-- The smallest bounce buffer an option may ask for, and the default. -/
def minBounceBufferLength : Nat :=
  512

/-- The largest slice one compress call takes when no option sets one. -/
def defaultChunkLength : Nat :=
  64 * 1024

/-- Everything a session is started with. -/
structure ParameterSet where
  algorithm : Algorithm := .deflate
  level : UInt32 := 1
  direction : Direction := .both
  deflateFormat : DeflateFormat := .gzipExtended
  outputBufferLength : Nat := defaultBufferLength
  inputBufferLength : Nat := defaultBufferLength
  bufferGrowth : Nat := defaultBufferGrowth
  bounceBufferLength : Nat := minBounceBufferLength
  inputBufferMode : InputBufferMode := .reserve
  /-- The most that an input or output buffer may grow to. -/
  maxBufferLength : Option Nat := none
  debugLevel : DebugLevel := .none
  huffmanHeader : HuffmanHeader := .dynamic
  pollingMode : PollingMode := .periodical
  softwareBackup : Bool := false
  sensitive : Bool := false
  maxForks : UInt32 := 0
  hardwareBufferSize : UInt32 := 0
  streamBufferSize : UInt32 := 0
  softwareSwitchThreshold : UInt32 := 0
  requestCountThreshold : UInt32 := 0
  waitCountThreshold : UInt32 := 0
  explicit : ExplicitFields := {}
  deriving Repr, DecidableEq

instance : Inhabited ParameterSet where
  default :=
    {}

namespace ParameterSet

/-- The effective parameters of a new session. -/
def resolve
    (staged : ParameterSet)
    (overrides : Overrides) :
    ParameterSet :=
  { staged with
    algorithm :=
      if staged.explicit.algorithm then
        staged.algorithm
      else
        overrides.algorithm.getD staged.algorithm
    level :=
      if staged.explicit.level then
        staged.level
      else
        overrides.level.getD staged.level
    debugLevel :=
      if staged.explicit.debugLevel then
        staged.debugLevel
      else
        overrides.debugLevel.getD staged.debugLevel }

/-- The largest slice an engine takes per compress call. -/
def chunkLength
    (parameters : ParameterSet) :
    Nat :=
  if parameters.hardwareBufferSize = 0 then
    defaultChunkLength
  else
    parameters.hardwareBufferSize.toNat

/-- A compress call can always take at least one byte. -/
theorem chunkLength_pos
    (parameters : ParameterSet) :
    0 < parameters.chunkLength := by
  unfold chunkLength
  split
  · decide
  · rename_i nonzero
    apply Nat.pos_of_ne_zero
    intro zero
    exact nonzero (UInt32.toNat_inj.mp zero)

end ParameterSet

end MemberStream
