import MemberStream.Parameter.Set

namespace MemberStream

/-!
# Options

An option is one validated change of a staged parameter set.  A target accepts
the option families of its role.  A batch is applied in order and stops at the
first option that is outside its domain or that the role does not accept; the
options before it stay applied.
-/

/-- An option family, the unit in which a role accepts options. -/
inductive Capability
  /-- Algorithm, framing, direction, debug level and engine tuning. -/
  | common
  | level
  | huffman
  /-- Input buffer mode and bounce buffer length. -/
  | inputStaging
  /-- Output buffer length, growth increment and growth ceiling. -/
  | outputBuffers
  | inputBuffer
  deriving Repr, DecidableEq

/-- What kind of target options are applied to. -/
inductive TargetRole
  | writer
  | reader
  /-- A bare holder of engine parameters. -/
  | session
  deriving Repr, DecidableEq

namespace TargetRole

/-- The option families that a role accepts. -/
def capabilities : TargetRole → List Capability
  | .writer =>
      [.common, .level, .huffman, .inputStaging, .outputBuffers]
  | .reader =>
      [.common, .outputBuffers, .inputBuffer]
  | .session =>
      [.common, .level, .huffman]

end TargetRole

/-- One change of a staged parameter set. -/
inductive StreamOption
  /-- Must be positive; the engine checks the upper bound when a session starts. -/
  | compressionLevel (level : Int32)
  | algorithm (algorithm : Algorithm)
  | deflateFormat (format : DeflateFormat)
  | direction (direction : Direction)
  | inputBufferMode (mode : InputBufferMode)
  | pollingMode (mode : PollingMode)
  | huffmanHeader (header : HuffmanHeader)
  | debugLevel (level : DebugLevel)
  | outputBufferLength (length : Nat)
  | inputBufferLength (length : Nat)
  | bufferGrowth (increment : Nat)
  | bounceBufferLength (length : Nat)
  | maxBufferLength (length : Nat)
  | softwareBackup (enabled : Bool)
  | sensitive (enabled : Bool)
  | maxForks (count : UInt32)
  | hardwareBufferSize (size : UInt32)
  | streamBufferSize (size : UInt32)
  | softwareSwitchThreshold (threshold : UInt32)
  | requestCountThreshold (threshold : UInt32)
  | waitCountThreshold (threshold : UInt32)
  deriving DecidableEq

namespace StreamOption

/-- The family an option belongs to. -/
def capability : StreamOption → Capability
  | .compressionLevel _ =>
      .level
  | .huffmanHeader _ =>
      .huffman
  | .inputBufferMode _ | .bounceBufferLength _ =>
      .inputStaging
  | .outputBufferLength _ | .bufferGrowth _ | .maxBufferLength _ =>
      .outputBuffers
  | .inputBufferLength _ =>
      .inputBuffer
  | _ =>
      .common

/-- Check a value against its own domain, whatever the target. -/
def validate : StreamOption → Except ParameterError Unit
  | .compressionLevel level =>
      if level ≤ 0 then .error .compressionLevel else .ok ()
  | .outputBufferLength length =>
      if length < minBufferLength then .error .outputBufferLength else .ok ()
  | .inputBufferLength length =>
      if length < minBufferLength then .error .inputBufferLength else .ok ()
  | .bufferGrowth increment =>
      if increment < minBufferLength then .error .bufferGrowth else .ok ()
  | .bounceBufferLength length =>
      if length < minBounceBufferLength then .error .bounceBufferLength else .ok ()
  | .maxBufferLength length =>
      if length < minBufferLength then .error .maxBufferLength else .ok ()
  | _ =>
      .ok ()

/--
Check an option against the role of its target: the family must be accepted, a
writer cannot only decompress and a reader cannot only compress.
-/
def checkRole
    (option : StreamOption)
    (role : TargetRole) :
    Except ParameterError Unit :=
  if option.capability ∈ role.capabilities then
    match option, role with
    | .direction .decompress, .writer =>
        .error .incompatibleDirection
    | .direction .compress, .reader =>
        .error .incompatibleDirection
    | _, _ =>
        .ok ()
  else
    .error .invalidTarget

/-- Whether a target of some role takes an option, and the first objection if not. -/
def check
    (option : StreamOption)
    (role : TargetRole) :
    Except ParameterError Unit :=
  match option.validate with
  | .ok () =>
      option.checkRole role
  | .error cause =>
      .error cause

/-- Change a parameter set as an accepted option says. -/
def stage
    (option : StreamOption)
    (parameters : ParameterSet) :
    ParameterSet :=
  match option with
  | .compressionLevel level =>
      { parameters with
        level := UInt32.ofNat level.toNatClampNeg
        explicit := { parameters.explicit with level := true } }
  | .algorithm value =>
      { parameters with
        algorithm := value
        explicit := { parameters.explicit with algorithm := true } }
  | .debugLevel level =>
      { parameters with
        debugLevel := level
        explicit := { parameters.explicit with debugLevel := true } }
  | .deflateFormat format =>
      { parameters with deflateFormat := format }
  | .direction value =>
      { parameters with direction := value }
  | .inputBufferMode mode =>
      { parameters with inputBufferMode := mode }
  | .pollingMode mode =>
      { parameters with pollingMode := mode }
  | .huffmanHeader header =>
      { parameters with huffmanHeader := header }
  | .outputBufferLength length =>
      { parameters with outputBufferLength := length }
  | .inputBufferLength length =>
      { parameters with inputBufferLength := length }
  | .bufferGrowth increment =>
      { parameters with bufferGrowth := increment }
  | .bounceBufferLength length =>
      { parameters with bounceBufferLength := length }
  | .maxBufferLength length =>
      { parameters with maxBufferLength := some length }
  | .softwareBackup enabled =>
      { parameters with softwareBackup := enabled }
  | .sensitive enabled =>
      { parameters with sensitive := enabled }
  | .maxForks count =>
      { parameters with maxForks := count }
  | .hardwareBufferSize size =>
      { parameters with hardwareBufferSize := size }
  | .streamBufferSize size =>
      { parameters with streamBufferSize := size }
  | .softwareSwitchThreshold threshold =>
      { parameters with softwareSwitchThreshold := threshold }
  | .requestCountThreshold threshold =>
      { parameters with requestCountThreshold := threshold }
  | .waitCountThreshold threshold =>
      { parameters with waitCountThreshold := threshold }

end StreamOption

/-- Stage options in order up to the first one that the role does not take. -/
def stageOptions
    (role : TargetRole) :
    List StreamOption →
    ParameterSet →
    Except StreamError Unit × ParameterSet
  | [], parameters =>
      (.ok (), parameters)
  | option :: rest, parameters =>
      match option.check role with
      | .ok () =>
          stageOptions role rest (option.stage parameters)
      | .error cause =>
          (.error (.invalidParameter cause), parameters)

/--
Apply a batch of options to the staged set of a target.  Once the target's
session exists every batch is refused and nothing changes.
-/
def applyOptions
    (role : TargetRole)
    (started : Bool)
    (options : List StreamOption)
    (parameters : ParameterSet) :
    Except StreamError Unit × ParameterSet :=
  if started then
    (.error .applyAfterStart, parameters)
  else
    stageOptions role options parameters

/-- Stand-alone engine parameters, for callers that drive an engine themselves. -/
structure SessionParameters where
  parameters : ParameterSet := {}
  started : Bool := false

namespace SessionParameters

/-- Apply a batch of options. -/
def apply
    (session : SessionParameters)
    (options : List StreamOption) :
    Except StreamError Unit × SessionParameters :=
  let (result, parameters) :=
    applyOptions .session session.started options session.parameters
  (result, { session with parameters := parameters })

/-- Freeze the parameters; every later batch is refused. -/
def freeze
    (session : SessionParameters) :
    SessionParameters :=
  { session with started := true }

end SessionParameters

end MemberStream
