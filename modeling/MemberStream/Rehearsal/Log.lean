import MemberStream.Engine.Recorded
import MemberStream.Error.Label

namespace MemberStream

/-!
# Logs of engine calls

A log has one line for each call on an engine: the call, an arrow and the
answer.  A data call is shown with the mark for the last chunk as it stood then,
so a log is written from its first call on.
-/

namespace EngineCall

/-- An answer, shown by its label if it is an error. -/
def outcome
    {α : Type}
    (shown : α → String) :
    Except StreamError α →
    String
  | .ok value =>
      shown value
  | .error error =>
      error.label

/-- A truth value. -/
def truth
    (value : Bool) :
    String :=
  if value then "true" else "false"

/-- A data call of the given name. -/
def dataLine
    (name : String)
    (last : Bool)
    (input : Bytes)
    (capacity : Nat)
    (result : Except StreamError Step) :
    String :=
  let counts (step : Step) : String := toString step.consumed ++ "/" ++ toString step.produced
  name ++ " in=" ++ toString input.length ++ " out=" ++ toString capacity ++ " last=" ++
    truth last ++ " -> " ++ outcome counts result

/-- The line of a call, given the mark before it. -/
def line
    (last : Bool) :
    EngineCall →
    String
  | .start parameters result =>
      "start " ++ parameters.algorithm.name ++ " " ++ toString parameters.level ++ " " ++
        Domain.label parameters.inputBufferMode ++ " -> " ++ outcome (fun _ => "ok") result
  | .compress input capacity reply =>
      dataLine "compress" last input capacity reply.result
  | .decompress input capacity reply =>
      dataLine "decompress" last input capacity reply.result
  | .setLast value =>
      "set_last " ++ truth value
  | .close result =>
      "close -> " ++ outcome (fun _ => "ok") result

/-- The mark after a call: a new session starts without one. -/
def markAfter
    (last : Bool) :
    EngineCall →
    Bool
  | .start _ (.ok _) =>
      false
  | .setLast value =>
      value
  | _ =>
      last

/-- The lines of some calls, given the mark before them. -/
def lines
    (last : Bool) :
    List EngineCall →
    List String
  | [] =>
      []
  | call :: rest =>
      call.line last :: lines (call.markAfter last) rest

end EngineCall

end MemberStream
