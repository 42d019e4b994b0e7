import MemberStream.Error.Basic

namespace MemberStream

/-!
# Status codes of accelerator libraries

An accelerator answers a call with a number.  `checkStatus` sorts the numbers
into success and the errors of the library; a number outside the table is an
unspecified engine fault.
-/

/--
The outcome that a status code stands for.  Zero, a repeated start and a forced
software path all count as success.
-/
def checkStatus : Int → Except StreamError Unit
  | 0 | 1 | 2 =>
      .ok ()
  | -1 =>
      .error (.invalidParameter .rejected)
  | -2 =>
      .error (.engineFault "unspecified error")
  | -3 =>
      .error .insufficientBuffer
  | -4 =>
      .error (.corruptInput "engine reported corrupted data")
  | -5 =>
      .error .timeout
  | -100 =>
      .error .integrityCheckFailed
  | 11 =>
      .error (.engineFault "using software: no hardware detected")
  | 12 =>
      .error (.engineFault "using software: no memory driver detected")
  | 13 =>
      .error (.engineFault "using software: could not attach to an instance")
  | 14 =>
      .error (.resourceExhausted "using software: not enough pinned memory")
  | 15 =>
      .error (.resourceExhausted "using software: not enough pinned memory for dest buffer")
  | 16 =>
      .error (.unsupportedFormat "using software: device does not support data format")
  | 100 =>
      .error .notYetStarted
  | -101 =>
      .error (.engineFault "no hardware detected")
  | -102 =>
      .error (.engineFault "no memory driver detected")
  | -103 =>
      .error (.engineFault "could not attach to an instance")
  | -104 =>
      .error (.resourceExhausted "not enough pinned memory")
  | -105 =>
      .error (.unsupportedFormat "session may require software, but no software is available")
  | -116 =>
      .error (.unsupportedFormat "device does not support data format")
  | -117 =>
      .error (.engineFault "post process callback failed")
  | -118 =>
      .error (.resourceExhausted "insufficient memory allocated for metadata")
  | -119 =>
      .error (.engineFault "metadata block number out of range")
  | -200 =>
      .error (.unsupportedFormat "request not supported")
  | other =>
      .error (.engineFault ("unknown status " ++ toString other))

end MemberStream
