import SocketLayer.Session.Answer

/-!
# Names of chosen ports

The ports that a script names itself are reported as numbers. A port that the kernel chose is
reported by a name that tells how many such ports had appeared before it, so that a report does not
depend on the choice.
-/

set_option autoImplicit false

namespace SocketLayer.Session

/-- The ports reported as numbers, and the chosen ports in the order they appeared. -/
structure PortNames where
  literals : List UInt16
  seen : List UInt16

namespace PortNames

/-- The names of a report that has not begun. -/
def start (literals : List UInt16) : PortNames := ⟨literals, []⟩

/-- The label of a port, with the names afterwards. -/
def label (names : PortNames) (port : UInt16) : PortLabel × PortNames :=
  if port = 0 ∨ port ∈ names.literals then (.number port, names)
  else
    match names.seen.idxOf? port with
    | some index => (.name (index + 1), names)
    | none => (.name (names.seen.length + 1), { names with seen := names.seen ++ [port] })

end PortNames

/-- The value with its ports labelled. -/
def Value.label (names : PortNames) : Value UInt16 → Value PortLabel × PortNames
  | .null => (.null, names)
  | .flag on => (.flag on, names)
  | .int value => (.int value, names)
  | .text content => (.text content, names)
  | .port number =>
    let (label, names) := names.label number
    (.port label, names)
  | .endpoint ip number =>
    let (label, names) := names.label number
    (.endpoint ip label, names)
  | .duration span => (.duration span, names)
  | .descriptorFlags closeOnExec nonBlocking => (.descriptorFlags closeOnExec nonBlocking, names)

/-- The answer with its ports labelled. -/
def Answer.label (names : PortNames) : Answer UInt16 → Answer PortLabel × PortNames
  | .plain value =>
    let (value, names) := value.label names
    (.plain value, names)
  | .coded value code =>
    let (value, names) := value.label names
    let (code, names) := code.label names
    (.coded value code, names)
  | .failed error => (.failed error, names)
  | .ioFailed number => (.ioFailed number, names)
  | .transfer outcome => (.transfer outcome, names)
  | .read outcome data => (.read outcome data, names)
  | .total data disconnected => (.total data disconnected, names)
  | .filled outcome sentAny identical => (.filled outcome sentAny identical, names)
  | .atLeast holds => (.atLeast holds, names)
  | .rawNumber agree valid => (.rawNumber agree valid, names)
  | .multicast ttl loop interface => (.multicast ttl loop interface, names)
  | .noSocket => (.noSocket, names)
  | .badInput field => (.badInput field, names)
  | .unknownStep => (.unknownStep, names)

/-- A log record as reported: its level and its text, in which descriptors have no number. -/
structure LogLine where
  level : LogLevel
  text : String
  deriving Repr

/-- The port that a log record shows, if it shows one. -/
def shownPort? : LogRecord → Option UInt16
  | .bindFailed endpoint _ _ => some endpoint.port
  | _ => none

/-- The record as reported, with its port labelled. -/
def LogLine.ofRecord (names : PortNames) (record : LogRecord) : LogLine × PortNames :=
  let (label, names) := match shownPort? record with
    | some port => names.label port
    | none => (.number 0, names)
  (⟨record.level, record.text (fun _ => "#") (fun _ => label.text)⟩, names)

/-- The records as reported, in order. -/
def LogLine.ofRecords (names : PortNames) : List LogRecord → List LogLine × PortNames
  | [] => ([], names)
  | record :: rest =>
    let (line, names) := LogLine.ofRecord names record
    let (lines, names) := LogLine.ofRecords names rest
    (line :: lines, names)

end SocketLayer.Session
