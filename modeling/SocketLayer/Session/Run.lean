import SocketLayer.Host.Answer
import SocketLayer.Session.Payload
import SocketLayer.Session.PortNames
import SocketLayer.Session.Step

/-!
# Running a session

A session runs on a freshly booted host. Each step performs its operations there and is reported
with the handle it names and the log records it caused; what is left in the slots is dropped at the
end, in the order of the slots' names.

* `Session.run` — the report of a script.
-/

set_option autoImplicit false

namespace SocketLayer

open Session

/-- The state between two steps. -/
structure Session where
  host : Host
  slots : List (Slot × Socket)
  /-- The addresses stored by earlier steps. -/
  saved : List (String × SocketAddress)
  /-- The poller, once something was registered. -/
  poller : Option Descriptor
  /-- The log records of the current step. -/
  records : List LogRecord

namespace Session

/-- Part of a step: it changes the session, and may end early with the step's answer. -/
abbrev Act (α : Type) : Type := ExceptT (Answer UInt16) (StateM Session) α

/-- A session in which nothing has happened. -/
def start (literals : List UInt16) : Session where
  host := .boot literals
  slots := []
  saved := []
  poller := none
  records := []

/-- How often a step repeats a call while it waits: every 0.2 ms for 2 s. -/
def attempts : Nat := 10000

/-- The largest buffer that a step reads into. -/
def largestBuffer : Nat := 0x100000

/-- Runs a program on the host and keeps its log records. -/
def exec {α : Type} (program : Program α) : Act α := do
  let s ← get
  let run := program.run Host.kernel s.host
  set { s with
    host := run.kernel
    records := s.records ++ run.events.filterMap Event.logged? }
  return run.result

/-- Ends the step with the given answer unless there is a value. -/
def orAnswer {α : Type} (value : Option α) (answer : Answer UInt16) : Act α :=
  match value with
  | some a => return a
  | none => throw answer

/-- Ends the step with the error unless the result is a success. -/
def orFail {α : Type} : Except NetError α → Act α
  | .ok a => return a
  | .error error => throw (.failed error)

/-- The handle in a slot. -/
def handle (slot : Slot) : Act Socket := do
  orAnswer ((← get).slots.lookup slot) .noSocket

/-- Puts the handle of a slot that is in use back after a change. -/
def putBack (slot : Slot) (s : Socket) : Act Unit :=
  modify fun session =>
    { session with slots := (slot, s) :: session.slots.filter fun entry => entry.1 != slot }

/-- Empties a slot without ending its handle. -/
def empty (slot : Slot) : Act Unit :=
  modify fun session =>
    { session with slots := session.slots.filter fun entry => entry.1 != slot }

/-- Puts a new handle into a slot; an old one is dropped. -/
def place (slot : Slot) (s : Socket) : Act Unit := do
  let old := (← get).slots.lookup slot
  putBack slot s
  match old with
  | some old => exec old.drop
  | none => return ()

/-- Performs an operation on the handle of a slot. -/
def perform (slot : Slot) (operation : Operation) : Act operation.Result := do
  let s ← handle slot
  let (result, s) ← exec (s.perform operation)
  putBack slot s
  return result

/-- Repeats a part of a step while its result asks for it, up to a number of times. -/
def repeatWhile {α : Type} (again : α → Bool) (act : Act α) : (attempts : Nat) → Act α
  | 0 => act
  | attempts + 1 => do
    let a ← act
    if again a then repeatWhile again act attempts else return a

/-- The local address of the handle in a slot. -/
def localAddressOf (slot : Slot) : Act SocketAddress := do
  let result : Except NetError SocketAddress ← perform slot .localAddress
  orFail result

/-- The address that a script means. -/
def resolve : AddressRef → Act SocketAddress
  | .literal endpoint => return .ofEndpoint endpoint
  | .localOf slot => localAddressOf slot
  | .portOf ip slot => return .ofEndpoint ⟨ip, (← localAddressOf slot).port⟩
  | .saved name => do orAnswer ((← get).saved.lookup name) (.badInput "saved")

/-- Performs an operation and answers with its result. -/
def report (slot : Slot) (operation : Operation) : Act (Answer UInt16) := do
  return .ofOperation operation (← perform slot operation)

/-- Uses an address with the handle of a slot. -/
def useAddress (slot : Slot) (use : AddressUse) (address : SocketAddress) :
    Act (Answer UInt16) := do
  match use with
  | .bind => report slot (.bind address)
  | .tryBind => report slot (.tryBind address)
  | .connect => report slot (.connect address)
  | .sendTo data => report slot (.sendTo data address)
  | .compare => return .plain (.flag (address == (← localAddressOf slot)))

/-- One read of the handle of a slot. -/
def read (slot : Slot) (peek : Bool) (capacity : Nat) : Act (Transfer × List UInt8) :=
  if peek then perform slot (.peek capacity) else perform slot (.receive capacity)

/-- A read of the handle of a slot, repeated as the step says. -/
def readUntil (slot : Slot) (peek : Bool) (capacity : Nat) (repetition : Until) :
    Act (Answer UInt16) := do
  let again (result : Transfer × List UInt8) := repetition.again result.1
  let (outcome, data) ← repeatWhile again (read slot peek (min capacity largestBuffer)) attempts
  return .read outcome data

/-- Receives until so many bytes have come or the connection is finished, giving up after a number
of reads without progress: the bytes in the order of the reads, latest read first, and the last
outcome. -/
def receiveAll (slot : Slot) (capacity attempts missing : Nat) (received : List (List UInt8))
    (last : Transfer) : Act (List (List UInt8) × Transfer) :=
  if missing = 0 ∨ attempts = 0 then return (received, last)
  else do
    let (outcome, data) ← read slot false (min capacity missing)
    match outcome with
    | .disconnected => return (received, outcome)
    | .transferred (count + 1) =>
      receiveAll slot capacity attempts (missing - (count + 1)) (data :: received) outcome
    | .transferred 0 | .retry => receiveAll slot capacity (attempts - 1) missing received outcome
termination_by missing + attempts

/-- Sends again and again: what was taken, latest send first, and the outcome that ended it. -/
def sendAll (slot : Slot) (data : List UInt8) :
    (fuel : Nat) → (sent : List (List UInt8)) → Act (List (List UInt8) × Transfer)
  | 0, sent => return (sent, .retry)
  | fuel + 1, sent => do
    let outcome : Transfer ← perform slot (.send data)
    match outcome with
    | .transferred count => sendAll slot data fuel (data.take count :: sent)
    | outcome => return (sent, outcome)

/-- The size of the buffer that empties a connection after it was filled. -/
def fillCapacity : Nat := 65536

/-- Fills the connection from one handle and empties it on another. -/
def fill (slot target : Slot) (data : List UInt8) : Act (Answer UInt16) := do
  let _ ← handle target
  let (sent, outcome) ← sendAll slot data attempts []
  let sent := sent.reverse.flatten
  let (received, _) ← receiveAll target fillCapacity attempts sent.length [] .retry
  return .filled outcome (!sent.isEmpty) (received.reverse.flatten == sent)

/-- Whether a size that could be read reaches a bound. -/
def reaches (bound : Int) : Except NetError Int32 → Answer UInt16
  | .ok size => .atLeast (bound ≤ size.toInt)
  | .error error => .failed error

/-- The poller of the session, made when first needed. -/
def openPoller : Act Descriptor := do
  match (← get).poller with
  | some fd => return fd
  | none =>
    match ← exec (Program.request .createPoller) with
    | .error e => throw (.ioFailed e)
    | .ok (fd : Descriptor) =>
      modify fun session => { session with poller := some fd }
      return fd

/-- Accepts a connection into a slot. -/
def acceptInto (slot target : Slot) (wait : Bool) : Act (Answer UInt16) := do
  let pending (result : Except NetError (Option Socket)) : Bool :=
    match result with
    | .ok none => wait
    | _ => false
  let accept : Act (Except NetError (Option Socket)) := perform slot .accept
  match ← repeatWhile pending accept attempts with
  | .ok (some s) =>
    place target s
    return .plain (.flag true)
  | .ok none => return .plain (.flag false)
  | .error error => return .failed error

/-- Does something with the handle of a slot. -/
def act (slot : Slot) : Action → Act (Answer UInt16)
  | .look => return .done
  | .rewrap transport state => do
    let old ← handle slot
    let s ← orFail (Socket.adopt old.release transport state)
    putBack slot s
    return .plain (.flag (s.release == old.release))
  | .rawNumber => do
    let s ← handle slot
    return .rawNumber (s.release == s.descriptor.raw) (Descriptor.isValidRaw s.release)
  | .descriptorFlags => do
    match (← get).host.file? (← handle slot).descriptor with
    | some file => return .plain (.descriptorFlags file.closeOnExec file.flags.isNonBlocking)
    | none => return .plain .null
  | .setRawNonBlocking on => do
    return .ofErrno (← exec ((← handle slot).descriptor.setNonBlocking on))
  | .close => do
    let s ← handle slot
    empty slot
    return .ofUnit (← exec s.close)
  | .drop => do
    let s ← handle slot
    empty slot
    exec s.drop
    return .done
  | .operate operation => report slot operation
  | .withAddress use address => do useAddress slot use (← resolve address)
  | .accept target wait => acceptInto slot target wait
  | .localAddress save => do
    let address ← localAddressOf slot
    if let some name := save then
      modify fun session => { session with saved := (name, address) :: session.saved }
    return .ofOperation .localAddress (.ok address)
  | .send data repetition => do
    let send : Act Transfer := perform slot (.send data)
    return .transfer (← repeatWhile repetition.again send attempts)
  | .receive capacity repetition => readUntil slot false capacity repetition
  | .peek capacity repetition => readUntil slot true capacity repetition
  | .isDead wait => do
    let probe : Act Bool := perform slot .isDead
    return .ofFlag (← repeatWhile (fun dead => wait && !dead) probe attempts)
  | .receiveAll total capacity => do
    let (received, last) ← receiveAll slot (min capacity largestBuffer) attempts total [] .retry
    return .total received.reverse.flatten last.isDisconnected
  | .fill data target => fill slot target data
  | .sendBufferAtLeast bound => do return reaches bound (← perform slot .sendBufferSize)
  | .receiveBufferAtLeast bound => do return reaches bound (← perform slot .receiveBufferSize)
  | .multicastView => do
    let (ttl, loop, interface) := (← get).host.multicastView (← handle slot).descriptor
    return .multicast ttl loop interface
  | .register token interest => do
    let _ ← handle slot
    report slot (.register (← openPoller) token interest)
  | .reregister token interest => do
    let _ ← handle slot
    report slot (.reregister (← openPoller) token interest)
  | .deregister => do
    let _ ← handle slot
    report slot (.deregister (← openPoller))

/-- Puts the handle that a constructor made into a slot. -/
def make (slot : Slot) (result : Except NetError Socket) : Act (Answer UInt16) := do
  place slot (← orFail result)
  return .ofUnit (.ok ())

/-- Whether an event of a class has come for a token since the poller was last asked. -/
def poll (token : Nat) (event : Host.EventClass) : Act (Answer UInt16) := do
  let session ← get
  let fd ← orAnswer session.poller (.badInput "poll")
  let (reports, host) := session.host.collect fd
  set { session with host }
  let came := reports.any fun r => r.token = token && event.covers r.readiness
  return .plain (.flag came)

/-- Performs a step. -/
def step : Step → Act (Answer UInt16)
  | .makeTcp slot blocking => do make slot (← exec (Socket.tcp blocking))
  | .makeUdp slot => do make slot (← exec Socket.udp)
  | .adopt slot raw transport state => make slot (Socket.adopt raw transport state)
  | .makePair first second transport state => do
    match (← get).host.socketPair with
    | .error e => return .ioFailed e
    | .ok (near, far, host) =>
      modify fun session => { session with host }
      place first (← orFail (Socket.adopt near.raw transport state))
      place second (← orFail (Socket.adopt far.raw transport state))
      return .done
  | .limitDescriptors limit => do
    modify fun session => { session with host := session.host.limitDescriptors limit }
    return .done
  | .use slot action => do
    let _ ← handle slot
    match action with
    | .ok action => act slot action
    | .error field => return .badInput field
  | .poll token event => poll token event
  | .invalid field => return .badInput field
  | .unknown => return .unknownStep

/-- What is reported of a step: its answer, the handle it names and the log records it caused. -/
structure StepReport where
  answer : Answer PortLabel
  shown : Option Socket
  log : List LogLine

/-- Performs a step and reports it. Log records count for the names of ports only if they are
reported too. -/
def reportStep (withLog : Bool) (names : PortNames) (request : Request) (session : Session) :
    StepReport × PortNames × Session :=
  let (result, session) := (step request.step).run { session with records := [] }
  let answer := match result with
    | .ok answer => answer
    | .error answer => answer
  let (answer, names) := answer.label names
  let (log, names) := LogLine.ofRecords names (if withLog then session.records else [])
  let shown := request.shown.bind fun slot => session.slots.lookup slot
  (⟨answer, shown, log⟩, names, session)

/-- Performs steps in order and reports each. -/
def reportSteps (withLog : Bool) (names : PortNames) :
    List Request → Session → List StepReport × PortNames × Session
  | [], session => ([], names, session)
  | request :: rest, session =>
    let (report, names, session) := reportStep withLog names request session
    let (reports, names, session) := reportSteps withLog names rest session
    (report :: reports, names, session)

/-- Drops what is left in the slots, in the order of the slots' names. -/
def finish : Act Unit := do
  modify fun session => { session with host := session.host.limitDescriptors none, records := [] }
  let left := (← get).slots.mergeSort fun a b => a.1 ≤ b.1
  for (slot, s) in left do
    empty slot
    exec s.drop

/-- What is reported of a session: its steps, and the log records of its end. -/
structure Report where
  steps : List StepReport
  endLog : List LogLine

/-- The report of a script. The ports that the script writes out are given. -/
def run (withLog : Bool) (literals : List UInt16) (script : List Request) : Report :=
  let (steps, names, session) := reportSteps withLog (.start literals) script (start literals)
  let (_, session) := finish.run session
  let (endLog, _) := LogLine.ofRecords names (if withLog then session.records else [])
  ⟨steps, endLog⟩

end Session
end SocketLayer
