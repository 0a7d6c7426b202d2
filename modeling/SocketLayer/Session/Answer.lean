import SocketLayer.Socket.Operation

/-!
# Answers of a session

What a step of a session tells its reader. Ports appear in two forms: as numbers while the session
runs, and as `PortLabel`s in the report, because the ports that a kernel chooses differ from run to
run.
-/

set_option autoImplicit false

namespace SocketLayer.Session

/-- A port as reported: its number, or the name of one that the kernel chose. -/
inductive PortLabel where
  | number (port : UInt16)
  | name (index : Nat)
  deriving DecidableEq, Repr

/-- The text of a port label. -/
def PortLabel.text : PortLabel → String
  | .number port => toString port.toNat
  | .name index => "P" ++ toString index

/-- A reported value, with ports in the form `P`. -/
inductive Value (P : Type) where
  | null
  | flag (on : Bool)
  | int (value : Int)
  | text (text : String)
  | port (port : P)
  | endpoint (ip : Ipv4) (port : P)
  | duration (duration : Duration)
  | descriptorFlags (closeOnExec nonBlocking : Bool)
  deriving Repr

/-- The answer of a step, with ports in the form `P`. -/
inductive Answer (P : Type) where
  /-- A value without a status code. -/
  | plain (value : Value P)
  /-- A value and its status code. -/
  | coded (value code : Value P)
  | failed (error : NetError)
  | ioFailed (number : Errno)
  | transfer (outcome : Transfer)
  /-- The outcome of one read, and the bytes put into the buffer. -/
  | read (outcome : Transfer) (data : List UInt8)
  /-- What a series of reads received, and whether the last one found the connection finished. -/
  | total (data : List UInt8) (disconnected : Bool)
  /-- The outcome that ended a series of sends, and whether they arrived unchanged. -/
  | filled (outcome : Transfer) (sentAny identical : Bool)
  | atLeast (holds : Bool)
  | rawNumber (agree valid : Bool)
  | multicast (ttl loop : Option Int32) (interface : Option Ipv4)
  | noSocket
  | badInput (field : String)
  | unknownStep
  deriving Repr

namespace Answer

/-- The answer that only says "done". -/
def done {P : Type} : Answer P := .plain .null

/-- The answer of a flag. -/
def ofFlag {P : Type} (on : Bool) : Answer P := .coded (.flag on) (.int (statusCode on).toInt)

/-- The answer of an operation's result. -/
def ofResult {P α : Type} [StatusCode α] (value : α → Value P) :
    Except NetError α → Answer P
  | .ok a => .coded (value a) (.int (statusCode a).toInt)
  | .error error => .failed error

/-- The answer of an operation's result that has no status code. -/
def ofUncoded {P α : Type} (value : α → Value P) : Except NetError α → Answer P
  | .ok a => .plain (value a)
  | .error error => .failed error

/-- The answer of a result without a value. -/
def ofUnit {P : Type} (result : Except NetError Unit) : Answer P := ofResult (fun _ => .null) result

/-- The answer of a call that reports a bare error number. -/
def ofErrno {P : Type} : Except Errno Unit → Answer P
  | .ok () => done
  | .error e => .ioFailed e

/-- An endpoint as a value. -/
def endpointValue (e : Endpoint) : Value UInt16 := .endpoint e.ip e.port

/-- A linger time as a value. -/
def lingerValue {P : Type} : Option Duration → Value P
  | none => .text "off"
  | some d => .duration d

/-- The answer of an operation. -/
def ofOperation : (operation : Operation) → operation.Result → Answer UInt16
  | .configureNonBlocking, r => ofUnit r
  | .bind _, on => ofFlag on
  | .bindIpv4 _ _, on => ofFlag on
  | .tryBind _, r => ofUnit r
  | .listen _, r => ofUnit r
  | .accept, r => ofUncoded (fun (s : Option Socket) => .flag s.isSome) r
  | .connect _, r => ofResult (fun (c : Connect) => .text c.name) r
  | .shutdown _, r => ofUnit r
  | .localAddress, r => ofUncoded (fun (a : SocketAddress) => endpointValue a.endpoint) r
  | .peerAddress, r => ofUncoded endpointValue r
  | .peerIp, r => ofResult (fun (ip : Ipv4) => .text ip.text) r
  | .peerPort, .ok port => .coded (.port port) (.port port)
  | .peerPort, .error error => .failed error
  | .send _, t => .transfer t
  | .sendTo _ _, r => ofResult (fun (n : Nat) => .int n) r
  | .receive _, (t, data) => .read t data
  | .peek _, (t, data) => .read t data
  | .isDead, on => ofFlag on
  | .setSendBufferSize _, r => ofUnit r
  | .sendBufferSize, r => ofResult (fun (n : Int32) => .int n.toInt) r
  | .setReceiveBufferSize _, r => ofUnit r
  | .receiveBufferSize, r => ofResult (fun (n : Int32) => .int n.toInt) r
  | .setLinger _, r => ofUnit r
  | .linger, r => ofUncoded lingerValue r
  | .setReuseAddress _, r => ofUnit r
  | .reuseAddress, r => ofResult .flag r
  | .setReusePort _, r => ofUnit r
  | .reusePort, r => ofResult .flag r
  | .setTcpNoDelay _, r => ofUnit r
  | .tcpNoDelay, r => ofResult .flag r
  | .apply _, r => ofUnit r
  | .joinMulticast _ _, on => ofFlag on
  | .leaveMulticast _ _, on => ofFlag on
  | .setMulticastTtl _, r => ofUnit r
  | .setMulticastLoop _, r => ofUnit r
  | .setMulticastInterface _, r => ofUnit r
  | .register _ _ _, r => ofErrno r
  | .reregister _ _ _, r => ofErrno r
  | .deregister _, r => ofErrno r

end Answer
end SocketLayer.Session
