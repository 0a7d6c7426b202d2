import SocketLayer.Socket.Multicast

/-!
# Option profiles

An `OptionProfile` bundles option values so that a handle is configured by one call. A value that
is absent leaves the kernel's default in place, and an option of the other transport is skipped.

* `OptionProfile.standard`, `.lowLatency`, `.highThroughput` — the presets.
* `OptionProfile.apply` — sets the options in a fixed order and stops at the first failure; a
  kernel without port sharing is tolerated.
* `OptionProfile.plan` — the system calls of an `apply` that meets no failure.
* `OptionProfile.merge` — the profile that stands for two, applied one after the other.
-/

set_option autoImplicit false

namespace SocketLayer

/-- Option values for one handle. -/
structure OptionProfile where
  /-- Send small segments at once (TCP only). -/
  tcpNoDelay : Option Bool
  /-- Rebind a recently used local address. -/
  reuseAddress : Option Bool
  /-- Let several handles share one port. -/
  reusePort : Bool
  /-- The size of the receive buffer. -/
  receiveBuffer : Option Nat
  /-- The size of the send buffer. -/
  sendBuffer : Option Nat
  /-- How long a close waits; the inner `none` turns waiting off. -/
  linger : Option (Option Duration)
  /-- The queue length for callers that go on to listen. -/
  backlog : Int32
  /-- How far group datagrams travel (UDP only). -/
  multicastTtl : Option UInt8
  /-- Whether group datagrams come back (UDP only). -/
  multicastLoop : Option Bool
  deriving DecidableEq, Repr

namespace OptionProfile

/-- No delay, reusable addresses, and otherwise the kernel's defaults. -/
def standard : OptionProfile where
  tcpNoDelay := some true
  reuseAddress := some true
  reusePort := false
  receiveBuffer := none
  sendBuffer := none
  linger := none
  backlog := 1024
  multicastTtl := none
  multicastLoop := none

/-- Small buffers, no delay, connections reset on close. -/
def lowLatency : OptionProfile :=
  { standard with
    receiveBuffer := some (256 * 1024)
    sendBuffer := some (256 * 1024)
    linger := some (some .zero)
    backlog := 512
    multicastTtl := some 1 }

/-- Large buffers, delayed small segments, shared ports. -/
def highThroughput : OptionProfile :=
  { standard with
    tcpNoDelay := some false
    reusePort := true
    receiveBuffer := some (16 * 1024 * 1024)
    sendBuffer := some (16 * 1024 * 1024)
    backlog := 2048 }

/-- The outcome of a chain of setters so far. -/
abbrev Outcome : Type := Except NetError Unit

/-- Goes on with the next setter unless one has failed. -/
def andThen (first : Program Outcome) (second : Program Outcome) : Program Outcome := do
  match ← first with
  | .ok () => second
  | .error error => return .error error

/-- Runs a setter if there is a value for it. -/
def whenSome {α : Type} (value : Option α) (set : α → Program Outcome) : Program Outcome :=
  match value with
  | some a => set a
  | none => return .ok ()

/-- Shares the port; a kernel that cannot is tolerated and noted in the log. -/
def sharePort (s : Socket) : Program Outcome := do
  match ← s.setReusePort true with
  | .error (.unsupported _) =>
    Program.note .reusePortSkipped
    return .ok ()
  | outcome => return outcome

/-- Sets the options that both transports have. -/
def applyCommon (p : OptionProfile) (s : Socket) : Program Outcome :=
  andThen (whenSome p.receiveBuffer s.setReceiveBufferSize) <|
  andThen (whenSome p.sendBuffer s.setSendBufferSize) <|
  andThen (whenSome p.reuseAddress s.setReuseAddress) <|
  andThen (if p.reusePort then sharePort s else return .ok ()) <|
  whenSome p.linger s.setLinger

/-- Sets the options of one transport. -/
def applySpecific (p : OptionProfile) (s : Socket) : Program Outcome :=
  match s.transport with
  | .tcp => whenSome p.tcpNoDelay s.setTcpNoDelay
  | .udp =>
    andThen (whenSome p.multicastTtl s.setMulticastTtl) <|
    whenSome p.multicastLoop s.setMulticastLoop

/-- Sets every option that fits the handle's transport, up to the first failure. -/
def apply (p : OptionProfile) (s : Socket) : Program Outcome :=
  andThen (p.applyCommon s) (p.applySpecific s)

/-- The system calls that set the profile's options on a descriptor, in order. -/
def plan (p : OptionProfile) (fd : Descriptor) (transport : Transport) : List SystemCall :=
  let word (name : WordOption) (value : Int32) := SystemCall.setWord fd name value
  let ofSome {α : Type} (value : Option α) (call : α → SystemCall) := (value.map call).toList
  ofSome p.receiveBuffer (word .receiveBuffer ∘ sizeWord) ++
  ofSome p.sendBuffer (word .sendBuffer ∘ sizeWord) ++
  ofSome p.reuseAddress (word .reuseAddress ∘ flagWord) ++
  (if p.reusePort then [word .reusePort 1] else []) ++
  ofSome p.linger (fun l => .setLinger fd (.ofDuration? l)) ++
  match transport with
  | .tcp => ofSome p.tcpNoDelay (word .tcpNoDelay ∘ flagWord)
  | .udp =>
    ofSome p.multicastTtl (fun ttl => word .multicastTtl (.ofNat ttl.toNat)) ++
    ofSome p.multicastLoop (word .multicastLoop ∘ flagWord)

/-- The later value where there is one; port sharing once asked for stays. -/
def merge (first second : OptionProfile) : OptionProfile where
  tcpNoDelay := second.tcpNoDelay.or first.tcpNoDelay
  reuseAddress := second.reuseAddress.or first.reuseAddress
  reusePort := first.reusePort || second.reusePort
  receiveBuffer := second.receiveBuffer.or first.receiveBuffer
  sendBuffer := second.sendBuffer.or first.sendBuffer
  linger := second.linger.or first.linger
  backlog := second.backlog
  multicastTtl := second.multicastTtl.or first.multicastTtl
  multicastLoop := second.multicastLoop.or first.multicastLoop

end OptionProfile
end SocketLayer
