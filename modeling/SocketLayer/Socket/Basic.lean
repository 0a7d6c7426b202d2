import SocketLayer.Program
import SocketLayer.StatusCode

/-!
# Socket handles

A `Socket` owns one descriptor. It is made by `Socket.tcp` or `Socket.udp`, by accepting a
connection, or by adopting a descriptor made elsewhere; it ends by `close`, which reports the
kernel's answer, by `drop`, which logs a failure, or by `release`, which leaves the descriptor
open. Setup steps come after the descriptor is owned, so that a failed step closes it.
-/

set_option autoImplicit false

namespace SocketLayer

/-- A handle: its descriptor, its transport, its lifecycle position and its blocking mode. -/
structure Socket where
  descriptor : Descriptor
  transport : Transport
  state : Lifecycle
  nonBlocking : Bool
  deriving DecidableEq, Repr

namespace Descriptor

/-- The raw number that no descriptor has. -/
def invalidRaw : Int := -1

/-- Whether a raw number can name a descriptor. -/
def isValidRaw (raw : Int) : Bool := 0 ≤ raw

/-- The descriptor's raw number. -/
def raw (fd : Descriptor) : Int := fd.number

/-- Turns the non-blocking bit of a descriptor on or off, writing the word only if it changes. -/
def setNonBlocking (fd : Descriptor) (on : Bool) : Program (Except Errno Unit) := do
  match ← Program.request (.getFlags fd) with
  | .error e => return .error e
  | .ok (flags : StatusFlags) =>
    let wanted := flags.withNonBlocking on
    if wanted = flags then return .ok () else Program.request (.setFlags fd wanted)

end Descriptor

namespace Socket

/-- Makes one system call and reports its failure under the operation's name. -/
def ask (op : String) (call : SystemCall) : Program (Except NetError call.Answer) := do
  match ← Program.request call with
  | .ok answer => return .ok answer
  | .error e => return .error (.ofErrno op e)

/-- Moves the handle to a lifecycle position. -/
def moveTo (s : Socket) (state : Lifecycle) : Program Socket := do
  Program.note (.moved s.descriptor s.state state)
  return { s with state }

/-- Ends the handle and closes its descriptor; a failure is only logged. -/
def drop (s : Socket) : Program Unit := do
  match ← Program.request (.close s.descriptor) with
  | .ok () => return ()
  | .error e => Program.note (.closeFailed s.descriptor (.errno e))

/-- Ends the handle and closes its descriptor. -/
def close (s : Socket) : Program (Except NetError Unit) := do
  Program.note (.closing s.descriptor)
  ask "close" (.close s.descriptor)

/-- Switches the handle to non-blocking mode. -/
def configureNonBlocking (s : Socket) : Program (Except NetError Unit × Socket) := do
  match ← s.descriptor.setNonBlocking true with
  | .ok () => return (.ok (), { s with nonBlocking := true })
  | .error e => return (.error (.ofErrno "set_nonblocking" e), s)

/-- Gives up a handle whose setup failed. -/
def abandon (s : Socket) (error : NetError) : Program (Except NetError Socket) := do
  Program.note (.setupFailed s.descriptor error)
  s.drop
  return .error error

/-- A fresh handle in blocking mode. -/
def create (transport : Transport) : Program (Except NetError Socket) := do
  match ← ask "socket" (.socket transport true) with
  | .error error => return .error error
  | .ok fd => return .ok ⟨fd, transport, .created, false⟩

/-- Makes a TCP handle; a non-blocking one may also rebind a recently used address. -/
def tcp (blocking : Bool) : Program (Except NetError Socket) := do
  match ← create .tcp with
  | .error error => return .error error
  | .ok s =>
    if blocking then
      Program.note (.createdTcp s.descriptor blocking)
      return .ok s
    match ← s.configureNonBlocking with
    | (.error error, s) => s.abandon error
    | (.ok (), s) =>
      match ← ask "set_reuse_addr" (.setWord s.descriptor .reuseAddress 1) with
      | .error error => s.abandon error
      | .ok () =>
        Program.note (.createdTcp s.descriptor blocking)
        return .ok s

/-- Makes a UDP handle, always non-blocking. -/
def udp : Program (Except NetError Socket) := do
  match ← create .udp with
  | .error error => return .error error
  | .ok s =>
    match ← s.configureNonBlocking with
    | (.error error, s) => s.abandon error
    | (.ok (), s) =>
      Program.note (.createdUdp s.descriptor)
      return .ok s

/-- Takes over a descriptor that nothing else will close, as a handle in blocking mode. -/
def adopt (raw : Int) (transport : Transport) (state : Lifecycle) : Except NetError Socket :=
  if Descriptor.isValidRaw raw then .ok ⟨⟨raw.toNat⟩, transport, state, false⟩
  else .error .invalidHandle

/-- Gives up the descriptor without closing it. -/
def release (s : Socket) : Int := s.descriptor.raw

/-- What was released can be adopted. -/
theorem adopt_release (s : Socket) (transport : Transport) (state : Lifecycle) :
    adopt s.release transport state = .ok ⟨s.descriptor, transport, state, false⟩ := by
  simp [adopt, Descriptor.isValidRaw, release, Descriptor.raw]

end Socket
end SocketLayer
