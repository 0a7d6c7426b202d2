import SocketLayer.Duration
import SocketLayer.Socket.Basic

/-!
# Socket options

Setters and getters in pairs over the buffer sizes, the linger time, the reuse flags and the
no-delay flag. A failed call is reported and leaves the handle usable.
-/

set_option autoImplicit false

namespace SocketLayer

/-- A size as the kernel takes it: the largest word stands for every size beyond it. -/
def sizeWord (size : Nat) : Int32 := StatusCode.ofCount size

namespace LingerWords

/-- The words for a linger time, in whole seconds up to the largest word; `none` turns it off. -/
def ofDuration? : Option Duration → LingerWords
  | none => ⟨0, 0⟩
  | some d => ⟨1, sizeWord d.seconds⟩

/-- The linger time that the words stand for; a negative time counts as none left. -/
def toDuration? (words : LingerWords) : Option Duration :=
  if words.onOff = 0 then none else some (.ofSeconds words.seconds.toInt.toNat)

end LingerWords

namespace Socket

/-- Sets a flag option under the operation's name. -/
def setFlag (op : String) (name : WordOption) (s : Socket) (on : Bool) :
    Program (Except NetError Unit) :=
  ask op (.setWord s.descriptor name (flagWord on))

/-- Reads a flag option under the operation's name. -/
def flag (op : String) (name : WordOption) (s : Socket) : Program (Except NetError Bool) := do
  return (← ask op (.getWord s.descriptor name)).map fun (word : Int32) => word != 0

/-- Sets the size of the send buffer; the kernel may round it. -/
def setSendBufferSize (s : Socket) (size : Nat) : Program (Except NetError Unit) :=
  ask "set_send_buffer_size" (.setWord s.descriptor .sendBuffer (sizeWord size))

/-- The size of the send buffer. -/
def sendBufferSize (s : Socket) : Program (Except NetError Int32) :=
  ask "send_buffer_size" (.getWord s.descriptor .sendBuffer)

/-- Sets the size of the receive buffer; the kernel may round it. -/
def setReceiveBufferSize (s : Socket) (size : Nat) : Program (Except NetError Unit) :=
  ask "set_recv_buffer_size" (.setWord s.descriptor .receiveBuffer (sizeWord size))

/-- The size of the receive buffer. -/
def receiveBufferSize (s : Socket) : Program (Except NetError Int32) :=
  ask "recv_buffer_size" (.getWord s.descriptor .receiveBuffer)

/-- Sets how long a close waits for unsent data, in whole seconds; zero resets the connection. -/
def setLinger (s : Socket) (linger : Option Duration) : Program (Except NetError Unit) :=
  ask "set_linger" (.setLinger s.descriptor (.ofDuration? linger))

/-- How long a close waits for unsent data. -/
def linger (s : Socket) : Program (Except NetError (Option Duration)) := do
  return (← ask "linger" (.getLinger s.descriptor)).map LingerWords.toDuration?

/-- Lets the handle bind a recently used local address. -/
def setReuseAddress (s : Socket) (on : Bool) : Program (Except NetError Unit) :=
  s.setFlag "set_reuse_address" .reuseAddress on

/-- Whether the handle may bind a recently used local address. -/
def reuseAddress (s : Socket) : Program (Except NetError Bool) :=
  s.flag "reuse_address" .reuseAddress

/-- Lets several handles share one port. -/
def setReusePort (s : Socket) (on : Bool) : Program (Except NetError Unit) :=
  s.setFlag "set_reuse_port" .reusePort on

/-- Whether the handle shares its port. -/
def reusePort (s : Socket) : Program (Except NetError Bool) :=
  s.flag "reuse_port" .reusePort

/-- Sends small segments at once. -/
def setTcpNoDelay (s : Socket) (on : Bool) : Program (Except NetError Unit) :=
  s.setFlag "set_tcp_nodelay" .tcpNoDelay on

/-- Whether small segments are sent at once. -/
def tcpNoDelay (s : Socket) : Program (Except NetError Bool) :=
  s.flag "tcp_nodelay" .tcpNoDelay

end Socket
end SocketLayer
