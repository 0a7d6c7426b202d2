import SocketLayer.Host.Ports
import SocketLayer.Program

/-!
# How the host answers

`Host.answer` is the host's reply to every system call, and `Host.kernel` makes a `Kernel` of it.
A call that would wait for something that never comes is answered "would block", also where the
descriptor is in blocking mode: nothing else moves on this host while a call is made.
-/

set_option autoImplicit false

namespace SocketLayer.Host

/-- Binds the socket under a descriptor. -/
def bindInet (h : Host) (fd : Nat) (s : InetSocket) (address : SocketAddress) :
    Except Errno Unit × Host :=
  if address.family ≠ .inet then (.error .familyNotSupported, h)
  else if s.listening || s.port ≠ 0 then (.error .invalidArgument, h)
  else
    match h.takePort fd { s with ip := address.ip } address.port with
    | .error e => (.error e, h.setBody fd (.inet { s with ip := .unspecified }))
    | .ok (s, h) =>
      let s := { s with
        ipChosen := s.ipChosen || s.ip != .unspecified
        portChosen := s.portChosen || address.port != 0 }
      (.ok (), h.setBody fd (.inet s))

/-- Names a local stream end. The only name that can reach it is the empty one. -/
def bindPairEnd (h : Host) (fd : Nat) (e : PairEnd) (address : SocketAddress) :
    Except Errno Unit × Host :=
  if address.family ≠ .unix || e.named then (.error .invalidArgument, h)
  else if h.files.keys.any (fun other => (h.pairEnd? other).any PairEnd.named) then
    (.error .addressInUse, h)
  else (.ok (), h.setBody fd (.pairEnd { e with named := true }))

/-- Makes a socket listen, on a port of the kernel's choice if it holds none. -/
def listenInet (h : Host) (fd : Nat) (s : InetSocket) : Except Errno Unit × Host :=
  match s.transport with
  | .udp => (.error .notSupported, h)
  | .tcp =>
    if s.listening then (.ok (), h)
    else
      match h.takePort fd { s with listening := true } s.port with
      | .error e => (.error e, h)
      | .ok (s, h) => (.ok (), h.setBody fd (.inet s))

/-- Shuts a socket down: a listener ends listening when reading ends, all others have no peer. -/
def shutdownInet (h : Host) (fd : Nat) (s : InetSocket) (direction : Direction) :
    Except Errno Unit × Host :=
  if s.listening then
    if direction.coversRead then
      let ended := s.endListening
      let h := if ended.port = 0 then h.dropPort fd s else h
      (.ok (), (h.setBody fd (.inet ended)).wake fd none)
    else (.ok (), h.wake fd none)
  else (.error .notConnected, (h.setBody fd (.inet (s.shut direction))).wake fd none)

/-- Shuts a local stream end down; the other end sees the opposite directions. -/
def shutdownPairEnd (h : Host) (fd : Nat) (e : PairEnd) (direction : Direction) : Host :=
  let h := (h.setBody fd (.pairEnd (e.shut direction.coversRead direction.coversWrite))).wake fd none
  match e.peer with
  | none => h
  | some peer =>
    match h.pairEnd? peer with
    | none => h
    | some other =>
      let other := other.shut direction.coversWrite direction.coversRead
      (h.setBody peer (.pairEnd other)).wake peer none

/-- Sends on a local stream end. -/
def sendPairEnd (h : Host) (fd : Nat) (e : PairEnd) (data : List UInt8) : Except Errno Nat × Host :=
  if e.writeShut then (.error .brokenPipe, h)
  else if data.isEmpty then (.ok 0, h)
  else
    let messages := PairEnd.cutWrite e.messageTail (e.settings.sendBuffer - e.inFlight) data
    match messages, e.peer.bind h.pairEnd? with
    | [], _ => (.error .wouldBlock, h)
    | _, none => (.error .brokenPipe, h)
    | _, some other =>
      let inFlight := e.inFlight + PairEnd.totalCharge messages
      let h := h.setBody fd (.pairEnd { e with inFlight })
      let peer := e.peer.getD 0
      let h := h.setBody peer (.pairEnd { other with queue := other.queue ++ messages })
      (.ok (PairEnd.bytes messages).length, h.wake peer (some { readable := true }))

/-- Receives on a local stream end; reading frees buffer space of the other. -/
def receivePairEnd (h : Host) (fd : Nat) (e : PairEnd) (capacity : Nat) (peek : Bool) :
    Except Errno (List UInt8) × Host :=
  if e.queue.isEmpty then
    if e.resetPending then
      (.error .connectionReset, h.setBody fd (.pairEnd { e with resetPending := false }))
    else if e.readShut then (.ok [], h)
    else (.error .wouldBlock, h)
  else
    let (data, left, freed) := PairEnd.take capacity e.queue
    if peek then (.ok data, h)
    else
      let h := h.setBody fd (.pairEnd { e with queue := left })
      match e.peer with
      | none => (.ok data, h)
      | some peer =>
        match h.pairEnd? peer with
        | none => (.ok data, h)
        | some other =>
          let other := { other with inFlight := other.inFlight - freed }
          let h := h.setBody peer (.pairEnd other)
          let room := freed ≠ 0 ∧ other.isWritable = true
          (.ok data, if room then h.wake peer (some { writable := true }) else h)

/-- What closing a file does to the rest of the host. -/
def closeBody (h : Host) (fd : Nat) : FileBody → Host
  | .inet s => if s.port = 0 then h else h.dropPort fd s
  | .poller _ => h
  | .pairEnd e =>
    match e.peer with
    | none => h
    | some peer =>
      match h.pairEnd? peer with
      | none => h
      | some other =>
        let other := { other.shut true true with
          peer := none
          resetPending := other.resetPending || !e.queue.isEmpty }
        (h.setBody peer (.pairEnd other)).wake peer none

/-- Closes a descriptor; nothing watches it any longer. -/
def closeFile (h : Host) (fd : Nat) (file : File) : Host :=
  let h := h.closeBody fd file.body
  let h := { h with files := h.files.erase fd }
  h.mapWatches fun watches => watches.filter fun w => w.descriptor != fd

/-- Changes the watches of a poller by a function that may refuse. -/
def changeWatches (h : Host) (poller fd : Descriptor)
    (change : List Watch → Except Errno (List Watch)) : Except Errno Unit × Host :=
  match h.file? fd, h.file? poller with
  | none, _ | _, none => (.error .badDescriptor, h)
  | some _, some ⟨_, _, .poller watches⟩ =>
    match change watches with
    | .error e => (.error e, h)
    | .ok watches => (.ok (), h.setBody poller.number (.poller watches))
  | some _, some _ => (.error .invalidArgument, h)

/-- Answers a call on an open socket: by one function for IPv4 sockets, by another for the ends of
local stream pairs. -/
def onSocket {α : Type} (h : Host) (fd : Descriptor)
    (inet : StatusFlags → InetSocket → Except Errno α × Host)
    (pairEnd : PairEnd → Except Errno α × Host) : Except Errno α × Host :=
  match h.file? fd with
  | none => (.error .badDescriptor, h)
  | some ⟨flags, _, .inet s⟩ => inet flags s
  | some ⟨_, _, .pairEnd e⟩ => pairEnd e
  | some ⟨_, _, .poller _⟩ => (.error .notSocket, h)

/-- Stores the outcome of a setter. -/
def store {α : Type} (h : Host) (fd : Descriptor) (body : α → FileBody) (outcome : Except Errno α) :
    Except Errno Unit × Host :=
  match outcome with
  | .ok a => (.ok (), h.setBody fd.number (body a))
  | .error e => (.error e, h)

/-- Opens a fresh file; the reply is its descriptor. -/
def openReply (h : Host) (file : File) : Except Errno Descriptor × Host :=
  match h.openFile file with
  | .ok (fd, h) => (.ok fd, h)
  | .error e => (.error e, h)

/-- The host's reply to a system call, and the host afterwards. -/
def answer (h : Host) : (call : SystemCall) → Reply call × Host
  | .socket transport closeOnExec =>
    h.openReply ⟨freshFlags, closeOnExec, .inet (.fresh transport)⟩
  | .close fd =>
    match h.file? fd with
    | none => (.error .badDescriptor, h)
    | some file => (.ok (), h.closeFile fd.number file)
  | .getFlags fd =>
    match h.file? fd with
    | none => (.error .badDescriptor, h)
    | some file => (.ok file.flags, h)
  | .setFlags fd flags =>
    match h.file? fd with
    | none => (.error .badDescriptor, h)
    | some file => (.ok (), { h with files := h.files.set fd.number { file with flags } })
  | .bind fd address =>
    h.onSocket fd (fun _ s => h.bindInet fd.number s address)
      (fun e => h.bindPairEnd fd.number e address)
  | .listen fd _ =>
    h.onSocket fd (fun _ s => h.listenInet fd.number s) (fun _ => (.error .invalidArgument, h))
  | .accept fd _ _ =>
    match h.file? fd, h.freeDescriptor with
    | none, _ => (.error .badDescriptor, h)
    | some _, .error e => (.error e, h)
    | some _, .ok _ =>
      h.onSocket fd (fun _ s => (.error s.acceptRefusal, h))
        (fun _ => (.error .invalidArgument, h))
  | .connect fd address =>
    h.onSocket fd
      (fun _ s =>
        match s.transport with
        | .tcp => (s.connect address, h)
        | .udp =>
          let (s, h) := h.ensurePort fd.number s
          (s.connect address, h))
      (fun _ =>
        (.error (if address.family = .unix then .connectionRefused else .invalidArgument), h))
  | .shutdown fd direction =>
    h.onSocket fd (fun _ s => h.shutdownInet fd.number s direction)
      (fun e => (.ok (), h.shutdownPairEnd fd.number e direction))
  | .send fd data _ =>
    h.onSocket fd
      (fun _ s =>
        match s.transport with
        | .tcp => (s.send data.length, h)
        | .udp =>
          let (s, h) := h.ensurePort fd.number s
          (s.send data.length, h))
      (fun e => h.sendPairEnd fd.number e data)
  | .sendTo fd data _ address =>
    h.onSocket fd
      (fun _ s =>
        match s.transport with
        | .tcp => (s.sendTo data.length address, h)
        | .udp =>
          let (s, h) := h.ensurePort fd.number s
          let reply := s.sendTo data.length address
          (reply, if reply.isOk then h.wake fd.number (some { writable := true }) else h))
      (fun _ => (.error .alreadyConnected, h))
  | .receive fd capacity peek =>
    h.onSocket fd (fun flags s => (s.receive flags.isNonBlocking, h))
      (fun e => h.receivePairEnd fd.number e capacity peek)
  | .localName fd =>
    h.onSocket fd (fun _ s => (.ok (.ofEndpoint s.localEndpoint), h))
      (fun _ => (.ok (.ofFamily .unix), h))
  | .peerName fd =>
    h.onSocket fd (fun _ _ => (.error .notConnected, h)) (fun _ => (.ok (.ofFamily .unix), h))
  | .setWord fd name value =>
    let (reply, host) := h.onSocket fd (fun _ s => h.store fd .inet (s.setWord name value))
      (fun e => h.store fd .pairEnd (e.setWord name value))
    (reply, if name = .sendBuffer then host.wake fd.number (some { writable := true }) else host)
  | .getWord fd name =>
    h.onSocket fd (fun _ s => (s.getWord name, h)) (fun e => (e.getWord name, h))
  | .setLinger fd value =>
    h.onSocket fd
      (fun _ s => h.store fd .inet (.ok { s with settings := s.settings.setLinger value }))
      (fun e => h.store fd .pairEnd (.ok { e with settings := e.settings.setLinger value }))
  | .getLinger fd =>
    h.onSocket fd (fun _ s => (.ok s.settings.linger, h)) (fun e => (.ok e.settings.linger, h))
  | .setMulticastInterface fd interface =>
    h.onSocket fd (fun _ s => (s.setMulticastInterface interface, h))
      (fun _ => (.error .notSupported, h))
  | .changeMembership fd change group interface =>
    h.onSocket fd (fun _ s => (s.changeMembership change group interface, h))
      (fun _ => (.error .notSupported, h))
  | .createPoller => h.openReply ⟨freshFlags, true, .poller []⟩
  | .watch poller fd token interest =>
    h.changeWatches poller fd fun watches =>
      if watches.any (·.descriptor = fd.number) then .error .fileExists
      else .ok (watches ++ [⟨fd.number, token, interest, true⟩])
  | .rewatch poller fd token interest =>
    h.changeWatches poller fd fun watches =>
      if watches.any (·.descriptor = fd.number) then
        .ok (watches.map fun w =>
          if w.descriptor = fd.number then ⟨fd.number, token, interest, true⟩ else w)
      else .error .noSuchEntry
  | .unwatch poller fd =>
    h.changeWatches poller fd fun watches =>
      if watches.any (·.descriptor = fd.number) then
        .ok (watches.filter fun w => w.descriptor != fd.number)
      else .error .noSuchEntry

/-- The host as a kernel. -/
def kernel : Kernel Host := ⟨answer⟩

end SocketLayer.Host
