import SocketLayer.Host.Inet
import SocketLayer.Host.PairEnd
import SocketLayer.Host.Table

/-!
# A host and its open files

A `Host` is a kernel as one process sees it: the open files under their descriptors, the ports in
use, and the numbers that are given out next. The first three descriptors are taken from the start.
Ports that the kernel chooses are never chosen twice, and never from the reserved ones.
-/

set_option autoImplicit false

namespace SocketLayer

namespace Host

/-- What a descriptor is open on. -/
inductive FileBody where
  | inet (socket : InetSocket)
  | pairEnd (pairEnd : PairEnd)
  | poller (watches : List Watch)
  deriving DecidableEq, Repr

/-- An open file. -/
structure File where
  flags : StatusFlags
  closeOnExec : Bool
  body : FileBody
  deriving DecidableEq, Repr

/-- Which addresses the TCP sockets on one port may share it on. -/
inductive PortSharing where
  | none
  | anyAddress
  | only (ip : Ipv4)
  deriving DecidableEq, Repr

/-- How the TCP sockets on one port share it. -/
structure PortGroup where
  /-- Whether every socket on the port may reuse its address. -/
  reuse : Bool
  sharing : PortSharing
  deriving DecidableEq, Repr

end Host

open Host

/-- A kernel as one process sees it. -/
structure Host where
  files : Table File
  /-- Descriptors from this number on are refused. -/
  descriptorLimit : Nat
  /-- The port that is chosen next. -/
  nextPort : Nat
  /-- Ports that are never chosen. -/
  reserved : List UInt16
  /-- The descriptors of the sockets that hold a port, latest first. -/
  holders : List Nat
  /-- How TCP ports are shared. -/
  portGroups : Table PortGroup

namespace Host

/-- The number of descriptors a process may have open. -/
def defaultDescriptorLimit : Nat := 1024

/-- The first port that the kernel chooses. -/
def firstChosenPort : Nat := 32768

/-- A host on which nothing is open. -/
def boot (reserved : List UInt16) : Host where
  files := .empty
  descriptorLimit := defaultDescriptorLimit
  nextPort := firstChosenPort
  reserved
  holders := []
  portGroups := .empty

/-- The first descriptor that is not taken from the start. -/
def firstDescriptor : Nat := 3

/-- The open file under a descriptor. -/
def file? (h : Host) (fd : Descriptor) : Option File := h.files.get? fd.number

/-- Replaces what a descriptor is open on. -/
def setBody (h : Host) (fd : Nat) (body : FileBody) : Host :=
  match h.files.get? fd with
  | some file => { h with files := h.files.set fd { file with body } }
  | none => h

/-- The local stream end under a descriptor. -/
def pairEnd? (h : Host) (fd : Nat) : Option PairEnd :=
  match h.files.get? fd with
  | some ⟨_, _, .pairEnd e⟩ => some e
  | _ => none

/-- The IPv4 socket under a descriptor. -/
def inet? (h : Host) (fd : Nat) : Option InetSocket :=
  match h.files.get? fd with
  | some ⟨_, _, .inet s⟩ => some s
  | _ => none

/-- Limits the number of descriptors; `none` restores the limit. -/
def limitDescriptors (h : Host) (limit : Option Nat) : Host :=
  { h with descriptorLimit := limit.getD defaultDescriptorLimit }

/-- The multicast time-to-live, loopback flag and interface of the socket under a descriptor, where
it has them. No interface can be chosen on this host, so none ever is. -/
def multicastView (h : Host) (fd : Descriptor) : Option Int32 × Option Int32 × Option Ipv4 :=
  match h.inet? fd.number with
  | some s => (some s.multicastTtl, some (flagWord s.multicastLoop), some .unspecified)
  | none => (none, none, none)

/-- The readiness of the file under a descriptor. -/
def readiness (h : Host) (fd : Nat) : Readiness :=
  match h.files.get? fd with
  | some ⟨_, _, .inet s⟩ => s.readiness
  | some ⟨_, _, .pairEnd e⟩ => e.readiness
  | _ => {}

/-- The least free descriptor, unless it is beyond the limit. -/
def freeDescriptor (h : Host) : Except Errno Descriptor :=
  let fd := h.files.firstFree firstDescriptor
  if fd < h.descriptorLimit then .ok ⟨fd⟩ else .error .tooManyOpenFiles

/-- Opens a file under the least free descriptor. -/
def openFile (h : Host) (file : File) : Except Errno (Descriptor × Host) := do
  let fd ← h.freeDescriptor
  return (fd, { h with files := h.files.set fd.number file })

/-- The status flags of a fresh socket: open for reading and writing. -/
def freshFlags : StatusFlags := ⟨2⟩

/-- Rewrites the watches of every poller. -/
def mapWatches (h : Host) (change : List Watch → List Watch) : Host :=
  let visit (host : Host) (fd : Nat) : Host :=
    match host.files.get? fd with
    | some ⟨_, _, .poller watches⟩ => host.setBody fd (.poller (change watches))
    | _ => host
  h.files.keys.foldl visit h

/-- Tells the watchers of a descriptor that it changed. -/
def wake (h : Host) (fd : Nat) (change : Option Readiness) : Host :=
  h.mapWatches fun watches => watches.map fun w => w.wake fd change

/-- Collects the reports of a poller; the descriptors that were reported are quiet until they
change again. -/
def collect (h : Host) (poller : Descriptor) : List Report × Host :=
  match h.files.get? poller.number with
  | some ⟨_, _, .poller watches⟩ =>
    let report (w : Watch) : Option Report :=
      let r := (h.readiness w.descriptor).restrict w.interest
      if w.pending && r.isSome then some ⟨w.token, r⟩ else none
    let quiet := watches.map fun w => { w with pending := false }
    (watches.filterMap report, h.setBody poller.number (.poller quiet))
  | _ => ([], h)

/-- Makes a connected pair of local stream ends, both non-blocking. -/
def socketPair (h : Host) : Except Errno (Descriptor × Descriptor × Host) := do
  let file (peer : Nat) : File :=
    ⟨freshFlags.withNonBlocking true, true, .pairEnd (.fresh peer)⟩
  let (first, h) ← h.openFile (file 0)
  let (second, h) ← h.openFile (file first.number)
  return (first, second, h.setBody first.number (.pairEnd (.fresh second.number)))

end Host
end SocketLayer
