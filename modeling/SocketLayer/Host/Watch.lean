import SocketLayer.SystemCall

/-!
# Readiness and watched descriptors

A watched descriptor is reported once per change: a `Watch` is pending after it is made, changed or
woken, and collecting its report takes the pending mark away whether or not there was anything to
report.
-/

set_option autoImplicit false

namespace SocketLayer.Host

/-- What can be said of a descriptor's readiness. -/
structure Readiness where
  readable : Bool := false
  peerClosed : Bool := false
  writable : Bool := false
  hungUp : Bool := false
  failed : Bool := false
  deriving DecidableEq, Repr

namespace Readiness

/-- The part that a watcher with the given interest hears of: hang-ups and failures always. -/
def restrict (r : Readiness) (interest : Interest) : Readiness where
  readable := r.readable && interest.readable
  peerClosed := r.peerClosed && interest.readable
  writable := r.writable && interest.writable
  hungUp := r.hungUp
  failed := r.failed

/-- Whether there is anything to report. -/
def isSome (r : Readiness) : Bool :=
  r.readable || r.peerClosed || r.writable || r.hungUp || r.failed

end Readiness

/-- The questions an event loop asks of an event. -/
inductive EventClass where
  | readable
  | writable
  | readClosed
  | writeClosed
  | error
  | any
  deriving DecidableEq, Repr

/-- Whether an event with the given readiness is of a class. -/
def EventClass.covers : EventClass → Readiness → Bool
  | .readable, r => r.readable
  | .writable, r => r.writable
  | .readClosed, r => r.hungUp || (r.readable && r.peerClosed)
  | .writeClosed, r =>
    r.hungUp || (r.failed && (r.writable || !(r.readable || r.peerClosed)))
  | .error, r => r.failed
  | .any, _ => true

/-- A watched descriptor. -/
structure Watch where
  descriptor : Nat
  token : Nat
  interest : Interest
  pending : Bool
  deriving DecidableEq, Repr

namespace Watch

/-- Marks the watch after a change of the descriptor. A change of known kind passes by a watch
whose interest it does not touch. -/
def wake (w : Watch) (descriptor : Nat) (change : Option Readiness) : Watch :=
  let heard := match change with
    | none => true
    | some r => (r.restrict w.interest).isSome
  if w.descriptor = descriptor && heard then { w with pending := true } else w

end Watch

/-- A report of a watched descriptor. -/
structure Report where
  token : Nat
  readiness : Readiness
  deriving DecidableEq, Repr

end SocketLayer.Host
