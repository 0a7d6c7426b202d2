/-!
# Durations

A span of time in whole seconds and the nanoseconds beyond them.
-/

set_option autoImplicit false

namespace SocketLayer

/-- Whole seconds and the nanoseconds beyond them. -/
structure Duration where
  seconds : Nat
  nanos : Nat
  deriving DecidableEq, Repr

namespace Duration

/-- No time at all. -/
def zero : Duration := ⟨0, 0⟩

/-- A span of whole seconds. -/
def ofSeconds (seconds : Nat) : Duration := ⟨seconds, 0⟩

end Duration
end SocketLayer
