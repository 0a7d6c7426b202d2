import SocketLayer.Proofs.OperationRuns

/-!
# What a caller is told of the bytes of a connection

Four results tell of bytes: that of a send, of a datagram sent to an address, of a read, and of a
probe. Each agrees with the calls that were made, and every other operation, constructor or end of a
handle makes no call that could move or show bytes.

* `NoTransfer` — events without such a call, as those of the constructors and of the ends of a
  handle.
* `DataReport`, `DataRun` — what is told, and the calls behind it.
* `perform_data` — every operation tells the truth about its calls.
-/

set_option autoImplicit false

namespace SocketLayer

/-- Whether a call moves or shows the bytes of a connection. -/
def SystemCall.isTransfer : SystemCall → Bool
  | .send .. | .sendTo .. | .receive .. => true
  | _ => false

namespace Operation

/-- Whether an operation moves or shows the bytes of a connection. -/
def isTransfer : Operation → Bool
  | .send _ | .sendTo _ _ | .receive _ | .peek _ | .isDead => true
  | _ => false

theorem Issues.isTransfer_eq_false {s : Socket} {operation : Operation}
    (hop : operation.isTransfer = false) {c : SystemCall} (h : operation.Issues s c) :
    c.isTransfer = false := by
  cases operation with
  | send _ | sendTo _ _ | receive _ | peek _ | isDead => cases hop
  | configureNonBlocking =>
    obtain rfl | ⟨flags, rfl⟩ := h
    · rfl
    · rfl
  | apply profile =>
    have hwants := OptionProfile.wants_of_mem_plan h
    generalize s.transport = transport at hwants
    cases hwants with
    | _ => rfl
  | _ =>
    cases h
    rfl

end Operation

namespace Socket

open Program

/-! ## Calls that move no bytes -/

/-- Events without a call that moves or shows bytes. -/
abbrev NoTransfer (events : List Event) : Prop := AllCalls (·.isTransfer = false) events

/-- No bytes move while a handle is made or ends. -/
theorem noTransfer_of_setup {events : List Event} (h : AllCalls SystemCall.IsSetup events) :
    NoTransfer events :=
  allCalls_mono h fun c hc => by cases c <;> first | rfl | cases hc

/-! ## What is told, and the calls behind it -/

/-- A read that a caller made: the handle, whether the bytes stay queued, the size of the buffer,
the outcome, and the bytes put into the buffer. -/
structure ReadReport where
  socket : Socket
  peek : Bool
  capacity : Nat
  outcome : Transfer
  data : List UInt8
  deriving DecidableEq, Repr

/-- The bytes that a caller is told to have read. -/
def ReadReport.bytes (r : ReadReport) : List UInt8 := r.data.take (r.outcome.count?.getD 0)

/-- What a caller is told of the bytes of a connection. -/
inductive DataReport where
  /-- So many bytes of the buffer were sent, or none was because the call failed. -/
  | sent (s : Socket) (data : List UInt8) (count : Option Nat)
  | read (r : ReadReport)
  | probed (s : Socket) (answer : Bool)
  deriving DecidableEq, Repr

/-- What the result of an operation tells of the bytes of a connection. -/
def dataReport? (s : Socket) : (operation : Operation) → operation.Result → Option DataReport
  | .send data, outcome => some (.sent s data outcome.count?)
  | .sendTo data _, r => some (.sent s data r.toOption)
  | .receive capacity, (outcome, data) => some (.read ⟨s, false, capacity, outcome, data⟩)
  | .peek capacity, (outcome, data) => some (.read ⟨s, true, capacity, outcome, data⟩)
  | .isDead, answer => some (.probed s answer)
  | _, _ => none

/-- The calls behind what a caller is told of the bytes of a connection. -/
inductive DataRun : DataReport → List Event → Prop
  | send {s : Socket} {data : List UInt8} {events : List Event} {outcome : Transfer}
    (h : SendRun s data events outcome) : DataRun (.sent s data outcome.count?) events
  | sendTo {s : Socket} {data : List UInt8} {address : SocketAddress} {events : List Event}
    {r : Except NetError Nat} (h : SendToRun s data address events r) :
    DataRun (.sent s data r.toOption) events
  | read {op : String} {r : ReadReport} {events : List Event}
    (h : ReadRun op r.peek r.socket r.capacity events (r.outcome, r.data)) :
    DataRun (.read r) events
  | probed {s : Socket} {events : List Event} {result : Transfer × List UInt8}
    (h : ReadRun "recv" false s 1 events result) :
    DataRun (.probed s result.1.isDisconnected) events

theorem dataReport?_of_no_transfer {operation : Operation} (hop : operation.isTransfer = false)
    (s : Socket) (result : operation.Result) : dataReport? s operation result = none := by
  cases operation with
  | send _ | sendTo _ _ | receive _ | peek _ | isDead => cases hop
  | _ => rfl

/-- What a caller is told of the bytes of a connection agrees with the calls made; if it is told
nothing, no call could move or show any. -/
def DataAgrees : Option DataReport → List Event → Prop
  | some report, events => DataRun report events
  | none, events => NoTransfer events

theorem isDead_runs (s : Socket) :
    s.isDead.Ensures fun events answer => DataRun (.probed s answer) events := by
  refine (ensures_bind _ _ _).mpr ((read_runs "recv" false s 1).mono fun events result h => ?_)
  simpa using DataRun.probed h

/-- **What an operation tells of the bytes of a connection agrees with its calls.** -/
theorem perform_data (s : Socket) (operation : Operation) :
    (s.perform operation).Ensures fun events r =>
      DataAgrees (dataReport? s operation r.1) events := by
  cases hop : operation.isTransfer with
  | false =>
    refine (perform_issues s operation).mono fun events r hissues => ?_
    rw [dataReport?_of_no_transfer hop]
    exact fun e he c hc => (hissues e he c hc).isTransfer_eq_false hop
  | true =>
    cases operation with
    | send data => exact (keeping_runs (send_runs s data)).mono fun _ _ => DataRun.send
    | sendTo data address =>
      exact (keeping_runs (sendTo_runs s data address)).mono fun _ _ => DataRun.sendTo
    | receive capacity =>
      refine (keeping_runs (read_runs "recv" false s capacity)).mono fun events r h => ?_
      exact DataRun.read (r := ⟨s, false, capacity, r.1.1, r.1.2⟩) h
    | peek capacity =>
      refine (keeping_runs (read_runs "peek" true s capacity)).mono fun events r h => ?_
      exact DataRun.read (r := ⟨s, true, capacity, r.1.1, r.1.2⟩) h
    | isDead => exact (keeping_runs (isDead_runs s)).mono fun _ _ h => h
    | _ => cases hop

end Socket
end SocketLayer
