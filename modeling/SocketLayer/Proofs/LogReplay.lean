import SocketLayer.Proofs.FailureReports
import SocketLayer.Proofs.Frame

/-!
# The log replays the lifecycle

What the layer does not tell its caller it writes to the log: each step of a lifecycle, the cause
behind each disconnect, and the failures that a caller learns of as `false` or not at all. Whoever
reads the log of a handle follows its lifecycle from the first position to the last.

* `logOf` — the log that events leave.
* `Operation.Leaves`, `perform_leaves` — what every operation writes, by its result.
* `SetupLogs`, `DropLogs` — what making and ending a handle write.
* `chained`, `World.Told` — the records of moves, each from the position before.
* `log_replays` — all of this for every handle of every run.
-/

set_option autoImplicit false

namespace SocketLayer

/-- The log that events leave: their records in order, each with its level. -/
def logOf (events : List Event) : List (LogLevel × LogRecord) :=
  (events.filterMap Event.logged?).map fun entry => (entry.level, entry)

@[simp] theorem logOf_nil : logOf [] = [] := rfl

@[simp] theorem logOf_called (c : SystemCall) (reply : Reply c) (rest : List Event) :
    logOf (.called c reply :: rest) = logOf rest := rfl

@[simp] theorem logOf_logged (entry : LogRecord) (rest : List Event) :
    logOf (.logged entry :: rest) = (entry.level, entry) :: logOf rest := rfl

@[simp] theorem logOf_append (first second : List Event) :
    logOf (first ++ second) = logOf first ++ logOf second := by
  rw [logOf, List.filterMap_append, List.map_append]
  rfl

/-! ## What an operation writes -/

/-- A transfer writes nothing, unless it ends in a disconnect: then the error that ended it, or that
the peer closed. -/
def LogsTransfer (op : String) (fd : Descriptor) (events : List Event) : Transfer → Prop
  | .transferred _ | .retry => logOf events = []
  | .disconnected =>
    (∃ c e, failures events = [(c, e)] ∧
      logOf events = [(.trace, .disconnected op fd (.errno e))]) ∨
    (failures events = [] ∧ logOf events = [(.trace, .peerClosed op fd)])

/-- A lifecycle call that succeeds writes the move; a failed one writes nothing. -/
def LogsMove {α : Type} (s : Socket) (target : Lifecycle) (events : List Event) :
    Except NetError α → Prop
  | .ok _ => logOf events = [(.debug, .moved s.descriptor s.state target)]
  | .error _ => logOf events = []

/-- Why a bind fails: the position, or the kernel. -/
def Socket.bindError (s : Socket) (events : List Event) : NetError :=
  match failures events with
  | [] => .invalidState "bind" s.state
  | (_, e) :: _ => .reported "bind" e

/-- A bind that tells only whether it worked writes the move, or why it failed. -/
def LogsBind (s : Socket) (address : SocketAddress) (events : List Event) : Bool → Prop
  | true => logOf events = [(.debug, .moved s.descriptor s.state .bound)]
  | false =>
    logOf events = [(.debug, .bindFailed address.endpoint s.descriptor (s.bindError events))]

/-- A change of membership that fails writes why. -/
def LogsMembership (s : Socket) (group interface : Ipv4) (events : List Event) : Bool → Prop
  | true => logOf events = []
  | false => ∃ c e, failures events = [(c, e)] ∧
    logOf events = [(.debug, .membershipFailed s.descriptor group interface (.errno e))]

namespace Operation

/-- What an operation writes to the log. A probe writes as the read that it makes; a lookup of the
peer writes every failed call, and a profile every error that it passes over. -/
def Leaves (s : Socket) (events : List Event) : (operation : Operation) → operation.Result → Prop
  | .bind address, r => LogsBind s address events r
  | .bindIpv4 ip port, r => LogsBind s (.ofEndpoint ⟨ip, port⟩) events r
  | .tryBind _, r => LogsMove s .bound events r
  | .listen _, r => LogsMove s .listening events r
  | .connect _, r => LogsMove s .connected events r
  | .accept, .ok (some new) => logOf events = [(.debug, .accepted s.descriptor new.descriptor)]
  | .send _, r => LogsTransfer "send" s.descriptor events r
  | .receive _, r => LogsTransfer "recv" s.descriptor events r.1
  | .peek _, r => LogsTransfer "peek" s.descriptor events r.1
  | .isDead, r => ∃ outcome : Transfer, r = outcome.isDisconnected ∧
    LogsTransfer "recv" s.descriptor events outcome
  | .joinMulticast interface group, r | .leaveMulticast interface group, r =>
    LogsMembership s group interface events r
  | .peerAddress, _ | .peerIp, _ | .peerPort, _ =>
    logOf events =
      (failures events).map fun f => (.trace, .peerLookupFailed s.descriptor (.errno f.2))
  | .apply _, _ => logOf events =
    ((failures events).filter fun f => f.1.Tolerates f.2).map fun _ => (.debug, .reusePortSkipped)
  | _, _ => logOf events = []

end Operation

namespace Socket

open Program

variable {s : Socket} {events : List Event}

theorem SwitchRun.logs {fd : Descriptor} {on : Bool} {r : Except Errno Unit}
    (h : SwitchRun fd on events r) : logOf events = [] := by
  cases h <;> rfl

theorem TryBindRun.logs {address : SocketAddress} {r : Except NetError Unit × Socket}
    (h : TryBindRun s address events r) : LogsMove s .bound events r.1 := by
  cases h <;> rfl

/-- The error that a failed bind reports is the one that it met. -/
theorem TryBindRun.error_eq {address : SocketAddress} {error : NetError} {t : Socket}
    (h : TryBindRun s address events (.error error, t)) : error = s.bindError events := by
  cases h with
  | stopped h => rfl
  | failed h e => exact NetError.ofErrno_eq_reported "bind" e

theorem BindRun.logs {address : SocketAddress} {r : Bool × Socket}
    (h : BindRun s address events r) : LogsBind s address events r.1 := by
  cases h with
  | @refused events error t h =>
    have hfailures (entry : LogRecord) : SocketLayer.failures (events ++ [.logged entry]) =
        SocketLayer.failures events := by
      rw [failures_append]
      exact List.append_nil _
    have hnone : logOf events = [] := h.logs
    have hreason : error = s.bindError events := h.error_eq
    obtain rfl : t = s := h.unmoved
    show logOf (events ++ [.logged _]) = [(.debug, .bindFailed _ _ (bindError _ _))]
    rw [logOf_append, hnone, bindError, hfailures, hreason]
    rfl
  | moved h => exact h.logs

theorem ListenRun.logs {backlog : Int32} {r : Except NetError Unit × Socket}
    (h : ListenRun s backlog events r) : LogsMove s .listening events r.1 := by
  cases h <;> rfl

theorem AcceptRun.logs {r : Except NetError (Option Socket)} (h : AcceptRun s events r) :
    Operation.Leaves s events .accept r := by
  cases h <;> rfl

theorem ConnectRun.logs {address : SocketAddress} {r : Except NetError Connect × Socket}
    (h : ConnectRun s address events r) : LogsMove s .connected events r.1 := by
  cases h <;> rfl

theorem SendRun.logs {data : List UInt8} {r : Transfer} (h : SendRun s data events r) :
    LogsTransfer "send" s.descriptor events r := by
  cases h with
  | sent | waiting => rfl
  | lost e he => exact .inl ⟨_, e, rfl, rfl⟩

theorem ReadRun.logs {op : String} {peek : Bool} {capacity : Nat} {r : Transfer × List UInt8}
    (h : ReadRun op peek s capacity events r) : LogsTransfer op s.descriptor events r.1 := by
  cases h with
  | skipped | received | waiting => rfl
  | ended => exact .inr ⟨rfl, rfl⟩
  | lost _ e he => exact .inl ⟨_, e, rfl, rfl⟩

theorem PlanRun.logs {profile : OptionProfile} {plan : List SystemCall}
    {outcome : OptionProfile.Outcome} (h : PlanRun plan events outcome) :
    Operation.Leaves s events (.apply profile) outcome := by
  induction h with
  | finished => rfl
  | set answer h ih => exact ih
  | @skipped c plan events outcome e he h ih =>
    have ih : logOf events = ((SocketLayer.failures events).filter fun f => f.1.Tolerates f.2).map
      fun _ => (.debug, .reusePortSkipped) := ih
    show (LogLevel.debug, LogRecord.reusePortSkipped) :: logOf events =
      (((c, e) :: SocketLayer.failures events).filter fun f => f.1.Tolerates f.2).map _
    rw [List.filter_cons_of_pos (by simpa using he), List.map_cons, ih]
  | @failed c plan e he =>
    show [] = (([(c, e)] : List (SystemCall × Errno)).filter fun f => f.1.Tolerates f.2).map _
    rw [List.filter_cons_of_neg (by simpa using he)]
    rfl

theorem peerAddress_logs (s : Socket) :
    s.peerAddress.Ensures fun events _ => logOf events = (failures events).map
      fun f => (.trace, .peerLookupFailed s.descriptor (.errno f.2)) := by
  refine (peerAddress_runs s).mono fun events r h => ?_
  cases h <;> rfl

theorem changeMembership_logs (s : Socket) (change : MembershipChange) (interface group : Ipv4) :
    (s.changeMembership change interface group).Ensures
      (LogsMembership s group interface) := by
  rintro (e | ⟨⟩)
  · exact ⟨_, e, rfl, rfl⟩
  · rfl

theorem isDead_logs (s : Socket) :
    s.isDead.Ensures fun events r => Operation.Leaves s events .isDead r := by
  refine (ensures_bind _ _ _).mpr ((read_runs "recv" false s 1).mono fun events result h => ?_)
  rw [pure_eq, ensures_done, List.append_nil]
  exact ⟨result.1, rfl, h.logs⟩

/-- Asking for one answer writes nothing. -/
theorem ask_logs (op : String) (c : SystemCall) :
    (ask op c).Ensures fun events _ => logOf events = [] :=
  (ensures_ask _ _ _).mpr ⟨fun _ => rfl, fun _ => rfl⟩

/-- **What every operation writes to the log**, whatever the kernel replies. -/
theorem perform_leaves (s : Socket) (operation : Operation) :
    (s.perform operation).Ensures fun events r => operation.Leaves s events r.1 := by
  cases operation with
  | configureNonBlocking =>
    refine (configureNonBlocking_runs s).mono fun events r h => ?_
    cases h with
    | failed h | switched h => exact h.logs
  | tryBind address => exact (tryBind_runs s address).mono fun _ _ h => h.logs
  | bind address | bindIpv4 ip port => exact (bind_runs s _).mono fun _ _ h => h.logs
  | listen backlog => exact (listen_runs s backlog).mono fun _ _ h => h.logs
  | accept => exact keeping_runs ((accept_runs s).mono fun _ _ h => h.logs)
  | connect address => exact (connect_runs s address).mono fun _ _ h => h.logs
  | send data => exact keeping_runs ((send_runs s data).mono fun _ _ h => h.logs)
  | receive capacity | peek capacity =>
    exact keeping_runs ((read_runs _ _ s capacity).mono fun _ _ h => h.logs)
  | isDead => exact keeping_runs (isDead_logs s)
  | apply profile =>
    exact keeping_runs ((apply_runs profile s).mono fun _ _ h => PlanRun.logs h)
  | joinMulticast interface group | leaveMulticast interface group =>
    exact keeping_runs (changeMembership_logs s _ interface group)
  | peerAddress => exact ensures_map (peerAddress_logs s) _
  | peerIp | peerPort => exact ensures_map (ensures_map (peerAddress_logs s) _) _
  | register _ _ _ | reregister _ _ _ | deregister _ =>
    exact ensures_map ((ensures_request _ _).mpr fun _ => rfl) _
  | linger | reuseAddress | reusePort | tcpNoDelay =>
    exact ensures_map (ensures_map (ask_logs _ _) _) _
  | _ => exact ensures_map (ask_logs _ _) _

/-! ## What making and ending a handle write -/

/-- Dropping a handle writes one warning if the close fails, and nothing if it does not. -/
def DropLogs (fd : Descriptor) (events : List Event) : Prop :=
  (SocketLayer.failures events = [] ∧ logOf events = []) ∨
    ∃ e, SocketLayer.failures events = [(.close fd, e)] ∧
      logOf events = [(.warn, .closeFailed fd (.errno e))]

/-- What making a handle writes: that it was made, or that its setup failed, after which it is
dropped; nothing if there was no descriptor to set up. -/
inductive SetupLogs (created : Descriptor → LogRecord) : List Event → Except NetError Socket → Prop
  | made {events : List Event} (s : Socket)
    (hfd : events.filterMap Event.obtained? = [s.descriptor])
    (h : logOf events = [(.debug, created s.descriptor)]) : SetupLogs created events (.ok s)
  | refused {events : List Event} (error : NetError) (hnone : events.filterMap Event.obtained? = [])
    (h : logOf events = []) : SetupLogs created events (.error error)
  | givenUp {setup ending : List Event} (fd : Descriptor) (error : NetError)
    (hfd : setup.filterMap Event.obtained? = [fd])
    (h : logOf setup = [(.debug, .setupFailed fd error)]) (hdrop : DropLogs fd ending) :
    SetupLogs created (setup ++ ending) (.error error)

theorem DropRun.logs {fd : Descriptor} {r : Unit} (h : DropRun fd events r) :
    DropLogs fd events := by
  cases h with
  | closed => exact .inl ⟨rfl, rfl⟩
  | failed e => exact .inr ⟨e, rfl, rfl⟩

theorem CloseRun.logs {fd : Descriptor} {r : Except NetError Unit} (h : CloseRun fd events r) :
    logOf events = [(.debug, .closing fd)] := by
  cases h <;> rfl

/-- Setup steps that make no descriptor and write nothing. -/
structure QuietSteps (steps : List Event) : Prop where
  obtains : steps.filterMap Event.obtained? = []
  logs : logOf steps = []

theorem SwitchRun.quietSteps {fd : Descriptor} {on : Bool} {r : Except Errno Unit}
    (h : SwitchRun fd on events r) : QuietSteps events := by
  cases h <;> exact ⟨rfl, rfl⟩

theorem QuietSteps.setWord (h : QuietSteps events) (fd : Descriptor)
    (reply : Reply (.setWord fd .reuseAddress 1)) :
    QuietSteps (events ++ [.called (.setWord fd .reuseAddress 1) reply]) := by
  refine ⟨?_, ?_⟩
  · rw [List.filterMap_append, h.obtains]
    rfl
  · rw [logOf_append, h.logs]
    rfl

/-- Both constructors log the failure of a step before they drop the handle. -/
theorem QuietSteps.givenUp {steps ending : List Event} (h : QuietSteps steps)
    (transport : Transport) (created : Descriptor → LogRecord) {fd : Descriptor} (error : NetError)
    (hd : DropRun fd ending ()) :
    SetupLogs created (.called (.socket transport true) (.ok fd) :: (steps ++
      .logged (.setupFailed fd error) :: ending)) (.error error) := by
  have hsplit : .called (.socket transport true) (.ok fd) :: (steps ++
      .logged (.setupFailed fd error) :: ending) =
      (.called (.socket transport true) (.ok fd) :: (steps ++ [.logged (.setupFailed fd error)])) ++
        ending := by simp
  rw [hsplit]
  refine .givenUp fd error ?_ ?_ hd.logs
  · show fd :: (steps ++ [Event.logged (.setupFailed fd error)]).filterMap Event.obtained? = [fd]
    rw [List.filterMap_append, h.obtains]
    rfl
  · rw [logOf_called, logOf_append, h.logs]
    rfl

/-- Both constructors log the handle that they made. -/
theorem QuietSteps.made {steps : List Event} (h : QuietSteps steps) (transport : Transport)
    {created : Descriptor → LogRecord} (s : Socket)
    (hlevel : (created s.descriptor).level = .debug) :
    SetupLogs created (.called (.socket transport true) (.ok s.descriptor) :: (steps ++
      [.logged (created s.descriptor)])) (.ok s) := by
  refine .made s ?_ ?_
  · show s.descriptor ::
      (steps ++ [Event.logged (created s.descriptor)]).filterMap Event.obtained? = [s.descriptor]
    rw [List.filterMap_append, h.obtains]
    rfl
  · rw [logOf_called, logOf_append, h.logs, logOf_logged, hlevel]
    rfl

theorem TcpRun.logs {blocking : Bool} {r : Except NetError Socket} (h : TcpRun blocking events r) :
    SetupLogs (.createdTcp · blocking) events r := by
  cases h with
  | refused _ e => exact .refused _ rfl rfl
  | blocking fd => exact .made _ rfl rfl
  | unswitched fd e hs hd => exact hs.quietSteps.givenUp .tcp _ _ hd
  | unshared fd e hs hd =>
    have hgiven := (hs.quietSteps.setWord fd (.error e)).givenUp .tcp (.createdTcp · false)
      (.ofErrno "set_reuse_addr" e) hd
    rwa [List.append_assoc] at hgiven
  | made fd hs =>
    have hmade : SetupLogs (.createdTcp · false) _ (.ok ⟨fd, .tcp, .created, true⟩) :=
      (hs.quietSteps.setWord fd (.ok ())).made .tcp _ rfl
    rwa [List.append_assoc] at hmade

theorem UdpRun.logs {r : Except NetError Socket} (h : UdpRun events r) :
    SetupLogs .createdUdp events r := by
  cases h with
  | refused e => exact .refused _ rfl rfl
  | unswitched fd e hs hd => exact hs.quietSteps.givenUp .udp _ _ hd
  | made fd hs =>
    have hmade : SetupLogs .createdUdp _ (.ok ⟨fd, .udp, .created, true⟩) :=
      hs.quietSteps.made .udp _ rfl
    exact hmade

end Socket

/-! ## The records of moves -/

/-- Whether a record tells of a move. -/
def LogRecord.isMove : LogRecord → Bool
  | .moved .. => true
  | _ => false

/-- The records of moves that events leave, in order. -/
def moveRecords (events : List Event) : List (LogLevel × LogRecord) :=
  (logOf events).filter fun entry => entry.2.isMove

theorem moveRecords_append (first second : List Event) :
    moveRecords (first ++ second) = moveRecords first ++ moveRecords second := by
  rw [moveRecords, logOf_append, List.filter_append]
  rfl

/-- The records of moves to some positions in a row: the first from where the handle starts, each
other from the position before. -/
def chained (fd : Descriptor) : (start : Lifecycle) → List Lifecycle → List (LogLevel × LogRecord)
  | _, [] => []
  | source, target :: rest => (.debug, .moved fd source target) :: chained fd target rest

theorem chained_append (fd : Descriptor) (start : Lifecycle) (first second : List Lifecycle) :
    chained fd start (first ++ second) =
      chained fd start first ++ chained fd (first.getLastD start) second := by
  induction first generalizing start with
  | nil => rfl
  | cons target rest ih =>
    rw [List.cons_append, chained, ih, List.getLastD_cons]
    rfl

/-- The events of an operation chain its moves: one record for each call that moves the handle, from
the position that the call met. -/
def Chains (s : Socket) (events : List Event) : Prop :=
  moveRecords events = chained s.descriptor s.state (events.filterMap Event.target?)

namespace Operation

variable {s : Socket} {events : List Event}

theorem no_moves_of_empty (h : logOf events = []) : moveRecords events = [] := by
  rw [moveRecords, h, List.filter_nil]

theorem no_moves_of_map {α : Type} {entries : List α} {write : α → LogLevel × LogRecord}
    (h : logOf events = entries.map write) (hwrite : ∀ a, (write a).2.isMove = false) :
    moveRecords events = [] := by
  rw [moveRecords, h, List.filter_eq_nil_iff]
  intro entry hmem
  obtain ⟨a, -, rfl⟩ := List.mem_map.mp hmem
  simp [hwrite a]

theorem no_moves_of_transfer {op : String} {fd : Descriptor} {outcome : Transfer}
    (h : LogsTransfer op fd events outcome) : moveRecords events = [] := by
  cases outcome with
  | transferred _ | retry => exact no_moves_of_empty h
  | disconnected =>
    obtain ⟨c, e, -, hlog⟩ | ⟨-, hlog⟩ := h
    · rw [moveRecords, hlog]
      rfl
    · rw [moveRecords, hlog]
      rfl

/-- An operation outside the lifecycle writes of no move. -/
theorem Leaves.no_moves {operation : Operation} (hop : operation.isPlain = true)
    {r : operation.Result} (h : operation.Leaves s events r) : moveRecords events = [] := by
  cases operation with
  | configureNonBlocking | bind _ | bindIpv4 _ _ | tryBind _ | listen _ | accept | connect _ =>
    cases hop
  | send _ | receive _ | peek _ => exact no_moves_of_transfer h
  | isDead =>
    obtain ⟨outcome, -, h⟩ := h
    exact no_moves_of_transfer h
  | joinMulticast interface group | leaveMulticast interface group =>
    cases r with
    | true => exact no_moves_of_empty h
    | false =>
      obtain ⟨c, e, -, hlog⟩ := h
      rw [moveRecords, hlog]
      rfl
  | peerAddress | peerIp | peerPort | apply _ => exact no_moves_of_map h fun _ => rfl
  | _ => exact no_moves_of_empty h

end Operation

namespace Socket

open Program

variable {s : Socket} {events : List Event}

theorem TryBindRun.chains {address : SocketAddress} {r : Except NetError Unit × Socket}
    (h : TryBindRun s address events r) : Chains s events := by
  cases h <;> rfl

theorem BindRun.chains {address : SocketAddress} {r : Bool × Socket}
    (h : BindRun s address events r) : Chains s events := by
  cases h with
  | refused h => cases h <;> rfl
  | moved h => exact h.chains

theorem ConnectRun.chains {address : SocketAddress} {r : Except NetError Connect × Socket}
    (h : ConnectRun s address events r) : Chains s events := by
  cases h with
  | failed h e he =>
    have hnone : (Event.called (.connect s.descriptor address) (.error e)).target? = none :=
      if_neg he
    rw [Chains, List.filterMap_cons_none hnone]
    rfl
  | _ => rfl

/-- **Every operation chains its moves.** -/
theorem perform_chains (s : Socket) (operation : Operation) :
    (s.perform operation).Ensures fun events _ => Chains s events := by
  refine ((perform_runs s operation).and (perform_leaves s operation)).mono fun events r h => ?_
  obtain ⟨hrun, hleaves⟩ := h
  cases hrun with
  | configure h =>
    cases h with
    | failed h | switched h => cases h <;> rfl
  | tryBind h => exact h.chains
  | bind h => exact h.chains
  | bindIpv4 h => exact h.chains
  | listen h => cases h <;> rfl
  | accept h => cases h <;> rfl
  | connect h => exact h.chains
  | plain hop h =>
    have hstill : events.filterMap Event.target? = [] :=
      List.filterMap_eq_nil_iff.mpr fun e he => target_of_still ((still_of_plain h) e he)
    rw [Chains, hleaves.no_moves hop, hstill]
    rfl

/-- A fresh handle has written of no move, and made none. -/
theorem chained_of_fresh {created : Descriptor → LogRecord} {start : Lifecycle}
    (hlogs : SetupLogs created events (.ok s)) (hcreated : (created s.descriptor).isMove = false)
    (hsetup : AllCalls SystemCall.IsSetup events) :
    moveRecords events = chained s.descriptor start (events.filterMap Event.target?) := by
  have hstill : events.filterMap Event.target? = [] :=
    List.filterMap_eq_nil_iff.mpr fun e he => target_of_still ((still_of_setup hsetup) e he)
  cases hlogs with
  | made _ _ hlog =>
    rw [moveRecords, hlog, hstill, List.filter_cons_of_neg (by simp [hcreated])]
    rfl

end Socket

namespace World

variable {σ : Type}

/-! ## Every run -/

/-- The log of a handle tells its lifecycle from the start. -/
structure Told (h : LiveSocket) : Prop where
  alive : h.Alive
  chains : moveRecords h.history =
    chained h.socket.descriptor h.origin.state (h.history.filterMap Event.target?)

/-- Every operation writes its moves, from the position that the history leads to. -/
theorem kept_told : Kept Told where
  tcp h := ⟨kept_alive.tcp h, Socket.chained_of_fresh h.logs rfl h.setup⟩
  udp h := ⟨kept_alive.udp h, Socket.chained_of_fresh h.logs rfl h.setup⟩
  adopted fd transport state := ⟨kept_alive.adopted fd transport state, rfl⟩
  accepted fd nonBlocking := ⟨kept_alive.accepted fd nonBlocking, rfl⟩
  performed h operation htold := by
    obtain ⟨halive, hchains⟩ := htold
    refine ((kept_alive.performed h operation halive).and
      ((Socket.perform_runs h.socket operation).and
        (Socket.perform_chains h.socket operation))).mono fun events r hrun => ?_
    obtain ⟨hnext, hrun, hmoves⟩ := hrun
    refine ⟨hnext, ?_⟩
    have hposition : (h.history.filterMap Event.target?).getLastD h.origin.state =
        h.socket.state := halive.moves.replays
    show moveRecords (h.history ++ events) = chained r.2.descriptor h.origin.state
      ((h.history ++ events).filterMap Event.target?)
    calc moveRecords (h.history ++ events)
        = chained h.socket.descriptor h.origin.state (h.history.filterMap Event.target?) ++
            chained h.socket.descriptor h.socket.state (events.filterMap Event.target?) := by
          rw [moveRecords_append, hchains, hmoves]
      _ = chained h.socket.descriptor h.origin.state
            ((h.history ++ events).filterMap Event.target?) := by
          rw [List.filterMap_append, chained_append, hposition]
      _ = _ := by rw [hrun.named.descriptor]

/-- The log tells what happened.

* `moves` — a handle's records of moves are those of its successful calls of `bind`, `listen` and
  `connect`, a pending `connect` included, one for each: the first from the position that the handle
  started in, each other from the position before.
* `ends` — the last of them leads to the position that the handle is in; without one it is where it
  started.
* `performed` — what every operation writes, by its result: one record for a disconnect, a bind that
  is `false`, a failed change of membership and every failed lookup of the peer, and none where the
  caller is told why.
* `tcp`, `udp` — a handle that was made has one record, and so does one whose setup failed.
* `closed` — an explicit close has one record, whatever the kernel replies.
* `dropped` — a drop has none, or one warning if the close failed. -/
structure LogReplays (k : Kernel σ) (w : World σ) : Prop where
  moves : ∀ h ∈ w.live, moveRecords h.history =
    chained h.socket.descriptor h.origin.state (h.history.filterMap Event.target?)
  ends : ∀ h ∈ w.live,
    (h.history.filterMap Event.target?).getLastD h.origin.state = h.socket.state
  performed : ∀ (s : Socket) (operation : Operation) (state : σ),
    let run := (s.perform operation).run k state
    operation.Leaves s run.events run.result.1
  tcp : ∀ (blocking : Bool) (state : σ),
    let run := (Socket.tcp blocking).run k state
    Socket.SetupLogs (.createdTcp · blocking) run.events run.result
  udp : ∀ state : σ,
    let run := Socket.udp.run k state
    Socket.SetupLogs .createdUdp run.events run.result
  closed : ∀ (s : Socket) (state : σ),
    logOf (s.close.run k state).events = [(.debug, .closing s.descriptor)]
  dropped : ∀ (s : Socket) (state : σ), Socket.DropLogs s.descriptor (s.drop.run k state).events

/-- **The log replays the lifecycle, in every run**: any commands in any order, any kernel. -/
theorem log_replays (k : Kernel σ) (kernel : σ) (table : DescriptorTable)
    (commands : List Command) : LogReplays k ((start kernel table).run k commands) := by
  have htold := kept_told.run k kernel table commands
  refine ⟨fun h hlive => (htold h hlive).chains,
    fun h hlive => (htold h hlive).alive.moves.replays, ?performed, ?tcp, ?udp, ?closed, ?dropped⟩
  case performed =>
    intro s operation state
    exact (Socket.perform_leaves s operation).run k state
  case tcp =>
    intro blocking state
    exact ((Socket.tcp_runs blocking).run k state).logs
  case udp =>
    intro state
    exact (Socket.udp_runs.run k state).logs
  case closed =>
    intro s state
    exact ((Socket.close_runs s).run k state).logs
  case dropped =>
    intro s state
    exact ((Socket.drop_runs s).run k state).logs

end World
end SocketLayer
