import SocketLayer.Proofs.OperationRuns

/-!
# How a failed system call is reported

The kernel answers a call with an error number; the operation that made the call tells its caller
under its own name, keeping the number, unless the number says "not supported". A few operations
give some numbers a meaning of their own, and a few tell only that they failed. No operation blames
the kernel when every call succeeded.

* `NetError.reported` — the error that a number becomes under a name.
* `Operation.told` — what each operation tells of each failed call.
* `Reported`, `perform_reported` — an operation meets one failure at most, and tells of it.
* `SetupReported`, `CloseReported` — the same for making and closing a handle.
* `os_failures_reported` — all of this for every kernel.
-/

set_option autoImplicit false

namespace SocketLayer

namespace NetError

/-- The error that a number becomes under the name of an operation. -/
def reported (op : String) (e : Errno) : NetError :=
  if e.code = 38 ∨ e.code = 95 then .unsupported op else .os op (.errno e)

theorem ofErrno_eq_reported (op : String) (e : Errno) : ofErrno op e = reported op e := by
  have h : e.kind = .unsupported ↔ e.code = 38 ∨ e.code = 95 := by
    obtain ⟨code⟩ := e
    simp [Errno.kind_eq_unsupported_iff, Errno.notImplemented, Errno.notSupported]
  simp only [ofErrno, ofIo, IoFailure.kind, h, reported]

theorem error_ofErrno {α : Type} (op : String) (e : Errno) :
    (.error (ofErrno op e) : Except NetError α) = .error (reported op e) :=
  congrArg _ (ofErrno_eq_reported op e)

/-- The cause that is told is the number. -/
theorem cause_reported {op : String} {e : Errno} {cause : IoFailure}
    (h : cause ∈ (reported op e).cause?) : cause = .errno e := by
  unfold reported at h
  split at h <;> cases h
  rfl

/-- The cause of an error, where it has one, is not that something is not supported. -/
def Lifted (error : NetError) : Prop := ∀ cause ∈ error.cause?, cause.kind ≠ .unsupported

theorem lifted_reported (op : String) (e : Errno) : (reported op e).Lifted := by
  intro cause hcause
  obtain ⟨op', h⟩ : ∃ op', reported op e = .os op' cause := by
    cases herror : reported op e <;> rw [herror] at hcause <;> cases hcause
    exact ⟨_, rfl⟩
  exact ofIo_ne_os_of_unsupported ((ofErrno_eq_reported op e).trans h)

/-- Whether an error blames a system call. -/
def BlamesCall : NetError → Prop
  | .os .. | .unsupported _ | .noPeer => True
  | .invalidHandle | .invalidState .. | .unsupportedFamily _ => False

end NetError

/-- The call of an event that failed, and the number of its error. -/
def Event.failed? : Event → Option (SystemCall × Errno)
  | .called c (.error e) => some (c, e)
  | _ => none

/-- The calls that failed, in order. -/
def failures (events : List Event) : List (SystemCall × Errno) := events.filterMap Event.failed?

theorem failures_append (first second : List Event) :
    failures (first ++ second) = failures first ++ failures second := List.filterMap_append

/-- The name of the setup step that makes a call. Giving up a handle is none: its failure is not
reported. -/
def SystemCall.stepName : SystemCall → Option String
  | .socket .. => some "socket"
  | .getFlags _ | .setFlags .. => some "set_nonblocking"
  | .setWord .. => some "set_reuse_addr"
  | _ => none

/-- The setup steps that failed, by their names, and the numbers of their errors. -/
def setupFailures (events : List Event) : List (String × Errno) :=
  (failures events).filterMap fun (c, e) => c.stepName.map (·, e)

theorem setupFailures_append (first second : List Event) :
    setupFailures (first ++ second) = setupFailures first ++ setupFailures second := by
  simp only [setupFailures, failures_append, List.filterMap_append]

theorem setupFailures_of_none {events : List Event} (h : failures events = []) :
    setupFailures events = [] := by
  rw [setupFailures, h, List.filterMap_nil]

namespace Operation

/-! ## What is told of a failed call -/

/-- Whether an operation goes on after a failed call: only a profile does, where the kernel cannot
share ports. -/
def passesOver : Operation → SystemCall × Errno → Bool
  | .apply _, (c, e) => c.Tolerates e
  | _, _ => false

/-- The failures that an operation has to tell of. -/
def blamed (operation : Operation) (events : List Event) : List (SystemCall × Errno) :=
  (failures events).filter fun f => !operation.passesOver f

/-- What an operation tells of a failed call. In errors every operation has one name: that of a bind
is `bind`, whoever reports it, and that of a switch to non-blocking mode is `set_nonblocking`. -/
def told : (operation : Operation) → SystemCall × Errno → operation.Result
  | .configureNonBlocking, (_, e) => .error (.reported "set_nonblocking" e)
  | .bind _, _ | .bindIpv4 _ _, _ | .joinMulticast _ _, _ | .leaveMulticast _ _, _ => false
  | .tryBind _, (_, e) => .error (.reported "bind" e)
  | .listen _, (_, e) => .error (.reported "listen" e)
  | .accept, (_, e) => if e.code = 11 then .ok none else .error (.reported "accept" e)
  | .connect _, (_, e) =>
    if e.code = 115 then .ok .inProgress else .error (.reported "connect" e)
  | .shutdown _, (_, e) => .error (.reported "shutdown" e)
  | .localAddress, (_, e) => .error (.reported "local_addr" e)
  | .peerAddress, _ | .peerIp, _ | .peerPort, _ => .error .noPeer
  | .send _, (_, e) => if e.code = 11 then .retry else .disconnected
  | .sendTo _ _, (_, e) => .error (.reported "send_to" e)
  | .receive _, (_, e) | .peek _, (_, e) => (if e.code = 11 then .retry else .disconnected, [])
  | .isDead, (_, e) => e.code != 11
  | .setSendBufferSize _, (_, e) => .error (.reported "set_send_buffer_size" e)
  | .sendBufferSize, (_, e) => .error (.reported "send_buffer_size" e)
  | .setReceiveBufferSize _, (_, e) => .error (.reported "set_recv_buffer_size" e)
  | .receiveBufferSize, (_, e) => .error (.reported "recv_buffer_size" e)
  | .setLinger _, (_, e) => .error (.reported "set_linger" e)
  | .linger, (_, e) => .error (.reported "linger" e)
  | .setReuseAddress _, (_, e) => .error (.reported "set_reuse_address" e)
  | .reuseAddress, (_, e) => .error (.reported "reuse_address" e)
  | .setReusePort _, (_, e) => .error (.reported "set_reuse_port" e)
  | .reusePort, (_, e) => .error (.reported "reuse_port" e)
  | .setTcpNoDelay _, (_, e) => .error (.reported "set_tcp_nodelay" e)
  | .tcpNoDelay, (_, e) => .error (.reported "tcp_nodelay" e)
  | .apply _, (c, e) => .error (.reported c.setterName e)
  | .setMulticastTtl _, (_, e) => .error (.reported "set_multicast_ttl" e)
  | .setMulticastLoop _, (_, e) => .error (.reported "set_multicast_loop" e)
  | .setMulticastInterface _, (_, e) => .error (.reported "set_multicast_interface" e)
  | .register _ _ _, (_, e) | .reregister _ _ _, (_, e) | .deregister _, (_, e) => .error e

/-- The error of a result that is one. -/
def error? : (operation : Operation) → operation.Result → Option NetError
  | .accept, .error error | .connect _, .error error | .localAddress, .error error
  | .peerAddress, .error error | .peerIp, .error error | .peerPort, .error error
  | .sendTo _ _, .error error | .sendBufferSize, .error error | .receiveBufferSize, .error error
  | .linger, .error error | .reuseAddress, .error error | .reusePort, .error error
  | .tcpNoDelay, .error error | .configureNonBlocking, .error error | .tryBind _, .error error
  | .listen _, .error error | .shutdown _, .error error | .setSendBufferSize _, .error error
  | .setReceiveBufferSize _, .error error | .setLinger _, .error error
  | .setReuseAddress _, .error error | .setReusePort _, .error error
  | .setTcpNoDelay _, .error error | .apply _, .error error | .setMulticastTtl _, .error error
  | .setMulticastLoop _, .error error | .setMulticastInterface _, .error error => some error
  | _, _ => none

/-- What an operation without an error in its result tells of a failed call. A bind that its guard
refuses tells of none, and neither does a receive or a probe that ends in a disconnect: it may have
met the end of the stream. -/
def Hints (s : Socket) : (operation : Operation) → operation.Result → Prop
  | .bind _, r | .bindIpv4 _ _, r => s.state = .created ∧ r = false
  | .joinMulticast _ _, r | .leaveMulticast _ _, r => r = false
  | .accept, r => r = .ok none
  | .connect _, r => r = .ok .inProgress
  | .send _, r => r = .retry ∨ r = .disconnected
  | .receive _, r | .peek _, r => r.1 = .retry
  | .register _ _ _, r | .reregister _ _ _, r | .deregister _, r => ∃ e, r = .error e
  | _, _ => False

/-- The results that blame a system call. -/
def Blames (s : Socket) (operation : Operation) (r : operation.Result) : Prop :=
  (∃ error, operation.error? r = some error ∧ error.BlamesCall) ∨ operation.Hints s r

/-- How an operation tells of failed calls: it met none and blames none, or it met one and tells of
that. -/
inductive Reported (s : Socket) (operation : Operation) (events : List Event)
    (r : operation.Result) : Prop
  | clean (h : operation.blamed events = []) (hr : ¬ operation.Blames s r)
  | failed (f : SystemCall × Errno) (h : operation.blamed events = [f]) (hr : r = operation.told f)

section Blames

variable {s : Socket} {operation : Operation} {r : operation.Result}

theorem not_blames (herror : ∀ error, operation.error? r = some error → ¬ error.BlamesCall)
    (hhint : ¬ operation.Hints s r) : ¬ operation.Blames s r := by
  rintro (⟨error, h, hcall⟩ | h)
  · exact herror error h hcall
  · exact hhint h

/-- A result without an error blames a call only by a hint. -/
theorem not_blames_of_none (herror : operation.error? r = none)
    (hhint : ¬ operation.Hints s r) : ¬ operation.Blames s r := by
  refine not_blames (fun error h => ?_) hhint
  rw [herror] at h
  cases h

/-- A refusal by a guard blames no call. -/
theorem not_blames_of_refused {op : String} {state : Lifecycle}
    (herror : operation.error? r = some (.invalidState op state))
    (hhint : ¬ operation.Hints s r) : ¬ operation.Blames s r := by
  refine not_blames (fun error h => ?_) hhint
  rw [herror] at h
  cases h
  exact id

/-- Where no failure is passed over, an operation tells of the only one that it meets. -/
theorem reported_of_failures {events : List Event} {quiet : Prop}
    (hnone : ∀ f, operation.passesOver f = false) (hquiet : quiet → ¬ operation.Blames s r)
    (h : (failures events = [] ∧ quiet) ∨ ∃ f, failures events = [f] ∧ r = operation.told f) :
    Reported s operation events r := by
  have hblamed : operation.blamed events = failures events := by simp [blamed, hnone]
  obtain ⟨hf, hr⟩ | ⟨f, hf, hr⟩ := h
  · exact .clean (hblamed.trans hf) (hquiet hr)
  · exact .failed f (hblamed.trans hf) hr

end Blames

section Told

variable {address : SocketAddress} {c : SystemCall} {e : Errno}

theorem told_accept_waiting (h : e.code = 11) : told .accept (c, e) = .ok none := if_pos h

theorem told_accept_failed (h : e.code ≠ 11) :
    told .accept (c, e) = .error (.reported "accept" e) := if_neg h

theorem told_connect_pending (h : e.code = 115) :
    told (.connect address) (c, e) = .ok .inProgress := if_pos h

theorem told_connect_failed (h : e.code ≠ 115) :
    told (.connect address) (c, e) = .error (.reported "connect" e) := if_neg h

end Told

/-- What is told of a failed call is the number under a name, or that there is no peer. -/
theorem error?_told (operation : Operation) (f : SystemCall × Errno) {error : NetError}
    (h : operation.error? (operation.told f) = some error) :
    (∃ op, error = .reported op f.2) ∨ error = .noPeer := by
  obtain ⟨c, e⟩ := f
  cases operation with
  | bind _ | bindIpv4 _ _ | isDead | joinMulticast _ _ | leaveMulticast _ _ | send _ | receive _
  | peek _ | register _ _ _ | reregister _ _ _ | deregister _ => cases h
  | peerAddress | peerIp | peerPort =>
    cases h
    exact .inr rfl
  | accept =>
    by_cases hcode : e.code = 11
    · rw [told_accept_waiting hcode] at h
      cases h
    · rw [told_accept_failed hcode] at h
      cases h
      exact .inl ⟨_, rfl⟩
  | connect address =>
    by_cases hcode : e.code = 115
    · rw [told_connect_pending hcode] at h
      cases h
    · rw [told_connect_failed hcode] at h
      cases h
      exact .inl ⟨_, rfl⟩
  | _ =>
    cases h
    exact .inl ⟨_, rfl⟩

/-- An operation's errors are lifted: what it met was passed on by `reported`, or not at all. -/
theorem Reported.lifted {s : Socket} {operation : Operation} {events : List Event}
    {r : operation.Result} (h : Reported s operation events r) {error : NetError}
    (herror : operation.error? r = some error) : error.Lifted := by
  cases h with
  | clean _ hr =>
    have hcall : ¬ error.BlamesCall := fun hcall => hr (.inl ⟨error, herror, hcall⟩)
    cases error with
    | os op cause => exact absurd trivial hcall
    | _ => exact nofun
  | failed f _ hr =>
    rw [hr] at herror
    obtain ⟨op, rfl⟩ | rfl := error?_told operation f herror
    · exact NetError.lifted_reported op f.2
    · exact nofun

end Operation

theorem Errno.eq_mk_iff (e : Errno) (code : Int32) : e = ⟨code⟩ ↔ e.code = code := by
  cases e
  simp

namespace Socket

open Program Operation

variable {s : Socket} {events : List Event}

/-! ## Every operation -/

theorem SwitchRun.failures {fd : Descriptor} {on : Bool} {r : Except Errno Unit}
    (h : SwitchRun fd on events r) :
    (failures events = [] ∧ r = .ok ()) ∨
      ∃ f, failures events = [f] ∧ r = .error f.2 ∧ f.1.stepName = some "set_nonblocking" := by
  cases h with
  | already | switched => exact .inl ⟨rfl, rfl⟩
  | unread e | unwritten _ _ e => exact .inr ⟨_, rfl, rfl, rfl⟩

theorem ConfigureRun.reported {r : Except NetError Unit × Socket} (h : ConfigureRun s events r) :
    Reported s .configureNonBlocking events r.1 := by
  cases h with
  | failed h =>
    obtain ⟨-, ⟨⟩⟩ | ⟨f, hf, ⟨⟩, -⟩ := h.failures
    exact reported_of_failures (fun _ => rfl) False.elim
      (.inr ⟨f, hf, NetError.error_ofErrno _ f.2⟩)
  | switched h =>
    obtain ⟨hf, -⟩ | ⟨_, _, ⟨⟩, -⟩ := h.failures
    exact reported_of_failures (fun _ => rfl) (fun _ => not_blames_of_none rfl id)
      (.inl ⟨hf, trivial⟩)

theorem TryBindRun.reported {address : SocketAddress} {r : Except NetError Unit × Socket}
    (h : TryBindRun s address events r) : Reported s (.tryBind address) events r.1 := by
  cases h with
  | stopped => exact .clean rfl (not_blames_of_refused rfl id)
  | failed _ e => exact .failed _ rfl (NetError.error_ofErrno _ e)
  | moved => exact .clean rfl (not_blames_of_none rfl id)

/-- Both ways to bind tell only whether it worked. -/
theorem BindRun.failures {address : SocketAddress} {r : Bool × Socket}
    (h : BindRun s address events r) :
    (failures events = [] ∧ ¬ (s.state = .created ∧ r.1 = false)) ∨
      ∃ f, failures events = [f] ∧ r.1 = false := by
  cases h with
  | refused h =>
    cases h with
    | stopped h => exact .inl ⟨rfl, fun hcreated => h hcreated.1⟩
    | failed _ e => exact .inr ⟨_, rfl, rfl⟩
  | moved h =>
    cases h with
    | moved => exact .inl ⟨rfl, by simp⟩

theorem ListenRun.reported {backlog : Int32} {r : Except NetError Unit × Socket}
    (h : ListenRun s backlog events r) : Reported s (.listen backlog) events r.1 := by
  cases h with
  | stopped => exact .clean rfl (not_blames_of_refused rfl id)
  | failed _ e => exact .failed _ rfl (NetError.error_ofErrno _ e)
  | moved => exact .clean rfl (not_blames_of_none rfl id)

theorem AcceptRun.reported {r : Except NetError (Option Socket)} (h : AcceptRun s events r) :
    Reported s .accept events r := by
  cases h with
  | stopped => exact .clean rfl (not_blames_of_refused rfl nofun)
  | none => exact .failed _ rfl rfl
  | failed _ e he =>
    have hcode : e.code ≠ 11 := fun h => he ((e.eq_mk_iff 11).mpr h)
    exact .failed _ rfl ((NetError.error_ofErrno _ e).trans (told_accept_failed hcode).symm)
  | accepted => exact .clean rfl (not_blames_of_none rfl nofun)

theorem ConnectRun.reported {address : SocketAddress} {r : Except NetError Connect × Socket}
    (h : ConnectRun s address events r) : Reported s (.connect address) events r.1 := by
  cases h with
  | stopped => exact .clean rfl (not_blames_of_refused rfl nofun)
  | failed _ e he =>
    have hcode : e.code ≠ 115 := fun h => he ((e.eq_mk_iff 115).mpr h)
    exact .failed _ rfl ((NetError.error_ofErrno _ e).trans (told_connect_failed hcode).symm)
  | established => exact .clean rfl (not_blames_of_none rfl nofun)
  | inProgress => exact .failed _ rfl rfl

theorem SendRun.reported {data : List UInt8} {r : Transfer} (h : SendRun s data events r) :
    Reported s (.send data) events r := by
  cases h with
  | sent => exact .clean rfl (not_blames_of_none rfl (by rintro (⟨⟨⟩⟩ | ⟨⟨⟩⟩)))
  | waiting => exact .failed _ rfl rfl
  | lost e he =>
    have hcode : e.code ≠ 11 := fun h => he ((e.eq_mk_iff 11).mpr h)
    exact .failed _ rfl (if_neg hcode).symm

/-- A read meets no failure and does not ask to be repeated, or it meets one. -/
theorem ReadRun.failures {op : String} {peek : Bool} {capacity : Nat}
    {r : Transfer × List UInt8} (h : ReadRun op peek s capacity events r) :
    (failures events = [] ∧ r.1 ≠ .retry) ∨
      ∃ f, failures events = [f] ∧ r = (if f.2.code = 11 then .retry else .disconnected, []) := by
  cases h with
  | skipped | ended | received => exact .inl ⟨rfl, nofun⟩
  | waiting => exact .inr ⟨_, rfl, rfl⟩
  | lost _ e he =>
    have hcode : e.code ≠ 11 := fun h => he ((e.eq_mk_iff 11).mpr h)
    exact .inr ⟨_, rfl, by rw [if_neg hcode]⟩

/-- A profile goes on after a failure that it passes over, and stops at any other. -/
theorem PlanRun.reported {p : OptionProfile} {plan : List SystemCall}
    {outcome : OptionProfile.Outcome} (h : PlanRun plan events outcome) :
    Reported s (.apply p) events outcome := by
  induction h with
  | finished => exact .clean rfl (not_blames_of_none rfl id)
  | set answer h ih =>
    cases ih with
    | clean hblamed hr => exact .clean hblamed hr
    | failed f hblamed hr => exact .failed f hblamed hr
  | @skipped c plan events outcome e he h ih =>
    have hskip : blamed (.apply p) (.called c (.error e) :: .logged .reusePortSkipped :: events) =
        blamed (.apply p) events := List.filter_cons_of_neg (by simp [passesOver, he])
    cases ih with
    | clean hblamed hr => exact .clean (hskip.trans hblamed) hr
    | failed f hblamed hr => exact .failed f (hskip.trans hblamed) hr
  | @failed c plan e he =>
    refine .failed (c, e) ?_ (NetError.error_ofErrno _ e)
    exact List.filter_cons_of_pos (by simp [passesOver, he])

/-- A lookup of the peer blames no call, or it meets a failure and tells that there is no peer. -/
def LooksUp {α : Type} (events : List Event) (r : Except NetError α) : Prop :=
  (failures events = [] ∧ ∀ error, r = .error error → ¬ error.BlamesCall) ∨
    ∃ f, failures events = [f] ∧ r = .error .noPeer

theorem peerAddress_looksUp (s : Socket) : s.peerAddress.Ensures LooksUp := by
  refine (peerAddress_runs s).mono fun events r h => ?_
  cases h with
  | found name _ => exact .inl ⟨rfl, nofun⟩
  | foreign name _ =>
    refine .inl ⟨rfl, fun error herror => ?_⟩
    cases herror
    exact id
  | none e => exact .inr ⟨_, rfl, rfl⟩

/-- The parts of a peer's address are looked up as the whole is. -/
theorem map_looksUp {α : Type} (s : Socket) (part : Endpoint → α) :
    (s.peerAddress.bind fun r => .done (r.map part)).Ensures LooksUp := by
  refine (ensures_bind _ _ _).mpr ((peerAddress_looksUp s).mono fun events r h => ?_)
  rw [ensures_done, List.append_nil]
  obtain ⟨hf, hr⟩ | ⟨f, hf, rfl⟩ := h
  · refine .inl ⟨hf, fun error herror => hr error ?_⟩
    cases r with
    | ok endpoint => cases herror
    | error e =>
      cases herror
      rfl
  · exact .inr ⟨f, hf, rfl⟩

theorem changeMembership_failures (s : Socket) (change : MembershipChange)
    (interface group : Ipv4) :
    (s.changeMembership change interface group).Ensures fun events r =>
      (failures events = [] ∧ ¬ r = false) ∨ ∃ f, failures events = [f] ∧ r = false := by
  rintro (e | ⟨⟩)
  · exact .inr ⟨_, rfl, rfl⟩
  · exact .inl ⟨rfl, nofun⟩

/-- A probe is a read of one byte, and tells only whether the connection is finished. -/
theorem isDead_failures (s : Socket) :
    s.isDead.Ensures fun events r =>
      (failures events = [] ∧ True) ∨ ∃ f, failures events = [f] ∧ r = (f.2.code != 11) := by
  refine (ensures_bind _ _ _).mpr ((read_runs "recv" false s 1).mono fun events result h => ?_)
  simp only [pure_eq, ensures_done, List.append_nil]
  obtain ⟨hf, -⟩ | ⟨f, hf, rfl⟩ := h.failures
  · exact .inl ⟨hf, trivial⟩
  · refine .inr ⟨f, hf, ?_⟩
    by_cases hcode : f.2.code = 11 <;> simp [hcode, Transfer.isDisconnected]

/-- **Every operation meets one failure at most, and tells of it.** -/
theorem perform_reported (s : Socket) (operation : Operation) :
    (s.perform operation).Ensures fun events r => Reported s operation events r.1 := by
  cases operation with
  | configureNonBlocking => exact (configureNonBlocking_runs s).mono fun _ _ h => h.reported
  | tryBind address => exact (tryBind_runs s address).mono fun _ _ h => h.reported
  | listen backlog => exact (listen_runs s backlog).mono fun _ _ h => h.reported
  | accept => exact keeping_runs ((accept_runs s).mono fun _ _ h => h.reported)
  | connect address => exact (connect_runs s address).mono fun _ _ h => h.reported
  | send data => exact keeping_runs ((send_runs s data).mono fun _ _ h => h.reported)
  | apply profile => exact keeping_runs ((apply_runs profile s).mono fun _ _ h => h.reported)
  | bind address | bindIpv4 ip port =>
    refine (bind_runs s _).mono fun events r h => ?_
    exact reported_of_failures (fun _ => rfl) (not_blames_of_none rfl) h.failures
  | receive capacity | peek capacity =>
    refine keeping_runs ((read_runs _ _ s capacity).mono fun events r h => ?_)
    exact reported_of_failures (fun _ => rfl) (not_blames_of_none rfl) h.failures
  | isDead =>
    refine keeping_runs ((isDead_failures s).mono fun events r h => ?_)
    exact reported_of_failures (fun _ => rfl) (fun _ => not_blames_of_none rfl id) h
  | joinMulticast interface group | leaveMulticast interface group =>
    refine keeping_runs ((changeMembership_failures s _ interface group).mono fun events r h => ?_)
    exact reported_of_failures (fun _ => rfl) (not_blames_of_none rfl) h
  | peerAddress =>
    refine keeping_runs ((peerAddress_looksUp s).mono fun events r h => ?_)
    refine reported_of_failures (fun _ => rfl) (fun hr => not_blames ?_ id) h
    rintro error herror
    cases r <;> cases herror
    exact hr _ rfl
  | peerIp | peerPort =>
    refine keeping_runs ((map_looksUp s _).mono fun events r h => ?_)
    refine reported_of_failures (fun _ => rfl) (fun hr => not_blames ?_ id) h
    rintro error herror
    cases r <;> cases herror
    exact hr _ rfl
  | register poller _ _ | reregister poller _ _ | deregister poller =>
    refine keeping_runs ((ensures_request _ _).mpr ?_)
    rintro (e | ⟨⟩)
    · exact .failed _ rfl rfl
    · exact .clean rfl (not_blames_of_none rfl nofun)
  | linger | reuseAddress | reusePort | tcpNoDelay =>
    refine keeping_runs
      ((ensures_bind _ _ _).mpr ((ensures_ask _ _ _).mpr ⟨fun _ => ?_, fun e => ?_⟩))
    · exact .clean rfl (not_blames_of_none rfl id)
    · exact .failed _ rfl (NetError.error_ofErrno _ e)
  | _ =>
    refine keeping_runs ((ensures_ask _ _ _).mpr ⟨fun _ => ?_, fun e => ?_⟩)
    · exact .clean rfl (not_blames_of_none rfl id)
    · exact .failed _ rfl (NetError.error_ofErrno _ e)

/-! ## Making and closing a handle -/

/-- How a constructor tells of failed calls: none failed and there is a handle, or one step failed
and is told under its name. The handle that is given up then may fail to close; that is not told. -/
inductive SetupReported (events : List Event) : Except NetError Socket → Prop
  | made (s : Socket) (h : failures events = []) : SetupReported events (.ok s)
  | failed (op : String) (e : Errno) (h : setupFailures events = [(op, e)]) :
    SetupReported events (.error (.reported op e))

theorem SwitchRun.setup_failed {fd : Descriptor} {e : Errno}
    (h : SwitchRun fd true events (.error e)) :
    setupFailures events = [("set_nonblocking", e)] := by
  obtain ⟨-, ⟨⟩⟩ | ⟨⟨c, _⟩, hf, ⟨⟩, hname⟩ := h.failures
  simp [setupFailures, hf, show c.stepName = _ from hname]

theorem SwitchRun.failures_of_ok {fd : Descriptor} (h : SwitchRun fd true events (.ok ())) :
    SocketLayer.failures events = [] := by
  obtain ⟨hf, -⟩ | ⟨_, _, ⟨⟩, -⟩ := h.failures
  exact hf

/-- Giving up a handle fails no setup step. -/
theorem DropRun.no_setup {fd : Descriptor} {entry : LogRecord} (h : DropRun fd events ()) :
    setupFailures (.logged entry :: events) = [] := by
  cases h <;> rfl

/-- Both constructors give up where their switch to non-blocking mode failed. -/
theorem reported_of_unswitched {transport : Transport} {fd : Descriptor} {entry : LogRecord}
    {e : Errno} {switch ending : List Event} (hs : SwitchRun fd true switch (.error e))
    (hd : DropRun fd ending ()) :
    SetupReported
      (.called (.socket transport true) (.ok fd) :: switch ++ .logged entry :: ending)
      (.error (.ofErrno "set_nonblocking" e)) := by
  rw [NetError.ofErrno_eq_reported]
  refine .failed _ e ?_
  show setupFailures (switch ++ .logged entry :: ending) = _
  rw [setupFailures_append, hs.setup_failed, hd.no_setup, List.append_nil]

/-- Both constructors make a handle where every step succeeded. -/
theorem reported_of_made {transport : Transport} {fd : Descriptor} {s : Socket}
    {switch rest : List Event} (hs : SwitchRun fd true switch (.ok ()))
    (hrest : failures rest = []) :
    SetupReported (.called (.socket transport true) (.ok fd) :: switch ++ rest) (.ok s) := by
  refine .made s ?_
  show failures (switch ++ rest) = _
  rw [failures_append, hs.failures_of_ok, hrest, List.append_nil]

theorem TcpRun.reported {blocking : Bool} {r : Except NetError Socket}
    (h : TcpRun blocking events r) : SetupReported events r := by
  cases h with
  | refused _ e =>
    rw [NetError.ofErrno_eq_reported]
    exact .failed _ e rfl
  | blocking fd => exact .made _ rfl
  | unswitched fd e hs hd => exact reported_of_unswitched hs hd
  | @unshared fd e switch ending hs hd =>
    have hswitch := setupFailures_of_none hs.failures_of_ok
    rw [NetError.ofErrno_eq_reported]
    refine .failed _ e ?_
    show setupFailures (switch ++ ([.called (.setWord fd .reuseAddress 1) (.error e)] ++
      .logged _ :: ending)) = _
    rw [setupFailures_append, setupFailures_append, hswitch, hd.no_setup]
    rfl
  | made fd hs => exact reported_of_made hs rfl

theorem UdpRun.reported {r : Except NetError Socket} (h : UdpRun events r) :
    SetupReported events r := by
  cases h with
  | refused e =>
    rw [NetError.ofErrno_eq_reported]
    exact .failed _ e rfl
  | unswitched fd e hs hd => exact reported_of_unswitched hs hd
  | made fd hs => exact reported_of_made hs rfl

/-- How closing a handle tells of a failed call. -/
inductive CloseReported (events : List Event) : Except NetError Unit → Prop
  | closed (h : failures events = []) : CloseReported events (.ok ())
  | failed (f : SystemCall × Errno) (h : failures events = [f]) :
    CloseReported events (.error (.reported "close" f.2))

theorem CloseRun.reported {fd : Descriptor} {r : Except NetError Unit}
    (h : CloseRun fd events r) : CloseReported events r := by
  cases h with
  | closed => exact .closed rfl
  | failed e =>
    rw [NetError.ofErrno_eq_reported]
    exact .failed (.close fd, e) rfl

/-- A profile tells of a failed setter what the setter tells. -/
theorem told_by_setter {p : OptionProfile} {c : SystemCall}
    (h : c ∈ p.plan s.descriptor s.transport) :
    ∃ setter : Operation, (∀ q, setter ≠ .apply q) ∧ setter.Issues s c ∧ ∀ e,
      setter.error? (setter.told (c, e)) = error? (.apply p) (told (.apply p) (c, e)) := by
  have hwants := OptionProfile.wants_of_mem_plan h
  generalize s.transport = transport at hwants
  cases hwants with
  | receiveBuffer => exact ⟨.setReceiveBufferSize _, (fun _ h => by cases h), rfl, fun _ => rfl⟩
  | sendBuffer => exact ⟨.setSendBufferSize _, (fun _ h => by cases h), rfl, fun _ => rfl⟩
  | reuseAddress => exact ⟨.setReuseAddress _, (fun _ h => by cases h), rfl, fun _ => rfl⟩
  | reusePort => exact ⟨.setReusePort true, (fun _ h => by cases h), rfl, fun _ => rfl⟩
  | linger => exact ⟨.setLinger _, (fun _ h => by cases h), rfl, fun _ => rfl⟩
  | tcpNoDelay => exact ⟨.setTcpNoDelay _, (fun _ h => by cases h), rfl, fun _ => rfl⟩
  | multicastTtl => exact ⟨.setMulticastTtl _, (fun _ h => by cases h), rfl, fun _ => rfl⟩
  | multicastLoop => exact ⟨.setMulticastLoop _, (fun _ h => by cases h), rfl, fun _ => rfl⟩

/-! ## All failures -/

theorem SetupReported.lifted {error : NetError} (h : SetupReported events (.error error)) :
    error.Lifted := by
  cases h with
  | failed op e => exact NetError.lifted_reported op e

theorem CloseReported.lifted {error : NetError} (h : CloseReported events (.error error)) :
    error.Lifted := by
  cases h with
  | failed f => exact NetError.lifted_reported "close" f.2

/-- Every failed call is told under the right name, and nothing else is.

* `performed` — an operation on a handle meets one failure at most and tells of it; without one it
  blames no call.
* `setters` — the error of a profile is that of the setter that failed.
* `made_tcp`, `made_udp`, `closed` — the same for making and closing a handle.
* `lifted`, `lifted_tcp`, `lifted_udp`, `lifted_closed` — no error has a cause that says "not
  supported".
* `accept` — no accept fails for a queue that is empty.
* `connect` — no connect fails for a connection that is under way. -/
structure FailuresReported {σ : Type} (k : Kernel σ) (state : σ) : Prop where
  performed : ∀ (s : Socket) (operation : Operation),
    let run := (s.perform operation).run k state
    Reported s operation run.events run.result.1
  setters : ∀ (p : OptionProfile) (s : Socket), ∀ c ∈ p.plan s.descriptor s.transport,
    ∃ setter : Operation, (∀ q, setter ≠ .apply q) ∧ setter.Issues s c ∧ ∀ e,
      setter.error? (setter.told (c, e)) = error? (.apply p) (told (.apply p) (c, e))
  made_tcp : ∀ blocking,
    let run := (tcp blocking).run k state
    SetupReported run.events run.result
  made_udp :
    let run := udp.run k state
    SetupReported run.events run.result
  closed : ∀ s : Socket,
    let run := s.close.run k state
    CloseReported run.events run.result
  lifted : ∀ (s : Socket) (operation : Operation) (error : NetError),
    operation.error? ((s.perform operation).run k state).result.1 = some error → error.Lifted
  lifted_tcp : ∀ blocking error, ((tcp blocking).run k state).result = .error error → error.Lifted
  lifted_udp : ∀ error, (udp.run k state).result = .error error → error.Lifted
  lifted_closed : ∀ (s : Socket) (error : NetError),
    (s.close.run k state).result = .error error → error.Lifted
  accept : ∀ (s : Socket) (error : NetError), (s.accept.run k state).result = .error error →
    ∀ cause ∈ error.cause?, cause.kind ≠ .wouldBlock
  connect : ∀ (s : Socket) (address : SocketAddress) (error : NetError),
    ((s.connect address).run k state).result.1 = .error error →
      error.cause? ≠ some (.errno .inProgress)

/-- **Every failed call is told under the right name, and nothing else is**: any operation, any
handle, any replies. -/
theorem os_failures_reported {σ : Type} (k : Kernel σ) (state : σ) : FailuresReported k state := by
  have hperformed (s : Socket) (operation : Operation) :=
    (perform_reported s operation).run k state
  have htcp (blocking : Bool) := ((tcp_runs blocking).run k state).reported
  have hudp := (udp_runs.run k state).reported
  have hclose (s : Socket) := ((close_runs s).run k state).reported
  refine ⟨hperformed, fun p s c h => told_by_setter h, htcp, hudp, hclose,
    fun s operation error h => (hperformed s operation).lifted h,
    fun blocking error h => (h ▸ htcp blocking).lifted, fun error h => (h ▸ hudp).lifted,
    fun s error h => (h ▸ hclose s).lifted, ?accept, ?connect⟩
  case accept =>
    intro s error herror
    have hrun := (accept_runs s).run k state
    rw [herror] at hrun
    generalize (s.accept.run k state).events = events at hrun
    cases hrun with
    | stopped => exact nofun
    | failed _ e he =>
      rw [NetError.ofErrno_eq_reported]
      rintro cause hcause hkind
      obtain rfl := NetError.cause_reported hcause
      exact he ((Errno.kind_eq_wouldBlock_iff e).mp hkind)
  case connect =>
    intro s address error herror hcause
    have hrun := (connect_runs s address).run k state
    generalize (s.connect address).run k state = run at hrun herror
    obtain ⟨⟨r, t⟩, state', events⟩ := run
    cases herror
    cases hrun with
    | stopped => cases hcause
    | failed _ e he =>
      rw [NetError.ofErrno_eq_reported] at hcause
      cases NetError.cause_reported hcause
      exact he rfl

end Socket
end SocketLayer
