import SocketLayer.Proofs.Ensures
import SocketLayer.Socket.Operation

/-!
# How an operation can go

For every operation a relation lists all its runs, whatever the kernel replies: the events in order,
the result, and the handle afterwards. A proof about an operation is a case split on its relation;
no definition of an operation is opened outside this file.

* `SwitchRun`, `ConfigureRun` — changing the blocking mode.
* `CloseRun`, `DropRun` — the ends of a handle.
* `TcpRun`, `UdpRun` — the constructors, with every failure of a setup step; `SystemCall.IsSetup` —
  the calls that make, set up and end handles.
* `TryBindRun`, `BindRun`, `ListenRun`, `AcceptRun`, `ConnectRun` — the lifecycle.
* `PeerRun` — looking up the peer.
* `SendRun`, `SendToRun`, `ReadRun` — the transfer of bytes.
* `PlanRun` — a profile's options, set in order up to the first failure.
* `Operation.Issues` — the calls that an operation may make; `perform_issues`: it makes no other.
* `PerformRun` — any operation; those outside the lifecycle make only plain calls on the
  handle's own descriptor and leave the handle as it was (`perform_runs`).
-/

set_option autoImplicit false

namespace SocketLayer

/-- The options that a profile may set. -/
inductive OptionName where
  | word (name : WordOption)
  | linger
  deriving DecidableEq, Repr

namespace SystemCall

/-- The socket that a call is made on. A poller is not one: it belongs to an event loop. -/
def subject? : SystemCall → Option Descriptor
  | .socket .. | .createPoller => none
  | .close fd | .getFlags fd | .setFlags fd _ | .bind fd _ | .listen fd _ | .accept fd _ _
  | .connect fd _ | .shutdown fd _ | .send fd _ _ | .sendTo fd _ _ _ | .receive fd _ _
  | .localName fd | .peerName fd | .setWord fd _ _ | .getWord fd _ | .setLinger fd _
  | .getLinger fd | .setMulticastInterface fd _ | .changeMembership fd _ _ _
  | .watch _ fd _ _ | .rewatch _ fd _ _ | .unwatch _ fd => some fd

/-- The event loop's poller that a call names. -/
def poller? : SystemCall → Option Descriptor
  | .watch poller _ _ _ | .rewatch poller _ _ _ | .unwatch poller _ => some poller
  | _ => none

/-- Whether a call leaves the table of descriptors, the blocking mode and the lifecycle alone. -/
def isPlain : SystemCall → Bool
  | .socket .. | .close _ | .getFlags _ | .setFlags .. | .bind .. | .listen .. | .accept ..
  | .connect .. | .createPoller => false
  | _ => true

/-- The name under which the setter that makes a call reports its failure. -/
def setterName : SystemCall → String
  | .setWord _ .sendBuffer _ => "set_send_buffer_size"
  | .setWord _ .receiveBuffer _ => "set_recv_buffer_size"
  | .setWord _ .reuseAddress _ => "set_reuse_address"
  | .setWord _ .reusePort _ => "set_reuse_port"
  | .setWord _ .tcpNoDelay _ => "set_tcp_nodelay"
  | .setWord _ .multicastTtl _ => "set_multicast_ttl"
  | .setWord _ .multicastLoop _ => "set_multicast_loop"
  | .setLinger .. => "set_linger"
  | _ => ""

/-- The option that a call sets. -/
def option? : SystemCall → Option OptionName
  | .setWord _ name _ => some (.word name)
  | .setLinger .. => some .linger
  | _ => none

/-- The calls that make, set up and end handles. -/
def IsSetup : SystemCall → Prop
  | .socket _ closeOnExec => closeOnExec = true
  | .setWord _ name value => name = .reuseAddress ∧ value = 1
  | .close _ | .getFlags _ | .setFlags .. => True
  | _ => False

/-- An error that a profile passes over: the kernel cannot share ports. -/
def Tolerates (c : SystemCall) (e : Errno) : Prop :=
  c.option? = some (.word .reusePort) ∧ (e = .notImplemented ∨ e = .notSupported)

instance (c : SystemCall) : DecidablePred c.Tolerates := fun e =>
  inferInstanceAs (Decidable (c.option? = some (.word .reusePort) ∧
    (e = .notImplemented ∨ e = .notSupported)))

/-- A plain call on a descriptor; a poller that it names is the given one. -/
structure PlainOn (fd : Descriptor) (poller : Option Descriptor) (c : SystemCall) : Prop where
  plain : c.isPlain = true
  subject : c.subject? = some fd
  poller : ∀ p, c.poller? = some p → poller = some p

end SystemCall

namespace OptionProfile

/-- A profile wants a call: it has a value for the option, and the option fits the transport. -/
inductive Wants (p : OptionProfile) (fd : Descriptor) : Transport → SystemCall → Prop
  | receiveBuffer {transport : Transport} {size : Nat} (h : p.receiveBuffer = some size) :
    Wants p fd transport (.setWord fd .receiveBuffer (sizeWord size))
  | sendBuffer {transport : Transport} {size : Nat} (h : p.sendBuffer = some size) :
    Wants p fd transport (.setWord fd .sendBuffer (sizeWord size))
  | reuseAddress {transport : Transport} {on : Bool} (h : p.reuseAddress = some on) :
    Wants p fd transport (.setWord fd .reuseAddress (flagWord on))
  | reusePort {transport : Transport} (h : p.reusePort = true) :
    Wants p fd transport (.setWord fd .reusePort 1)
  | linger {transport : Transport} {time : Option Duration} (h : p.linger = some time) :
    Wants p fd transport (.setLinger fd (.ofDuration? time))
  | tcpNoDelay {on : Bool} (h : p.tcpNoDelay = some on) :
    Wants p fd .tcp (.setWord fd .tcpNoDelay (flagWord on))
  | multicastTtl {ttl : UInt8} (h : p.multicastTtl = some ttl) :
    Wants p fd .udp (.setWord fd .multicastTtl (.ofNat ttl.toNat))
  | multicastLoop {on : Bool} (h : p.multicastLoop = some on) :
    Wants p fd .udp (.setWord fd .multicastLoop (flagWord on))

theorem wants_of_mem_plan {p : OptionProfile} {fd : Descriptor} {transport : Transport}
    {c : SystemCall} (h : c ∈ p.plan fd transport) : p.Wants fd transport c := by
  cases transport <;>
    simp only [plan, List.mem_append, Option.mem_toList, Option.map_eq_some_iff,
      Function.comp_apply, List.mem_ite_nil_right, List.mem_singleton] at h
  case tcp =>
    rcases h with ((((⟨_, h, rfl⟩ | ⟨_, h, rfl⟩) | ⟨_, h, rfl⟩) | ⟨h, rfl⟩) | ⟨_, h, rfl⟩) |
      ⟨_, h, rfl⟩
    · exact .receiveBuffer h
    · exact .sendBuffer h
    · exact .reuseAddress h
    · exact .reusePort h
    · exact .linger h
    · exact .tcpNoDelay h
  case udp =>
    rcases h with ((((⟨_, h, rfl⟩ | ⟨_, h, rfl⟩) | ⟨_, h, rfl⟩) | ⟨h, rfl⟩) | ⟨_, h, rfl⟩) |
      ⟨_, h, rfl⟩ | ⟨_, h, rfl⟩
    · exact .receiveBuffer h
    · exact .sendBuffer h
    · exact .reuseAddress h
    · exact .reusePort h
    · exact .linger h
    · exact .multicastTtl h
    · exact .multicastLoop h

end OptionProfile

namespace Operation

/-- The poller that the caller passes. -/
def poller? : Operation → Option Descriptor
  | .register poller _ _ | .reregister poller _ _ | .deregister poller => some poller
  | _ => none

/-- Whether an operation leaves the handle as it is: all but the lifecycle and the blocking mode. -/
def isPlain : Operation → Bool
  | .configureNonBlocking | .bind _ | .bindIpv4 _ _ | .tryBind _ | .listen _ | .accept
  | .connect _ => false
  | _ => true

/-- The calls that an operation may make on a handle. Which of them it makes depends on the position
of the handle and on the replies. -/
def Issues (s : Socket) : Operation → SystemCall → Prop
  | .configureNonBlocking, c =>
    c = .getFlags s.descriptor ∨ ∃ flags, c = .setFlags s.descriptor flags
  | .bind address, c | .tryBind address, c => c = .bind s.descriptor address
  | .bindIpv4 ip port, c => c = .bind s.descriptor (.ofEndpoint ⟨ip, port⟩)
  | .listen backlog, c => c = .listen s.descriptor backlog
  | .accept, c => c = .accept s.descriptor s.nonBlocking true
  | .connect address, c => c = .connect s.descriptor address
  | .shutdown direction, c => c = .shutdown s.descriptor direction
  | .localAddress, c => c = .localName s.descriptor
  | .peerAddress, c | .peerIp, c | .peerPort, c => c = .peerName s.descriptor
  | .send data, c => c = .send s.descriptor data true
  | .sendTo data address, c => c = .sendTo s.descriptor data true address
  | .receive capacity, c => capacity ≠ 0 ∧ c = .receive s.descriptor capacity false
  | .peek capacity, c => capacity ≠ 0 ∧ c = .receive s.descriptor capacity true
  | .isDead, c => c = .receive s.descriptor 1 false
  | .setSendBufferSize size, c => c = .setWord s.descriptor .sendBuffer (sizeWord size)
  | .sendBufferSize, c => c = .getWord s.descriptor .sendBuffer
  | .setReceiveBufferSize size, c => c = .setWord s.descriptor .receiveBuffer (sizeWord size)
  | .receiveBufferSize, c => c = .getWord s.descriptor .receiveBuffer
  | .setLinger time, c => c = .setLinger s.descriptor (.ofDuration? time)
  | .linger, c => c = .getLinger s.descriptor
  | .setReuseAddress on, c => c = .setWord s.descriptor .reuseAddress (flagWord on)
  | .reuseAddress, c => c = .getWord s.descriptor .reuseAddress
  | .setReusePort on, c => c = .setWord s.descriptor .reusePort (flagWord on)
  | .reusePort, c => c = .getWord s.descriptor .reusePort
  | .setTcpNoDelay on, c => c = .setWord s.descriptor .tcpNoDelay (flagWord on)
  | .tcpNoDelay, c => c = .getWord s.descriptor .tcpNoDelay
  | .apply profile, c => c ∈ profile.plan s.descriptor s.transport
  | .joinMulticast interface group, c =>
    c = .changeMembership s.descriptor .join group.octets interface.octets
  | .leaveMulticast interface group, c =>
    c = .changeMembership s.descriptor .leave group.octets interface.octets
  | .setMulticastTtl ttl, c => c = .setWord s.descriptor .multicastTtl (.ofNat ttl.toNat)
  | .setMulticastLoop on, c => c = .setWord s.descriptor .multicastLoop (flagWord on)
  | .setMulticastInterface interface, c =>
    c = .setMulticastInterface s.descriptor interface.octets
  | .register poller token interest, c => c = .watch poller s.descriptor token interest
  | .reregister poller token interest, c => c = .rewatch poller s.descriptor token interest
  | .deregister poller, c => c = .unwatch poller s.descriptor

/-- The handles that a result hands out. -/
def accepted : (operation : Operation) → operation.Result → List Socket
  | .accept, .ok (some s) => [s]
  | _, _ => []

/-- A plan sets options of the handle's own descriptor. -/
theorem plainOn_of_mem_plan {profile : OptionProfile} {fd : Descriptor} {transport : Transport}
    {c : SystemCall} (h : c ∈ profile.plan fd transport) : c.PlainOn fd none := by
  cases OptionProfile.wants_of_mem_plan h with
  | _ => exact ⟨rfl, rfl, nofun⟩

/-- What a plain operation asks of the kernel are plain calls on the handle's descriptor. -/
theorem Issues.plainOn {s : Socket} {operation : Operation} (hop : operation.isPlain = true)
    {c : SystemCall} (h : operation.Issues s c) : c.PlainOn s.descriptor operation.poller? := by
  cases operation with
  | configureNonBlocking | bind _ | bindIpv4 _ _ | tryBind _ | listen _ | accept | connect _ =>
    cases hop
  | receive capacity | peek capacity =>
    obtain ⟨-, rfl⟩ := h
    exact ⟨rfl, rfl, nofun⟩
  | register poller token interest | reregister poller token interest | deregister poller =>
    cases h
    exact ⟨rfl, rfl, fun _ hp => hp⟩
  | apply profile => exact plainOn_of_mem_plan h
  | _ =>
    cases h
    exact ⟨rfl, rfl, nofun⟩

/-- The calls of an operation are made on the handle's own descriptor. -/
theorem Issues.subject {s : Socket} {operation : Operation} {c : SystemCall}
    (h : operation.Issues s c) : c.subject? = some s.descriptor := by
  cases hop : operation.isPlain with
  | true => exact (h.plainOn hop).subject
  | false =>
    cases operation with
    | configureNonBlocking => rcases h with rfl | ⟨flags, rfl⟩ <;> rfl
    | bind _ | bindIpv4 _ _ | tryBind _ | listen _ | accept | connect _ =>
      cases h
      rfl
    | _ => cases hop

theorem accepted_of_isPlain {operation : Operation} (h : operation.isPlain = true)
    (result : operation.Result) : operation.accepted result = [] := by
  cases operation with
  | accept => cases h
  | _ => rfl

end Operation

namespace Socket

open Program

/-! ## Asking the kernel -/

@[simp] theorem ensures_ask (op : String) (c : SystemCall)
    (post : List Event → Except NetError c.Answer → Prop) :
    (ask op c).Ensures post ↔
      (∀ answer, post [.called c (.ok answer)] (.ok answer)) ∧
        ∀ e, post [.called c (.error e)] (.error (.ofErrno op e)) := by
  simp only [ask, bind_eq, ensures_bind, ensures_request]
  constructor
  · intro h
    exact ⟨fun answer => h (.ok answer), fun e => h (.error e)⟩
  · rintro ⟨hok, herr⟩ (e | answer)
    · exact herr e
    · exact hok answer

/-- Asking makes one call and tells its reply. -/
theorem ask_runs (op : String) (c : SystemCall) :
    (ask op c).Ensures fun events r => ∃ reply : Reply c,
      events = [.called c reply] ∧ r = reply.mapError (.ofErrno op) := by
  refine (ensures_ask _ _ _).mpr ⟨fun answer => ?_, fun e => ?_⟩
  · exact ⟨.ok answer, rfl, rfl⟩
  · exact ⟨.error e, rfl, rfl⟩

/-- The run of asking, on any kernel. -/
theorem run_ask {σ : Type} (k : Kernel σ) (op : String) (c : SystemCall) (state : σ) :
    (ask op c).run k state =
      ⟨(k.answer state c).1.mapError (.ofErrno op), (k.answer state c).2,
        [.called c (k.answer state c).1]⟩ := by
  cases h : (k.answer state c).1 with
  | error e =>
    simp only [ask, request, bind_eq, call_bind, done_bind, pure_eq, run, h]
    rfl
  | ok answer =>
    simp only [ask, request, bind_eq, call_bind, done_bind, pure_eq, run, h]
    rfl

/-! ## The blocking mode -/

/-- Turning the non-blocking bit of a descriptor on or off. -/
inductive SwitchRun (fd : Descriptor) (on : Bool) : List Event → Except Errno Unit → Prop
  | unread (e : Errno) : SwitchRun fd on [.called (.getFlags fd) (.error e)] (.error e)
  | already (flags : StatusFlags) (h : flags.withNonBlocking on = flags) :
    SwitchRun fd on [.called (.getFlags fd) (.ok flags)] (.ok ())
  | unwritten (flags : StatusFlags) (h : flags.withNonBlocking on ≠ flags) (e : Errno) :
    SwitchRun fd on
      [.called (.getFlags fd) (.ok flags),
        .called (.setFlags fd (flags.withNonBlocking on)) (.error e)]
      (.error e)
  | switched (flags : StatusFlags) (h : flags.withNonBlocking on ≠ flags) :
    SwitchRun fd on
      [.called (.getFlags fd) (.ok flags),
        .called (.setFlags fd (flags.withNonBlocking on)) (.ok ())]
      (.ok ())

theorem setNonBlocking_runs (fd : Descriptor) (on : Bool) :
    (fd.setNonBlocking on).Ensures (SwitchRun fd on) := by
  rintro (e | (flags : StatusFlags))
  · exact .unread e
  · by_cases h : flags.withNonBlocking on = flags
    · simp only [done_bind, h]
      exact SwitchRun.already flags h
    · simp only [done_bind, h]
      rintro (e | ⟨⟩)
      · exact SwitchRun.unwritten flags h e
      · exact SwitchRun.switched flags h

/-- Switching a handle to non-blocking mode. -/
inductive ConfigureRun (s : Socket) : List Event → Except NetError Unit × Socket → Prop
  | failed {events : List Event} {e : Errno} (h : SwitchRun s.descriptor true events (.error e)) :
    ConfigureRun s events (.error (.ofErrno "set_nonblocking" e), s)
  | switched {events : List Event} (h : SwitchRun s.descriptor true events (.ok ())) :
    ConfigureRun s events (.ok (), { s with nonBlocking := true })

theorem configureNonBlocking_runs (s : Socket) :
    s.configureNonBlocking.Ensures (ConfigureRun s) := by
  simp only [configureNonBlocking, bind_eq, ensures_bind]
  refine (setNonBlocking_runs s.descriptor true).mono fun events reply h => ?_
  rcases reply with e | ⟨⟩
  · simpa using ConfigureRun.failed h
  · simpa using ConfigureRun.switched h

theorem SwitchRun.issues {s : Socket} {on : Bool} {events : List Event} {r : Except Errno Unit}
    (h : SwitchRun s.descriptor on events r) :
    AllCalls (Operation.configureNonBlocking.Issues s) events := by
  cases h with
  | unread | already => exact allCalls_call (.inl rfl) allCalls_nil
  | unwritten | switched =>
    exact allCalls_call (.inl rfl) (allCalls_call (.inr ⟨_, rfl⟩) allCalls_nil)

theorem ConfigureRun.issues {s : Socket} {events : List Event} {r : Except NetError Unit × Socket}
    (h : ConfigureRun s events r) :
    AllCalls (Operation.configureNonBlocking.Issues s) events := by
  cases h with
  | failed h => exact h.issues
  | switched h => exact h.issues

/-! ## The ends of a handle -/

/-- Dropping a handle: a failed close is only logged. -/
inductive DropRun (fd : Descriptor) : List Event → Unit → Prop
  | closed : DropRun fd [.called (.close fd) (.ok ())] ()
  | failed (e : Errno) :
    DropRun fd [.called (.close fd) (.error e), .logged (.closeFailed fd (.errno e))] ()

theorem drop_runs (s : Socket) : s.drop.Ensures (DropRun s.descriptor) := by
  rintro (e | ⟨⟩)
  · exact .failed e
  · exact .closed

/-- Closing a handle: the kernel's reply is reported. -/
inductive CloseRun (fd : Descriptor) : List Event → Except NetError Unit → Prop
  | closed : CloseRun fd [.logged (.closing fd), .called (.close fd) (.ok ())] (.ok ())
  | failed (e : Errno) :
    CloseRun fd [.logged (.closing fd), .called (.close fd) (.error e)]
      (.error (.ofErrno "close" e))

theorem close_runs (s : Socket) : s.close.Ensures (CloseRun s.descriptor) := by
  rintro (e | ⟨⟩)
  · exact .failed e
  · exact .closed

/-- Giving up a handle whose setup failed. -/
inductive AbandonRun (s : Socket) (error : NetError) :
    List Event → Except NetError Socket → Prop
  | intro {events : List Event} (h : DropRun s.descriptor events ()) :
    AbandonRun s error (.logged (.setupFailed s.descriptor error) :: events) (.error error)

theorem abandon_runs (s : Socket) (error : NetError) :
    (s.abandon error).Ensures (AbandonRun s error) := by
  simp only [abandon, bind_eq, ensures_bind, ensures_note]
  refine (drop_runs s).mono fun events _ h => ?_
  simpa using AbandonRun.intro h

/-! ## The constructors -/

/-- Making a descriptor and the handle that owns it. -/
inductive CreateRun (transport : Transport) : List Event → Except NetError Socket → Prop
  | refused (e : Errno) :
    CreateRun transport [.called (.socket transport true) (.error e)]
      (.error (.ofErrno "socket" e))
  | made (fd : Descriptor) :
    CreateRun transport [.called (.socket transport true) (.ok fd)]
      (.ok ⟨fd, transport, .created, false⟩)

theorem create_runs (transport : Transport) :
    (create transport).Ensures (CreateRun transport) := by
  rintro (e | (fd : Descriptor))
  · exact .refused e
  · exact .made fd

/-- Making a TCP handle. -/
inductive TcpRun : (blocking : Bool) → List Event → Except NetError Socket → Prop
  | refused (blocking : Bool) (e : Errno) :
    TcpRun blocking [.called (.socket .tcp true) (.error e)] (.error (.ofErrno "socket" e))
  | blocking (fd : Descriptor) :
    TcpRun true [.called (.socket .tcp true) (.ok fd), .logged (.createdTcp fd true)]
      (.ok ⟨fd, .tcp, .created, false⟩)
  | unswitched (fd : Descriptor) (e : Errno) {switch ending : List Event}
    (hs : SwitchRun fd true switch (.error e)) (hd : DropRun fd ending ()) :
    TcpRun false
      (.called (.socket .tcp true) (.ok fd) :: switch ++
        .logged (.setupFailed fd (.ofErrno "set_nonblocking" e)) :: ending)
      (.error (.ofErrno "set_nonblocking" e))
  | unshared (fd : Descriptor) (e : Errno) {switch ending : List Event}
    (hs : SwitchRun fd true switch (.ok ())) (hd : DropRun fd ending ()) :
    TcpRun false
      (.called (.socket .tcp true) (.ok fd) :: switch ++
        .called (.setWord fd .reuseAddress 1) (.error e) ::
        .logged (.setupFailed fd (.ofErrno "set_reuse_addr" e)) :: ending)
      (.error (.ofErrno "set_reuse_addr" e))
  | made (fd : Descriptor) {switch : List Event} (hs : SwitchRun fd true switch (.ok ())) :
    TcpRun false
      (.called (.socket .tcp true) (.ok fd) :: switch ++
        [.called (.setWord fd .reuseAddress 1) (.ok ()), .logged (.createdTcp fd false)])
      (.ok ⟨fd, .tcp, .created, true⟩)

theorem tcp_runs (blocking : Bool) : (tcp blocking).Ensures (TcpRun blocking) := by
  refine (ensures_bind _ _ _).mpr ((create_runs .tcp).mono fun events r h => ?_)
  cases h with
  | refused e => exact .refused blocking e
  | made fd =>
    cases blocking with
    | true => exact .blocking fd
    | false =>
      refine (ensures_bind _ _ _).mpr ((configureNonBlocking_runs _).mono fun switch r h => ?_)
      cases h with
      | failed hs =>
        refine (abandon_runs _ _).mono fun ending r h => ?_
        cases h with
        | intro hd => exact .unswitched fd _ hs hd
      | switched hs =>
        rintro (e | ⟨⟩)
        · refine (abandon_runs _ _).mono fun ending r h => ?_
          cases h with
          | intro hd => exact .unshared fd e hs hd
        · exact .made fd hs

/-- Making a UDP handle. -/
inductive UdpRun : List Event → Except NetError Socket → Prop
  | refused (e : Errno) :
    UdpRun [.called (.socket .udp true) (.error e)] (.error (.ofErrno "socket" e))
  | unswitched (fd : Descriptor) (e : Errno) {switch ending : List Event}
    (hs : SwitchRun fd true switch (.error e)) (hd : DropRun fd ending ()) :
    UdpRun
      (.called (.socket .udp true) (.ok fd) :: switch ++
        .logged (.setupFailed fd (.ofErrno "set_nonblocking" e)) :: ending)
      (.error (.ofErrno "set_nonblocking" e))
  | made (fd : Descriptor) {switch : List Event} (hs : SwitchRun fd true switch (.ok ())) :
    UdpRun
      (.called (.socket .udp true) (.ok fd) :: switch ++ [.logged (.createdUdp fd)])
      (.ok ⟨fd, .udp, .created, true⟩)

theorem udp_runs : udp.Ensures UdpRun := by
  refine (ensures_bind _ _ _).mpr ((create_runs .udp).mono fun events r h => ?_)
  cases h with
  | refused e => exact .refused e
  | made fd =>
    refine (ensures_bind _ _ _).mpr ((configureNonBlocking_runs _).mono fun switch r h => ?_)
    cases h with
    | failed hs =>
      refine (abandon_runs _ _).mono fun ending r h => ?_
      cases h with
      | intro hd => exact .unswitched fd _ hs hd
    | switched hs => exact .made fd hs

/-! ## The calls of making and ending a handle -/

section Setup

variable {events : List Event}

theorem SwitchRun.setup {fd : Descriptor} {on : Bool} {r : Except Errno Unit}
    (h : SwitchRun fd on events r) : AllCalls SystemCall.IsSetup events := by
  cases h with
  | unread | already => exact allCalls_call trivial allCalls_nil
  | unwritten | switched => exact allCalls_call trivial (allCalls_call trivial allCalls_nil)

theorem DropRun.setup {fd : Descriptor} {r : Unit} (h : DropRun fd events r) :
    AllCalls SystemCall.IsSetup events := by
  cases h with
  | closed => exact allCalls_call trivial allCalls_nil
  | failed e => exact allCalls_call trivial (allCalls_log allCalls_nil)

theorem CloseRun.setup {fd : Descriptor} {r : Except NetError Unit} (h : CloseRun fd events r) :
    AllCalls SystemCall.IsSetup events := by
  cases h with
  | closed | failed => exact allCalls_log (allCalls_call trivial allCalls_nil)

theorem TcpRun.setup {blocking : Bool} {r : Except NetError Socket}
    (h : TcpRun blocking events r) : AllCalls SystemCall.IsSetup events := by
  cases h with
  | refused => exact allCalls_call rfl allCalls_nil
  | blocking => exact allCalls_call rfl (allCalls_log allCalls_nil)
  | unswitched fd e hs hd =>
    exact allCalls_call rfl (allCalls_append hs.setup (allCalls_log hd.setup))
  | unshared fd e hs hd =>
    refine allCalls_call rfl (allCalls_append hs.setup ?_)
    exact allCalls_call ⟨rfl, rfl⟩ (allCalls_log hd.setup)
  | made fd hs =>
    refine allCalls_call rfl (allCalls_append hs.setup ?_)
    exact allCalls_call ⟨rfl, rfl⟩ (allCalls_log allCalls_nil)

theorem UdpRun.setup {r : Except NetError Socket} (h : UdpRun events r) :
    AllCalls SystemCall.IsSetup events := by
  cases h with
  | refused => exact allCalls_call rfl allCalls_nil
  | unswitched fd e hs hd =>
    exact allCalls_call rfl (allCalls_append hs.setup (allCalls_log hd.setup))
  | made fd hs =>
    exact allCalls_call rfl (allCalls_append hs.setup (allCalls_log allCalls_nil))

end Setup

/-! ## The lifecycle -/

/-- Binding, with the kernel's error reported. -/
inductive TryBindRun (s : Socket) (address : SocketAddress) :
    List Event → Except NetError Unit × Socket → Prop
  | stopped (h : s.state ≠ .created) :
    TryBindRun s address [] (.error (.invalidState "bind" s.state), s)
  | failed (h : s.state = .created) (e : Errno) :
    TryBindRun s address [.called (.bind s.descriptor address) (.error e)]
      (.error (.ofErrno "bind" e), s)
  | moved (h : s.state = .created) :
    TryBindRun s address
      [.called (.bind s.descriptor address) (.ok ()), .logged (.moved s.descriptor s.state .bound)]
      (.ok (), { s with state := .bound })

theorem tryBind_runs (s : Socket) (address : SocketAddress) :
    (s.tryBind address).Ensures (TryBindRun s address) := by
  by_cases h : s.state = .created
  · rw [tryBind, if_neg fun hn => hn h]
    rintro (e | ⟨⟩)
    · exact .failed h e
    · exact .moved h
  · rw [tryBind, if_pos h]
    exact .stopped h

theorem TryBindRun.issues {s : Socket} {address : SocketAddress} {events : List Event}
    {r : Except NetError Unit × Socket} (h : TryBindRun s address events r) :
    AllCalls (· = .bind s.descriptor address) events := by
  cases h with
  | stopped => exact allCalls_nil
  | failed => exact allCalls_call rfl allCalls_nil
  | moved => exact allCalls_call rfl (allCalls_log allCalls_nil)

/-- Binding, with the error only logged. -/
inductive BindRun (s : Socket) (address : SocketAddress) : List Event → Bool × Socket → Prop
  | refused {events : List Event} {error : NetError} {t : Socket}
    (h : TryBindRun s address events (.error error, t)) :
    BindRun s address (events ++ [.logged (.bindFailed address.endpoint t.descriptor error)])
      (false, t)
  | moved {events : List Event} {t : Socket} (h : TryBindRun s address events (.ok (), t)) :
    BindRun s address events (true, t)

theorem bind_runs (s : Socket) (address : SocketAddress) :
    (s.bind address).Ensures (BindRun s address) := by
  simp only [Socket.bind, bind_eq, ensures_bind]
  refine (tryBind_runs s address).mono fun events r h => ?_
  rcases r with ⟨e | ⟨⟩, t⟩
  · exact .refused h
  · simpa using BindRun.moved h

theorem BindRun.issues {s : Socket} {address : SocketAddress} {events : List Event}
    {r : Bool × Socket} (h : BindRun s address events r) :
    AllCalls (· = .bind s.descriptor address) events := by
  cases h with
  | refused h => exact allCalls_append h.issues (allCalls_log allCalls_nil)
  | moved h => exact h.issues

/-- Listening. -/
inductive ListenRun (s : Socket) (backlog : Int32) :
    List Event → Except NetError Unit × Socket → Prop
  | stopped (h : s.mayListen = false) :
    ListenRun s backlog [] (.error (.invalidState "listen" s.state), s)
  | failed (h : s.mayListen = true) (e : Errno) :
    ListenRun s backlog [.called (.listen s.descriptor backlog) (.error e)]
      (.error (.ofErrno "listen" e), s)
  | moved (h : s.mayListen = true) :
    ListenRun s backlog
      [.called (.listen s.descriptor backlog) (.ok ()),
        .logged (.moved s.descriptor s.state .listening)]
      (.ok (), { s with state := .listening })

theorem listen_runs (s : Socket) (backlog : Int32) :
    (s.listen backlog).Ensures (ListenRun s backlog) := by
  cases h : s.mayListen with
  | false =>
    simp only [listen, h, Bool.not_false, if_true]
    exact .stopped h
  | true =>
    simp only [listen, h, Bool.not_true, Bool.false_eq_true, if_false, bind_eq, ensures_bind,
      ensures_ask]
    exact ⟨fun _ => .moved h, fun e => .failed h e⟩

theorem ListenRun.issues {s : Socket} {backlog : Int32} {events : List Event}
    {r : Except NetError Unit × Socket} (h : ListenRun s backlog events r) :
    AllCalls (· = .listen s.descriptor backlog) events := by
  cases h with
  | stopped => exact allCalls_nil
  | failed => exact allCalls_call rfl allCalls_nil
  | moved => exact allCalls_call rfl (allCalls_log allCalls_nil)

/-- Accepting a connection. -/
inductive AcceptRun (s : Socket) : List Event → Except NetError (Option Socket) → Prop
  | stopped (h : s.state ≠ .listening) :
    AcceptRun s [] (.error (.invalidState "accept" s.state))
  | none (h : s.state = .listening) :
    AcceptRun s
      [.called (.accept s.descriptor s.nonBlocking true) (.error .wouldBlock)] (.ok .none)
  | failed (h : s.state = .listening) (e : Errno) (he : e ≠ .wouldBlock) :
    AcceptRun s [.called (.accept s.descriptor s.nonBlocking true) (.error e)]
      (.error (.ofErrno "accept" e))
  | accepted (h : s.state = .listening) (fd : Descriptor) :
    AcceptRun s
      [.called (.accept s.descriptor s.nonBlocking true) (.ok fd),
        .logged (.accepted s.descriptor fd)]
      (.ok (some ⟨fd, .tcp, .connected, s.nonBlocking⟩))

theorem accept_runs (s : Socket) : s.accept.Ensures (AcceptRun s) := by
  by_cases h : s.state = .listening
  · simp only [accept, h, ne_eq, not_true_eq_false, if_false, bind_eq, ensures_bind,
      ensures_request]
    rintro (e | fd)
    · simp only [Errno.kind_eq_wouldBlock_iff, ensures_ite]
      split
      · rename_i he
        subst he
        exact .none h
      · rename_i he
        exact .failed h e he
    · exact .accepted h fd
  · simp only [accept, ne_eq, h, not_false_eq_true, if_true]
    exact .stopped h

theorem AcceptRun.issues {s : Socket} {events : List Event}
    {r : Except NetError (Option Socket)} (h : AcceptRun s events r) :
    AllCalls (· = .accept s.descriptor s.nonBlocking true) events := by
  cases h with
  | stopped => exact allCalls_nil
  | none | failed => exact allCalls_call rfl allCalls_nil
  | accepted => exact allCalls_call rfl (allCalls_log allCalls_nil)

/-- Connecting. -/
inductive ConnectRun (s : Socket) (address : SocketAddress) :
    List Event → Except NetError Connect × Socket → Prop
  | stopped (h : s.state = .listening) :
    ConnectRun s address [] (.error (.invalidState "connect" s.state), s)
  | failed (h : s.state ≠ .listening) (e : Errno) (he : e ≠ .inProgress) :
    ConnectRun s address [.called (.connect s.descriptor address) (.error e)]
      (.error (.ofErrno "connect" e), s)
  | established (h : s.state ≠ .listening) :
    ConnectRun s address
      [.called (.connect s.descriptor address) (.ok ()),
        .logged (.moved s.descriptor s.state .connected)]
      (.ok .established, { s with state := .connected })
  | inProgress (h : s.state ≠ .listening) :
    ConnectRun s address
      [.called (.connect s.descriptor address) (.error .inProgress),
        .logged (.moved s.descriptor s.state .connected)]
      (.ok .inProgress, { s with state := .connected })

theorem connect_runs (s : Socket) (address : SocketAddress) :
    (s.connect address).Ensures (ConnectRun s address) := by
  by_cases h : s.state = .listening
  · rw [connect, if_pos h]
    exact .stopped h
  · simp only [connect, h, if_false, bind_eq, ensures_bind, ensures_request]
    rintro (e | ⟨⟩)
    · by_cases he : e = .inProgress
      · subst he
        exact .inProgress h
      · have hp : e.isInProgress = false := by simpa [Errno.isInProgress] using he
        simp only [hp, Bool.false_eq_true, if_false]
        exact .failed h e he
    · exact .established h

theorem ConnectRun.issues {s : Socket} {address : SocketAddress} {events : List Event}
    {r : Except NetError Connect × Socket} (h : ConnectRun s address events r) :
    AllCalls (· = .connect s.descriptor address) events := by
  cases h with
  | stopped => exact allCalls_nil
  | failed => exact allCalls_call rfl allCalls_nil
  | established | inProgress => exact allCalls_call rfl (allCalls_log allCalls_nil)

/-! ## Names -/

/-- Looking up the peer. Only an IPv4 name is told. -/
inductive PeerRun (s : Socket) : List Event → Except NetError Endpoint → Prop
  | found (name : SocketAddress) (h : name.family = .inet) :
    PeerRun s [.called (.peerName s.descriptor) (.ok name)] (.ok name.endpoint)
  | foreign (name : SocketAddress) (h : name.family ≠ .inet) :
    PeerRun s [.called (.peerName s.descriptor) (.ok name)]
      (.error (.unsupportedFamily (.ofNat name.family.toNat)))
  | none (e : Errno) :
    PeerRun s [.called (.peerName s.descriptor) (.error e),
      .logged (.peerLookupFailed s.descriptor (.errno e))] (.error .noPeer)

theorem peerAddress_runs (s : Socket) : s.peerAddress.Ensures (PeerRun s) := by
  rintro (e | (name : SocketAddress))
  · exact .none e
  · simp only [done_bind, pure_eq, ensures_ite]
    split
    · exact .found name ‹_›
    · exact .foreign name ‹_›

/-! ## Data -/

theorem ensures_failedTransfer (op : String) (fd : Descriptor) (e : Errno)
    (post : List Event → Transfer → Prop) :
    (failedTransfer op fd e).Ensures post ↔
      if e = .wouldBlock then post [] .retry
      else post [.logged (.disconnected op fd (.errno e))] .disconnected := by
  simp only [failedTransfer, Errno.kind_eq_wouldBlock_iff]
  split <;> rfl

/-- Sending. -/
inductive SendRun (s : Socket) (data : List UInt8) : List Event → Transfer → Prop
  | sent (count : Nat) :
    SendRun s data [.called (.send s.descriptor data true) (.ok count)] (.transferred count)
  | waiting :
    SendRun s data [.called (.send s.descriptor data true) (.error .wouldBlock)] .retry
  | lost (e : Errno) (he : e ≠ .wouldBlock) :
    SendRun s data
      [.called (.send s.descriptor data true) (.error e),
        .logged (.disconnected "send" s.descriptor (.errno e))]
      .disconnected

theorem send_runs (s : Socket) (data : List UInt8) : (s.send data).Ensures (SendRun s data) := by
  rintro (e | (count : Nat))
  · refine (ensures_failedTransfer _ _ e _).mpr ?_
    split
    · rename_i he
      subst he
      exact .waiting
    · rename_i he
      exact .lost e he
  · exact .sent count

/-- Sending a datagram to an address. -/
inductive SendToRun (s : Socket) (data : List UInt8) (address : SocketAddress) :
    List Event → Except NetError Nat → Prop
  | sent (count : Nat) :
    SendToRun s data address [.called (.sendTo s.descriptor data true address) (.ok count)]
      (.ok count)
  | failed (e : Errno) :
    SendToRun s data address [.called (.sendTo s.descriptor data true address) (.error e)]
      (.error (.ofErrno "send_to" e))

theorem sendTo_runs (s : Socket) (data : List UInt8) (address : SocketAddress) :
    (s.sendTo data address).Ensures (SendToRun s data address) :=
  (ensures_ask _ _ _).mpr ⟨.sent, .failed⟩

/-- Reading, with or without taking the bytes out of the queue. -/
inductive ReadRun (op : String) (peek : Bool) (s : Socket) (capacity : Nat) :
    List Event → Transfer × List UInt8 → Prop
  | skipped (h : capacity = 0) : ReadRun op peek s capacity [] (.transferred 0, [])
  | ended (h : capacity ≠ 0) :
    ReadRun op peek s capacity
      [.called (.receive s.descriptor capacity peek) (.ok []),
        .logged (.peerClosed op s.descriptor)]
      (.disconnected, [])
  | received (h : capacity ≠ 0) (first : UInt8) (rest : List UInt8) :
    ReadRun op peek s capacity
      [.called (.receive s.descriptor capacity peek) (.ok (first :: rest))]
      (.transferred (rest.length + 1), first :: rest)
  | waiting (h : capacity ≠ 0) :
    ReadRun op peek s capacity
      [.called (.receive s.descriptor capacity peek) (.error .wouldBlock)] (.retry, [])
  | lost (h : capacity ≠ 0) (e : Errno) (he : e ≠ .wouldBlock) :
    ReadRun op peek s capacity
      [.called (.receive s.descriptor capacity peek) (.error e),
        .logged (.disconnected op s.descriptor (.errno e))]
      (.disconnected, [])

theorem read_runs (op : String) (peek : Bool) (s : Socket) (capacity : Nat) :
    (s.read op peek capacity).Ensures (ReadRun op peek s capacity) := by
  by_cases h : capacity = 0
  · rw [read, if_pos h]
    exact .skipped h
  · rw [read, if_neg h]
    rintro (e | _ | ⟨first, rest⟩)
    · show ((failedTransfer op s.descriptor e).bind fun outcome => .done (outcome, [])).Ensures _
      refine (ensures_bind _ _ _).mpr ((ensures_failedTransfer _ _ e _).mpr ?_)
      split
      · rename_i he
        subst he
        exact .waiting h
      · rename_i he
        exact .lost h e he
    · exact .ended h
    · exact .received h first rest

/-! ## The calls of an operation -/

section Calls

variable {s : Socket} {allowed : SystemCall → Prop}

theorem ask_makes (op : String) {c : SystemCall} (h : allowed c) : (ask op c).Makes allowed := by
  refine makes_bind (makes_request h) fun reply => ?_
  cases reply <;> trivial

theorem ask_map_makes {β : Type} (op : String) {c : SystemCall} (f : c.Answer → β)
    (h : allowed c) : ((ask op c).bind fun r => .done (r.map f)).Makes allowed :=
  makes_bind (ask_makes op h) fun _ => trivial

theorem failedTransfer_makes (op : String) (fd : Descriptor) (e : Errno) :
    (failedTransfer op fd e).Makes allowed := by
  unfold failedTransfer
  split <;> trivial

theorem send_makes (data : List UInt8) (h : allowed (.send s.descriptor data true)) :
    (s.send data).Makes allowed := by
  refine makes_bind (makes_request h) fun reply => ?_
  cases reply with
  | ok count => trivial
  | error e => exact failedTransfer_makes _ _ e

/-- Reading into an empty buffer makes no call. -/
theorem read_makes (op : String) (peek : Bool) (capacity : Nat)
    (h : capacity ≠ 0 → allowed (.receive s.descriptor capacity peek)) :
    (s.read op peek capacity).Makes allowed := by
  unfold read
  split
  · trivial
  · rename_i hcapacity
    refine makes_bind (makes_request (h hcapacity)) fun reply => ?_
    rcases reply with e | _ | ⟨b, data⟩
    · exact makes_bind (failedTransfer_makes _ _ e) fun _ => trivial
    · trivial
    · trivial

theorem peerAddress_makes (h : allowed (.peerName s.descriptor)) :
    s.peerAddress.Makes allowed := by
  refine makes_bind (makes_request h) fun reply => ?_
  cases reply with
  | ok address =>
    dsimp only
    split <;> trivial
  | error e => trivial

theorem changeMembership_makes (change : MembershipChange) (interface group : Ipv4)
    (h : allowed (.changeMembership s.descriptor change group.octets interface.octets)) :
    (s.changeMembership change interface group).Makes allowed := by
  refine makes_bind (makes_request h) fun reply => ?_
  cases reply <;> trivial

end Calls

/-! ## Option profiles -/

/-- Setting options in order up to the first failure, which is reported under the setter's name. A
kernel that cannot share ports has not failed: that is noted in the log. -/
inductive PlanRun : List SystemCall → List Event → OptionProfile.Outcome → Prop
  | finished : PlanRun [] [] (.ok ())
  | set {c : SystemCall} {plan : List SystemCall} {events : List Event}
    {outcome : OptionProfile.Outcome} (answer : c.Answer) (h : PlanRun plan events outcome) :
    PlanRun (c :: plan) (.called c (.ok answer) :: events) outcome
  | skipped {c : SystemCall} {plan : List SystemCall} {events : List Event}
    {outcome : OptionProfile.Outcome} (e : Errno) (he : c.Tolerates e)
    (h : PlanRun plan events outcome) :
    PlanRun (c :: plan) (.called c (.error e) :: .logged .reusePortSkipped :: events) outcome
  | failed {c : SystemCall} {plan : List SystemCall} (e : Errno) (he : ¬ c.Tolerates e) :
    PlanRun (c :: plan) [.called c (.error e)] (.error (.ofErrno c.setterName e))

section Profile

open OptionProfile

variable {first second : List SystemCall} {events more : List Event} {outcome : Outcome}

theorem PlanRun.append (h : PlanRun first events (.ok ())) (h' : PlanRun second more outcome) :
    PlanRun (first ++ second) (events ++ more) outcome := by
  generalize hok : (Except.ok () : Outcome) = ok at h
  induction h with
  | finished => exact h'
  | set answer h ih => exact .set answer (ih hok)
  | skipped e he h ih => exact .skipped e he (ih hok)
  | failed e he => cases hok

theorem PlanRun.stop {error : NetError} (h : PlanRun first events (.error error)) :
    PlanRun (first ++ second) events (.error error) := by
  generalize hstop : (Except.error error : Outcome) = stop at h
  induction h with
  | finished => cases hstop
  | set answer h ih => exact .set answer (ih hstop)
  | skipped e he h ih => exact .skipped e he (ih hstop)
  | failed e he =>
    cases hstop
    exact .failed e he

/-- The calls of a run are steps of its plan. -/
theorem PlanRun.calls_mem (h : PlanRun first events outcome) : AllCalls (· ∈ first) events := by
  induction h with
  | finished => exact allCalls_nil
  | set answer h ih =>
    refine allCalls_call List.mem_cons_self fun e he c hc => ?_
    exact List.mem_cons_of_mem _ (ih e he c hc)
  | skipped e he h ih =>
    refine allCalls_call List.mem_cons_self (allCalls_log fun e he c hc => ?_)
    exact List.mem_cons_of_mem _ (ih e he c hc)
  | failed e he => exact allCalls_call List.mem_cons_self allCalls_nil

theorem andThen_runs {setter next : Program Outcome} (h : setter.Ensures (PlanRun first))
    (h' : next.Ensures (PlanRun second)) :
    (andThen setter next).Ensures (PlanRun (first ++ second)) := by
  refine (ensures_bind _ _ _).mpr (h.mono fun events outcome hrun => ?_)
  rcases outcome with error | ⟨⟩
  · simpa using hrun.stop
  · exact h'.mono fun more outcome hmore => hrun.append hmore

theorem whenSome_runs {α : Type} {value : Option α} {set : α → Program Outcome}
    {call : α → SystemCall} (h : ∀ a, (set a).Ensures (PlanRun [call a])) :
    (whenSome value set).Ensures (PlanRun (value.map call).toList) := by
  cases value with
  | none => exact .finished
  | some a => exact h a

theorem setWord_runs (fd : Descriptor) (name : WordOption) (value : Int32)
    (hname : name ≠ .reusePort) :
    (ask (SystemCall.setWord fd name value).setterName (.setWord fd name value)).Ensures
      (PlanRun [.setWord fd name value]) := by
  refine (ensures_ask _ _ _).mpr ⟨fun answer => .set answer .finished, fun e => .failed e ?_⟩
  rintro ⟨hoption, -⟩
  cases hoption
  exact hname rfl

theorem setLinger_runs (fd : Descriptor) (value : LingerWords) :
    (ask (SystemCall.setLinger fd value).setterName (.setLinger fd value)).Ensures
      (PlanRun [.setLinger fd value]) :=
  (ensures_ask _ _ _).mpr ⟨fun answer => .set answer .finished, fun e => .failed e nofun⟩

theorem sharePort_runs (s : Socket) :
    (sharePort s).Ensures (PlanRun [.setWord s.descriptor .reusePort 1]) := by
  refine (ensures_bind _ _ _).mpr ((ensures_ask _ _ _).mpr ⟨fun answer => ?_, fun e => ?_⟩)
  · exact .set answer .finished
  by_cases he : e.kind = .unsupported
  · have herror : NetError.ofErrno "set_reuse_port" e = .unsupported "set_reuse_port" := if_pos he
    rw [herror]
    exact .skipped e ⟨rfl, (Errno.kind_eq_unsupported_iff e).mp he⟩ .finished
  · have hfailed : PlanRun [.setWord s.descriptor .reusePort 1]
        [.called (.setWord s.descriptor .reusePort 1) (.error e)]
        (.error (.ofErrno "set_reuse_port" e)) :=
      .failed e fun htolerated => he ((Errno.kind_eq_unsupported_iff e).mpr htolerated.2)
    have herror : NetError.ofErrno "set_reuse_port" e = .os "set_reuse_port" (.errno e) := if_neg he
    rw [herror] at hfailed ⊢
    exact hfailed

/-- **Applying a profile runs through its plan**, whatever the kernel replies. -/
theorem apply_runs (profile : OptionProfile) (s : Socket) :
    (profile.apply s).Ensures (PlanRun (profile.plan s.descriptor s.transport)) := by
  refine andThen_runs ?common ?specific
  case common =>
    simp only [List.append_assoc]
    refine andThen_runs (whenSome_runs fun _ => setWord_runs _ _ _ nofun) ?_
    refine andThen_runs (whenSome_runs fun _ => setWord_runs _ _ _ nofun) ?_
    refine andThen_runs (whenSome_runs fun _ => setWord_runs _ _ _ nofun) ?_
    refine andThen_runs ?_ (whenSome_runs fun _ => setLinger_runs _ _)
    split
    · exact sharePort_runs s
    · exact .finished
  case specific =>
    unfold applySpecific
    split
    · exact whenSome_runs fun _ => setWord_runs _ _ _ nofun
    · exact andThen_runs (whenSome_runs fun _ => setWord_runs _ _ _ nofun)
        (whenSome_runs fun _ => setWord_runs _ _ _ nofun)

end Profile

/-! ## Any operation -/

/-- How any operation can go: its events, its result, and the handle afterwards. -/
inductive PerformRun (s : Socket) :
    (operation : Operation) → List Event → operation.Result × Socket → Prop
  | configure {events : List Event} {r : Except NetError Unit × Socket}
    (h : ConfigureRun s events r) : PerformRun s .configureNonBlocking events r
  | tryBind {address : SocketAddress} {events : List Event} {r : Except NetError Unit × Socket}
    (h : TryBindRun s address events r) : PerformRun s (.tryBind address) events r
  | bind {address : SocketAddress} {events : List Event} {r : Bool × Socket}
    (h : BindRun s address events r) : PerformRun s (.bind address) events r
  | bindIpv4 {ip : Ipv4} {port : UInt16} {events : List Event} {r : Bool × Socket}
    (h : BindRun s (.ofEndpoint ⟨ip, port⟩) events r) : PerformRun s (.bindIpv4 ip port) events r
  | listen {backlog : Int32} {events : List Event} {r : Except NetError Unit × Socket}
    (h : ListenRun s backlog events r) : PerformRun s (.listen backlog) events r
  | accept {events : List Event} {r : Except NetError (Option Socket)} (h : AcceptRun s events r) :
    PerformRun s .accept events (r, s)
  | connect {address : SocketAddress} {events : List Event}
    {r : Except NetError Connect × Socket} (h : ConnectRun s address events r) :
    PerformRun s (.connect address) events r
  | plain {operation : Operation} (hop : operation.isPlain = true) {events : List Event}
    {result : operation.Result}
    (h : AllCalls (·.PlainOn s.descriptor operation.poller?) events) :
    PerformRun s operation events (result, s)

theorem keeping_runs {α : Type} {s : Socket} {program : Program α} {post : List Event → α → Prop}
    (h : program.Ensures post) :
    (s.keeping program).Ensures fun events r => post events r.1 := by
  refine (ensures_bind _ _ _).mpr (h.mono fun events result hpost => ?_)
  simpa using hpost

/-- The run of a plain operation: calls that the operation issues, and a handle left as it was. -/
theorem perform_plain (s : Socket) {operation : Operation} (hop : operation.isPlain = true) :
    ∃ program, s.perform operation = s.keeping program ∧
      program.Ensures fun events _ => AllCalls (operation.Issues s) events := by
  cases operation with
  | configureNonBlocking | bind _ | bindIpv4 _ _ | tryBind _ | listen _ | accept | connect _ =>
    cases hop
  | shutdown _ | localAddress | sendTo _ _ | setSendBufferSize _ | sendBufferSize
  | setReceiveBufferSize _ | receiveBufferSize | setLinger _ | setReuseAddress _ | setReusePort _
  | setTcpNoDelay _ | setMulticastTtl _ | setMulticastLoop _ | setMulticastInterface _ =>
    exact ⟨_, rfl, Makes.ensures (ask_makes _ rfl)⟩
  | linger | reuseAddress | reusePort | tcpNoDelay =>
    exact ⟨_, rfl, Makes.ensures (ask_map_makes _ _ rfl)⟩
  | peerAddress => exact ⟨_, rfl, Makes.ensures (peerAddress_makes rfl)⟩
  | peerIp | peerPort =>
    exact ⟨_, rfl, Makes.ensures (makes_bind (peerAddress_makes rfl) fun _ => trivial)⟩
  | send data => exact ⟨_, rfl, Makes.ensures (send_makes data rfl)⟩
  | receive capacity | peek capacity =>
    exact ⟨_, rfl, Makes.ensures (read_makes _ _ capacity fun h => ⟨h, rfl⟩)⟩
  | isDead =>
    exact ⟨_, rfl, Makes.ensures (makes_bind (read_makes _ _ 1 fun _ => rfl) fun _ => trivial)⟩
  | apply profile => exact ⟨_, rfl, (apply_runs profile s).mono fun _ _ h => h.calls_mem⟩
  | joinMulticast interface group | leaveMulticast interface group =>
    exact ⟨_, rfl, Makes.ensures (changeMembership_makes _ interface group rfl)⟩
  | register poller _ _ | reregister poller _ _ | deregister poller =>
    exact ⟨_, rfl, Makes.ensures (makes_request rfl)⟩

/-- **Every run of every operation is listed in `PerformRun`.** -/
theorem perform_runs (s : Socket) (operation : Operation) :
    (s.perform operation).Ensures (PerformRun s operation) := by
  cases hop : operation.isPlain with
  | true =>
    obtain ⟨program, hp, hissues⟩ := perform_plain s hop
    rw [hp]
    refine (ensures_bind _ _ _).mpr (hissues.mono fun events result hall => ?_)
    simpa using PerformRun.plain hop fun e he c hc => (hall e he c hc).plainOn hop
  | false =>
    cases operation with
    | configureNonBlocking => exact (configureNonBlocking_runs s).mono fun _ _ => .configure
    | bind address => exact (bind_runs s address).mono fun _ _ => .bind
    | bindIpv4 ip port => exact (bind_runs s _).mono fun _ _ => .bindIpv4
    | tryBind address => exact (tryBind_runs s address).mono fun _ _ => .tryBind
    | listen backlog => exact (listen_runs s backlog).mono fun _ _ => .listen
    | accept =>
      refine (ensures_bind _ _ _).mpr ((accept_runs s).mono fun events r h => ?_)
      simpa using PerformRun.accept h
    | connect address => exact (connect_runs s address).mono fun _ _ => .connect
    | _ => cases hop

/-- Asking for the local address makes one call and tells its reply. -/
theorem perform_localAddress_runs (s : Socket) :
    (s.perform .localAddress).Ensures fun events r => ∃ reply : Reply (.localName s.descriptor),
      events = [.called (.localName s.descriptor) reply] ∧
        r.1 = reply.mapError (.ofErrno "local_addr") :=
  keeping_runs (ask_runs "local_addr" (.localName s.descriptor))

/-- **An operation makes no call but those that it issues.** -/
theorem perform_issues (s : Socket) (operation : Operation) :
    (s.perform operation).Ensures fun events _ => AllCalls (operation.Issues s) events := by
  cases hop : operation.isPlain with
  | true =>
    obtain ⟨program, hp, hissues⟩ := perform_plain s hop
    rw [hp]
    exact keeping_runs hissues
  | false =>
    refine (perform_runs s operation).mono fun events r h => ?_
    cases h with
    | configure h => exact h.issues
    | tryBind h => exact h.issues
    | bind h => exact h.issues
    | bindIpv4 h => exact h.issues
    | listen h => exact h.issues
    | accept h => exact h.issues
    | connect h => exact h.issues
    | plain hplain h =>
      rw [hplain] at hop
      cases hop

/-- A handle that an operation hands out has just been accepted, in the mode of its listener. -/
theorem PerformRun.accepted_cases {s new : Socket} {operation : Operation} {events : List Event}
    {r : operation.Result × Socket} (h : PerformRun s operation events r)
    (hnew : new ∈ operation.accepted r.1) :
    ∃ fd, events = [.called (.accept s.descriptor s.nonBlocking true) (.ok fd),
        .logged (.accepted s.descriptor fd)] ∧
      new = ⟨fd, .tcp, .connected, s.nonBlocking⟩ := by
  cases h with
  | accept h =>
    cases h with
    | stopped | none | failed => cases hnew
    | accepted _ fd => exact ⟨fd, rfl, List.mem_singleton.mp hnew⟩
  | plain hop h =>
    rw [Operation.accepted_of_isPlain hop] at hnew
    cases hnew
  | _ => cases hnew

end Socket
end SocketLayer
