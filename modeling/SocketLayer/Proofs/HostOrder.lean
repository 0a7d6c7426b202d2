import SocketLayer.Proofs.ByteOrder
import SocketLayer.Proofs.CallDiscipline
import SocketLayer.Proofs.DescriptorState
import SocketLayer.Proofs.Independence

/-!
# Addresses between callers and the kernel

Callers give and get addresses in host order; the kernel takes and leaves them in network order. On
the way nothing is changed and nothing exchanged: the kernel is handed what the caller gave, and an
address that it hands back as it was given is told to the caller as the caller gave it.

* `namesGiven` — a kernel that tells the addresses that a socket was bound and connected to.
* `Operation.Issues.address` — the address in a call is the one in the operation.
* `LiveSocket.BoundTo`, `LiveSocket.ConnectedTo` — the last address of a handle, by its history.
* `World.HandsOver`, `World.HandsBack` — what the kernel and what callers are told of addresses.
* `World.host_order_throughout` — this in every lawful run, with the records of a machine of either
  byte order and the equality of addresses.
-/

set_option autoImplicit false

namespace SocketLayer

/-! ## The kernel's names -/

namespace Event

/-- The address that an event bound its socket to. -/
def boundTo? : Event → Option SocketAddress
  | .called (.bind _ address) (.ok _) => some address
  | _ => none

/-- What an event makes of the peer: after a connect that succeeds it is known, and while one is
pending it is not. -/
def peer? : Event → Option (Option SocketAddress)
  | .called (.connect _ address) (.ok _) => some (some address)
  | .called (.connect _ _) (.error e) => if e = .inProgress then some none else none
  | _ => none

/-- The reply to a call that asks for the local address. -/
def localReply? : Event → Option (Except Errno SocketAddress)
  | .called (.localName _) reply => some reply
  | _ => none

/-- The reply to a call that asks for the peer. -/
def peerReply? : Event → Option (Except Errno SocketAddress)
  | .called (.peerName _) reply => some reply
  | _ => none

end Event

namespace SocketAddress

/-- Two addresses have the same port and octets in memory. The family and the padding may differ. -/
def SameBytes (a b : SocketAddress) : Prop := a.portBytes = b.portBytes ∧ a.address = b.address

instance : DecidableRel SameBytes := fun a b =>
  inferInstanceAs (Decidable (a.portBytes = b.portBytes ∧ a.address = b.address))

theorem SameBytes.endpoint_eq {a b : SocketAddress} (h : a.SameBytes b) :
    a.endpoint = b.endpoint := by
  obtain ⟨hport, haddress⟩ := h
  rw [endpoint, endpoint, ip, ip, haddress, port_eq_load, port_eq_load, hport]

/-- Addresses are equal if and only if they have the same address and the same port. -/
theorem beq_iff (a b : SocketAddress) : (a == b) = true ↔ a.ip = b.ip ∧ a.port = b.port := by
  rw [beq_iff_endpoint_eq, endpoint, endpoint, Endpoint.mk.injEq]

/-- A reply tells an address. -/
def ToldBy (address : SocketAddress) : Except Errno SocketAddress → Prop
  | .ok name => name.SameBytes address
  | .error _ => False

/-- A reply tells an address as that of an IPv4 peer. -/
def ToldAsPeer (address : SocketAddress) : Except Errno SocketAddress → Prop
  | .ok name => name.family = .inet ∧ name.SameBytes address
  | .error _ => False

instance (address : SocketAddress) : DecidablePred address.ToldBy
  | .ok name => inferInstanceAs (Decidable (name.SameBytes address))
  | .error _ => .isFalse id

instance (address : SocketAddress) : DecidablePred address.ToldAsPeer
  | .ok name => inferInstanceAs (Decidable (name.family = .inet ∧ name.SameBytes address))
  | .error _ => .isFalse id

end SocketAddress

/-- The addresses that a socket was last bound and connected to. -/
structure Names where
  bound : Option SocketAddress
  peer : Option SocketAddress
  deriving DecidableEq, Repr

/-- The replies that the names allow. Of a port that was left to the kernel nothing is known. -/
def Names.Fits (x : Names) (e : Event) : Prop :=
  (∀ reply ∈ e.localReply?, ∀ address ∈ x.bound, address.port ≠ 0 → address.ToldBy reply) ∧
    ∀ reply ∈ e.peerReply?, ∀ address ∈ x.peer, address.ToldAsPeer reply

/-- A kernel that tells the addresses that it was given. -/
def namesGiven : Upkeep Names where
  fresh _ := ⟨none, none⟩
  accepted := ⟨none, none⟩
  next x e := ⟨e.boundTo?.or x.bound, e.peer?.getD x.peer⟩
  Fits := Names.Fits

instance (x : Names) : DecidablePred (namesGiven.Fits x) := fun e =>
  inferInstanceAs (Decidable (
    (∀ reply ∈ e.localReply?, ∀ address ∈ x.bound, address.port ≠ 0 → address.ToldBy reply) ∧
      ∀ reply ∈ e.peerReply?, ∀ address ∈ x.peer, address.ToldAsPeer reply))

/-- The replies of a kernel that names its one socket as it was told to, with bytes of its own in
the padding. -/
def Names.reply (x : Names) : (c : SystemCall) → Reply c
  | .socket .. => .ok ⟨3⟩
  | .bind .. | .connect .. => .ok ()
  | .localName _ => x.bound.elim (.error .invalidArgument) fun a => .ok { a with padding := [1] }
  | .peerName _ => x.peer.elim (.error .notConnected) fun a => .ok { a with padding := [1] }
  | _ => .error .badDescriptor

/-- A kernel that is nothing but the names of one socket. -/
def Names.namer : Kernel Names where
  answer x c := (x.reply c, namesGiven.next x (.called c (x.reply c)))

/-! ## The last address of a handle -/

namespace LiveSocket

/-- The last `bind` on the handle that succeeded was to an address. -/
def BoundTo (h : LiveSocket) (address : SocketAddress) : Prop :=
  ∃ before after, h.history =
      before ++ .called (.bind h.socket.descriptor address) (.ok ()) :: after ∧
    ∀ e ∈ after, e.boundTo? = none

/-- The last `connect` on the handle that succeeded was to an address, and no other is pending. -/
def ConnectedTo (h : LiveSocket) (address : SocketAddress) : Prop :=
  ∃ before after, h.history =
      before ++ .called (.connect h.socket.descriptor address) (.ok ()) :: after ∧
    ∀ e ∈ after, e.peer? = none

variable {h : LiveSocket} {address : SocketAddress} {t : Descriptor → Names}

theorem BoundTo.known (hbound : h.BoundTo address) (htracks : namesGiven.Tracks t h) :
    (t h.socket.descriptor).bound = some address := by
  obtain ⟨x, -, hx⟩ := htracks
  obtain ⟨before, after, hhistory, hafter⟩ := hbound
  have hkeeps : ∀ e ∈ after, ∀ x, (namesGiven.next x e).bound = x.bound := by
    intro e he x
    show e.boundTo?.or x.bound = x.bound
    rw [hafter e he, Option.none_or]
  rw [hx, hhistory]
  exact Upkeep.through_last Names.bound rfl hkeeps

theorem ConnectedTo.known (hconnected : h.ConnectedTo address) (htracks : namesGiven.Tracks t h) :
    (t h.socket.descriptor).peer = some address := by
  obtain ⟨x, -, hx⟩ := htracks
  obtain ⟨before, after, hhistory, hafter⟩ := hconnected
  have hkeeps : ∀ e ∈ after, ∀ x, (namesGiven.next x e).peer = x.peer := by
    intro e he x
    show e.peer?.getD x.peer = x.peer
    rw [hafter e he, Option.getD_none]
  rw [hx, hhistory]
  exact Upkeep.through_last Names.peer rfl hkeeps

end LiveSocket

/-! ## The operations -/

/-- The address that a call hands to the kernel. -/
def SystemCall.address? : SystemCall → Option SocketAddress
  | .bind _ address | .connect _ address | .sendTo _ _ _ address => some address
  | _ => none

namespace Operation

/-- The address that an operation binds to. -/
def bindsTo? : Operation → Option SocketAddress
  | .bind address | .tryBind address => some address
  | .bindIpv4 ip port => some (.new ip.value port)
  | _ => none

/-- The address that an operation connects to. -/
def connectsTo? : Operation → Option SocketAddress
  | .connect address => some address
  | _ => none

/-- The address that the caller gives. -/
def address? : Operation → Option SocketAddress
  | .sendTo _ address => some address
  | operation => operation.bindsTo?.or operation.connectsTo?

/-- The operation told its caller that it gave the socket an address. -/
def Attached : (operation : Operation) → operation.Result → Prop
  | .bind _, r | .bindIpv4 _ _, r => r = true
  | .tryBind _, r => r = .ok ()
  | .connect _, r => r = .ok Connect.established
  | _, _ => False

/-- The kernel is handed the address that the caller gave. -/
theorem Issues.address {s : Socket} {operation : Operation} {c : SystemCall}
    (h : operation.Issues s c) {address : SocketAddress} (hc : c.address? = some address) :
    operation.address? = some address := by
  cases operation with
  | configureNonBlocking => obtain rfl | ⟨flags, rfl⟩ := h <;> cases hc
  | receive capacity | peek capacity =>
    obtain ⟨-, rfl⟩ := h
    cases hc
  | apply profile =>
    have hwants := OptionProfile.wants_of_mem_plan h
    generalize s.transport = transport at hwants
    cases hwants <;> cases hc
  | bind _ | bindIpv4 _ _ | tryBind _ | connect _ | sendTo _ _ =>
    cases h
    exact hc
  | _ =>
    cases h
    cases hc

end Operation

namespace Socket

open Program

variable {s : Socket} {address : SocketAddress} {events : List Event} {t : Descriptor → Names}

/-- A bind that succeeds ends in the call that bound the socket. -/
theorem TryBindRun.bound {r : Except NetError Unit × Socket} (h : TryBindRun s address events r)
    (hok : r.1 = .ok ()) :
    ∃ after, events = .called (.bind s.descriptor address) (.ok ()) :: after ∧
      ∀ e ∈ after, e.boundTo? = none := by
  cases h with
  | stopped | failed => cases hok
  | moved => exact ⟨_, rfl, by simp [Event.boundTo?]⟩

theorem BindRun.bound {r : Bool × Socket} (h : BindRun s address events r) (hok : r.1 = true) :
    ∃ after, events = .called (.bind s.descriptor address) (.ok ()) :: after ∧
      ∀ e ∈ after, e.boundTo? = none := by
  cases h with
  | refused => cases hok
  | moved h => exact h.bound rfl

theorem ConnectRun.connected {r : Except NetError Connect × Socket}
    (h : ConnectRun s address events r) (hok : r.1 = .ok .established) :
    ∃ after, events = .called (.connect s.descriptor address) (.ok ()) :: after ∧
      ∀ e ∈ after, e.peer? = none := by
  cases h with
  | stopped | failed | inProgress => cases hok
  | established => exact ⟨_, rfl, by simp [Event.peer?]⟩

/-- An operation that gave its socket an address is on its handle only. -/
theorem attached_isLocal {operation : Operation} {result : operation.Result}
    (h : operation.Attached result) : operation.isLocal = true := by
  cases operation with
  | bind _ | bindIpv4 _ _ | tryBind _ | connect _ => rfl
  | _ => cases h

/-- An operation that tells that it bound the socket has called `bind` with the caller's address. -/
theorem PerformRun.bound {operation : Operation} {r : operation.Result × Socket}
    (h : PerformRun s operation events r) (hok : operation.Attached r.1)
    (haddress : operation.bindsTo? = some address) :
    ∃ after, events = .called (.bind s.descriptor address) (.ok ()) :: after ∧
      ∀ e ∈ after, e.boundTo? = none := by
  cases h with
  | tryBind h | bind h | bindIpv4 h =>
    cases haddress
    exact h.bound hok
  | plain hop =>
    cases operation with
    | bind _ | bindIpv4 _ _ | tryBind _ => cases hop
    | _ => cases haddress
  | _ => cases haddress

/-- An operation that tells that it connected the socket has called `connect` with the caller's
address. -/
theorem PerformRun.connected {operation : Operation} {r : operation.Result × Socket}
    (h : PerformRun s operation events r) (hok : operation.Attached r.1)
    (haddress : operation.connectsTo? = some address) :
    ∃ after, events = .called (.connect s.descriptor address) (.ok ()) :: after ∧
      ∀ e ∈ after, e.peer? = none := by
  cases h with
  | connect h =>
    cases haddress
    exact h.connected hok
  | plain hop =>
    cases operation with
    | connect _ => cases hop
    | _ => cases haddress
  | _ => cases haddress

/-- On a kernel that tells the peer of a socket, looking it up tells it to the caller. -/
theorem PeerRun.told {r : Except NetError Endpoint} (h : PeerRun s events r)
    (hpeer : (t s.descriptor).peer = some address) (hf : namesGiven.model.Follows t events) :
    r = .ok address.endpoint := by
  cases h with
  | found name hfamily =>
    have htold := (hf.1 s.descriptor rfl).2 (.ok name) rfl address hpeer
    rw [htold.2.endpoint_eq]
  | foreign name hfamily =>
    have htold := (hf.1 s.descriptor rfl).2 (.ok name) rfl address hpeer
    exact (hfamily htold.1).elim
  | none e => exact ((hf.1 s.descriptor rfl).2 (.error e) rfl address hpeer).elim

/-- The parts of a peer's address are told as the whole is. -/
theorem peerPart_runs {α : Type} (s : Socket) (part : Endpoint → α) :
    (s.peerAddress.bind fun r => .done (r.map part)).Ensures fun events result =>
      ∃ r, PeerRun s events r ∧ result = r.map part := by
  refine (ensures_bind _ _ _).mpr ((peerAddress_runs s).mono fun events r h => ?_)
  rw [ensures_done, List.append_nil]
  exact ⟨r, h, rfl⟩

theorem perform_peerAddress_runs (s : Socket) :
    (s.perform .peerAddress).Ensures fun events r => PeerRun s events r.1 :=
  keeping_runs (peerAddress_runs s)

theorem perform_peerIp_runs (s : Socket) :
    (s.perform .peerIp).Ensures fun events r =>
      ∃ found, PeerRun s events found ∧ r.1 = found.map Endpoint.ip :=
  keeping_runs (peerPart_runs s Endpoint.ip)

theorem perform_peerPort_runs (s : Socket) :
    (s.perform .peerPort).Ensures fun events r =>
      ∃ found, PeerRun s events found ∧ r.1 = found.map Endpoint.port :=
  keeping_runs (peerPart_runs s Endpoint.port)

end Socket

namespace World

variable {σ : Type}

/-- What the kernel is told of addresses, by operations on the handles of a world.

* `handed` — the kernel is handed the address that the caller gave.
* `joined`, `left`, `chosen` — a request for a group makes one call, with the octets of the group
  and of the interface in their places.
* `attached` — after an operation that tells that it bound or connected the socket, the handle is
  bound or connected to the address that the caller gave. -/
structure HandsOver (k : Kernel σ) (w : World σ) : Prop where
  handed : ∀ index operation, ∀ c ∈ calls (w.observe k (.perform index operation)).events,
    ∀ address, c.address? = some address → operation.address? = some address
  joined : ∀ index h interface group, w.live[index]? = some h →
    calls (w.observe k (.perform index (.joinMulticast interface group))).events =
      [.changeMembership h.socket.descriptor .join group.octets interface.octets]
  left : ∀ index h interface group, w.live[index]? = some h →
    calls (w.observe k (.perform index (.leaveMulticast interface group))).events =
      [.changeMembership h.socket.descriptor .leave group.octets interface.octets]
  chosen : ∀ index h interface, w.live[index]? = some h →
    calls (w.observe k (.perform index (.setMulticastInterface interface))).events =
      [.setMulticastInterface h.socket.descriptor interface.octets]
  attached : ∀ index h operation result, w.live[index]? = some h →
    (w.observe k (.perform index operation)).report = .performed h.socket operation result →
    operation.Attached result →
    ∃ h', (w.exec k (.perform index operation)).live[index]? = some h' ∧
      (∀ address, operation.bindsTo? = some address → h'.BoundTo address) ∧
      ∀ address, operation.connectsTo? = some address → h'.ConnectedTo address

/-- What callers are told of addresses, after some commands and on a kernel that tells the addresses
that it was given.

* `local_name` — the local address of a handle that was bound to a port equals the address.
* `peer_name`, `peer_ip`, `peer_port` — the peer of a handle that was connected is the endpoint. -/
structure HandsBack (k : Kernel σ) (w₀ : World σ) (t : Descriptor → Names)
    (commands : List Command) : Prop where
  local_name : ∀ index h address, (w₀.run k commands).live[index]? = some h →
    h.BoundTo address → address.port ≠ 0 →
    namesGiven.model.Follows t
      (shown (w₀.observed k (commands ++ [.perform index .localAddress]))) →
    ∃ name : SocketAddress, (name == address) = true ∧
      ((w₀.run k commands).observe k (.perform index .localAddress)).report =
        .performed h.socket .localAddress (.ok name)
  peer_name : ∀ index h address, (w₀.run k commands).live[index]? = some h →
    h.ConnectedTo address →
    namesGiven.model.Follows t (shown (w₀.observed k (commands ++ [.perform index .peerAddress]))) →
    ((w₀.run k commands).observe k (.perform index .peerAddress)).report =
      .performed h.socket .peerAddress (.ok address.endpoint)
  peer_ip : ∀ index h address, (w₀.run k commands).live[index]? = some h →
    h.ConnectedTo address →
    namesGiven.model.Follows t (shown (w₀.observed k (commands ++ [.perform index .peerIp]))) →
    ((w₀.run k commands).observe k (.perform index .peerIp)).report =
      .performed h.socket .peerIp (.ok address.ip)
  peer_port : ∀ index h address, (w₀.run k commands).live[index]? = some h →
    h.ConnectedTo address →
    namesGiven.model.Follows t (shown (w₀.observed k (commands ++ [.perform index .peerPort]))) →
    ((w₀.run k commands).observe k (.perform index .peerPort)).report =
      .performed h.socket .peerPort (.ok address.port)

/-- An operation that issues one call only makes that call. -/
theorem calls_single (k : Kernel σ) {w : World σ} {index : Nat} {h : LiveSocket}
    (hi : w.live[index]? = some h) {operation : Operation} (hop : operation.isSingle = true)
    {c : SystemCall} (hc : ∀ c', operation.Issues h.socket c' → c' = c) :
    calls (w.observe k (.perform index operation)).events = [c] := by
  obtain ⟨c', hissues, hone⟩ := Socket.perform_once h.socket hop
  rw [observe_perform k hi, Observation.events_map_event, hone.run k w.kernel, hc c' hissues]

/-- An operation on a handle hands the kernel the address that the caller gave. -/
theorem address_handed (k : Kernel σ) (w : World σ) (index : Nat) (operation : Operation)
    {c : SystemCall} (hc : c ∈ calls (w.observe k (.perform index operation)).events)
    {address : SocketAddress} (haddress : c.address? = some address) :
    operation.address? = some address := by
  cases hi : w.live[index]? with
  | none =>
    have hnone : w.observe k (.perform index operation) = ⟨.idle, []⟩ := by
      simp only [observe, report, tellOf, effect, withHandle, hi]
    rw [hnone] at hc
    cases hc
  | some h =>
    rw [observe_perform k hi, Observation.events_map_event] at hc
    obtain ⟨e, he, hcall⟩ := mem_calls.mp hc
    have hissues := (Socket.perform_issues h.socket operation).run k w.kernel
    exact (hissues e he c hcall).address haddress

/-- After an operation that tells that it gave the socket an address, the handle has it. -/
theorem attached_to (k : Kernel σ) {w : World σ} {index : Nat} {h : LiveSocket}
    (hi : w.live[index]? = some h) {operation : Operation} {result : operation.Result}
    (hreport : (w.observe k (.perform index operation)).report =
      .performed h.socket operation result) (hok : operation.Attached result) :
    ∃ h', (w.exec k (.perform index operation)).live[index]? = some h' ∧
      (∀ address, operation.bindsTo? = some address → h'.BoundTo address) ∧
      ∀ address, operation.connectsTo? = some address → h'.ConnectedTo address := by
  have hresult : ((h.socket.perform operation).run k w.kernel).result.1 = result := by
    rw [observe_perform k hi] at hreport
    simpa using hreport
  have hrun := (Socket.perform_runs h.socket operation).run k w.kernel
  have hkept := hrun.performs.2
  obtain ⟨-, hlive, -⟩ := exec_local k hi (Socket.attached_isLocal hok)
  rw [← hresult] at hok
  refine ⟨_, hlive, fun address haddress => ?bound, fun address haddress => ?connected⟩
  case bound =>
    obtain ⟨after, hevents, hafter⟩ := hrun.bound hok haddress
    refine ⟨h.history, after, ?_, hafter⟩
    show h.history ++ _ = _
    rw [hevents, hkept]
  case connected =>
    obtain ⟨after, hevents, hafter⟩ := hrun.connected hok haddress
    refine ⟨h.history, after, ?_, hafter⟩
    show h.history ++ _ = _
    rw [hevents, hkept]

/-- The kernel is told of the addresses that callers give. -/
theorem handsOver (k : Kernel σ) (w : World σ) : HandsOver k w where
  handed index operation _ hc _ := address_handed k w index operation hc
  joined _ _ _ _ hi := calls_single k hi rfl fun _ hc => hc
  left _ _ _ _ hi := calls_single k hi rfl fun _ hc => hc
  chosen _ _ _ hi := calls_single k hi rfl fun _ hc => hc
  attached _ _ _ _ hi hreport hok := attached_to k hi hreport hok

/-- Callers are told of the addresses that the kernel was given. -/
theorem handsBack (k : Kernel σ) (kernel : σ) (table : DescriptorTable) (t : Descriptor → Names)
    (commands : List Command)
    (h : Along k (Lawful DescriptorTable.OpensUnused k) (start kernel table) commands) :
    HandsBack k (start kernel table) t commands := by
  have htracks := tracks_run namesGiven t h
  refine ⟨fun index h address hi hbound hport hf => ?local_name,
    fun index h address hi hconnected hf => ?peer_name,
    fun index h address hi hconnected hf => ?peer_ip,
    fun index h address hi hconnected hf => ?peer_port⟩
  case local_name =>
    have hknown := hbound.known (htracks h (List.mem_of_getElem? hi))
    have hfits := follows_perform hi hf
    obtain ⟨reply, hevents, hobserve⟩ := observe_localAddress k hi
    rw [hevents] at hfits
    have htold := (hfits.1 h.socket.descriptor rfl).1 reply rfl address hknown hport
    rw [hobserve]
    rcases reply with e | (name : SocketAddress)
    · exact htold.elim
    · exact ⟨name, (name.beq_iff_endpoint_eq address).mpr htold.endpoint_eq, rfl⟩
  -- the three lookups of the peer ask for the same name
  all_goals
    have hknown := hconnected.known (htracks h (List.mem_of_getElem? hi))
    have hfits := follows_perform hi hf
    rw [observe_perform k hi]
  case peer_name =>
    have hrun := (Socket.perform_peerAddress_runs h.socket).run k
      ((start kernel table).run k commands).kernel
    exact congrArg (Report.performed h.socket .peerAddress) (hrun.told hknown hfits)
  case peer_ip =>
    obtain ⟨found, hrun, hresult⟩ := (Socket.perform_peerIp_runs h.socket).run k
      ((start kernel table).run k commands).kernel
    rw [hrun.told hknown hfits] at hresult
    exact congrArg (Report.performed h.socket .peerIp) hresult
  case peer_port =>
    obtain ⟨found, hrun, hresult⟩ := (Socket.perform_peerPort_runs h.socket).run k
      ((start kernel table).run k commands).kernel
    rw [hrun.told hknown hfits] at hresult
    exact congrArg (Report.performed h.socket .peerPort) hresult

/-- **Addresses keep their value at every boundary.** On a machine of either byte order the records
of addresses and of group requests are in network order in memory and give the numbers back; two
addresses are equal if and only if they have the same address and port; any operation hands the
kernel what its caller gave; and in a lawful run callers are told what the kernel was given. -/
theorem host_order_throughout (k : Kernel σ) (kernel : σ) (table : DescriptorTable)
    (t : Descriptor → Names) (commands : List Command) :
    (∀ order : ByteOrder, order.KeepsNumbers) ∧
      (∀ a b : SocketAddress, (a == b) = true ↔ a.ip = b.ip ∧ a.port = b.port) ∧
      (∀ w : World σ, HandsOver k w) ∧
      (Along k (Lawful DescriptorTable.OpensUnused k) (start kernel table) commands →
        HandsBack k (start kernel table) t commands) :=
  ⟨ByteOrder.keepsNumbers, SocketAddress.beq_iff, handsOver k,
    handsBack k kernel table t commands⟩

/-- A TCP handle that is bound and then connected. The two addresses have the same bytes in opposite
orders. -/
def boundAndConnected : List Command :=
  [.makeTcp true, .perform 0 (.tryBind (.new 0x01020304 0x0506)),
    .perform 0 (.connect (.new 0x04030201 0x0605))]

/-- The handle at the end. -/
def connected : LiveSocket where
  socket := ⟨⟨3⟩, .tcp, .connected, false⟩
  origin := .made .tcp
  history :=
    [.called (.socket .tcp true) (.ok ⟨3⟩), .logged (.createdTcp ⟨3⟩ true),
      .called (.bind ⟨3⟩ (.new 0x01020304 0x0506)) (.ok ()),
      .logged (.moved ⟨3⟩ .created .bound),
      .called (.connect ⟨3⟩ (.new 0x04030201 0x0605)) (.ok ()),
      .logged (.moved ⟨3⟩ .bound .connected)]

/-- On a kernel with other padding the handle has the local address and the peer that it was
given. -/
theorem host_order_throughout_of_namer :
    let w₀ := start ⟨none, none⟩ fun _ => none
    let w := w₀.run Names.namer boundAndConnected
    (∃ name : SocketAddress, (name == .new 0x01020304 0x0506) = true ∧
      (w.observe Names.namer (.perform 0 .localAddress)).report =
        .performed connected.socket .localAddress (.ok name)) ∧
      (w.observe Names.namer (.perform 0 .peerAddress)).report =
        .performed connected.socket .peerAddress (.ok ⟨⟨0x04030201⟩, 0x0605⟩) := by
  have hback := (host_order_throughout Names.namer ⟨none, none⟩ (fun _ => none)
    (fun _ => ⟨none, none⟩) boundAndConnected).2.2.2 (by decide)
  have hbound : connected.BoundTo (.new 0x01020304 0x0506) :=
    ⟨connected.history.take 2, connected.history.drop 3, rfl, by decide⟩
  have hconnected : connected.ConnectedTo (.new 0x04030201 0x0605) :=
    ⟨connected.history.take 4, connected.history.drop 5, rfl, by decide⟩
  exact ⟨hback.local_name 0 connected _ rfl hbound (by decide) (by decide),
    hback.peer_name 0 connected _ rfl hconnected (by decide)⟩

end World
end SocketLayer
