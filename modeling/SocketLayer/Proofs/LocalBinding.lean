import SocketLayer.AddressSource
import SocketLayer.Host.Answer
import SocketLayer.Proofs.DescriptorState
import SocketLayer.Proofs.LifecycleOrder

/-!
# The local address of a descriptor

A new socket has no local address. The kernel gives it one when it is bound, starts to listen or
connects, and it also gives one to a UDP socket that sends without having one. The position of a
handle follows the first three only, so it tells whether its descriptor has a local address, except
where a UDP handle has sent: such a handle can be created by its position and bound by the kernel,
and then no `bind` on it succeeds.

* `localBinding` — the kernel model: what gives an address, and what an address allows.
* `World.BoundAsTracked`, `World.bound_as_tracked` — which descriptors have an address, in all runs.
* `World.created_after_send` — a run in which a created handle has one.
-/

set_option autoImplicit false

namespace SocketLayer

/-! ## What gives a local address -/

namespace Event

/-- A send that the kernel took. -/
def sends : Event → Bool
  | .called (.send ..) (.ok _) | .called (.sendTo ..) (.ok _) => true
  | _ => false

/-- Whether an event gives its socket a local address, unless it has one. A pending connect has
chosen the address it connects from. -/
def attaches (transport : Transport) (e : Event) : Bool :=
  e.target?.isSome || (transport = .udp && e.sends)

/-- The reply to a `bind` call. -/
def bindReply? : Event → Option (Except Errno Unit)
  | .called (.bind _ _) reply => some reply
  | _ => none

/-- The local address that the kernel told. -/
def localName? : Event → Option SocketAddress
  | .called (.localName _) (.ok name) => some name
  | _ => none

theorem subject_of_attaches {transport : Transport} {e : Event} (h : e.attaches transport = true) :
    ∃ fd, e.subject? = some fd := by
  rcases e with ⟨call, reply⟩ | entry
  · cases call with
    | bind fd | listen fd | connect fd | send fd | sendTo fd => exact ⟨fd, rfl⟩
    | _ => simp [attaches, target?, sends] at h
  · simp [attaches, target?, sends] at h

end Event

/-- A socket's transport, and whether it has a local address. -/
structure Attachment where
  transport : Transport
  bound : Bool
  deriving DecidableEq, Repr

namespace Attachment

/-- The replies that an attachment allows: what has an address is not bound again, and what has none
shows port zero. -/
def Fits (x : Attachment) (e : Event) : Prop :=
  (∀ reply ∈ e.bindReply?, x.bound = true → reply = .error .invalidArgument) ∧
    ∀ name ∈ e.localName?, x.bound = false → name.port = 0

instance (x : Attachment) : DecidablePred x.Fits := fun e =>
  inferInstanceAs (Decidable (
    (∀ reply ∈ e.bindReply?, x.bound = true → reply = .error .invalidArgument) ∧
      ∀ name ∈ e.localName?, x.bound = false → name.port = 0))

end Attachment

/-- The local addresses that a kernel gives. An accepted connection has one. -/
def localBinding : Upkeep Attachment where
  fresh transport := ⟨transport, false⟩
  accepted := ⟨.tcp, true⟩
  next x e := { x with bound := x.bound || e.attaches x.transport }
  Fits := Attachment.Fits

instance (x : Attachment) : DecidablePred (localBinding.Fits x) :=
  inferInstanceAs (DecidablePred x.Fits)

/-- A descriptor has a local address if it started with one or some call gave it one. -/
theorem through_bound_iff (fd : Descriptor) (x : Attachment) (events : List Event) :
    (localBinding.through fd x events).bound = true ↔ x.bound = true ∨
      ∃ e ∈ events, e.subject? = some fd ∧ e.attaches x.transport = true := by
  induction events generalizing x with
  | nil => simp [Upkeep.through]
  | cons e rest ih =>
    rw [Upkeep.through_cons, ih]
    by_cases hfd : e.subject? = some fd
    · simp [localBinding, hfd, or_assoc]
    · simp [hfd]

/-- The handle has sent something. -/
def LiveSocket.Sent (h : LiveSocket) : Prop := ∃ e ∈ h.history, e.sends = true

/-- The handle is UDP and has sent something. -/
def LiveSocket.SentUdp (h : LiveSocket) : Prop := h.socket.transport = .udp ∧ h.Sent

/-- The descriptor of a handle that was made has a local address if the handle has moved, or is UDP
and has sent. -/
theorem LiveSocket.Alive.bound_iff {h : LiveSocket} (halive : h.Alive) (hown : h.OwnCalls)
    {transport : Transport} (horigin : h.origin = .made transport)
    {t : Descriptor → Attachment} (htracks : localBinding.Tracks t h) :
    (t h.socket.descriptor).bound = true ↔ h.socket.state ≠ .created ∨ h.SentUdp := by
  obtain ⟨x, hstarts, hx⟩ := htracks
  have hfresh : x = ⟨transport, false⟩ := by rwa [horigin] at hstarts
  have hstate : h.socket.state = .created ↔ ∀ e ∈ h.history, e.target? = none := by
    rw [← halive.moves.replays, replay_eq_created_iff, horigin]
    simp [Origin.state]
  have htransport : h.socket.transport = transport := by
    rw [halive.transport, horigin]
    rfl
  rw [hx, through_bound_iff, hfresh]
  constructor
  · rintro (hbound | ⟨e, he, -, hattaches⟩)
    · cases hbound
    · rcases Bool.or_eq_true_iff.mp hattaches with htarget | hsends
      · refine .inl fun hcreated => ?_
        rw [hstate.mp hcreated e he] at htarget
        cases htarget
      · obtain ⟨hudp, hsends⟩ := Bool.and_eq_true_iff.mp hsends
        exact .inr ⟨htransport.trans (of_decide_eq_true hudp), e, he, hsends⟩
  -- an event that gives an address is a call, and the calls of the history are the handle's own
  · have hattached : ∀ e ∈ h.history, e.attaches transport = true →
        ∃ e ∈ h.history, e.subject? = some h.socket.descriptor ∧ e.attaches transport = true := by
      intro e he hattaches
      obtain ⟨fd, hfd⟩ := Event.subject_of_attaches hattaches
      exact ⟨e, he, (hown e he fd hfd) ▸ hfd, hattaches⟩
    rintro (hmoved | ⟨hudp, e, he, hsends⟩)
    · rw [ne_eq, hstate] at hmoved
      push Not at hmoved
      obtain ⟨e, he, htarget⟩ := hmoved
      refine .inr (hattached e he ?_)
      rw [Event.attaches, Option.isSome_iff_ne_none.mpr htarget, Bool.true_or]
    · refine .inr (hattached e he ?_)
      rw [htransport] at hudp
      simp [Event.attaches, hudp, hsends]

/-- Otherwise it has none. -/
theorem LiveSocket.Alive.unbound {h : LiveSocket} (halive : h.Alive) (hown : h.OwnCalls)
    {transport : Transport} (horigin : h.origin = .made transport)
    {t : Descriptor → Attachment} (htracks : localBinding.Tracks t h)
    (hcreated : h.socket.state = .created) (hunsent : ¬ h.SentUdp) :
    (t h.socket.descriptor).bound = false := by
  refine Bool.eq_false_iff.mpr fun hset => ?_
  rcases (halive.bound_iff hown horigin htracks).mp hset with hmoved | hsent
  · exact hmoved hcreated
  · exact hunsent hsent

/-! ## What the operations meet -/

namespace Socket

/-- A descriptor that has a local address is not bound. -/
theorem TryBindRun.refused {s : Socket} {address : SocketAddress} {events : List Event}
    {r : Except NetError Unit × Socket} (h : TryBindRun s address events r)
    (hcreated : s.state = .created) {t : Descriptor → Attachment}
    (hset : (t s.descriptor).bound = true) (hfits : localBinding.model.Follows t events) :
    r.1 = .error (.ofErrno "bind" .invalidArgument) := by
  cases h with
  | stopped hmoved => exact (hmoved hcreated).elim
  | failed _ e =>
    have hrefused := (hfits.1 s.descriptor rfl).1 (.error e) rfl hset
    rw [Except.error.inj hrefused]
  | moved _ =>
    have hrefused := (hfits.1 s.descriptor rfl).1 (.ok ()) rfl hset
    cases hrefused

/-- A `bind` call is made by a created handle only. -/
theorem created_of_bind_called {s : Socket} {operation : Operation} {events : List Event}
    {r : operation.Result × Socket} (h : PerformRun s operation events r) {fd : Descriptor}
    {address : SocketAddress} (hcall : .bind fd address ∈ calls events) : s.state = .created := by
  obtain ⟨e, he, hbind⟩ := mem_calls.mp hcall
  obtain ⟨before, after, rfl⟩ := List.append_of_mem he
  obtain ⟨-, hpermitted, -⟩ := orderly_append.mp h.steps.moves.orderly
  have hcreated : replay s.state before = .created := hpermitted _ hbind
  exact ((replay_eq_created_iff _ _).mp hcreated).1

end Socket

namespace World

variable {σ : Type}

/-- Which descriptors have a local address after some commands, and what that comes to.

* `bound_iff` — that of a handle which was made has one if and only if the handle is bound, listens
  or is connected by its position, or is UDP and has sent.
* `unbound_port` — the local address of a created handle shows port zero, unless it is UDP and has
  sent.
* `unbound_binds` — with the same exception, no `bind` call meets a descriptor that has one.
* `sent_refused` — a UDP handle that has sent and is still created cannot be bound any more. -/
structure BoundAsTracked (k : Kernel σ) (w₀ : World σ) (t : Descriptor → Attachment)
    (commands : List Command) : Prop where
  bound_iff : ∀ h ∈ (w₀.run k commands).live, ∀ transport, h.origin = .made transport →
    ((localBinding.model.after t (shown (w₀.observed k commands))
        h.socket.descriptor).bound = true ↔
      h.socket.state ≠ .created ∨ h.SentUdp)
  unbound_port : ∀ index h transport, (w₀.run k commands).live[index]? = some h →
    h.origin = .made transport → h.socket.state = .created → ¬ h.SentUdp →
    localBinding.model.Follows t
      (shown (w₀.observed k (commands ++ [.perform index .localAddress]))) →
    ∃ reply : Reply (.localName h.socket.descriptor),
      (w₀.run k commands).observe k (.perform index .localAddress) =
        ⟨.performed h.socket .localAddress (reply.mapError (.ofErrno "local_addr")),
          booked [.called (.localName h.socket.descriptor) reply]⟩ ∧
      ∀ b : SocketAddress, reply = .ok b → b.port = 0
  unbound_binds : ∀ index h transport operation fd address,
    (w₀.run k commands).live[index]? = some h → h.origin = .made transport → ¬ h.SentUdp →
    .bind fd address ∈
      calls ((w₀.run k commands).observe k (.perform index operation)).events →
    fd = h.socket.descriptor ∧
      (localBinding.model.after t (shown (w₀.observed k commands)) fd).bound = false
  sent_refused : ∀ index h transport address,
    (w₀.run k commands).live[index]? = some h → h.origin = .made transport →
    h.socket.state = .created → h.SentUdp →
    localBinding.model.Follows t
      (shown (w₀.observed k (commands ++ [.perform index (.tryBind address)]))) →
    ((w₀.run k commands).observe k (.perform index (.tryBind address))).report =
      .performed h.socket (.tryBind address) (.error (.ofErrno "bind" .invalidArgument))

/-- A `bind` call is made on the descriptor of a handle that is created. -/
theorem created_of_bind_observed (k : Kernel σ) {w : World σ} {index : Nat} {h : LiveSocket}
    (hi : w.live[index]? = some h) {operation : Operation} {fd : Descriptor}
    {address : SocketAddress}
    (hcall : .bind fd address ∈ calls (w.observe k (.perform index operation)).events) :
    fd = h.socket.descriptor ∧ h.socket.state = .created := by
  rw [observe_perform k hi, Observation.events_map_event] at hcall
  have hrun := (Socket.perform_runs h.socket operation).run k w.kernel
  have hissues := (Socket.perform_issues h.socket operation).run k w.kernel
  obtain ⟨e, he, hc⟩ := mem_calls.mp hcall
  have hfd : some fd = some h.socket.descriptor := (hissues e he _ hc).subject
  exact ⟨Option.some.inj hfd, Socket.created_of_bind_called hrun hcall⟩

/-- **The position tells whether the descriptor has a local address**, in every lawful run of any
commands, for every handle that was made: except that a UDP handle which sends while it is created
has one from then on, and cannot be bound. -/
theorem bound_as_tracked (k : Kernel σ) (kernel : σ) (table : DescriptorTable)
    (t : Descriptor → Attachment) (commands : List Command)
    (h : Along k (Lawful DescriptorTable.OpensUnused k) (start kernel table) commands) :
    BoundAsTracked k (start kernel table) t commands := by
  have halive := alive_run k kernel table commands
  have hown := kept_ownCalls.run k kernel table commands
  have htracks := tracks_run localBinding t h
  refine ⟨fun h hlive transport horigin => ?bound, ?port, ?binds, ?refused⟩
  case bound => exact (halive h hlive).bound_iff (hown h hlive) horigin (htracks h hlive)
  case port =>
    intro index h transport hi horigin hcreated hunsent hf
    have hlive := List.mem_of_getElem? hi
    have hfits := follows_perform hi hf
    obtain ⟨reply, hevents, hobserve⟩ := observe_localAddress k hi
    rw [hevents] at hfits
    refine ⟨reply, hobserve, ?_⟩
    rintro b rfl
    have hnone := (halive h hlive).unbound (hown h hlive) horigin (htracks h hlive) hcreated hunsent
    exact (hfits.1 h.socket.descriptor rfl).2 b rfl hnone
  case binds =>
    intro index h transport operation fd address hi horigin hunsent hcall
    have hlive := List.mem_of_getElem? hi
    obtain ⟨rfl, hcreated⟩ := created_of_bind_observed k hi hcall
    refine ⟨rfl, ?_⟩
    exact (halive h hlive).unbound (hown h hlive) horigin (htracks h hlive) hcreated hunsent
  case refused =>
    intro index h transport address hi horigin hcreated hsent hf
    have hlive := List.mem_of_getElem? hi
    have hset :=
      ((halive h hlive).bound_iff (hown h hlive) horigin (htracks h hlive)).mpr (.inr hsent)
    have hfits := follows_perform hi hf
    have hrun := (Socket.tryBind_runs h.socket address).run k
      ((start kernel table).run k commands).kernel
    have hrefused : ((h.socket.perform (.tryBind address)).run k
        ((start kernel table).run k commands).kernel).result.1 =
          .error (.ofErrno "bind" .invalidArgument) := hrun.refused hcreated hset hfits
    rw [observe_perform k hi]
    exact congrArg (Report.performed h.socket (.tryBind address)) hrefused

/-- A new UDP handle sends. -/
def sendFirst : List Command := [.makeUdp, .perform 0 (.sendTo [120] (.new 0 9))]

/-- The handle is then asked for its local address, and bound. -/
def bindAfter : List Command := [.perform 0 .localAddress, .perform 0 (.tryBind (.new 0 0))]

/-- A host before anything happened. -/
def silent : World Host := start (Host.boot []) fun _ => none

theorem bound_as_tracked_on_host :
    BoundAsTracked Host.kernel silent (fun _ => ⟨.udp, false⟩) sendFirst :=
  bound_as_tracked _ _ _ _ _ (by decide)

/-- **A created handle can have a local address.** The host takes what a new UDP handle sends, and
the handle is still created. Its local address shows the port that the host chose, and it cannot be
bound. -/
theorem created_after_send :
    let k := Host.kernel
    let unbound : Descriptor → Attachment := fun _ => ⟨.udp, false⟩
    let sent := silent.run k sendFirst
    Along k (Lawful DescriptorTable.OpensUnused k) silent (sendFirst ++ bindAfter) ∧
      localBinding.model.Follows unbound (shown (silent.observed k (sendFirst ++ bindAfter))) ∧
      sent.sockets = [⟨⟨3⟩, .udp, .created, true⟩] ∧
      localBinding.model.after unbound (shown (silent.observed k sendFirst)) ⟨3⟩ = ⟨.udp, true⟩ ∧
      (sent.observe k (.perform 0 .localAddress)).report =
        .performed ⟨⟨3⟩, .udp, .created, true⟩ .localAddress (.ok (.new 0 32768)) ∧
      (sent.observe k (.perform 0 (.tryBind (.new 0 0)))).report =
        .performed ⟨⟨3⟩, .udp, .created, true⟩ (.tryBind (.new 0 0))
          (.error (.ofErrno "bind" .invalidArgument)) := by
  refine ⟨?lawful, ?follows, ?created, ?bound, ?port, ?refused⟩
  case lawful => decide
  case follows => decide
  case created => decide
  case bound => decide
  case port => rfl
  case refused => rfl

end World
end SocketLayer
