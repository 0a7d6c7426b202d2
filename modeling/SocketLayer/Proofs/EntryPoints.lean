import SocketLayer.AddressSource
import SocketLayer.Proofs.CallDiscipline

/-!
# Entry points that can be exchanged

Several entry points come to the same thing. Which of them a program takes makes no difference to
the kernel, to the handles, or to what the program is told afterwards: only log records differ.

* `Call` — a call as a program writes it, its addresses made on the spot.
* `Counterpart`, `Interchangeable` — the pairs of calls that can stand for each other.
* `Report.Matches` — how what a caller is told by one of them follows from what the other tells.
* `Retells` — two operations with the same calls and the same handle afterwards.
* `World.entry_points_interchangeable` — exchanging any calls of any run changes nothing else.
-/

set_option autoImplicit false

namespace SocketLayer

/-! ## Calls as they are written -/

namespace AddressSource

/-- The host-order values that an address was made from, if it was made from such. -/
def values : AddressSource → Option (UInt32 × UInt16)
  | .given _ => none
  | .new ip port | .build ip port => some (ip, port)
  | .ofStandard ip port | .ofPair ip port => some ((Ipv4.ofOctets ip).value, port)
  | .clone source => source.values

/-- Two ways to make one address: from the same host-order values, or by copying it. -/
inductive SameAs : AddressSource → AddressSource → Prop
  | values {a b : AddressSource} {v : UInt32 × UInt16} (h : a.values = some v)
    (h' : b.values = some v) : SameAs a b
  | clone (a : AddressSource) : SameAs a a.clone

theorem address_of_values {a : AddressSource} {v : UInt32 × UInt16} (h : a.values = some v) :
    a.address = .new v.1 v.2 := by
  induction a with
  | given address => cases h
  | new ip port | build ip port | ofStandard ip port | ofPair ip port =>
    cases h
    rfl
  | clone source ih => exact ih h

/-- However it was made, it is the same address, down to its bytes. -/
theorem SameAs.address_eq {a b : AddressSource} (h : a.SameAs b) : a.address = b.address := by
  cases h with
  | values h h' => rw [address_of_values h, address_of_values h']
  | clone => rfl

end AddressSource

/-- A call of the library as a program writes it. -/
inductive Call where
  | plain (c : Command)
  /-- An operation on an address that is made for it. -/
  | toAddress (index : Nat) (operation : SocketAddress → Operation) (source : AddressSource)
  | bindIpv4 (index : Nat) (ip : IpArgument) (port : UInt16)

/-- What the call is once its arguments are made. -/
def Call.command : Call → Command
  | .plain c => c
  | .toAddress index operation source => .perform index (operation source.address)
  | .bindIpv4 index ip port => .perform index (.bindIpv4 ip.toIpv4 port)

/-- What the calls are once their arguments are made. -/
abbrev commands (calls : List Call) : List Command := calls.map Call.command

/-- A call and another that can stand for it. -/
inductive Counterpart : Call → Call → Prop
  | tryBind (index : Nat) (source : AddressSource) :
    Counterpart (.toAddress index .bind source) (.toAddress index .tryBind source)
  | bindIpv4 (index : Nat) (ip : IpArgument) (port : UInt16) :
    Counterpart (.bindIpv4 index ip port) (.toAddress index .bind (.new ip.toIpv4.value port))
  | address (index : Nat) (operation : SocketAddress → Operation) {a b : AddressSource}
    (h : a.SameAs b) : Counterpart (.toAddress index operation a) (.toAddress index operation b)
  | peerIp (index : Nat) :
    Counterpart (.plain (.perform index .peerIp)) (.plain (.perform index .peerAddress))
  | peerPort (index : Nat) :
    Counterpart (.plain (.perform index .peerPort)) (.plain (.perform index .peerAddress))
  | isDead (index : Nat) :
    Counterpart (.plain (.perform index .isDead)) (.plain (.perform index (.receive 1)))
  | drop (index : Nat) : Counterpart (.plain (.close index)) (.plain (.drop index))

/-- A call, left as it is or exchanged for a counterpart in either direction. -/
inductive Interchangeable : Call → Call → Prop
  | same (c : Call) : Interchangeable c c
  | there {c c' : Call} (h : Counterpart c c') : Interchangeable c c'
  | back {c c' : Call} (h : Counterpart c c') : Interchangeable c' c

/-! ## What they tell -/

namespace Report

/-- What a call tells, and what its counterpart tells instead. -/
inductive Matches : Report → Report → Prop
  | same (r : Report) : Matches r r
  | tryBind (s : Socket) (address : SocketAddress) (r : Except NetError Unit) :
    Matches (.performed s (.bind address) r.toBool) (.performed s (.tryBind address) r)
  | bindIpv4 (s : Socket) (ip : Ipv4) (port : UInt16) (bound : Bool) :
    Matches (.performed s (.bindIpv4 ip port) bound)
      (.performed s (.bind (.new ip.value port)) bound)
  | peerIp (s : Socket) (r : Except NetError Endpoint) :
    Matches (.performed s .peerIp (r.map Endpoint.ip)) (.performed s .peerAddress r)
  | peerPort (s : Socket) (r : Except NetError Endpoint) :
    Matches (.performed s .peerPort (r.map Endpoint.port)) (.performed s .peerAddress r)
  | isDead (s : Socket) (r : Transfer × List UInt8) :
    Matches (.performed s .isDead r.1.isDisconnected) (.performed s (.receive 1) r)
  | drop (r : Except NetError Unit) : Matches (.closed r) .dropped

/-- Reports that differ in the entry point only. -/
def Agrees (r r' : Report) : Prop := r.Matches r' ∨ r'.Matches r

theorem Agrees.refl (r : Report) : r.Agrees r := .inl (.same r)

theorem Agrees.symm {r r' : Report} (h : r.Agrees r') : r'.Agrees r := Or.symm h

end Report

/-- Whether an entry is a log record. -/
def Entry.isLog : Entry → Bool
  | .event (.logged _) => true
  | _ => false

/-- The entries that are no log records. -/
def unlogged (entries : List Entry) : List Entry := entries.filter fun e => !e.isLog

/-- Of a program's events the calls remain, with their arguments and replies. -/
theorem unlogged_booked (events : List Event) :
    unlogged (booked events) = booked (answered events) := by
  induction events with
  | nil => rfl
  | cons e rest ih =>
    cases e with
    | called c reply => exact congrArg (List.cons _) ih
    | logged entry => exact ih

/-- Observations that differ in the entry point and in log records only. -/
structure Observation.Agrees (o o' : Observation) : Prop where
  report : o.report.Agrees o'.report
  entries : unlogged o.entries = unlogged o'.entries

/-! ## Programs with the same calls -/

namespace Program

variable {α β σ : Type} {k : Kernel σ}

/-- Working on the result of a program adds nothing to its run. -/
theorem run_map (program : Program α) (f : α → β) (state : σ) :
    (program.bind fun a => .done (f a)).run k state =
      ⟨f (program.run k state).result, (program.run k state).kernel,
        (program.run k state).events⟩ := by
  rw [run_bind]
  simp [run]

end Program

namespace Socket

open Program

variable {σ : Type} {k : Kernel σ}

/-- Two runs of operations on a handle that leave the kernel and the handle the same, make the same
calls and tell the same in their own ways. -/
structure Retells (s : Socket) (operation operation' : Operation)
    (run : Run (operation.Result × Socket) σ) (run' : Run (operation'.Result × Socket) σ) :
    Prop where
  kernel : run.kernel = run'.kernel
  handle : run.result.2 = run'.result.2
  calls : answered run.events = answered run'.events
  told : Report.Matches (.performed s operation run.result.1)
    (.performed s operation' run'.result.1)

/-- Binding is the other way to bind, told in one bit and with a log record of a failure. -/
theorem bind_run (s : Socket) (address : SocketAddress) (state : σ) :
    let run := (s.bind address).run k state
    let run' := (s.tryBind address).run k state
    run.kernel = run'.kernel ∧ run.result = (run'.result.1.toBool, run'.result.2) ∧
      answered run.events = answered run'.events := by
  simp only [Socket.bind, Program.bind_eq, run_bind]
  generalize (s.tryBind address).run k state = first
  obtain ⟨⟨error | ⟨⟩, t⟩, kernel, events⟩ := first
  · refine ⟨rfl, rfl, ?_⟩
    show answered (events ++ [.logged (.bindFailed address.endpoint t.descriptor error)]) =
      answered events
    rw [answered_append]
    exact List.append_nil _
  · refine ⟨rfl, rfl, ?_⟩
    exact congrArg answered (List.append_nil events)

theorem bind_retells (s : Socket) (address : SocketAddress) (state : σ) :
    Retells s (.bind address) (.tryBind address) ((s.perform (.bind address)).run k state)
      ((s.perform (.tryBind address)).run k state) := by
  obtain ⟨hkernel, hresult, hcalls⟩ := bind_run (k := k) s address state
  have hflag : ((s.perform (.bind address)).run k state).result.1 = _ := congrArg Prod.fst hresult
  refine ⟨hkernel, congrArg Prod.snd hresult, hcalls, ?_⟩
  rw [hflag]
  exact .tryBind s address _

theorem bindIpv4_retells (s : Socket) (ip : Ipv4) (port : UInt16) (state : σ) :
    Retells s (.bindIpv4 ip port) (.bind (.new ip.value port))
      ((s.perform (.bindIpv4 ip port)).run k state)
      ((s.perform (.bind (.new ip.value port))).run k state) :=
  ⟨rfl, rfl, rfl, .bindIpv4 s ip port _⟩

/-- An operation that only works on the result of another. -/
theorem keeping_map_run {α β : Type} (s : Socket) (program : Program α) (f : α → β) (state : σ) :
    (s.keeping (program.bind fun a => .done (f a))).run k state =
      ⟨(f (program.run k state).result, s), (program.run k state).kernel,
        (program.run k state).events⟩ := by
  show ((program.bind fun a => .done (f a)).bind fun b => .done (b, s)).run k state = _
  rw [run_map _ (fun b => (b, s)), run_map]

theorem keeping_run {α : Type} (s : Socket) (program : Program α) (state : σ) :
    (s.keeping program).run k state =
      ⟨((program.run k state).result, s), (program.run k state).kernel,
        (program.run k state).events⟩ :=
  run_map program (·, s) state

theorem peerIp_retells (s : Socket) (state : σ) :
    Retells s .peerIp .peerAddress ((s.perform .peerIp).run k state)
      ((s.perform .peerAddress).run k state) := by
  have hip : (s.perform .peerIp).run k state = _ :=
    keeping_map_run s s.peerAddress (Except.map Endpoint.ip) state
  have haddress : (s.perform .peerAddress).run k state = _ := keeping_run s s.peerAddress state
  rw [hip, haddress]
  exact ⟨rfl, rfl, rfl, .peerIp s _⟩

theorem peerPort_retells (s : Socket) (state : σ) :
    Retells s .peerPort .peerAddress ((s.perform .peerPort).run k state)
      ((s.perform .peerAddress).run k state) := by
  have hport : (s.perform .peerPort).run k state = _ :=
    keeping_map_run s s.peerAddress (Except.map Endpoint.port) state
  have haddress : (s.perform .peerAddress).run k state = _ := keeping_run s s.peerAddress state
  rw [hport, haddress]
  exact ⟨rfl, rfl, rfl, .peerPort s _⟩

theorem isDead_retells (s : Socket) (state : σ) :
    Retells s .isDead (.receive 1) ((s.perform .isDead).run k state)
      ((s.perform (.receive 1)).run k state) := by
  have hdead : (s.perform .isDead).run k state = _ :=
    keeping_map_run s (s.receive 1) (fun r => r.1.isDisconnected) state
  have hread : (s.perform (.receive 1)).run k state = _ := keeping_run s (s.receive 1) state
  rw [hdead, hread]
  exact ⟨rfl, rfl, rfl, .isDead s _⟩

/-- Closing and dropping a handle make the same call, whatever its reply. -/
theorem close_calls_drop (s : Socket) (state : σ) :
    (s.close.run k state).kernel = (s.drop.run k state).kernel ∧
      answered (s.close.run k state).events = answered (s.drop.run k state).events := by
  cases h : k.answer state (.close s.descriptor) with
  | mk reply state' =>
    cases reply with
    | error e => simp [close, drop, ask, note, request, run, h]
    | ok answer =>
      obtain rfl : answer = () := rfl
      simp [close, drop, ask, note, request, run, h]

end Socket

/-! ## Runs -/

namespace World

variable {σ : Type} {k : Kernel σ} {w w' : World σ}

/-- Two commands that come to the same thing in a world. -/
structure Swaps (k : Kernel σ) (w : World σ) (c c' : Command) : Prop where
  kernel : (w.effect k c).kernel = (w.effect k c').kernel
  sockets : (w.effect k c).live.map LiveSocket.socket = (w.effect k c').live.map LiveSocket.socket
  shown : (w.observe k c).Agrees (w.observe k c')

theorem swaps_self (k : Kernel σ) (w : World σ) (c : Command) : Swaps k w c c :=
  ⟨rfl, rfl, .refl _, rfl⟩

theorem Swaps.symm {c c' : Command} (h : Swaps k w c c') : Swaps k w c' c :=
  ⟨h.kernel.symm, h.sockets.symm, h.shown.report.symm, h.shown.entries.symm⟩

/-- Operations that come to the same thing do so on the handle under a number. -/
theorem swaps_perform (index : Nat) {operation operation' : Operation}
    (hnone : ∀ r, operation.accepted r = []) (hnone' : ∀ r, operation'.accepted r = [])
    (h : ∀ (s : Socket) (state : σ), Socket.Retells s operation operation'
      ((s.perform operation).run k state) ((s.perform operation').run k state)) :
    Swaps k w (.perform index operation) (.perform index operation') := by
  cases hi : w.live[index]? with
  | none =>
    have hidle : ∀ op, w.effect k (.perform index op) = ⟨w.kernel, w.live, []⟩ ∧
        w.report k (.perform index op) = .idle := by
      intro op
      simp [effect, withHandle, report, tellOf, hi]
    refine ⟨?_, ?_, ?_, ?_⟩ <;>
      simp only [observe, (hidle operation).1, (hidle operation').1, (hidle operation).2,
        (hidle operation').2, Report.Agrees.refl]
  | some x =>
    have hretells := h x.socket w.kernel
    have heffect : ∀ op, w.effect k (.perform index op) =
        w.putBack index x op ((x.socket.perform op).run k w.kernel) := by
      intro op
      simp only [effect, withHandle, hi]
    refine ⟨?_, ?_, ?_, ?_⟩
    · rw [heffect, heffect]
      exact hretells.kernel
    · rw [heffect, heffect, sockets_putBack, sockets_putBack, hnone, hnone', hretells.handle]
    · rw [observe_perform k hi, observe_perform k hi]
      exact .inl hretells.told
    · rw [observe_perform k hi, observe_perform k hi]
      show unlogged (booked _) = unlogged (booked _)
      rw [unlogged_booked, unlogged_booked, hretells.calls]

theorem swaps_drop (index : Nat) : Swaps k w (.close index) (.drop index) := by
  cases hi : w.live[index]? with
  | none =>
    have hclose : w.observe k (.close index) = w.observe k (.drop index) := by
      simp only [observe, effect, withHandle, report, tellOf, hi]
    refine ⟨?_, ?_, ?_, ?_⟩
    · simp only [effect, withHandle, hi]
    · simp only [effect, withHandle, hi]
    · rw [hclose]
      exact .refl _
    · rw [hclose]
  | some x =>
    obtain ⟨hkernel, hcalls⟩ := x.socket.close_calls_drop (k := k) w.kernel
    have hclose : w.effect k (.close index) = w.retire index (x.socket.close.run k w.kernel) := by
      simp only [effect, withHandle, hi]
    have hdrop : w.effect k (.drop index) = w.retire index (x.socket.drop.run k w.kernel) := by
      simp only [effect, withHandle, hi]
    refine ⟨?_, ?_, ?_, ?_⟩
    · rw [hclose, hdrop]
      exact hkernel
    · rw [hclose, hdrop]
      rfl
    · simp only [observe, report, tellOf, hi]
      exact .inl (.drop _)
    · rw [observe, observe, hclose, hdrop]
      show unlogged (booked _) = unlogged (booked _)
      rw [unlogged_booked, unlogged_booked, hcalls]

/-- **A call and its counterpart come to the same thing**, in every world. -/
theorem swaps_of_counterpart {c c' : Call} (h : Counterpart c c') :
    Swaps k w c.command c'.command := by
  cases h with
  | tryBind index source =>
    exact swaps_perform index (fun _ => rfl) (fun _ => rfl) fun s _ => s.bind_retells _ _
  | bindIpv4 index ip port =>
    exact swaps_perform index (fun _ => rfl) (fun _ => rfl) fun s _ => s.bindIpv4_retells _ _ _
  | address index operation hsame =>
    rw [Call.command, Call.command, hsame.address_eq]
    exact swaps_self k w _
  | peerIp index =>
    exact swaps_perform index (fun _ => rfl) (fun _ => rfl) fun s _ => s.peerIp_retells _
  | peerPort index =>
    exact swaps_perform index (fun _ => rfl) (fun _ => rfl) fun s _ => s.peerPort_retells _
  | isDead index =>
    exact swaps_perform index (fun _ => rfl) (fun _ => rfl) fun s _ => s.isDead_retells _
  | drop index => exact swaps_drop index

theorem swaps_of_interchangeable {c c' : Call} (h : Interchangeable c c') :
    Swaps k w c.command c'.command := by
  cases h with
  | same => exact swaps_self k w _
  | there h => exact swaps_of_counterpart h
  | back h => exact (swaps_of_counterpart h).symm

/-- Calls with what they show: one call shows the same, exchanged calls agree. -/
def Agree (p p' : Call × Observation) : Prop := p.2.Agrees p'.2 ∧ (p.1 = p'.1 → p.2 = p'.2)

/-- Each call with what it shows. -/
def seen (k : Kernel σ) (w : World σ) (calls : List Call) : List (Call × Observation) :=
  calls.zip (w.observed k (commands calls))

/-- One call, left as it is or exchanged, from worlds that are alike. -/
theorem exchange_step {c c' : Call} (h : Interchangeable c c') (halike : w.Alike w') :
    Agree (c, w.observe k c.command) (c', w'.observe k c'.command) ∧
      (w.exec k c.command).Alike (w'.exec k c'.command) := by
  have hswaps : Swaps k w c.command c'.command := swaps_of_interchangeable h
  have heffect := halike.effect (k := k) c'.command
  have hshown : ∀ command, w.observe k command = w'.observe k command := by
    intro command
    rw [observe, observe, halike.report, (halike.effect command).entries]
  refine ⟨⟨?_, ?_⟩, ?_⟩
  · show (w.observe k c.command).Agrees (w'.observe k c'.command)
    rw [← hshown]
    exact hswaps.shown
  · rintro rfl
    exact hshown c.command
  · exact ⟨hswaps.kernel.trans heffect.kernel, hswaps.sockets.trans heffect.sockets⟩

/-- Exchanged calls agree along the run, and lead to worlds that are alike. -/
theorem exchange_run {calls calls' : List Call} (h : List.Forall₂ Interchangeable calls calls') :
    ∀ {w w' : World σ}, w.Alike w' → List.Forall₂ Agree (w.seen k calls) (w'.seen k calls') ∧
      (w.run k (commands calls)).Alike (w'.run k (commands calls')) := by
  induction h with
  | nil => exact fun halike => ⟨.nil, halike⟩
  | cons hc _ ih =>
    intro w w' halike
    obtain ⟨hagree, hnext⟩ := exchange_step (k := k) hc halike
    obtain ⟨hrest, hend⟩ := ih hnext
    exact ⟨.cons hagree hrest, hend⟩

/-- Two runs that differ in which of several entry points their calls take.

* `shown` — call for call: the same system calls with the same arguments and replies, and the same
  told in their own ways; a call that was not exchanged shows the same altogether.
* `alike` — at every moment the kernel and all handles are the same. -/
structure Exchanged (k : Kernel σ) (w : World σ) (calls calls' : List Call) : Prop where
  shown : List.Forall₂ Agree (w.seen k calls) (w.seen k calls')
  alike : ∀ n, (w.run k (commands (calls.take n))).Alike (w.run k (commands (calls'.take n)))

/-- **Entry points can be exchanged in any run**, on any kernel, from any world: a program that
takes others for some of its calls makes the same system calls, has the same handles and is told the
same; nothing but log records may differ. -/
theorem entry_points_interchangeable (k : Kernel σ) (w : World σ) {calls calls' : List Call}
    (h : List.Forall₂ Interchangeable calls calls') : Exchanged k w calls calls' where
  shown := (exchange_run h ⟨rfl, rfl⟩).1
  alike n := (exchange_run (List.forall₂_take n h) ⟨rfl, rfl⟩).2

/-- On a host: a program, and another that takes other entry points for all but one of its calls. -/
theorem entry_points_interchangeable_on_host :
    let loopback : Octets := ⟨127, 0, 0, 1⟩
    let calls : List Call := [.plain .makeUdp, .bindIpv4 0 (.octets loopback) 7000,
      .toAddress 0 .bind (.build 0x7F000001 7001), .toAddress 0 .connect (.ofPair loopback 9),
      .plain (.perform 0 .peerIp), .plain (.perform 0 (.receive 1)), .plain (.drop 0)]
    let calls' : List Call := [.plain .makeUdp, .toAddress 0 .bind (.new 0x7F000001 7000),
      .toAddress 0 .tryBind (.build 0x7F000001 7001),
      .toAddress 0 .connect (.clone (.ofStandard loopback 9)), .plain (.perform 0 .peerAddress),
      .plain (.perform 0 .isDead), .plain (.close 0)]
    Exchanged Host.kernel (start (Host.boot []) fun _ => none) calls calls' := by
  intro loopback calls calls'
  have hip : (IpArgument.octets loopback).toIpv4.value = 0x7F000001 := by decide
  have hbind : Counterpart (.bindIpv4 0 (.octets loopback) 7000)
      (.toAddress 0 .bind (.new 0x7F000001 7000)) := by
    rw [← hip]
    exact .bindIpv4 0 (.octets loopback) 7000
  have hconnect : Counterpart (.toAddress 0 .connect (.ofPair loopback 9))
      (.toAddress 0 .connect (.clone (.ofStandard loopback 9))) :=
    .address 0 .connect (.values rfl rfl)
  exact entry_points_interchangeable Host.kernel _ (.cons (.same _) (.cons (.there hbind)
    (.cons (.there (.tryBind 0 _)) (.cons (.there hconnect) (.cons (.there (.peerIp 0))
      (.cons (.back (.isDead 0)) (.cons (.back (.drop 0)) .nil)))))))

end World
end SocketLayer
