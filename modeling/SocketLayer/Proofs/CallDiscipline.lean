import SocketLayer.Proofs.BlockingMode
import SocketLayer.Proofs.FailureReports
import SocketLayer.Proofs.Observation
import SocketLayer.Proofs.ProfilePlan

/-!
# Every operation makes its calls once

The layer asks the kernel, takes the answer and tells its caller; it never asks again. An
interrupted call, a call that would block and a call that moved fewer bytes than it was given are
told as they are. So the calls of an operation are known beforehand up to their number, and the
flags that they carry are the same in every run.

* `Switches`, `TcpSteps`, `SetupCalls` — the calls of a switch to non-blocking mode and of making a
  handle, with the one close that follows a failed step.
* `Operation.Withheld` — the operations that make no call at all.
* `Operation.Disciplined`, `perform_disciplined` — the calls of every operation on a handle.
* `SystemCall.Flagged` — what descriptors are made with and bytes are sent with.
* `calls_disciplined` — all of this for every command of every run.
-/

set_option autoImplicit false

namespace SocketLayer

/-- The system calls among events, with their replies. -/
def answered (events : List Event) : List Event := events.filter fun e => e.call?.isSome

@[simp] theorem answered_nil : answered [] = [] := rfl

@[simp] theorem answered_called (c : SystemCall) (reply : Reply c) (rest : List Event) :
    answered (.called c reply :: rest) = .called c reply :: answered rest := rfl

@[simp] theorem answered_logged (entry : LogRecord) (rest : List Event) :
    answered (.logged entry :: rest) = answered rest := rfl

@[simp] theorem answered_append (first second : List Event) :
    answered (first ++ second) = answered first ++ answered second := List.filter_append ..

theorem mem_calls_shown {c : SystemCall} {seen : List Observation} :
    c ∈ calls (shown seen) ↔ ∃ o ∈ seen, c ∈ calls o.events := by
  simp only [mem_calls, shown, List.mem_flatMap]
  constructor
  · rintro ⟨e, ⟨o, ho, he⟩, hc⟩
    exact ⟨o, ho, e, he, hc⟩
  · rintro ⟨o, ho, e, he, hc⟩
    exact ⟨e, ⟨o, ho, he⟩, hc⟩

/-! ## The calls of a setup -/

/-- Switching a descriptor to non-blocking mode reads its status flags, and writes them once, only
if the bit was clear. -/
inductive Switches (fd : Descriptor) : List Event → Prop
  | unread (e : Errno) : Switches fd [.called (.getFlags fd) (.error e)]
  | already {flags : StatusFlags} (h : flags.isNonBlocking = true) :
    Switches fd [.called (.getFlags fd) (.ok flags)]
  | written {flags : StatusFlags} (h : flags.isNonBlocking = false)
    (reply : Reply (.setFlags fd (flags.withNonBlocking true))) :
    Switches fd
      [.called (.getFlags fd) (.ok flags),
        .called (.setFlags fd (flags.withNonBlocking true)) reply]

/-- The steps that set up a TCP handle: none in blocking mode, else the switch and, if it worked,
the option that lets it rebind an address. -/
inductive TcpSteps (fd : Descriptor) : (blocking : Bool) → List Event → Prop
  | blocking : TcpSteps fd true []
  | unswitched {switch : List Event} (h : Switches fd switch) (hfailed : failures switch ≠ []) :
    TcpSteps fd false switch
  | shared {switch : List Event} (h : Switches fd switch) (hdone : failures switch = [])
    (reply : Reply (.setWord fd .reuseAddress 1)) :
    TcpSteps fd false (switch ++ [.called (.setWord fd .reuseAddress 1) reply])

/-- The calls of making a handle: the socket and its setup steps, and exactly one close more if a
step failed. -/
inductive SetupCalls (transport : Transport) (steps : Descriptor → List Event → Prop) :
    List Event → Prop
  | refused (e : Errno) : SetupCalls transport steps [.called (.socket transport true) (.error e)]
  | made (fd : Descriptor) {setup : List Event} (h : steps fd setup) (hdone : failures setup = []) :
    SetupCalls transport steps (.called (.socket transport true) (.ok fd) :: setup)
  | givenUp (fd : Descriptor) {setup : List Event} (h : steps fd setup)
    (hfailed : failures setup ≠ []) (reply : Reply (.close fd)) :
    SetupCalls transport steps
      (.called (.socket transport true) (.ok fd) :: setup ++ [.called (.close fd) reply])

/-! ## The calls of an operation -/

namespace Operation

/-- The operations that make no call: the position does not allow the call that they are for, or
they read into an empty buffer. -/
def Withheld (s : Socket) : Operation → Prop
  | .receive capacity | .peek capacity => capacity = 0
  | operation => ∃ c, operation.lifecycleCall? s = some c ∧ ¬ c.Permitted s.transport s.state

/-- The operations that make one call wherever the handle stands. -/
def isSingle : Operation → Bool
  | .configureNonBlocking | .apply _ | .receive _ | .peek _ | .bind _ | .bindIpv4 _ _ | .tryBind _
  | .listen _ | .accept | .connect _ => false
  | _ => true

theorem not_withheld {s : Socket} {operation : Operation} (hop : operation.isSingle = true) :
    ¬ operation.Withheld s := by
  cases operation with
  | configureNonBlocking | apply _ | receive _ | peek _ | bind _ | bindIpv4 _ _ | tryBind _
  | listen _ | accept | connect _ => cases hop
  | _ =>
    rintro ⟨c, hc, -⟩
    cases hc

/-- A lifecycle operation is withheld where the position does not allow its call. -/
theorem withheld_iff {s : Socket} {operation : Operation} {c : SystemCall}
    (hcall : operation.lifecycleCall? s = some c) :
    operation.Withheld s ↔ ¬ c.Permitted s.transport s.state := by
  have hguard : operation.Withheld s ↔ ∃ d, operation.lifecycleCall? s = some d ∧
      ¬ d.Permitted s.transport s.state := by
    cases operation with
    | receive _ | peek _ => cases hcall
    | _ => exact Iff.rfl
  rw [hguard, hcall]
  simp

/-- The call of an operation that is for one: made once, or not at all. -/
def MakesOne (s : Socket) (events : List Event) (operation : Operation) : Prop :=
  (operation.Withheld s ∧ calls events = []) ∨
    (¬ operation.Withheld s ∧ ∃ c, operation.Issues s c ∧ calls events = [c])

/-- The calls of an operation on a handle. A profile makes a part of its plan, from the first call
on, and no two calls of a plan set the same option. -/
def Disciplined (s : Socket) (events : List Event) : Operation → Prop
  | .configureNonBlocking => Switches s.descriptor events
  | .apply profile =>
    calls events <+: profile.plan s.descriptor s.transport ∧
      (profile.plan s.descriptor s.transport).Pairwise fun c d =>
        c.option? ≠ none ∧ d.option? ≠ none ∧ c.option? ≠ d.option?
  | operation => operation.MakesOne s events

theorem disciplined_of_single {s : Socket} {events : List Event} {operation : Operation}
    (hop : operation.isSingle = true) (h : operation.MakesOne s events) :
    operation.Disciplined s events := by
  cases operation with
  | configureNonBlocking | apply _ => cases hop
  | _ => exact h

end Operation

namespace SystemCall

/-- Descriptors are made to be closed on exec, and bytes are sent without a signal. -/
def Flagged : SystemCall → Prop
  | .socket _ closeOnExec | .accept _ _ closeOnExec => closeOnExec = true
  | .send _ _ noSignal | .sendTo _ _ noSignal _ => noSignal = true
  | _ => True

theorem IsSetup.flagged {c : SystemCall} (h : c.IsSetup) : c.Flagged := by
  cases c <;> trivial

end SystemCall

theorem Operation.Issues.flagged {s : Socket} {operation : Operation} {c : SystemCall}
    (h : operation.Issues s c) : c.Flagged := by
  cases operation with
  | configureNonBlocking =>
    obtain rfl | ⟨flags, rfl⟩ := h
    · trivial
    · trivial
  | receive capacity | peek capacity =>
    obtain ⟨-, rfl⟩ := h
    trivial
  | apply profile =>
    have hwants := OptionProfile.wants_of_mem_plan h
    generalize s.transport = transport at hwants
    cases hwants <;> trivial
  | accept | send _ | sendTo _ _ =>
    cases h
    rfl
  | _ =>
    cases h
    trivial

/-- A read asks to leave the bytes queued if and only if it serves a peek. -/
theorem Operation.Issues.peeks {s : Socket} {operation : Operation} {fd : Descriptor}
    {capacity : Nat} {peek : Bool} (h : operation.Issues s (.receive fd capacity peek)) :
    peek = true ↔ ∃ n, operation = .peek n := by
  cases operation with
  | configureNonBlocking => obtain h | ⟨flags, h⟩ := h <;> cases h
  | receive n =>
    obtain ⟨-, ⟨⟩⟩ := h
    simp
  | peek n =>
    obtain ⟨-, ⟨⟩⟩ := h
    simp
  | apply profile =>
    have hwants := OptionProfile.wants_of_mem_plan h
    generalize s.transport = transport at hwants
    cases hwants
  | isDead =>
    cases h
    simp
  | _ => cases h

namespace Socket

open Program

variable {s : Socket} {events : List Event}

theorem SwitchRun.switches {fd : Descriptor} {r : Except Errno Unit}
    (h : SwitchRun fd true events r) : Switches fd events := by
  cases h with
  | unread e => exact .unread e
  | already flags h => exact .already (flags.withNonBlocking_eq_self_iff.mp h)
  | unwritten flags h e =>
    exact .written (Bool.eq_false_iff.mpr (mt flags.withNonBlocking_eq_self_iff.mpr h)) _
  | switched flags h =>
    exact .written (Bool.eq_false_iff.mpr (mt flags.withNonBlocking_eq_self_iff.mpr h)) _

theorem ask_once (op : String) (c : SystemCall) :
    (ask op c).Ensures fun events _ => calls events = [c] :=
  (ensures_ask _ _ _).mpr ⟨fun _ => rfl, fun _ => rfl⟩

theorem peerAddress_once (s : Socket) :
    s.peerAddress.Ensures fun events _ => calls events = [.peerName s.descriptor] := by
  refine (peerAddress_runs s).mono fun events r h => ?_
  cases h <;> rfl

theorem changeMembership_once (s : Socket) (change : MembershipChange) (interface group : Ipv4) :
    (s.changeMembership change interface group).Ensures fun events _ =>
      calls events = [.changeMembership s.descriptor change group.octets interface.octets] := by
  rintro (e | ⟨⟩) <;> rfl

theorem SendRun.once {data : List UInt8} {r : Transfer} (h : SendRun s data events r) :
    calls events = [.send s.descriptor data true] := by
  cases h <;> rfl

/-- A read makes its call once, and none for an empty buffer. -/
theorem ReadRun.once {op : String} {peek : Bool} {capacity : Nat} {r : Transfer × List UInt8}
    (h : ReadRun op peek s capacity events r) :
    (capacity = 0 ∧ calls events = []) ∨
      (capacity ≠ 0 ∧ calls events = [.receive s.descriptor capacity peek]) := by
  cases h with
  | skipped h => exact .inl ⟨h, rfl⟩
  | ended h | received h | waiting h | lost h => exact .inr ⟨h, rfl⟩

/-- A lifecycle operation makes its call once where the position allows it. -/
theorem PerformRun.makesOne {operation : Operation} {r : operation.Result × Socket}
    (h : PerformRun s operation events r) {c : SystemCall}
    (hcall : operation.lifecycleCall? s = some c) (hissue : operation.Issues s c) :
    operation.MakesOne s events := by
  cases h.guarded hcall with
  | passed permitted one =>
    exact .inr ⟨fun hw => (Operation.withheld_iff hcall).mp hw permitted, c, hissue, one⟩
  | stopped denied none same answer => exact .inl ⟨(Operation.withheld_iff hcall).mpr denied, none⟩

/-- The one call of an operation that makes one wherever the handle stands. -/
theorem perform_once (s : Socket) {operation : Operation} (hop : operation.isSingle = true) :
    ∃ c, operation.Issues s c ∧
      (s.perform operation).Ensures fun events _ => calls events = [c] := by
  cases operation with
  | configureNonBlocking | apply _ | receive _ | peek _ | bind _ | bindIpv4 _ _ | tryBind _
  | listen _ | accept | connect _ => cases hop
  | isDead =>
    refine ⟨_, rfl, ensures_map (ensures_map ((read_runs _ _ s 1).mono fun events r h => ?_) _) _⟩
    obtain ⟨⟨⟩, -⟩ | ⟨-, hone⟩ := h.once
    exact hone
  | send data => exact ⟨_, rfl, ensures_map ((send_runs s data).mono fun _ _ h => h.once) _⟩
  | peerAddress => exact ⟨_, rfl, ensures_map (peerAddress_once s) _⟩
  | peerIp | peerPort => exact ⟨_, rfl, ensures_map (ensures_map (peerAddress_once s) _) _⟩
  | joinMulticast interface group | leaveMulticast interface group =>
    exact ⟨_, rfl, ensures_map (changeMembership_once s _ _ _) _⟩
  | linger | reuseAddress | reusePort | tcpNoDelay =>
    exact ⟨_, rfl, ensures_map (ensures_map (ask_once _ _) _) _⟩
  | register _ _ _ | reregister _ _ _ | deregister _ =>
    exact ⟨_, rfl, ensures_map ((ensures_request _ _).mpr fun _ => rfl) _⟩
  | _ => exact ⟨_, rfl, ensures_map (ask_once _ _) _⟩

/-- **Every operation makes its calls once**, whatever the kernel replies. -/
theorem perform_disciplined (s : Socket) (operation : Operation) :
    (s.perform operation).Ensures fun events _ => operation.Disciplined s events := by
  cases hop : operation.isSingle with
  | true =>
    obtain ⟨c, hissue, hone⟩ := perform_once s hop
    refine hone.mono fun events _ h => Operation.disciplined_of_single hop ?_
    exact .inr ⟨Operation.not_withheld hop, c, hissue, h⟩
  | false =>
    cases operation with
    | configureNonBlocking =>
      refine (configureNonBlocking_runs s).mono fun events r h => ?_
      cases h with
      | failed h | switched h => exact h.switches
    | apply profile =>
      refine ensures_map ((apply_runs profile s).mono fun events r h => ?_) _
      exact ⟨(OptionProfile.planRun_stops h).issued, profile.options_distinct _ _⟩
    | bind _ | bindIpv4 _ _ | tryBind _ | listen _ | accept | connect _ =>
      exact (perform_runs s _).mono fun _ _ h => h.makesOne rfl rfl
    | receive capacity | peek capacity =>
      refine ensures_map ((read_runs _ _ s capacity).mono fun events r h => ?_) _
      obtain ⟨hempty, hnone⟩ | ⟨hcapacity, hone⟩ := h.once
      · exact .inl ⟨hempty, hnone⟩
      · exact .inr ⟨hcapacity, _, ⟨hcapacity, rfl⟩, hone⟩
    | _ => cases hop

/-! ## The calls of making and ending a handle -/

theorem SwitchRun.failures_ne_nil {fd : Descriptor} {on : Bool} {e : Errno}
    (h : SwitchRun fd on events (.error e)) : SocketLayer.failures events ≠ [] := by
  obtain ⟨-, ⟨⟩⟩ | ⟨f, hf, -⟩ := h.failures
  rw [hf]
  exact List.cons_ne_nil _ _

theorem SwitchRun.answered {fd : Descriptor} {on : Bool} {r : Except Errno Unit}
    (h : SwitchRun fd on events r) : SocketLayer.answered events = events := by
  cases h <;> rfl

theorem DropRun.answered {fd : Descriptor} (h : DropRun fd events ()) :
    ∃ reply, SocketLayer.answered events = [.called (.close fd) reply] := by
  cases h with
  | closed => exact ⟨_, rfl⟩
  | failed e => exact ⟨_, rfl⟩

/-- Both constructors close their descriptor once after a failed step. -/
theorem givenUp_calls {transport : Transport} {steps : Descriptor → List Event → Prop}
    {fd : Descriptor} {setup ending : List Event} (h : steps fd setup)
    (hfailed : SocketLayer.failures setup ≠ []) (hd : DropRun fd ending ()) :
    SetupCalls transport steps
      (.called (.socket transport true) (.ok fd) :: (setup ++ SocketLayer.answered ending)) := by
  obtain ⟨reply, hending⟩ := hd.answered
  rw [hending]
  exact .givenUp fd h hfailed reply

theorem TcpRun.setupCalls {blocking : Bool} {r : Except NetError Socket}
    (h : TcpRun blocking events r) :
    SetupCalls .tcp (TcpSteps · blocking) (SocketLayer.answered events) := by
  cases h with
  | refused _ e => exact .refused e
  | blocking fd => exact .made fd .blocking rfl
  | unswitched fd e hs hd =>
    rw [answered_append, answered_called, answered_logged, hs.answered]
    exact givenUp_calls (.unswitched hs.switches hs.failures_ne_nil) hs.failures_ne_nil hd
  | @unshared fd e switch ending hs hd =>
    rw [answered_append, answered_called, answered_called, answered_logged, hs.answered]
    have hsteps : TcpSteps fd false
        (switch ++ [.called (.setWord fd .reuseAddress 1) (.error e)]) :=
      .shared hs.switches hs.failures_of_ok (.error e)
    have hfailed : SocketLayer.failures
        (switch ++ [.called (.setWord fd .reuseAddress 1) (.error e)]) ≠ [] := by
      rw [failures_append]
      exact List.append_ne_nil_of_right_ne_nil _ (List.cons_ne_nil _ _)
    have hgiven : SetupCalls .tcp (TcpSteps · false) _ := givenUp_calls hsteps hfailed hd
    rwa [List.append_assoc] at hgiven
  | @made fd switch hs =>
    have hdone : SocketLayer.failures
        (switch ++ [.called (.setWord fd .reuseAddress 1) (.ok ())]) = [] := by
      rw [failures_append, hs.failures_of_ok]
      rfl
    rw [answered_append, answered_called, answered_called, answered_logged, hs.answered]
    exact .made fd (.shared hs.switches hs.failures_of_ok (.ok ())) hdone

theorem UdpRun.setupCalls {r : Except NetError Socket} (h : UdpRun events r) :
    SetupCalls .udp Switches (SocketLayer.answered events) := by
  cases h with
  | refused e => exact .refused e
  | unswitched fd e hs hd =>
    rw [answered_append, answered_called, answered_logged, hs.answered]
    exact givenUp_calls hs.switches hs.failures_ne_nil hd
  | made fd hs =>
    rw [answered_append, answered_called, answered_logged, hs.answered, answered_nil,
      List.append_nil]
    exact .made fd hs.switches hs.failures_of_ok

theorem DropRun.once {fd : Descriptor} {r : Unit} (h : DropRun fd events r) :
    calls events = [.close fd] := by
  cases h <;> rfl

theorem CloseRun.once {fd : Descriptor} {r : Except NetError Unit} (h : CloseRun fd events r) :
    calls events = [.close fd] := by
  cases h <;> rfl

end Socket

/-! ## No call is made twice -/

section Nodup

variable {events : List Event}

theorem calls_answered (events : List Event) : calls (answered events) = calls events := by
  induction events with
  | nil => rfl
  | cons e rest ih =>
    cases e with
    | called c reply => exact congrArg (c :: ·) ih
    | logged entry => exact ih

/-- Calls of a setup, each made once, between the making of the socket and its close. -/
structure Between (transport : Transport) (fd : Descriptor) (setup : List Event) : Prop where
  nodup : (calls setup).Nodup
  socket : .socket transport true ∉ calls setup
  close : .close fd ∉ calls setup

theorem Switches.between {fd : Descriptor} (h : Switches fd events) (transport : Transport) :
    Between transport fd events := by
  cases h <;> exact ⟨by simp, by simp, by simp⟩

theorem TcpSteps.between {fd : Descriptor} {blocking : Bool} (h : TcpSteps fd blocking events) :
    Between .tcp fd events := by
  cases h with
  | blocking => exact ⟨by simp, by simp, by simp⟩
  | unswitched h => exact h.between .tcp
  | shared h hdone reply => cases h <;> exact ⟨by simp, by simp, by simp⟩

/-- A constructor makes no call twice. -/
theorem SetupCalls.nodup {transport : Transport} {steps : Descriptor → List Event → Prop}
    (h : SetupCalls transport steps events)
    (hsteps : ∀ fd setup, steps fd setup → Between transport fd setup) : (calls events).Nodup := by
  cases h with
  | refused e => simp
  | made fd h hdone =>
    obtain ⟨hnodup, hsocket, -⟩ := hsteps fd _ h
    exact List.nodup_cons.mpr ⟨hsocket, hnodup⟩
  | givenUp fd h hfailed reply =>
    obtain ⟨hnodup, hsocket, hclose⟩ := hsteps fd _ h
    have hsetup := List.nodup_cons.mpr ⟨hsocket, hnodup⟩
    rw [calls_append, calls_called, calls_called, calls_nil, List.nodup_append_comm]
    refine List.nodup_cons.mpr ⟨fun hmem => ?_, hsetup⟩
    rcases List.mem_cons.mp hmem with hsame | hmem
    · cases hsame
    · exact hclose hmem

/-- An operation makes no call twice. -/
theorem Operation.Disciplined.nodup {s : Socket} {operation : Operation}
    (h : operation.Disciplined s events) : (calls events).Nodup := by
  have hone (h : operation.MakesOne s events) : (calls events).Nodup := by
    rcases h with ⟨-, hnone⟩ | ⟨-, c, -, hone⟩
    · rw [hnone]
      exact List.nodup_nil
    · rw [hone]
      exact List.nodup_singleton c
  cases operation with
  | configureNonBlocking => exact (h.between .tcp).nodup
  | apply profile =>
    obtain ⟨hstart, hdistinct⟩ := h
    have hplan := hdistinct.imp fun {c d} (hcd : _ ∧ _ ∧ c.option? ≠ d.option?) =>
      fun (hsame : c = d) => hcd.2.2 (congrArg SystemCall.option? hsame)
    exact List.Nodup.sublist hstart.sublist hplan
  | _ => exact hone h

end Nodup

namespace World

variable {σ : Type}

/-- No command makes a call twice, whatever the kernel replies. -/
theorem observe_nodup (k : Kernel σ) (w : World σ) (c : Command) :
    (calls (w.observe k c).events).Nodup := by
  have hmade {transport : Transport} {steps : Descriptor → List Event → Prop} {events : List Event}
      (h : SetupCalls transport steps (answered events))
      (hsteps : ∀ fd setup, steps fd setup → Between transport fd setup) :
      (calls events).Nodup := by
    rw [← calls_answered]
    exact h.nodup hsteps
  have hended {events : List Event} {fd : Descriptor} (h : calls events = [.close fd]) :
      (calls events).Nodup := by
    rw [h]
    exact List.nodup_singleton _
  exact observe_cases (motive := fun _ events => (calls events).Nodup) k w c
    (fun h => hmade h.setupCalls fun _ _ hs => hs.between)
    (fun h => hmade h.setupCalls fun _ _ hs => hs.between .udp) (fun _ => List.nodup_nil)
    (fun s operation => (Socket.perform_disciplined s operation).mono fun _ _ h => h.nodup)
    (fun _ => List.nodup_nil) (fun h => hended h.once) (fun h => hended h.once) List.nodup_nil

/-- The calls of all commands are disciplined.

* `performed` — an operation on a handle makes one call, or none where it is withheld; only a switch
  to non-blocking mode and a profile make more, the one as many as the flag word asks for, the other
  one for each option at most.
* `tcp`, `udp` — a constructor makes the socket and its setup steps up to the first failure, which
  exactly one close follows.
* `ended` — closing and dropping a handle make one call.
* `passed` — taking a descriptor over and giving it away make none.
* `once` — no command makes a call twice, whatever the kernel replies to it.
* `flagged` — in every run descriptors are made to be closed on exec, and bytes are sent without a
  signal.
* `peeks` — in every run a read leaves the bytes queued if and only if it serves a peek. -/
structure CallsDisciplined (k : Kernel σ) (w : World σ) : Prop where
  performed : ∀ (index : Nat) (h : LiveSocket) (operation : Operation), w.live[index]? = some h →
    operation.Disciplined h.socket (w.observe k (.perform index operation)).events
  tcp : ∀ blocking, SetupCalls .tcp (TcpSteps · blocking)
    (answered (w.observe k (.makeTcp blocking)).events)
  udp : SetupCalls .udp Switches (answered (w.observe k .makeUdp).events)
  ended : ∀ (index : Nat) (h : LiveSocket), w.live[index]? = some h →
    ∀ c ∈ [Command.close index, .drop index],
      calls (w.observe k c).events = [.close h.socket.descriptor]
  passed : ∀ (index : Nat) raw transport state,
    calls (w.observe k (.release index)).events = [] ∧
      calls (w.observe k (.adopt raw transport state)).events = []
  once : ∀ c, (calls (w.observe k c).events).Nodup
  flagged : ∀ commands, ∀ c ∈ calls (shown (w.observed k commands)), c.Flagged
  peeks : ∀ commands, ∀ o ∈ w.observed k commands, ∀ fd capacity peek,
    .receive fd capacity peek ∈ calls o.events →
      (peek = true ↔ ∃ s n r, o.report = .performed s (.peek n) r)

/-- Every call of a command carries its flags. -/
theorem observe_flagged (k : Kernel σ) (w : World σ) (c : Command) :
    ∀ call ∈ calls (w.observe k c).events, call.Flagged := by
  intro call hcall
  obtain ⟨e, he, hc⟩ := mem_calls.mp hcall
  have hissues := observe_issues k w c e he call hc
  cases hreport : (w.observe k c).report with
  | performed s operation result =>
    rw [hreport] at hissues
    exact Operation.Issues.flagged hissues
  | _ =>
    rw [hreport] at hissues
    exact SystemCall.IsSetup.flagged hissues

/-- A read asks to leave the bytes queued if and only if a peek is told of. -/
theorem observe_peeks (k : Kernel σ) (w : World σ) (c : Command) {fd : Descriptor}
    {capacity : Nat} {peek : Bool}
    (hread : .receive fd capacity peek ∈ calls (w.observe k c).events) :
    peek = true ↔ ∃ s n r, (w.observe k c).report = .performed s (.peek n) r := by
  obtain ⟨e, he, hc⟩ := mem_calls.mp hread
  have hissues := observe_issues k w c e he _ hc
  cases hreport : (w.observe k c).report with
  | performed s operation result =>
    rw [hreport] at hissues
    rw [Operation.Issues.peeks hissues]
    constructor
    · rintro ⟨n, rfl⟩
      exact ⟨s, n, result, rfl⟩
    · rintro ⟨s', n, r, hsame⟩
      cases hsame
      exact ⟨n, rfl⟩
  | _ =>
    rw [hreport] at hissues
    cases hissues

/-- **Every operation makes its calls once, and with their flags**: any commands on any handles,
however reached, and any replies. -/
theorem calls_disciplined (k : Kernel σ) (w : World σ) : CallsDisciplined k w := by
  refine ⟨fun index h operation hi => ?performed, fun blocking => ?tcp, ?udp,
    fun index h hi c hc => ?ended, fun index raw transport state => ⟨?released, ?adopted⟩,
    observe_nodup k w, fun commands c hc => ?flagged, fun commands o ho fd capacity peek => ?peeks⟩
  case performed =>
    rw [observe_perform k hi, Observation.events_map_event]
    exact (Socket.perform_disciplined h.socket operation).run k w.kernel
  case tcp =>
    rw [observe, effect, enrol, Observation.events_map_event]
    exact ((Socket.tcp_runs blocking).run k w.kernel).setupCalls
  case udp =>
    rw [observe, effect, enrol, Observation.events_map_event]
    exact (Socket.udp_runs.run k w.kernel).setupCalls
  case ended =>
    simp only [List.mem_cons, List.not_mem_nil, or_false] at hc
    rcases hc with rfl | rfl
    · simp only [observe, effect, withHandle, hi, retire, Observation.events_map_event]
      exact ((Socket.close_runs h.socket).run k w.kernel).once
    · simp only [observe, effect, withHandle, hi, retire, Observation.events_map_event]
      exact ((Socket.drop_runs h.socket).run k w.kernel).once
  case released =>
    exact of_handle (motive := fun o => calls o.events = []) rfl fun _ => rfl
  case adopted =>
    simp only [observe, effect, Observation.events]
    cases Socket.adopt raw transport state <;> rfl
  case flagged =>
    obtain ⟨o, ho, hc⟩ := mem_calls_shown.mp hc
    have hflagged := observed_all (motive := fun o => ∀ c ∈ calls o.events, c.Flagged)
      (observe_flagged k) w commands
    exact hflagged o ho c hc
  case peeks =>
    exact observed_all (motive := fun o => .receive fd capacity peek ∈ calls o.events →
      (peek = true ↔ ∃ s n r, o.report = .performed s (.peek n) r))
      (fun w c => observe_peeks k w c) w commands o ho

end World
end SocketLayer
