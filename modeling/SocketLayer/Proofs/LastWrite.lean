import SocketLayer.Proofs.LifecycleOrder
import SocketLayer.Proofs.OptionRegisters

/-!
# The last setter wins

On a kernel that keeps one value of each option, a getter of a handle gives what the last setter of
the same option gave on the same handle, whatever else a program did in between: with other options,
with other handles, with the handle itself. Without such a setter it gives what it gave before.

* `Tunable.gave?`, `Observation.gave?` — what an operation or a command gave to an option.
* `perform_gives`, `observe_gives` — the kernel took that as the last value, and nothing else.
* `reading_exec`, `reading_run` — what a getter gives after a command, and after a run.
* `reading_tcp` — a non-blocking TCP handle starts with its address reusable.
* `last_setter_wins` — all of this on every kernel that keeps options and rounds sizes.
-/

set_option autoImplicit false

namespace SocketLayer

/-! ## What an operation gives to an option -/

/-- What follows the first call of a run is the run of a program. -/
theorem Program.run_after_call {α σ : Type} {k : Kernel σ} {program : Program α} {s : σ}
    {c : SystemCall} {reply : Reply c} {rest : List Event}
    (h : (program.run k s).events = .called c reply :: rest) :
    ∃ (next : Program α) (s' : σ), (next.run k s').events = rest ∧
      (next.run k s').kernel = (program.run k s).kernel := by
  cases program with
  | done a => cases h
  | call c' next => exact ⟨_, _, (List.cons.inj h).2, rfl⟩
  | log entry next => cases h

namespace Tunable

/-- The argument that the option's setter gave, if the kernel took it. -/
def set? : (t : Tunable) → (operation : Operation) → operation.Result → Option t.Argument
  | .sendBuffer, .setSendBufferSize size, .ok _ => some size
  | .receiveBuffer, .setReceiveBufferSize size, .ok _ => some size
  | .linger, .setLinger time, .ok _ => some time
  | .reuseAddress, .setReuseAddress on, .ok _ => some on
  | .reusePort, .setReusePort on, .ok _ => some on
  | .tcpNoDelay, .setTcpNoDelay on, .ok _ => some on
  | _, _, _ => none

/-- The argument that an operation gave to an option, if the kernel took it: by the option's setter,
or by a profile as far as it was applied. -/
def gave? (t : Tunable) (s : Socket) (events : List Event) :
    (operation : Operation) → operation.Result → Option t.Argument
  | .apply p, _ =>
    if given s.descriptor t.name events = [] then none else p.argument? s.transport t
  | operation, result => t.set? operation result

end Tunable

/-- A call does not ask for a buffer of a negative size. -/
def SystemCall.SizeFits : SystemCall → Prop
  | .setWord _ .sendBuffer size | .setWord _ .receiveBuffer size => 0 ≤ size
  | _ => True

namespace Operation

variable {s : Socket} {operation : Operation} {c : SystemCall}

/-- No operation asks for a buffer of a negative size. -/
theorem Issues.sizeFits (h : operation.Issues s c) : c.SizeFits := by
  cases operation with
  | apply p =>
    have hwants := OptionProfile.wants_of_mem_plan h
    generalize s.transport = transport at hwants
    cases hwants with
    | receiveBuffer | sendBuffer => exact StatusCode.ofCount_nonneg _
    | _ => trivial
  | setSendBufferSize _ | setReceiveBufferSize _ =>
    cases h
    exact StatusCode.ofCount_nonneg _
  | configureNonBlocking => rcases h with rfl | ⟨flags, rfl⟩ <;> trivial
  | receive _ | peek _ =>
    obtain ⟨-, rfl⟩ := h
    trivial
  | _ =>
    cases h
    trivial

/-- The operations that set options which a handle also reads. -/
def isTuning : Operation → Bool
  | .setSendBufferSize _ | .setReceiveBufferSize _ | .setLinger _ | .setReuseAddress _
  | .setReusePort _ | .setTcpNoDelay _ | .apply _ => true
  | _ => false

/-- No other operation makes a call for such an option. -/
theorem Issues.option_ne (hop : operation.isTuning = false) (h : operation.Issues s c)
    (t : Tunable) : c.option? ≠ some t.name := by
  cases operation with
  | setSendBufferSize _ | setReceiveBufferSize _ | setLinger _ | setReuseAddress _
  | setReusePort _ | setTcpNoDelay _ | apply _ => cases hop
  | configureNonBlocking => rcases h with rfl | ⟨flags, rfl⟩ <;> nofun
  | receive _ | peek _ =>
    obtain ⟨-, rfl⟩ := h
    nofun
  | setMulticastTtl _ | setMulticastLoop _ =>
    cases h
    cases t <;> nofun
  | _ =>
    cases h
    nofun

end Operation

namespace Socket

open Program

/-- What an operation gave to an option is the last value that the kernel took for it. -/
def GaveLast (s : Socket) (t : Tunable) (operation : Operation) (events : List Event)
    (r : operation.Result) : Prop :=
  (given s.descriptor t.name events).getLast? = (t.gave? s events operation r).map t.encode

/-- **What an operation gave to an option is the last value that the kernel took for it.** -/
theorem perform_gives (s : Socket) (operation : Operation) (t : Tunable) :
    (s.perform operation).Ensures fun events r => GaveLast s t operation events r.1 := by
  cases operation with
  | apply p =>
    refine keeping_runs ((apply_runs p s).mono fun events outcome h => ?_)
    show (given s.descriptor t.name events).getLast? =
      (if given s.descriptor t.name events = [] then none
        else p.argument? s.transport t).map t.encode
    split
    · rename_i hnone
      rw [hnone]
      rfl
    · rename_i hsome
      rw [← p.wanted_eq_argument]
      exact getLast_of_all (fun value => OptionProfile.given_wanted h)
        fun hnone => absurd hnone hsome
  | setSendBufferSize _ | setReceiveBufferSize _ | setLinger _ | setReuseAddress _
  | setReusePort _ | setTcpNoDelay _ =>
    refine keeping_runs ((ensures_ask _ _ _).mpr ⟨fun answer => ?_, fun e => ?_⟩)
    · cases t <;>
        simp [GaveLast, given, Event.gives?, SystemCall.gives?, Tunable.gave?, Tunable.set?,
          Tunable.encode]
    · cases t <;> rfl
  | _ =>
    refine (perform_issues s _).mono fun events r h => ?_
    have hgiven : given s.descriptor t.name events = [] := by
      refine given_of_calls fun e he c hc => SystemCall.gives_none_of_option ?_
      exact (h e he c hc).option_ne rfl t
    rw [GaveLast, hgiven]
    cases t <;> rfl

/-- An operation gives nothing to the options of other handles. -/
theorem perform_gives_none (s : Socket) (operation : Operation) {fd : Descriptor}
    (hfd : s.descriptor ≠ fd) (name : OptionName) :
    (s.perform operation).Ensures fun events _ => given fd name events = [] := by
  refine (perform_issues s operation).mono fun events r h => ?_
  refine given_of_calls fun e he c hc => SystemCall.gives_none_of_subject ?_
  rw [(h e he c hc).subject]
  exact fun hsame => hfd (Option.some.inj hsame)

/-! ## Making and ending a handle -/

section Ends

variable {fd fd' : Descriptor} {name : OptionName} {events : List Event}

theorem SwitchRun.given_nil {on : Bool} {r : Except Errno Unit} (h : SwitchRun fd' on events r) :
    given fd name events = [] := by
  cases h <;> cases name <;> rfl

theorem SwitchRun.not_reassigns {on : Bool} {r : Except Errno Unit}
    (h : SwitchRun fd' on events r) : ∀ e ∈ events, ¬ e.Reassigns fd := by
  cases h <;> simp [Event.Reassigns, Event.obtained?, Event.closed?]

theorem DropRun.given_nil (h : DropRun fd' events ()) : given fd name events = [] := by
  cases h <;> cases name <;> rfl

theorem CloseRun.given_nil {r : Except NetError Unit} (h : CloseRun fd' events r) :
    given fd name events = [] := by
  cases h <;> cases name <;> rfl

/-- A constructor gives nothing to the options of other handles. -/
theorem TcpRun.given_nil {blocking : Bool} {r : Except NetError Socket}
    (h : TcpRun blocking events r) (hfd : ∀ e ∈ events, ¬ e.Reassigns fd) :
    given fd name events = [] := by
  cases h with
  | refused _ e | blocking fd' => cases name <;> rfl
  | unswitched fd' e hs hd | unshared fd' e hs hd =>
    simp only [List.cons_append, given_cons, given_append, hs.given_nil, hd.given_nil]
    cases name <;> rfl
  | made fd' hs =>
    have hother : fd ≠ fd' := by
      rintro rfl
      exact hfd _ List.mem_cons_self (.inl rfl)
    have hgives : (Event.called (.setWord fd' .reuseAddress 1) (.ok ())).gives? fd name = none :=
      SystemCall.setWord_gives_none fun hsame => hother hsame.2
    simp only [List.cons_append, given_cons, given_append, hs.given_nil, hgives]
    cases name <;> rfl

theorem UdpRun.given_nil {r : Except NetError Socket} (h : UdpRun events r) :
    given fd name events = [] := by
  cases h with
  | refused e => cases name <;> rfl
  | unswitched fd' e hs hd =>
    simp only [List.cons_append, given_cons, given_append, hs.given_nil, hd.given_nil]
    cases name <;> rfl
  | made fd' hs =>
    simp only [List.cons_append, given_cons, given_append, hs.given_nil]
    cases name <;> rfl

end Ends

end Socket

/-! ## Commands -/

/-- The argument that a command gave to an option of a descriptor, if the kernel took it. -/
def Observation.gave? (o : Observation) (fd : Descriptor) (t : Tunable) : Option t.Argument :=
  match o.report with
  | .performed s operation result =>
    if s.descriptor = fd then t.gave? s o.events operation result else none
  | _ => none

namespace World

variable {σ : Type} {k : Kernel σ}

/-- An effect is that of one program on the kernel, or of none. -/
def RunsOne (k : Kernel σ) (w : World σ) (e : Effect σ) : Prop :=
  ∃ (α : Type) (program : Program α), e.kernel = (program.run k w.kernel).kernel ∧
    e.entries.filterMap Entry.event? = (program.run k w.kernel).events

theorem runsOne_program {α : Type} (program : Program α) (w : World σ) (live : List LiveSocket) :
    let run := program.run k w.kernel
    RunsOne k w ⟨run.kernel, live, run.events.map .event⟩ :=
  ⟨α, program, rfl, Observation.events_map_event .idle _⟩

theorem runsOne_none (w : World σ) (live : List LiveSocket) {entries : List Entry}
    (h : entries.filterMap Entry.event? = []) : RunsOne k w ⟨w.kernel, live, entries⟩ :=
  ⟨Unit, .done (), rfl, h⟩

/-- A command runs one program on the kernel, or none. -/
theorem effect_runs (k : Kernel σ) (w : World σ) (c : Command) : RunsOne k w (w.effect k c) := by
  cases c with
  | makeTcp blocking => exact runsOne_program (Socket.tcp blocking) w _
  | makeUdp => exact runsOne_program Socket.udp w _
  | adopt raw transport state =>
    unfold effect
    dsimp only
    split <;> exact runsOne_none w _ rfl
  | perform index operation =>
    exact withHandle_cases (fun _ => runsOne_none w _ rfl) fun h _ => runsOne_program _ w _
  | release index =>
    exact withHandle_cases (fun _ => runsOne_none w _ rfl) fun h _ => runsOne_none w _ rfl
  | close index | drop index =>
    exact withHandle_cases (fun _ => runsOne_none w _ rfl) fun h _ => runsOne_program _ w _
  | elsewhere fd status => exact runsOne_none w _ rfl

/-- What a command gave to an option is the last value that the kernel took for it. -/
def GaveLast (fd : Descriptor) (t : Tunable) (o : Observation) : Prop :=
  (∀ e ∈ o.events, ¬ e.Reassigns fd) →
    (given fd t.name o.events).getLast? = (o.gave? fd t).map t.encode

theorem gaveLast_of_none {fd : Descriptor} {t : Tunable} {report : Report} {events : List Event}
    (hevents : (∀ e ∈ events, ¬ e.Reassigns fd) → given fd t.name events = [])
    (hreport : (⟨report, events.map .event⟩ : Observation).gave? fd t = none) :
    GaveLast fd t ⟨report, events.map .event⟩ := by
  intro hfd
  rw [Observation.events_map_event] at hfd ⊢
  rw [hevents hfd, hreport]
  rfl

theorem gaveLast_performed {fd : Descriptor} {t : Tunable} {s : Socket} {operation : Operation}
    {events : List Event} {r : operation.Result} (hown : Socket.GaveLast s t operation events r)
    (hother : s.descriptor ≠ fd → given fd t.name events = []) :
    GaveLast fd t ⟨.performed s operation r, events.map .event⟩ := by
  intro _
  show (given fd t.name (Observation.mk _ _).events).getLast? = (if s.descriptor = fd then
    t.gave? s (Observation.mk _ _).events operation r else none).map t.encode
  rw [Observation.events_map_event]
  split
  · rename_i hsame
    subst hsame
    exact hown
  · rename_i hne
    rw [hother hne]
    rfl

/-- **What a command gave to an option is the last value that the kernel took for it.** -/
theorem observe_gives (k : Kernel σ) (w : World σ) (c : Command) (fd : Descriptor) (t : Tunable) :
    GaveLast fd t (w.observe k c) := by
  cases c with
  | makeTcp blocking =>
    exact gaveLast_of_none ((Socket.tcp_runs blocking).run k w.kernel).given_nil rfl
  | makeUdp => exact gaveLast_of_none (fun _ => (Socket.udp_runs.run k w.kernel).given_nil) rfl
  | adopt raw transport state =>
    unfold observe effect
    dsimp only
    split <;> exact fun _ => rfl
  | perform index operation =>
    refine of_handle (fun _ => rfl) fun h => ?_
    exact gaveLast_performed ((Socket.perform_gives h.socket operation t).run k w.kernel)
      fun hne => (Socket.perform_gives_none h.socket operation hne t.name).run k w.kernel
  | release index => exact of_handle (fun _ => rfl) fun h _ => rfl
  | close index =>
    exact of_handle (fun _ => rfl) fun h =>
      gaveLast_of_none (fun _ => ((Socket.close_runs _).run k w.kernel).given_nil) rfl
  | drop index =>
    exact of_handle (fun _ => rfl) fun h =>
      gaveLast_of_none (fun _ => ((Socket.drop_runs _).run k w.kernel).given_nil) rfl
  | elsewhere fd status => exact fun _ => rfl

/-! ## What the getters give -/

section Readings

variable {store : σ → OptionStore}
  {keep : Descriptor → (name : OptionName) → name.Value → name.Value}

/-- A command sets what the getter of an option gives, or leaves it as it was. -/
theorem reading_exec (h : KeepsOptions k store keep) (w : World σ) (c : Command) {fd : Descriptor}
    (hfd : ∀ e ∈ (w.observe k c).events, ¬ e.Reassigns fd) (t : Tunable) :
    t.decode (store (w.exec k c).kernel fd t.name) =
      settled (t.readBack (keep fd)) (t.decode (store w.kernel fd t.name))
        ((w.observe k c).gave? fd t).toList := by
  obtain ⟨α, program, hkernel, hrun⟩ := effect_runs k w c
  have hevents : (w.observe k c).events = (program.run k w.kernel).events := hrun
  have hgave := observe_gives k w c fd t hfd
  rw [hevents] at hfd hgave
  calc t.decode (store (w.effect k c).kernel fd t.name)
      = t.decode (settled (keep fd t.name) (store w.kernel fd t.name)
          (given fd t.name (program.run k w.kernel).events)) := by
        rw [hkernel, h.run program w.kernel hfd]
    _ = settled (t.readBack (keep fd)) (t.decode (store w.kernel fd t.name))
          ((w.observe k c).gave? fd t).toList := by
        rw [settled_of_getLast hgave, Option.toList_map, Tunable.decode_settled]

/-- **After a run the getter of an option gives what was given to it last**, or what it gave
before. -/
theorem reading_run (h : KeepsOptions k store keep) (commands : List Command) (w : World σ)
    {fd : Descriptor} (hfd : ∀ e ∈ shown (w.observed k commands), ¬ e.Reassigns fd) (t : Tunable) :
    t.decode (store (w.run k commands).kernel fd t.name) =
      settled (t.readBack (keep fd)) (t.decode (store w.kernel fd t.name))
        ((w.observed k commands).filterMap (·.gave? fd t)) := by
  induction commands generalizing w with
  | nil => rfl
  | cons c rest ih =>
    obtain ⟨hfirst, hrest⟩ := List.forall_mem_append.mp hfd
    calc t.decode (store ((w.exec k c).run k rest).kernel fd t.name)
        = settled (t.readBack (keep fd)) (t.decode (store (w.exec k c).kernel fd t.name))
            (((w.exec k c).observed k rest).filterMap (·.gave? fd t)) := ih _ hrest
      _ = settled (t.readBack (keep fd)) (t.decode (store w.kernel fd t.name))
            ((w.observed k (c :: rest)).filterMap (·.gave? fd t)) := by
          rw [reading_exec h w c hfirst, observed, settled_filterMap_cons]

/-- A non-blocking TCP handle starts with its address reusable. -/
theorem reading_tcp (h : KeepsOptions k store keep) (w : World σ) {s : Socket}
    (hs : (w.observe k (.makeTcp false)).report = .made (.ok s)) :
    Tunable.decode .reuseAddress
        (store (w.exec k (.makeTcp false)).kernel s.descriptor (.word .reuseAddress)) =
      Tunable.readBack (keep s.descriptor) .reuseAddress true := by
  have hresult : ((Socket.tcp false).run k w.kernel).result = .ok s := Report.made.inj hs
  have hrun := (Socket.tcp_runs false).run k w.kernel
  rw [hresult] at hrun
  generalize hevents : ((Socket.tcp false).run k w.kernel).events = events at hrun
  cases hrun with
  | @made fd switch hswitch =>
    rw [List.cons_append] at hevents
    obtain ⟨next, state, hnext, hkernel⟩ := Program.run_after_call hevents
    have hfd : ∀ e ∈ (next.run k state).events, ¬ e.Reassigns fd := by
      rw [hnext, List.forall_mem_append]
      exact ⟨hswitch.not_reassigns, by simp [Event.Reassigns, Event.obtained?, Event.closed?]⟩
    have hgiven : given fd (.word .reuseAddress) (next.run k state).events = [1] := by
      have hgives : (Event.called (.setWord fd .reuseAddress 1) (.ok ())).gives? fd
          (.word .reuseAddress) = some 1 := SystemCall.setWord_gives 1
      rw [hnext, given_append, hswitch.given_nil, given_cons, hgives]
      rfl
    show Tunable.decode .reuseAddress (store ((Socket.tcp false).run k w.kernel).kernel fd _) = _
    rw [← hkernel, h.run next state hfd, hgiven]
    rfl

end Readings

/-- The options that handles set and read are registers of the kernel.

* `last` — after any run a getter gives what was given last to its own option of its own handle, or
  else what it gave before. Flags come back as they were, a linger time in whole seconds and at most
  the largest word, a size as the kernel rounds it, at most the largest word.
* `apart` — in particular, what other options and other handles were given changes nothing.
* `reusable` — making a non-blocking TCP handle counts as making its address reusable.
* `sizes` — the kernel is never asked for a negative size.

A run is meant in which the number of the handle's descriptor is not closed or made again. -/
structure Registers (k : Kernel σ) (send receive : Int32 → Int32) : Prop where
  last : ∀ (w : World σ) commands (s : Socket) (t : Tunable),
    (∀ e ∈ shown (w.observed k commands), ¬ e.Reassigns s.descriptor) → ∃ before,
      ((t.read s).run k w.kernel).result = .ok before ∧
        ((t.read s).run k (w.run k commands).kernel).result =
          .ok (settled (t.stored send receive) before
            ((w.observed k commands).filterMap (·.gave? s.descriptor t)))
  apart : ∀ (w : World σ) commands (s : Socket) (t : Tunable),
    (∀ e ∈ shown (w.observed k commands), ¬ e.Reassigns s.descriptor) →
    (∀ o ∈ w.observed k commands, o.gave? s.descriptor t = none) →
      ((t.read s).run k (w.run k commands).kernel).result = ((t.read s).run k w.kernel).result
  reusable : ∀ (w : World σ) commands (s : Socket),
    (w.observe k (.makeTcp false)).report = .made (.ok s) →
    let made := w.exec k (.makeTcp false)
    (∀ e ∈ shown (made.observed k commands), ¬ e.Reassigns s.descriptor) →
      (s.reuseAddress.run k (made.run k commands).kernel).result =
        .ok (settled id true
          ((made.observed k commands).filterMap (·.gave? s.descriptor .reuseAddress)))
  sizes : ∀ (s : Socket) (operation : Operation) (state : σ),
    AllCalls SystemCall.SizeFits ((s.perform operation).run k state).events

/-- **The last setter wins**: any options, any handles, any run, any kernel that keeps one value of
each option and rounds the sizes of buffers. -/
theorem last_setter_wins {store : σ → OptionStore} {send receive : Int32 → Int32}
    (h : KeepsOptions k store fun _ => Tunable.rounding send receive) :
    Registers k send receive := by
  have hread (w : World σ) (commands : List Command) (s : Socket) (t : Tunable)
      (hfd : ∀ e ∈ shown (w.observed k commands), ¬ e.Reassigns s.descriptor) :
      ((t.read s).run k (w.run k commands).kernel).result =
        .ok (settled (t.stored send receive) (t.decode (store w.kernel s.descriptor t.name))
          ((w.observed k commands).filterMap (·.gave? s.descriptor t))) := by
    rw [Tunable.read_run h, reading_run h commands w hfd, Tunable.readBack_rounding]
  refine ⟨?last, ?apart, ?reusable, ?sizes⟩
  case last =>
    intro w commands s t hfd
    exact ⟨_, Tunable.read_run h t s w.kernel, hread w commands s t hfd⟩
  case apart =>
    intro w commands s t hfd hother
    rw [hread w commands s t hfd, List.filterMap_eq_nil_iff.mpr hother, settled_nil]
    exact (Tunable.read_run h t s w.kernel).symm
  case reusable =>
    intro w commands s hs made hfd
    have hstart : Tunable.decode .reuseAddress
        (store made.kernel s.descriptor Tunable.reuseAddress.name) = true := by
      rw [reading_tcp h w hs, Tunable.readBack_rounding]
      rfl
    have hafter := hread made commands s .reuseAddress hfd
    rw [hstart] at hafter
    exact hafter
  case sizes =>
    intro s operation state e he c hc
    exact ((Socket.perform_issues s operation).run k state e he c hc).sizeFits

/-- A handle is configured, and configured again. -/
def tuning : List Command :=
  [.perform 0 (.setReuseAddress false), .perform 0 (.setSendBufferSize 5000),
    .perform 0 (.setLinger (some ⟨3, 500⟩)), .perform 0 (.setReceiveBufferSize 70000),
    .perform 0 (.setLinger none), .perform 0 (.setLinger (some ⟨0x80000000, 0⟩))]

/-- It holds on a registry that doubles the sizes of buffers, and its runs exist. -/
theorem last_setter_wins_on_registry :
    let k := Registry.doubling
    let made := (start Registry.start fun _ => none).exec k (.makeTcp false)
    let s : Socket := ⟨⟨0⟩, .tcp, .created, true⟩
    KeepsOptions k Registry.store (fun _ => Tunable.rounding (2 * ·) (2 * ·)) ∧
      Registers k (2 * ·) (2 * ·) ∧
      made.sockets = [s] ∧
      (∀ e ∈ shown (made.observed k tuning), ¬ e.Reassigns s.descriptor) ∧
      (s.linger.run k (made.run k tuning).kernel).result = .ok (some ⟨0x7FFFFFFF, 0⟩) ∧
      (s.sendBufferSize.run k (made.run k tuning).kernel).result = .ok 10000 ∧
      (s.reuseAddress.run k (made.run k tuning).kernel).result = .ok false :=
  ⟨Registry.keepsOptions, last_setter_wins Registry.keepsOptions, by decide, by decide, rfl, rfl,
    rfl⟩

end World

end SocketLayer
