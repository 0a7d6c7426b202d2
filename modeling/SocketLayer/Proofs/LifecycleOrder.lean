import SocketLayer.Proofs.LifecycleHistory

/-!
# Lifecycle calls reach the kernel in order

Whether a `bind`, `listen`, `accept` or `connect` call may be made is said here by the handle's past
alone: where it came from, and which calls succeeded on it. The operations decide by the position
that they track, and the two agree.

* `Origin.Permits` — the past allows a call.
* `permits_iff` — in an orderly past the position says the same.
* `PerformRun.guarded` — an operation makes its one call, or none and changes nothing.
* `lifecycle_in_order` — every call of every history was allowed, what is not allowed is refused
  without a call, and what is allowed is not refused.
-/

set_option autoImplicit false

namespace SocketLayer

/-- A run without system calls leaves the kernel as it was. -/
theorem Program.kernel_of_no_calls {α σ : Type} (k : Kernel σ) (program : Program α) (s : σ)
    (h : calls (program.run k s).events = []) : (program.run k s).kernel = s := by
  induction program with
  | done a => rfl
  | call c next ih => cases h
  | log entry next ih => exact ih h

/-- What the past of a handle allows. A handle that was taken over counts as having the past that
its position declares, and an accepted one as connected. -/
def Origin.Permits (origin : Origin) (past : List Event) : SystemCall → Prop
  | .bind .. => origin.state = .created ∧ ∀ e ∈ past, e.target? = none
  | .listen .. => origin.transport = .tcp ∧ origin.state ≠ .listening ∧
    origin.state ≠ .connected ∧ ∀ e ∈ past, e.target? ≠ some .listening ∧
      e.target? ≠ some .connected
  | .accept .. => origin.state = .listening ∨ ∃ e ∈ past, e.target? = some .listening
  | .connect .. => origin.state ≠ .listening ∧ ∀ e ∈ past, e.target? ≠ some .listening
  | _ => True

namespace Operation

/-- The call that a lifecycle operation is for. -/
def lifecycleCall? (s : Socket) : Operation → Option SystemCall
  | .bind address | .tryBind address => some (.bind s.descriptor address)
  | .bindIpv4 ip port => some (.bind s.descriptor (.ofEndpoint ⟨ip, port⟩))
  | .listen backlog => some (.listen s.descriptor backlog)
  | .accept => some (.accept s.descriptor s.nonBlocking true)
  | .connect address => some (.connect s.descriptor address)
  | _ => none

/-- The answer of an operation that the position does not allow. -/
def Refused (state : Lifecycle) : (operation : Operation) → operation.Result → Prop
  | .bind _, r | .bindIpv4 _ _, r => r = false
  | .tryBind _, r => r = .error (.invalidState "bind" state)
  | .listen _, r => r = .error (.invalidState "listen" state)
  | .accept, r => r = .error (.invalidState "accept" state)
  | .connect _, r => r = .error (.invalidState "connect" state)
  | _, _ => False

end Operation

/-! ## The past and the position -/

section Past

variable {origin : Origin} {past : List Event}

/-- Nothing moves back to the beginning. -/
theorem target_ne_created (e : Event) : e.target? ≠ some .created := by
  intro htarget
  rcases e.target_cases htarget with ⟨_, _, _, hgoal⟩ | ⟨_, _, _, hgoal⟩ | ⟨_, _, _, hgoal⟩
  all_goals cases hgoal

theorem replay_eq_created_iff (start : Lifecycle) (events : List Event) :
    replay start events = .created ↔ start = .created ∧ ∀ e ∈ events, e.target? = none := by
  induction events generalizing start with
  | nil => simp
  | cons e rest ih =>
    rw [replay_cons, ih, List.forall_mem_cons]
    cases htarget : e.target? with
    | none => simp
    | some goal =>
      have hgoal : goal ≠ .created := by
        rintro rfl
        exact target_ne_created e htarget
      simp [hgoal]

theorem replay_ne_final_iff {transport : Transport} {start goal : Lifecycle} {events : List Event}
    (h : Orderly transport start events) (hfinal : goal.Final) :
    replay start events ≠ goal ↔ start ≠ goal ∧ ∀ e ∈ events, e.target? ≠ some goal := by
  rw [ne_eq, replay_eq_final_iff h hfinal, not_or]
  simp

/-- In an orderly past the position allows what the past allows. -/
theorem permits_iff (h : Orderly origin.transport origin.state past) (call : SystemCall) :
    origin.Permits past call ↔ call.Permitted origin.transport (replay origin.state past) := by
  have hlistening : Lifecycle.Final .listening := .inl rfl
  have hconnected : Lifecycle.Final .connected := .inr rfl
  cases call with
  | bind fd address => exact (replay_eq_created_iff origin.state past).symm
  | listen fd backlog =>
    simp only [Origin.Permits, SystemCall.Permitted, replay_ne_final_iff h hlistening,
      replay_ne_final_iff h hconnected]
    constructor
    · rintro ⟨htcp, hl, hc, hpast⟩
      exact ⟨htcp, ⟨hl, fun e he => (hpast e he).1⟩, hc, fun e he => (hpast e he).2⟩
    · rintro ⟨htcp, ⟨hl, hpast⟩, hc, hpast'⟩
      exact ⟨htcp, hl, hc, fun e he => ⟨hpast e he, hpast' e he⟩⟩
  | accept fd nonBlocking closeOnExec => exact (replay_eq_final_iff h hlistening).symm
  | connect fd address => exact (replay_ne_final_iff h hlistening).symm
  | _ => exact Iff.rfl

end Past
namespace Socket

/-! ## One operation -/

/-- What a lifecycle operation may do: make its one call where the position allows it, or make none,
answer with a refusal and leave the handle as it was. -/
inductive Guarded (s : Socket) (call : SystemCall) (refused : Prop) (events : List Event)
    (t : Socket) : Prop
  | passed (permitted : call.Permitted s.transport s.state) (one : calls events = [call])
  | stopped (denied : ¬ call.Permitted s.transport s.state) (none : calls events = [])
    (same : t = s) (answer : refused)

variable {s : Socket} {events : List Event}

theorem TryBindRun.guarded {address : SocketAddress} {r : Except NetError Unit × Socket}
    (h : TryBindRun s address events r) :
    Guarded s (.bind s.descriptor address) (r.1 = .error (.invalidState "bind" s.state)) events
      r.2 := by
  cases h with
  | stopped h => exact .stopped h rfl rfl rfl
  | failed h e => exact .passed h rfl
  | moved h => exact .passed h rfl

theorem BindRun.guarded {address : SocketAddress} {r : Bool × Socket}
    (h : BindRun s address events r) :
    Guarded s (.bind s.descriptor address) (r.1 = false) events r.2 := by
  cases h with
  | refused h =>
    have hlog (first : List Event) (entry : LogRecord) :
        calls (first ++ [.logged entry]) = calls first := by
      simp [calls, Event.call?]
    cases h.guarded with
    | passed permitted one => exact .passed permitted (by rw [hlog, one])
    | stopped denied none same _ => exact .stopped denied (by rw [hlog, none]) same rfl
  | moved h =>
    cases h with
    | moved h => exact .passed h rfl

theorem ListenRun.guarded {backlog : Int32} {r : Except NetError Unit × Socket}
    (h : ListenRun s backlog events r) :
    Guarded s (.listen s.descriptor backlog) (r.1 = .error (.invalidState "listen" s.state)) events
      r.2 := by
  cases h with
  | stopped h =>
    refine .stopped (fun hpermitted => ?_) rfl rfl rfl
    rw [(mayListen_iff s).mpr hpermitted] at h
    cases h
  | failed h e => exact .passed ((mayListen_iff s).mp h) rfl
  | moved h => exact .passed ((mayListen_iff s).mp h) rfl

theorem AcceptRun.guarded {r : Except NetError (Option Socket)} (h : AcceptRun s events r) :
    Guarded s (.accept s.descriptor s.nonBlocking true)
      (r = .error (.invalidState "accept" s.state)) events s := by
  cases h with
  | stopped h => exact .stopped h rfl rfl rfl
  | none h => exact .passed h rfl
  | failed h e he => exact .passed h rfl
  | accepted h fd => exact .passed h rfl

theorem ConnectRun.guarded {address : SocketAddress} {r : Except NetError Connect × Socket}
    (h : ConnectRun s address events r) :
    Guarded s (.connect s.descriptor address) (r.1 = .error (.invalidState "connect" s.state))
      events r.2 := by
  cases h with
  | stopped h => exact .stopped (fun hpermitted => hpermitted h) rfl rfl rfl
  | failed h e he => exact .passed h rfl
  | established h => exact .passed h rfl
  | inProgress h => exact .passed h rfl

/-- **A lifecycle operation makes its one call, or none and changes nothing.** -/
theorem PerformRun.guarded {operation : Operation} {r : operation.Result × Socket}
    (h : PerformRun s operation events r) {call : SystemCall}
    (hcall : operation.lifecycleCall? s = some call) :
    Guarded s call (operation.Refused s.state r.1) events r.2 := by
  cases h with
  | configure h => cases hcall
  | tryBind h =>
    cases hcall
    exact h.guarded
  | bind h =>
    cases hcall
    exact h.guarded
  | bindIpv4 h =>
    cases hcall
    exact h.guarded
  | listen h =>
    cases hcall
    exact h.guarded
  | accept h =>
    cases hcall
    exact h.guarded
  | connect h =>
    cases hcall
    exact h.guarded
  | plain hop h =>
    cases operation with
    | configureNonBlocking | bind | bindIpv4 | tryBind | listen | accept | connect => cases hop
    | _ => cases hcall

end Socket

namespace World

variable {σ : Type}

/-! ## Every run -/

/-- The lifecycle calls of all live handles are in order.

* `issued` — every call of a history was allowed by the past that it met.
* `refused` — an operation whose call is not allowed answers with a refusal, makes no system call,
  and leaves the kernel and the handle as they were.
* `passed` — an operation whose call is allowed makes this call and no other. -/
structure InOrder (k : Kernel σ) (w : World σ) : Prop where
  issued : ∀ h ∈ w.live, ∀ past call reply future,
    h.history = past ++ .called call reply :: future → h.origin.Permits past call
  refused : ∀ h ∈ w.live, ∀ operation call, operation.lifecycleCall? h.socket = some call →
    ¬ h.origin.Permits h.history call → ∀ s : σ,
      let run := (h.socket.perform operation).run k s
      operation.Refused h.socket.state run.result.1 ∧ calls run.events = [] ∧ run.kernel = s ∧
        run.result.2 = h.socket
  passed : ∀ h ∈ w.live, ∀ operation call, operation.lifecycleCall? h.socket = some call →
    h.origin.Permits h.history call → ∀ s : σ,
      calls ((h.socket.perform operation).run k s).events = [call]

/-- The position of a live handle allows what its past allows. -/
theorem alive_permits_iff {h : LiveSocket} (halive : h.Alive)
    (call : SystemCall) :
    h.origin.Permits h.history call ↔ call.Permitted h.socket.transport h.socket.state := by
  rw [permits_iff halive.moves.orderly, halive.moves.replays, halive.transport]

/-- **Lifecycle calls reach the kernel in order, in every run**: any commands in any order, any
kernel. -/
theorem lifecycle_in_order (k : Kernel σ) (kernel : σ) (table : DescriptorTable)
    (commands : List Command) : InOrder k ((start kernel table).run k commands) := by
  have halive := alive_run k kernel table commands
  refine ⟨fun h hlive past call reply future hsplit => ?_,
    fun h hlive operation call hcall hdenied s => ?_,
    fun h hlive operation call hcall hallowed s => ?_⟩
  · have horderly := (halive h hlive).moves.orderly
    rw [hsplit] at horderly
    obtain ⟨hpast, hpermitted, -⟩ := orderly_append.mp horderly
    exact (permits_iff hpast call).mpr (hpermitted call rfl)
  · have hrun := (Socket.perform_runs h.socket operation).run k s
    cases hrun.guarded hcall with
    | passed permitted one =>
      exact (hdenied ((alive_permits_iff (halive h hlive) call).mpr permitted)).elim
    | stopped denied none same answer =>
      exact ⟨answer, none, Program.kernel_of_no_calls k _ s none, same⟩
  · have hrun := (Socket.perform_runs h.socket operation).run k s
    cases hrun.guarded hcall with
    | passed permitted one => exact one
    | stopped denied none same answer =>
      exact (denied ((alive_permits_iff (halive h hlive) call).mp hallowed)).elim

end World
end SocketLayer
