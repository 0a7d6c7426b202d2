import SocketLayer.Program

/-!
# What a program ensures, whatever the kernel replies

`Program.Ensures` quantifies over every reply to every system call of a program, so a fact about it
is a fact about every kernel.

* `Ensures.run` — what a program ensures holds of its run on every kernel; `run_first` — whose
  answer the first call of a run got.
* `ensures_bind` — two programs in a row: the second goes on from the events of the first.
* `Ensures.mono` — weaker postconditions.
* `calls`, `AllCalls` — the calls among events, and what holds of each of them.
* `Makes` — a program makes calls of one kind only; `makes_bind` and `Makes.ensures`.
-/

set_option autoImplicit false

namespace SocketLayer

/-- The system call of an event that is one. -/
def Event.call? : Event → Option SystemCall
  | .called call _ => some call
  | .logged _ => none

/-- The system calls among events. -/
def calls (events : List Event) : List SystemCall := events.filterMap Event.call?

@[simp] theorem calls_nil : calls [] = [] := rfl

@[simp] theorem calls_called (c : SystemCall) (reply : Reply c) (rest : List Event) :
    calls (.called c reply :: rest) = c :: calls rest := rfl

@[simp] theorem calls_logged (entry : LogRecord) (rest : List Event) :
    calls (.logged entry :: rest) = calls rest := rfl

@[simp] theorem calls_append (first second : List Event) :
    calls (first ++ second) = calls first ++ calls second := List.filterMap_append

theorem mem_calls {c : SystemCall} {events : List Event} :
    c ∈ calls events ↔ ∃ e ∈ events, e.call? = some c := List.mem_filterMap

/-- Every call among the events is allowed. -/
abbrev AllCalls (allowed : SystemCall → Prop) (events : List Event) : Prop :=
  ∀ e ∈ events, ∀ c, e.call? = some c → allowed c

section AllCalls

variable {allowed : SystemCall → Prop} {first rest second : List Event}

theorem allCalls_nil : AllCalls allowed [] := List.forall_mem_nil _

theorem allCalls_call {c : SystemCall} {reply : Reply c} (hc : allowed c)
    (h : AllCalls allowed rest) : AllCalls allowed (.called c reply :: rest) := by
  refine List.forall_mem_cons.mpr ⟨?_, h⟩
  rintro _ ⟨⟩
  exact hc

theorem allCalls_log {entry : LogRecord} (h : AllCalls allowed rest) :
    AllCalls allowed (.logged entry :: rest) :=
  List.forall_mem_cons.mpr ⟨nofun, h⟩

theorem allCalls_append (h : AllCalls allowed first) (h' : AllCalls allowed second) :
    AllCalls allowed (first ++ second) :=
  List.forall_mem_append.mpr ⟨h, h'⟩

theorem allCalls_mono {allowed' : SystemCall → Prop} (h : AllCalls allowed first)
    (himp : ∀ c, allowed c → allowed' c) : AllCalls allowed' first :=
  fun e he c hc => himp c (h e he c hc)

end AllCalls

namespace Program

variable {α β σ : Type}

/-- Whatever the kernel replies, the program ends with events and a result that satisfy `post`. -/
def Ensures : Program α → (List Event → α → Prop) → Prop
  | .done result, post => post [] result
  | .call request next, post =>
    ∀ reply, (next reply).Ensures fun events a => post (.called request reply :: events) a
  | .log entry next, post => next.Ensures fun events a => post (.logged entry :: events) a

/-! ## One step -/

@[simp] theorem ensures_done (a : α) (post : List Event → α → Prop) :
    (Program.done a).Ensures post ↔ post [] a := Iff.rfl

@[simp] theorem ensures_call (c : SystemCall) (next : Reply c → Program α)
    (post : List Event → α → Prop) :
    (Program.call c next).Ensures post ↔
      ∀ reply, (next reply).Ensures fun events a => post (.called c reply :: events) a := Iff.rfl

@[simp] theorem ensures_log (entry : LogRecord) (next : Program α)
    (post : List Event → α → Prop) :
    (Program.log entry next).Ensures post ↔
      next.Ensures fun events a => post (.logged entry :: events) a := Iff.rfl

@[simp] theorem ensures_request (c : SystemCall) (post : List Event → Reply c → Prop) :
    (request c).Ensures post ↔ ∀ reply, post [.called c reply] reply := Iff.rfl

@[simp] theorem ensures_note (entry : LogRecord) (post : List Event → Unit → Prop) :
    (note entry).Ensures post ↔ post [.logged entry] () := Iff.rfl

@[simp] theorem ensures_ite (c : Prop) [Decidable c] (first second : Program α)
    (post : List Event → α → Prop) :
    (if c then first else second).Ensures post ↔
      if c then first.Ensures post else second.Ensures post := by
  split <;> rfl

/-! ## Whole programs -/

theorem Ensures.mono {program : Program α} {post post' : List Event → α → Prop}
    (h : program.Ensures post) (himp : ∀ events a, post events a → post' events a) :
    program.Ensures post' := by
  induction program generalizing post post' with
  | done a => exact himp [] a h
  | call c next ih => exact fun reply => ih reply (h reply) fun events a => himp _ a
  | log entry next ih => exact ih h fun events a => himp _ a

theorem Ensures.and {program : Program α} {post post' : List Event → α → Prop}
    (h : program.Ensures post) (h' : program.Ensures post') :
    program.Ensures fun events a => post events a ∧ post' events a := by
  induction program generalizing post post' with
  | done a => exact ⟨h, h'⟩
  | call c next ih => exact fun reply => ih reply (h reply) (h' reply)
  | log entry next ih => exact ih h h'

/-- Two programs in a row: the second goes on from the events of the first. -/
@[simp] theorem ensures_bind (program : Program α) (next : α → Program β)
    (post : List Event → β → Prop) :
    (program.bind next).Ensures post ↔
      program.Ensures fun events a => (next a).Ensures fun more b => post (events ++ more) b := by
  induction program generalizing post with
  | done a => rfl
  | call c rest ih => exact forall_congr' fun reply => ih reply _
  | log entry rest ih => exact ih _

/-- What is done with a result afterwards adds no events. -/
theorem ensures_map {program : Program α} {post : List Event → Prop}
    (h : program.Ensures fun events _ => post events) (f : α → β) :
    (program.bind fun a => .done (f a)).Ensures fun events _ => post events := by
  refine (ensures_bind _ _ _).mpr (h.mono fun events a hpost => ?_)
  rwa [ensures_done, List.append_nil]

/-- **What a program ensures holds of its run on every kernel**, from every state. -/
theorem Ensures.run {program : Program α} {post : List Event → α → Prop}
    (h : program.Ensures post) (k : Kernel σ) (s : σ) :
    post (program.run k s).events (program.run k s).result := by
  induction program generalizing post s with
  | done a => exact h
  | call c next ih => exact ih _ (h _) _
  | log entry next ih => exact ih h s

/-- The first call of a run is answered by the state that the run starts from. -/
theorem run_first {program : Program α} {k : Kernel σ} {s : σ} {c : SystemCall} {reply : Reply c}
    {rest : List Event} (h : (program.run k s).events = .called c reply :: rest) :
    (k.answer s c).1 = reply := by
  cases program with
  | done a => cases h
  | call request next =>
    obtain ⟨hfirst, -⟩ := List.cons.inj h
    obtain ⟨rfl, hreply⟩ := Event.called.inj hfirst
    exact eq_of_heq hreply
  | log entry next => cases h

/-! ## Calls of one kind -/

/-- Whatever the kernel replies, the program makes allowed calls only. -/
def Makes (allowed : SystemCall → Prop) : Program α → Prop
  | .done _ => True
  | .call request next => allowed request ∧ ∀ reply, (next reply).Makes allowed
  | .log _ next => next.Makes allowed

variable {allowed : SystemCall → Prop}

theorem makes_request {c : SystemCall} (h : allowed c) : (request c).Makes allowed :=
  ⟨h, fun _ => trivial⟩

theorem makes_bind {program : Program α} {next : α → Program β} (h : program.Makes allowed)
    (hnext : ∀ a, (next a).Makes allowed) : (program.bind next).Makes allowed := by
  induction program with
  | done a => exact hnext a
  | call c rest ih => exact ⟨h.1, fun reply => ih reply (h.2 reply)⟩
  | log entry rest ih => exact ih h

/-- The calls of a run are those that the program makes. -/
theorem Makes.ensures {program : Program α} (h : program.Makes allowed) :
    program.Ensures fun events _ => AllCalls allowed events := by
  induction program with
  | done a => exact allCalls_nil
  | call c next ih => exact fun reply => (ih reply (h.2 reply)).mono fun _ _ => allCalls_call h.1
  | log entry next ih => exact (ih h).mono fun _ _ => allCalls_log

end Program
end SocketLayer
