import SocketLayer.LogRecord

/-!
# Programs of system calls

A socket operation is a `Program`: a tree that makes system calls, goes on by the kernel's reply
and leaves log records. The same program runs on any `Kernel`, a concrete host as well as one that
replies at random, so what holds of a program holds whatever the kernel answers.

* `Program.run` — the result, the kernel's next state and the events in order.
* `run_bind` — a run of two programs in a row is the one run after the other.
-/

set_option autoImplicit false

namespace SocketLayer

/-- A computation that makes system calls and leaves log records. -/
inductive Program (α : Type) where
  | done (result : α)
  | call (request : SystemCall) (next : Reply request → Program α)
  | log (entry : LogRecord) (next : Program α)

namespace Program

variable {α β γ σ : Type}

/-- Goes on with the result of a program. -/
def bind (program : Program α) (next : α → Program β) : Program β :=
  match program with
  | .done result => next result
  | .call request rest => .call request fun reply => (rest reply).bind next
  | .log entry rest => .log entry (rest.bind next)

instance : Monad Program where
  pure := .done
  bind := Program.bind

/-- Makes one system call. -/
def request (call : SystemCall) : Program (Reply call) := .call call .done

/-- Leaves one log record. -/
def note (entry : LogRecord) : Program Unit := .log entry (.done ())

@[simp] theorem pure_eq (a : α) : (pure a : Program α) = .done a := rfl

@[simp] theorem bind_eq (program : Program α) (next : α → Program β) :
    program >>= next = program.bind next := rfl

@[simp] theorem done_bind (a : α) (next : α → Program β) : (Program.done a).bind next = next a :=
  rfl

@[simp] theorem call_bind (c : SystemCall) (rest : Reply c → Program α) (next : α → Program β) :
    (Program.call c rest).bind next = .call c fun reply => (rest reply).bind next := rfl

@[simp] theorem log_bind (entry : LogRecord) (rest : Program α) (next : α → Program β) :
    (Program.log entry rest).bind next = .log entry (rest.bind next) := rfl

@[simp] theorem bind_done (program : Program α) : program.bind .done = program := by
  induction program with
  | done a => rfl
  | call c rest ih => simp [ih]
  | log entry rest ih => simp [ih]

theorem bind_assoc (program : Program α) (f : α → Program β) (g : β → Program γ) :
    (program.bind f).bind g = program.bind fun a => (f a).bind g := by
  induction program with
  | done a => rfl
  | call c rest ih => simp [ih]
  | log entry rest ih => simp [ih]

end Program

/-- What answers system calls: every call gets a reply and may change the kernel's state. -/
structure Kernel (σ : Type) where
  answer : σ → (call : SystemCall) → Reply call × σ

/-- What happened in a run. -/
inductive Event where
  | called (call : SystemCall) (reply : Reply call)
  | logged (entry : LogRecord)

namespace Event

/-- The log record of an event that is one. -/
def logged? : Event → Option LogRecord
  | .called .. => none
  | .logged entry => some entry

end Event

/-- The end of a run: its result, the kernel's state and the events in order. -/
structure Run (α σ : Type) where
  result : α
  kernel : σ
  events : List Event

namespace Program

variable {α β σ : Type}

/-- Runs a program on a kernel. -/
def run (k : Kernel σ) : Program α → σ → Run α σ
  | .done result, s => ⟨result, s, []⟩
  | .call request next, s =>
    let (reply, s') := k.answer s request
    let rest := (next reply).run k s'
    { rest with events := .called request reply :: rest.events }
  | .log entry next, s =>
    let rest := next.run k s
    { rest with events := .logged entry :: rest.events }

theorem run_bind (k : Kernel σ) (program : Program α) (next : α → Program β) (s : σ) :
    (program.bind next).run k s =
      let first := program.run k s
      let second := (next first.result).run k first.kernel
      ⟨second.result, second.kernel, first.events ++ second.events⟩ := by
  induction program generalizing s with
  | done a => rfl
  | call c rest ih => simp [run, ih]
  | log entry rest ih => simp [run, ih]

end Program
end SocketLayer
