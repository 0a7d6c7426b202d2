import SocketLayer.Proofs.CodeCollisions
import SocketLayer.Proofs.Observation

/-!
# The options of a kernel as registers

A kernel that keeps one value for each option of each descriptor is a store of registers: what a
setter gives to an option stands there until the next setter of the same option of the same
descriptor, and a getter reads it.

* `given` — the values that the kernel took for an option of a descriptor, in order.
* `KeepsOptions` — a kernel whose state has such a store; `keep` is what it makes of a value.
* `KeepsOptions.run` — after any program an option has the last value given, or the one from before.
* `Registry` — a kernel of this kind.
* `Tunable` — the options that a handle both sets and reads, with the values of the two sides.
-/

set_option autoImplicit false

namespace SocketLayer

/-! ## What is given to an option -/

/-- The values that the kernel has for an option. -/
abbrev OptionName.Value : OptionName → Type
  | .word _ => Int32
  | .linger => LingerWords

/-- The value that a call has for an option of a descriptor. -/
def SystemCall.gives? (fd : Descriptor) : (name : OptionName) → SystemCall → Option name.Value
  | .word name, .setWord fd' name' value => if name' = name ∧ fd' = fd then some value else none
  | .linger, .setLinger fd' value => if fd' = fd then some value else none
  | _, _ => none

namespace SystemCall

variable {fd fd' : Descriptor} {name : OptionName} {word : WordOption}

theorem setWord_gives (value : Int32) :
    (SystemCall.setWord fd word value).gives? fd (.word word) = some value := if_pos ⟨rfl, rfl⟩

theorem setLinger_gives (value : LingerWords) :
    (SystemCall.setLinger fd value).gives? fd .linger = some value := if_pos rfl

theorem setWord_gives_none {value : Int32} (h : ¬ (name = .word word ∧ fd' = fd)) :
    (SystemCall.setWord fd word value).gives? fd' name = none := by
  cases name with
  | linger => rfl
  | word name => exact if_neg fun hsame => h ⟨congrArg _ hsame.1.symm, hsame.2.symm⟩

theorem setLinger_gives_none {value : LingerWords} (h : ¬ (name = .linger ∧ fd' = fd)) :
    (SystemCall.setLinger fd value).gives? fd' name = none := by
  cases name with
  | linger => exact if_neg fun hsame => h ⟨rfl, hsame.symm⟩
  | word name => rfl

/-- A call has a value for its own option of its own descriptor only. -/
theorem of_setWord_gives {motive : (name : OptionName) → name.Value → Prop} {value : Int32}
    {given : name.Value} (h : (SystemCall.setWord fd word value).gives? fd' name = some given)
    (hown : motive (.word word) value) : motive name given := by
  cases name with
  | linger => cases h
  | word name =>
    obtain ⟨⟨rfl, -⟩, h⟩ := Option.ite_none_right_eq_some.mp h
    cases h
    exact hown

theorem of_setLinger_gives {motive : (name : OptionName) → name.Value → Prop} {value : LingerWords}
    {given : name.Value} (h : (SystemCall.setLinger fd value).gives? fd' name = some given)
    (hown : motive .linger value) : motive name given := by
  cases name with
  | linger =>
    obtain ⟨-, h⟩ := Option.ite_none_right_eq_some.mp h
    cases h
    exact hown
  | word name => cases h

theorem gives_none_of_option {c : SystemCall} (h : c.option? ≠ some name) :
    c.gives? fd name = none := by
  cases c with
  | setWord => exact setWord_gives_none fun hsame => h (congrArg some hsame.1.symm)
  | setLinger => exact setLinger_gives_none fun hsame => h (congrArg some hsame.1.symm)
  | _ => cases name <;> rfl

theorem gives_none_of_subject {c : SystemCall} (h : c.subject? ≠ some fd) :
    c.gives? fd name = none := by
  cases c with
  | setWord => exact setWord_gives_none fun hsame => h (congrArg some hsame.2.symm)
  | setLinger => exact setLinger_gives_none fun hsame => h (congrArg some hsame.2.symm)
  | _ => cases name <;> rfl

end SystemCall

namespace Event

/-- The value that the kernel took for an option of a descriptor. -/
def gives? (fd : Descriptor) (name : OptionName) : Event → Option name.Value
  | .called c (.ok _) => c.gives? fd name
  | _ => none

/-- Whether a number may stand for another socket after an event: it was closed or made. -/
def Reassigns (e : Event) (fd : Descriptor) : Prop := e.obtained? = some fd ∨ e.closed? = some fd

instance (fd : Descriptor) : DecidablePred (Reassigns · fd) := fun e =>
  inferInstanceAs (Decidable (e.obtained? = some fd ∨ e.closed? = some fd))

theorem not_reassigns_of_plain {c : SystemCall} {reply : Reply c} (h : c.isPlain = true)
    (fd : Descriptor) : ¬ (Event.called c reply).Reassigns fd := by
  cases c with
  | socket | close | accept => cases h
  | _ => exact not_or.mpr ⟨nofun, nofun⟩

end Event

/-- The values that the kernel took for an option of a descriptor, in order. -/
def given (fd : Descriptor) (name : OptionName) (events : List Event) : List name.Value :=
  events.filterMap (Event.gives? fd name)

@[simp] theorem given_nil (fd : Descriptor) (name : OptionName) : given fd name [] = [] := rfl

theorem given_cons (fd : Descriptor) (name : OptionName) (e : Event) (rest : List Event) :
    given fd name (e :: rest) = (e.gives? fd name).toList ++ given fd name rest := by
  unfold given
  cases h : e.gives? fd name <;> simp [h]

theorem given_append (fd : Descriptor) (name : OptionName) (first second : List Event) :
    given fd name (first ++ second) = given fd name first ++ given fd name second :=
  List.filterMap_append

/-- Calls without a value for an option give it none. -/
theorem given_of_calls {fd : Descriptor} {name : OptionName} {events : List Event}
    (h : AllCalls (fun c => c.gives? fd name = none) events) : given fd name events = [] := by
  refine List.filterMap_eq_nil_iff.mpr fun e he => ?_
  match e with
  | .called c (.ok _) => exact h _ he c rfl
  | .called c (.error _) => rfl
  | .logged _ => rfl

/-- Where all values are the same one, so is the last. -/
theorem getLast_of_all {α : Type} {values : List α} {value : Option α}
    (hall : ∀ a ∈ values, value = some a) (hnone : values = [] → value = none) :
    values.getLast? = value := by
  cases h : values.getLast? with
  | none => exact (hnone (List.getLast?_eq_none_iff.mp h)).symm
  | some a => exact (hall a (List.mem_of_getLast? h)).symm

/-- What stands in a register after some values were put there: what was kept of the last one, or
what stood there before. -/
def settled {α β : Type} (keep : α → β) (before : β) (values : List α) : β :=
  (values.getLast?.map keep).getD before

section Settled

variable {α β γ : Type} {keep : α → β} {before : β}

@[simp] theorem settled_nil : settled keep before [] = before := rfl

theorem settled_append (first second : List α) :
    settled keep before (first ++ second) = settled keep (settled keep before first) second := by
  unfold settled
  rw [List.getLast?_append]
  cases second.getLast? <;> rfl

theorem settled_filterMap_cons (value? : γ → Option α) (c : γ) (rest : List γ) :
    settled keep before ((c :: rest).filterMap value?) =
      settled keep (settled keep before (value? c).toList) (rest.filterMap value?) := by
  rw [← settled_append]
  cases h : value? c <;> simp [h]

/-- Only the last value counts. -/
theorem settled_of_getLast {values : List α} {last : Option α} (h : values.getLast? = last) :
    settled keep before values = settled keep before last.toList := by
  subst h
  cases h : values.getLast? <;> simp [settled, h]

end Settled

/-! ## Kernels that keep options -/

/-- For each option of each descriptor, what the kernel keeps of it. -/
abbrev OptionStore : Type := Descriptor → (name : OptionName) → name.Value

/-- A kernel that keeps one value for each option of each descriptor: what it makes of the last one
that it took. A getter reads it. What else the kernel keeps and does is left open, and so is what a
number holds after it was closed or made.

* `word`, `linger` — a getter is answered with what is kept.
* `next` — a call puts a value under its own descriptor and option, if the kernel takes it, and
  leaves all else alone. -/
structure KeepsOptions {σ : Type} (k : Kernel σ) (store : σ → OptionStore)
    (keep : Descriptor → (name : OptionName) → name.Value → name.Value) : Prop where
  word : ∀ state fd name, (k.answer state (.getWord fd name)).1 = .ok (store state fd (.word name))
  linger : ∀ state fd, (k.answer state (.getLinger fd)).1 = .ok (store state fd .linger)
  next : ∀ state c fd name,
    let e := Event.called c (k.answer state c).1
    ¬ e.Reassigns fd → store (k.answer state c).2 fd name =
      settled (keep fd name) (store state fd name) (e.gives? fd name).toList

section Keeps

variable {α σ : Type} {k : Kernel σ} {store : σ → OptionStore}
  {keep : Descriptor → (name : OptionName) → name.Value → name.Value}

/-- **After a program every option has the last value given to it**, or the one from before. -/
theorem KeepsOptions.run (h : KeepsOptions k store keep) (program : Program α) (state : σ)
    {fd : Descriptor} (hfd : ∀ e ∈ (program.run k state).events, ¬ e.Reassigns fd)
    (name : OptionName) :
    store (program.run k state).kernel fd name =
      settled (keep fd name) (store state fd name)
        (given fd name (program.run k state).events) := by
  induction program generalizing state with
  | done a => rfl
  | call c next ih =>
    obtain ⟨hc, hrest⟩ := List.forall_mem_cons.mp hfd
    calc store ((Program.call c next).run k state).kernel fd name
        = settled (keep fd name) (store (k.answer state c).2 fd name)
            (given fd name ((next (k.answer state c).1).run k (k.answer state c).2).events) :=
          ih _ _ hrest
      _ = settled (keep fd name) (store state fd name)
            (given fd name ((Program.call c next).run k state).events) := by
          rw [h.next state c fd name hc]
          exact (settled_filterMap_cons _ _ _).symm
  | log entry next ih => exact ih state (List.forall_mem_cons.mp hfd).2

end Keeps

/-! ## A kernel of this kind -/

/-- A kernel that does nothing but make descriptors and keep options. -/
structure Registry where
  made : Nat
  store : OptionStore

namespace Registry

variable (keep : (name : OptionName) → name.Value → name.Value)

/-- The registry after a value was put into a register. -/
def put (r : Registry) (fd : Descriptor) (name : OptionName) (value : name.Value) : Registry :=
  let options := Function.update (r.store fd) name (keep name value)
  { r with store := Function.update r.store fd options }

/-- Nothing made yet, and every option zero. -/
def start : Registry where
  made := 0
  store
    | _, .word _ => 0
    | _, .linger => ⟨0, 0⟩

/-- Descriptors are made under numbers not used before, every option is taken, and all that has
nothing to do with options is refused. -/
def kernel : Kernel Registry where
  answer r
    | .socket .. => (.ok ⟨r.made⟩, { r with made := r.made + 1 })
    | .close _ => (.ok (), r)
    | .getFlags _ => (.ok ⟨0⟩, r)
    | .setFlags .. => (.ok (), r)
    | .setWord fd name value => (.ok (), r.put keep fd (.word name) value)
    | .setLinger fd value => (.ok (), r.put keep fd .linger value)
    | .getWord fd name => (.ok (r.store fd (.word name)), r)
    | .getLinger fd => (.ok (r.store fd .linger), r)
    | .setMulticastInterface .. | .changeMembership .. => (.ok (), r)
    | _ => (.error .invalidArgument, r)

variable {keep}

theorem store_put (r : Registry) (fd : Descriptor) (name : OptionName) (value : name.Value) :
    (r.put keep fd name value).store fd name = keep name value := by
  simp [put]

theorem store_put_of_ne (r : Registry) {fd fd' : Descriptor} {name name' : OptionName}
    {value : name.Value} (h : ¬ (name' = name ∧ fd' = fd)) :
    (r.put keep fd name value).store fd' name' = r.store fd' name' := by
  by_cases hfd : fd' = fd
  · subst hfd
    have hname : name' ≠ name := fun hname => h ⟨hname, rfl⟩
    simp [put, hname]
  · simp [put, hfd]

/-- Putting a value into a register is what the call that gives it does to the store. -/
theorem store_put_gives (r : Registry) {c : SystemCall} {fd' : Descriptor} {name' : OptionName}
    {value : name'.Value} (hgives : c.gives? fd' name' = some value)
    (hnone : ∀ {fd name}, ¬ (name = name' ∧ fd = fd') → c.gives? fd name = none)
    (fd : Descriptor) (name : OptionName) :
    (r.put keep fd' name' value).store fd name =
      settled (keep name) (r.store fd name) (c.gives? fd name).toList := by
  by_cases h : name = name' ∧ fd = fd'
  · obtain ⟨rfl, rfl⟩ := h
    rw [store_put, hgives]
    rfl
  · rw [store_put_of_ne r h, hnone h]
    rfl

theorem keepsOptions : KeepsOptions (kernel keep) store fun _ => keep := by
  refine ⟨fun _ _ _ => rfl, fun _ _ => rfl, ?_⟩
  intro r c fd name e hfd
  cases c with
  | setWord fd' name' value =>
    exact r.store_put_gives (SystemCall.setWord_gives value) SystemCall.setWord_gives_none _ _
  | setLinger fd' value =>
    exact r.store_put_gives (SystemCall.setLinger_gives value) SystemCall.setLinger_gives_none _ _
  | _ => cases name <;> rfl

end Registry

/-! ## The options of a handle -/

/-- The options that a handle both sets and reads. -/
inductive Tunable where
  | sendBuffer
  | receiveBuffer
  | linger
  | reuseAddress
  | reusePort
  | tcpNoDelay
  deriving DecidableEq, Repr

namespace Tunable

/-- What the setter takes. -/
abbrev Argument : Tunable → Type
  | .sendBuffer | .receiveBuffer => Nat
  | .linger => Option Duration
  | .reuseAddress | .reusePort | .tcpNoDelay => Bool

/-- What the getter gives. -/
abbrev Reading : Tunable → Type
  | .sendBuffer | .receiveBuffer => Int32
  | .linger => Option Duration
  | .reuseAddress | .reusePort | .tcpNoDelay => Bool

/-- The kernel's option. -/
@[reducible] def name : Tunable → OptionName
  | .sendBuffer => .word .sendBuffer
  | .receiveBuffer => .word .receiveBuffer
  | .linger => .linger
  | .reuseAddress => .word .reuseAddress
  | .reusePort => .word .reusePort
  | .tcpNoDelay => .word .tcpNoDelay

/-- The value that stands for an argument of the setter. -/
def encode : (t : Tunable) → t.Argument → t.name.Value
  | .sendBuffer, size | .receiveBuffer, size => sizeWord size
  | .linger, time => .ofDuration? time
  | .reuseAddress, on | .reusePort, on | .tcpNoDelay, on => flagWord on

/-- What the getter makes of a value. -/
def decode : (t : Tunable) → t.name.Value → t.Reading
  | .sendBuffer, word | .receiveBuffer, word => word
  | .linger, words => words.toDuration?
  | .reuseAddress, word | .reusePort, word | .tcpNoDelay, word => word != 0

/-- The getter. -/
def read : (t : Tunable) → Socket → Program (Except NetError t.Reading)
  | .sendBuffer, s => s.sendBufferSize
  | .receiveBuffer, s => s.receiveBufferSize
  | .linger, s => s.linger
  | .reuseAddress, s => s.reuseAddress
  | .reusePort, s => s.reusePort
  | .tcpNoDelay, s => s.tcpNoDelay

section Read

variable {σ : Type} {k : Kernel σ} {store : σ → OptionStore}
  {keep : Descriptor → (name : OptionName) → name.Value → name.Value}

theorem run_ask {op : String} {c : SystemCall} {state : σ} {answer : c.Answer}
    (h : (k.answer state c).1 = .ok answer) :
    ((Socket.ask op c).run k state).result = .ok answer := by
  rw [Socket.run_ask, h]
  rfl

theorem run_ask_map {β : Type} {op : String} {c : SystemCall} {state : σ} {answer : c.Answer}
    (h : (k.answer state c).1 = .ok answer) (f : c.Answer → β) :
    (((Socket.ask op c).bind fun r => .done (r.map f)).run k state).result = .ok (f answer) := by
  rw [Program.run_bind]
  show (((Socket.ask op c).run k state).result).map f = _
  rw [run_ask h]
  rfl

/-- A getter succeeds and gives what is kept. -/
theorem read_run (h : KeepsOptions k store keep) (t : Tunable) (s : Socket) (state : σ) :
    ((t.read s).run k state).result = .ok (t.decode (store state s.descriptor t.name)) := by
  cases t with
  | sendBuffer | receiveBuffer => exact run_ask (h.word _ _ _)
  | linger => exact run_ask_map (h.linger _ _) _
  | reuseAddress | reusePort | tcpNoDelay => exact run_ask_map (h.word _ _ _) _

end Read

/-- What the getter gives once the kernel took an argument of the setter. -/
def readBack (keep : (name : OptionName) → name.Value → name.Value) (t : Tunable)
    (a : t.Argument) : t.Reading :=
  t.decode (keep t.name (t.encode a))

/-- The readings of what is kept follow the arguments as what is kept follows the values. -/
theorem decode_settled (keep : (name : OptionName) → name.Value → name.Value) (t : Tunable)
    (before : t.name.Value) (arguments : List t.Argument) :
    t.decode (settled (keep t.name) before (arguments.map t.encode)) =
      settled (t.readBack keep) (t.decode before) arguments := by
  unfold settled readBack
  rw [List.getLast?_map]
  cases arguments.getLast? <;> rfl

/-! ## Kernels that round sizes -/

/-- A kernel that rounds the sizes of buffers keeps all else as it is. -/
def rounding (send receive : Int32 → Int32) : (name : OptionName) → name.Value → name.Value
  | .word .sendBuffer, word => send word
  | .word .receiveBuffer, word => receive word
  | .word _, word => word
  | .linger, words => words

/-- What the getter should give after an argument of the setter: a size as the kernel rounds it, a
linger time in whole seconds, both up to the largest word; a flag itself. -/
def stored (send receive : Int32 → Int32) : (t : Tunable) → t.Argument → t.Reading
  | .sendBuffer, size => send (.ofNat (min size 0x7FFFFFFF))
  | .receiveBuffer, size => receive (.ofNat (min size 0x7FFFFFFF))
  | .linger, time => time.map fun d => ⟨min d.seconds 0x7FFFFFFF, 0⟩
  | .reuseAddress, on | .reusePort, on | .tcpNoDelay, on => on

theorem flagWord_ne_zero (on : Bool) : (flagWord on != 0) = on := by cases on <;> rfl

theorem toDuration_ofDuration (time : Option Duration) :
    (LingerWords.ofDuration? time).toDuration? =
      time.map fun d => ⟨min d.seconds 0x7FFFFFFF, 0⟩ := by
  cases time with
  | none => rfl
  | some d =>
    have h : (sizeWord d.seconds).toInt = min d.seconds 0x7FFFFFFF :=
      StatusCode.toInt_ofCount d.seconds
    show some (Duration.ofSeconds (sizeWord d.seconds).toInt.toNat) = _
    rw [h]
    rfl

/-- **A getter gives back what the setter was given**, up to what the words can hold. -/
theorem readBack_rounding (send receive : Int32 → Int32) (t : Tunable) :
    t.readBack (rounding send receive) = t.stored send receive := by
  funext a
  cases t with
  | sendBuffer | receiveBuffer => rfl
  | linger => exact toDuration_ofDuration a
  | reuseAddress | reusePort | tcpNoDelay => exact flagWord_ne_zero a

end Tunable

/-- A registry that doubles the sizes of buffers. -/
def Registry.doubling : Kernel Registry := Registry.kernel (Tunable.rounding (2 * ·) (2 * ·))

/-! ## The options of a profile -/

namespace OptionProfile

/-- The value that a profile has for an option that fits the transport. -/
def wanted? (p : OptionProfile) (transport : Transport) : (name : OptionName) → Option name.Value
  | .word .receiveBuffer => p.receiveBuffer.map sizeWord
  | .word .sendBuffer => p.sendBuffer.map sizeWord
  | .word .reuseAddress => p.reuseAddress.map flagWord
  | .word .reusePort => if p.reusePort then some 1 else none
  | .linger => p.linger.map .ofDuration?
  | .word .tcpNoDelay => if transport = .tcp then p.tcpNoDelay.map flagWord else none
  | .word .multicastTtl =>
    if transport = .udp then p.multicastTtl.map fun ttl => .ofNat ttl.toNat else none
  | .word .multicastLoop => if transport = .udp then p.multicastLoop.map flagWord else none

/-- The argument that a profile has for a setter that fits the transport. -/
def argument? (p : OptionProfile) (transport : Transport) : (t : Tunable) → Option t.Argument
  | .sendBuffer => p.sendBuffer
  | .receiveBuffer => p.receiveBuffer
  | .linger => p.linger
  | .reuseAddress => p.reuseAddress
  | .reusePort => if p.reusePort then some true else none
  | .tcpNoDelay => if transport = .tcp then p.tcpNoDelay else none

theorem wanted_eq_argument (p : OptionProfile) (transport : Transport) (t : Tunable) :
    p.wanted? transport t.name = (p.argument? transport t).map t.encode := by
  cases t with
  | sendBuffer | receiveBuffer | linger | reuseAddress => rfl
  | reusePort =>
    simp only [wanted?, argument?]
    split <;> rfl
  | tcpNoDelay =>
    simp only [wanted?, argument?]
    split <;> rfl

/-- A plan has every call that is wanted. -/
theorem mem_plan_of_wants {p : OptionProfile} {fd : Descriptor} {transport : Transport}
    {c : SystemCall} (h : p.Wants fd transport c) : c ∈ p.plan fd transport := by
  cases h with
  | _ => simp [plan, *]

theorem Wants.isSome_option {p : OptionProfile} {fd : Descriptor} {transport : Transport}
    {c : SystemCall} (h : p.Wants fd transport c) : c.option?.isSome := by
  cases h <;> rfl

/-- A call that is wanted has the profile's value for its option. -/
theorem Wants.gives {p : OptionProfile} {fd : Descriptor} {transport : Transport} {c : SystemCall}
    (h : p.Wants fd transport c) {name : OptionName} {value : name.Value}
    (hgives : c.gives? fd name = some value) : p.wanted? transport name = some value := by
  cases h with
  | linger h =>
    refine SystemCall.of_setLinger_gives (motive := fun name value => p.wanted? _ name = some value)
      hgives ?_
    simp [wanted?, h]
  | _ h =>
    refine SystemCall.of_setWord_gives (motive := fun name value => p.wanted? _ name = some value)
      hgives ?_
    simp [wanted?, h]

/-- Every value of a profile is had by a call that is wanted. -/
theorem wants_of_wanted {p : OptionProfile} (fd : Descriptor) {transport : Transport}
    {name : OptionName} {value : name.Value} (h : p.wanted? transport name = some value) :
    ∃ c, p.Wants fd transport c ∧ c.gives? fd name = some value := by
  cases name with
  | linger =>
    obtain ⟨time, htime, rfl⟩ := Option.map_eq_some_iff.mp h
    exact ⟨_, .linger htime, SystemCall.setLinger_gives _⟩
  | word name =>
    cases name with
    | sendBuffer =>
      obtain ⟨size, hsize, rfl⟩ := Option.map_eq_some_iff.mp h
      exact ⟨_, .sendBuffer hsize, SystemCall.setWord_gives _⟩
    | receiveBuffer =>
      obtain ⟨size, hsize, rfl⟩ := Option.map_eq_some_iff.mp h
      exact ⟨_, .receiveBuffer hsize, SystemCall.setWord_gives _⟩
    | reuseAddress =>
      obtain ⟨on, hon, rfl⟩ := Option.map_eq_some_iff.mp h
      exact ⟨_, .reuseAddress hon, SystemCall.setWord_gives _⟩
    | reusePort =>
      obtain ⟨hon, h⟩ := Option.ite_none_right_eq_some.mp h
      cases h
      exact ⟨_, .reusePort hon, SystemCall.setWord_gives _⟩
    | tcpNoDelay =>
      obtain ⟨rfl, h⟩ := Option.ite_none_right_eq_some.mp h
      obtain ⟨on, hon, rfl⟩ := Option.map_eq_some_iff.mp h
      exact ⟨_, .tcpNoDelay hon, SystemCall.setWord_gives _⟩
    | multicastTtl =>
      obtain ⟨rfl, h⟩ := Option.ite_none_right_eq_some.mp h
      obtain ⟨ttl, httl, rfl⟩ := Option.map_eq_some_iff.mp h
      exact ⟨_, .multicastTtl httl, SystemCall.setWord_gives _⟩
    | multicastLoop =>
      obtain ⟨rfl, h⟩ := Option.ite_none_right_eq_some.mp h
      obtain ⟨on, hon, rfl⟩ := Option.map_eq_some_iff.mp h
      exact ⟨_, .multicastLoop hon, SystemCall.setWord_gives _⟩

/-- Whatever of a plan the kernel takes is the profile's value. -/
theorem given_wanted {p : OptionProfile} {fd : Descriptor} {transport : Transport}
    {events : List Event} {outcome : Outcome}
    (h : Socket.PlanRun (p.plan fd transport) events outcome) {name : OptionName}
    {value : name.Value} (hvalue : value ∈ given fd name events) :
    p.wanted? transport name = some value := by
  obtain ⟨e, he, hgives⟩ := List.mem_filterMap.mp hvalue
  match e with
  | .called c (.ok _) => exact (wants_of_mem_plan (h.calls_mem _ he c rfl)).gives hgives

end OptionProfile
end SocketLayer
