import Mathlib.Data.List.InsertIdx
import SocketLayer.Proofs.DataReports
import SocketLayer.Proofs.World

/-!
# What a program observes

A program that uses the library sees what each command tells it and, through the log and the kernel,
the calls that were made. Its later observations depend on the kernel and on the live handles only,
not on the past that a world keeps for statements.

* `World.observe`, `World.observed` — what one command, and what a run, shows.
* `Alike.effect`, `Alike.run` — worlds with the same kernel and the same handles show the same.
* `observe_cases`, `observed_all` — what holds of the runs behind every command holds of a whole
  run.
* `Observation.Faithful`, `observed_faithful` — what a command tells of the bytes of a connection
  agrees with the calls that it made.
* `KernelModel` — a model of a part of the kernel, what it is for events to follow it, and what they
  put out along the way; `KernelModel.conserved` — what enters a queue leaves it or stays.
-/

set_option autoImplicit false

namespace SocketLayer

/-- What a command tells its caller. An operation is told with the handle that it was performed on,
as the handle was before. -/
inductive Report where
  | made (result : Except NetError Socket)
  | performed (s : Socket) (operation : Operation) (result : operation.Result)
  | released (raw : Int)
  | closed (result : Except NetError Unit)
  | dropped
  | idle

/-- What a report tells of the bytes of a connection. -/
def Report.data? : Report → Option Socket.DataReport
  | .performed s operation result => Socket.dataReport? s operation result
  | _ => none

/-- What a command shows: what it tells its caller, and what happened. -/
structure Observation where
  report : Report
  entries : List Entry

/-- The calls that may stand behind a report. -/
def Report.Issues : Report → SystemCall → Prop
  | .performed s operation _, c => operation.Issues s c
  | _, c => c.IsSetup

/-- The event of an entry that is one. -/
def Entry.event? : Entry → Option Event
  | .event e => some e
  | _ => none

namespace Observation

/-- The events of a command. -/
def events (o : Observation) : List Event := o.entries.filterMap Entry.event?

@[simp] theorem events_map_event (report : Report) (events : List Event) :
    (⟨report, events.map .event⟩ : Observation).events = events := by
  induction events with
  | nil => rfl
  | cons e rest ih => exact congrArg (e :: ·) ih

/-- What a command tells of the bytes of a connection agrees with its calls. -/
def Faithful (o : Observation) : Prop := Socket.DataAgrees o.report.data? o.events

end Observation

/-- The events of several commands. -/
def shown (seen : List Observation) : List Event := seen.flatMap Observation.events

theorem shown_append (first second : List Observation) :
    shown (first ++ second) = shown first ++ shown second := List.flatMap_append

namespace Event

/-- The descriptor of something, as long as no event closes it. -/
def stillOpen (e : Event) (fd? : Option Descriptor) : Option Descriptor :=
  fd?.filter fun fd => e.closed? ≠ some fd

theorem stillOpen_eq_self {e : Event} (h : e.closed? = none) (fd? : Option Descriptor) :
    e.stillOpen fd? = fd? := by
  cases fd? <;> simp [stillOpen, h]

theorem eq_some_of_stillOpen {e : Event} {fd? : Option Descriptor} {fd : Descriptor}
    (h : e.stillOpen fd? = some fd) : fd? = some fd :=
  (Option.filter_eq_some_iff.mp h).1

/-- The capacity of a receive on a descriptor, and the kernel's reply. -/
def reading? (fd? : Option Descriptor) : Event → Option (Nat × Except Errno (List UInt8))
  | .called (.receive fd capacity _) reply => if fd? = some fd then some (capacity, reply) else none
  | _ => none

end Event

/-- A model of a part of the kernel: what events do to its state, and which events fit it. -/
structure KernelModel (τ : Type) where
  next : τ → Event → τ
  Fits : τ → Event → Prop

namespace KernelModel

variable {τ : Type} (m : KernelModel τ)

/-- The state after several events. -/
def after (t : τ) (events : List Event) : τ := events.foldl m.next t

/-- Every event fits the state that it meets. -/
def Follows : τ → List Event → Prop
  | _, [] => True
  | t, e :: rest => m.Fits t e ∧ Follows (m.next t e) rest

/-- What events put out, in order: each by the state that it meets. -/
def collect {α : Type} (out : τ → Event → List α) : τ → List Event → List α
  | _, [] => []
  | t, e :: rest => out t e ++ collect out (m.next t e) rest

/-- What commands put out, in order: each by the state that it meets. -/
def collectSeen {α : Type} (out : τ → Observation → List α) : τ → List Observation → List α
  | _, [] => []
  | t, o :: rest => out t o ++ collectSeen out (m.after t o.events) rest

theorem after_append (t : τ) (first second : List Event) :
    m.after t (first ++ second) = m.after (m.after t first) second := List.foldl_append

variable {m}

theorem follows_append {t : τ} {first second : List Event} :
    m.Follows t (first ++ second) ↔ m.Follows t first ∧ m.Follows (m.after t first) second := by
  induction first generalizing t with
  | nil => simp [Follows, after]
  | cons e rest ih =>
    show m.Fits t e ∧ m.Follows (m.next t e) (rest ++ second) ↔
      (m.Fits t e ∧ m.Follows (m.next t e) rest) ∧ m.Follows (m.after (m.next t e) rest) second
    rw [ih, and_assoc]

section Collect

variable {α : Type} {out : τ → Event → List α}

@[simp] theorem collect_nil (t : τ) : m.collect out t [] = [] := rfl

@[simp] theorem collect_cons (t : τ) (e : Event) (rest : List Event) :
    m.collect out t (e :: rest) = out t e ++ m.collect out (m.next t e) rest := rfl

theorem collect_append (t : τ) (first second : List Event) :
    m.collect out t (first ++ second) =
      m.collect out t first ++ m.collect out (m.after t first) second := by
  induction first generalizing t with
  | nil => rfl
  | cons e rest ih =>
    rw [List.cons_append, collect_cons, collect_cons, ih, List.append_assoc]
    rfl

/-- What is in a queue and what enters it is what leaves it and what stays: of one event, and so of
several. -/
theorem conserved {queue : τ → List α} {entering leaving : τ → Event → List α}
    (step : ∀ t e, m.Fits t e → queue t ++ entering t e = leaving t e ++ queue (m.next t e))
    {t : τ} {events : List Event} (h : m.Follows t events) :
    queue t ++ m.collect entering t events =
      m.collect leaving t events ++ queue (m.after t events) := by
  induction events generalizing t with
  | nil => simp [after]
  | cons e rest ih =>
    have hrest := ih h.2
    calc queue t ++ (entering t e ++ m.collect entering (m.next t e) rest)
        = (queue t ++ entering t e) ++ m.collect entering (m.next t e) rest :=
          (List.append_assoc _ _ _).symm
      _ = leaving t e ++ (queue (m.next t e) ++ m.collect entering (m.next t e) rest) := by
        rw [step t e h.1, List.append_assoc]
      _ = leaving t e ++ (m.collect leaving (m.next t e) rest ++
            queue (m.after (m.next t e) rest)) := congrArg _ hrest
      _ = (leaving t e ++ m.collect leaving (m.next t e) rest) ++
            queue (m.after (m.next t e) rest) := (List.append_assoc _ _ _).symm

/-- Commands put out what their events do, if each of them does. -/
theorem collect_shown {seen : List Observation} {told : τ → Observation → List α}
    (h : ∀ o ∈ seen, ∀ t, m.collect out t o.events = told t o) (t : τ) :
    m.collect out t (shown seen) = m.collectSeen told t seen := by
  induction seen generalizing t with
  | nil => rfl
  | cons o rest ih =>
    obtain ⟨ho, hrest⟩ := List.forall_mem_cons.mp h
    show m.collect out t (o.events ++ shown rest) =
      told t o ++ m.collectSeen told (m.after t o.events) rest
    rw [collect_append, ho t, ih hrest]

end Collect

instance decidableFollows [∀ t, DecidablePred (m.Fits t)] :
    ∀ (t : τ) (events : List Event), Decidable (m.Follows t events)
  | _, [] => .isTrue trivial
  | t, e :: rest =>
    have := decidableFollows (m.next t e) rest
    inferInstanceAs (Decidable (m.Fits t e ∧ m.Follows (m.next t e) rest))

end KernelModel

namespace World

variable {σ : Type}

/-- The live handles. -/
def sockets (w : World σ) : List Socket := w.live.map LiveSocket.socket

/-- Tells something of a handle, if there is one under the number. -/
def tellOf (w : World σ) (index : Nat) (tell : LiveSocket → Report) : Report :=
  match w.live[index]? with
  | some h => tell h
  | none => .idle

/-- What a command tells its caller. -/
def report (k : Kernel σ) (w : World σ) : Command → Report
  | .makeTcp blocking => .made ((Socket.tcp blocking).run k w.kernel).result
  | .makeUdp => .made (Socket.udp.run k w.kernel).result
  | .adopt raw transport state => .made (Socket.adopt raw transport state)
  | .perform index operation =>
    w.tellOf index fun h =>
      .performed h.socket operation ((h.socket.perform operation).run k w.kernel).result.1
  | .release index => w.tellOf index fun h => .released h.socket.release
  | .close index => w.tellOf index fun h => .closed (h.socket.close.run k w.kernel).result
  | .drop index => w.tellOf index fun _ => .dropped
  | .elsewhere _ _ => .idle

/-- What a command shows. -/
def observe (k : Kernel σ) (w : World σ) (c : Command) : Observation :=
  ⟨w.report k c, (w.effect k c).entries⟩

/-- What the commands of a run show, one after the other. -/
def observed (k : Kernel σ) : World σ → List Command → List Observation
  | _, [] => []
  | w, c :: rest => w.observe k c :: (w.exec k c).observed k rest

theorem shown_observed_cons (k : Kernel σ) (w : World σ) (c : Command) (rest : List Command) :
    shown (w.observed k (c :: rest)) =
      (w.observe k c).events ++ shown ((w.exec k c).observed k rest) := rfl

theorem observed_append (k : Kernel σ) (w : World σ) (first second : List Command) :
    w.observed k (first ++ second) = w.observed k first ++ (w.run k first).observed k second := by
  induction first generalizing w with
  | nil => rfl
  | cons c rest ih => exact congrArg (w.observe k c :: ·) (ih (w.exec k c))

/-! ## The handles after a command -/

variable {k : Kernel σ}

/-- Putting a handle back as it was changes nothing. -/
theorem sockets_set_self {w : World σ} {index : Nat} {h : LiveSocket}
    (hi : w.live[index]? = some h) : w.sockets.set index h.socket = w.sockets := by
  obtain ⟨hlt, rfl⟩ := List.getElem?_eq_some_iff.mp hi
  have hin : index < w.sockets.length := by simpa [sockets] using hlt
  have hself : w.live[index].socket = w.sockets[index] := by simp [sockets]
  rw [hself, List.set_getElem_self]

/-- An operation replaces the handle it was performed on, and takes in what it accepted. -/
theorem sockets_putBack (w : World σ) (index : Nat) (h : LiveSocket) (operation : Operation)
    (run : Run (operation.Result × Socket) σ) :
    (w.putBack index h operation run).live.map LiveSocket.socket =
      operation.accepted run.result.1 ++ w.sockets.set index run.result.2 := by
  have haccepted : (operation.accepted run.result.1).map
      (LiveSocket.socket ∘ fun s => ⟨s, .accepted, []⟩) = operation.accepted run.result.1 :=
    List.map_id _
  simp only [putBack, List.map_append, List.map_map, haccepted, List.map_set, sockets]

/-- A constructor takes in what it made. -/
theorem sockets_enrol (w : World σ) (origin : Origin) (run : Run (Except NetError Socket) σ) :
    (w.enrol origin run).live.map LiveSocket.socket =
      match run.result with
      | .ok s => s :: w.sockets
      | .error _ => w.sockets := by
  obtain ⟨result, kernel, events⟩ := run
  cases result <;> rfl

/-- The end of a handle takes it out. -/
theorem sockets_eraseIdx (w : World σ) (index : Nat) :
    (w.live.eraseIdx index).map LiveSocket.socket = w.sockets.eraseIdx index :=
  (List.eraseIdx_map _ _ _).symm

/-! ## What later observations depend on -/

/-- Two worlds over kernels in one state, with the same live handles. -/
structure Alike (w w' : World σ) : Prop where
  kernel : w.kernel = w'.kernel
  sockets : w.sockets = w'.sockets

/-- Two effects with the same kernel, the same handles and the same events. -/
structure AlikeEffect (e e' : Effect σ) : Prop where
  kernel : e.kernel = e'.kernel
  sockets : e.live.map LiveSocket.socket = e'.live.map LiveSocket.socket
  entries : e.entries = e'.entries

section Alike

variable {w w' : World σ}

/-- Under each number, worlds that are alike have the same handle, or none. -/
theorem Alike.handle (h : w.Alike w') (index : Nat) :
    (w.live[index]? = none ∧ w'.live[index]? = none) ∨
      ∃ x x', w.live[index]? = some x ∧ w'.live[index]? = some x' ∧ x.socket = x'.socket := by
  have hsame : w.live[index]?.map LiveSocket.socket = w'.live[index]?.map LiveSocket.socket := by
    rw [← List.getElem?_map, ← List.getElem?_map]
    exact congrArg (·[index]?) h.sockets
  cases hx : w.live[index]? with
  | none =>
    rw [hx, Option.map_none, eq_comm, Option.map_eq_none_iff] at hsame
    exact .inl ⟨rfl, hsame⟩
  | some x =>
    rw [hx, Option.map_some, eq_comm, Option.map_eq_some_iff] at hsame
    obtain ⟨x', hx', heq⟩ := hsame
    exact .inr ⟨x, x', rfl, hx', heq.symm⟩

theorem Alike.tellOf (h : w.Alike w') (index : Nat) {tell tell' : LiveSocket → Report}
    (htell : ∀ x x', x.socket = x'.socket → tell x = tell' x') :
    w.tellOf index tell = w'.tellOf index tell' := by
  unfold World.tellOf
  rcases h.handle index with ⟨hx, hx'⟩ | ⟨x, x', hx, hx', hsame⟩
  · rw [hx, hx']
  · rw [hx, hx']
    exact htell x x' hsame

theorem Alike.withHandle (h : w.Alike w') (index : Nat) {use use' : LiveSocket → Effect σ}
    (huse : ∀ x x', x.socket = x'.socket → AlikeEffect (use x) (use' x')) :
    AlikeEffect (w.withHandle index use) (w'.withHandle index use') := by
  unfold World.withHandle
  rcases h.handle index with ⟨hx, hx'⟩ | ⟨x, x', hx, hx', hsame⟩
  · rw [hx, hx']
    exact ⟨h.kernel, h.sockets, rfl⟩
  · rw [hx, hx']
    exact huse x x' hsame

theorem Alike.enrol (h : w.Alike w') (origin : Origin) (run : Run (Except NetError Socket) σ) :
    AlikeEffect (w.enrol origin run) (w'.enrol origin run) := by
  refine ⟨rfl, ?_, rfl⟩
  rw [sockets_enrol, sockets_enrol, h.sockets]

theorem Alike.erase (h : w.Alike w') (index : Nat) :
    (w.live.eraseIdx index).map LiveSocket.socket =
      (w'.live.eraseIdx index).map LiveSocket.socket := by
  rw [sockets_eraseIdx, sockets_eraseIdx, h.sockets]

/-- Worlds that are alike tell the same. -/
theorem Alike.report (h : w.Alike w') (c : Command) : w.report k c = w'.report k c := by
  cases c with
  | makeTcp blocking => rw [World.report, World.report, h.kernel]
  | makeUdp => rw [World.report, World.report, h.kernel]
  | adopt raw transport state => rfl
  | perform index operation =>
    refine h.tellOf index fun x x' hsame => ?_
    rw [hsame, h.kernel]
  | release index => exact h.tellOf index fun x x' hsame => by rw [hsame]
  | close index => exact h.tellOf index fun x x' hsame => by rw [hsame, h.kernel]
  | drop index => exact h.tellOf index fun _ _ _ => rfl
  | elsewhere fd status => rfl

/-- A command does the same in worlds that are alike. -/
theorem Alike.effect (h : w.Alike w') (c : Command) :
    AlikeEffect (w.effect k c) (w'.effect k c) := by
  cases c with
  | makeTcp blocking =>
    rw [World.effect, World.effect, h.kernel]
    exact h.enrol _ _
  | makeUdp =>
    rw [World.effect, World.effect, h.kernel]
    exact h.enrol _ _
  | adopt raw transport state =>
    unfold World.effect
    dsimp only
    split
    · exact ⟨h.kernel, congrArg (_ :: ·) h.sockets, rfl⟩
    · exact ⟨h.kernel, h.sockets, rfl⟩
  | perform index operation =>
    refine h.withHandle index fun x x' hsame => ?_
    rw [hsame, h.kernel]
    refine ⟨rfl, ?_, rfl⟩
    rw [sockets_putBack, sockets_putBack, h.sockets]
  | release index =>
    refine h.withHandle index fun x x' hsame => ?_
    rw [hsame]
    exact ⟨h.kernel, h.erase index, rfl⟩
  | close index =>
    refine h.withHandle index fun x x' hsame => ?_
    rw [hsame, h.kernel]
    exact ⟨rfl, h.erase index, rfl⟩
  | drop index =>
    refine h.withHandle index fun x x' hsame => ?_
    rw [hsame, h.kernel]
    exact ⟨rfl, h.erase index, rfl⟩
  | elsewhere fd status => exact ⟨h.kernel, h.sockets, rfl⟩

/-- **Worlds that are alike show the same**, whatever their pasts, and stay alike. -/
theorem Alike.run (commands : List Command) {w w' : World σ} (h : w.Alike w') :
    w.observed k commands = w'.observed k commands ∧
      (w.run k commands).Alike (w'.run k commands) := by
  induction commands generalizing w w' with
  | nil => exact ⟨rfl, h⟩
  | cons c rest ih =>
    have heffect := h.effect (k := k) c
    have hshown : w.observe k c = w'.observe k c := by
      rw [observe, observe, h.report, heffect.entries]
    have hnext : (w.exec k c).Alike (w'.exec k c) := ⟨heffect.kernel, heffect.sockets⟩
    obtain ⟨hobserved, hend⟩ := ih hnext
    exact ⟨congrArg₂ List.cons hshown hobserved, hend⟩

end Alike

/-! ## The kinds of commands -/

/-- What a command on a handle shows: what it shows of the handle, or nothing. -/
theorem of_handle {motive : Observation → Prop} {w : World σ} {index : Nat}
    {tell : LiveSocket → Report} {use : LiveSocket → Effect σ} (absent : motive ⟨.idle, []⟩)
    (present : ∀ h, motive ⟨tell h, (use h).entries⟩) :
    motive ⟨w.tellOf index tell, (w.withHandle index use).entries⟩ := by
  unfold tellOf withHandle
  cases w.live[index]? with
  | none => exact absent
  | some h => exact present h

/-- What holds of every run of every program that a command may run holds of what a command shows.
-/
theorem observe_cases {motive : Report → List Event → Prop} (k : Kernel σ) (w : World σ)
    (c : Command)
    (tcp : ∀ {blocking events r}, Socket.TcpRun blocking events r → motive (.made r) events)
    (udp : ∀ {events r}, Socket.UdpRun events r → motive (.made r) events)
    (adopted : ∀ r, motive (.made r) [])
    (performed : ∀ (s : Socket) (operation : Operation), (s.perform operation).Ensures
      fun events r => motive (.performed s operation r.1) events)
    (released : ∀ raw, motive (.released raw) [])
    (closed : ∀ {fd events r}, Socket.CloseRun fd events r → motive (.closed r) events)
    (dropped : ∀ {fd events}, Socket.DropRun fd events () → motive .dropped events)
    (idle : motive .idle []) : motive (w.observe k c).report (w.observe k c).events := by
  have hrun {α : Type} {report : Report} {run : Run α σ} (h : motive report run.events) :
      motive report (⟨report, run.events.map .event⟩ : Observation).events := by
    rwa [Observation.events_map_event]
  have hhandle {index : Nat} {tell : LiveSocket → Report} {use : LiveSocket → Effect σ}
      (h : ∀ x, motive (tell x) (⟨tell x, (use x).entries⟩ : Observation).events) :
      motive (w.tellOf index tell)
        (⟨w.tellOf index tell, (w.withHandle index use).entries⟩ : Observation).events :=
    of_handle (motive := fun o => motive o.report o.events) idle h
  cases c with
  | makeTcp blocking => exact hrun (tcp ((Socket.tcp_runs blocking).run k w.kernel))
  | makeUdp => exact hrun (udp (Socket.udp_runs.run k w.kernel))
  | adopt raw transport state =>
    have hevents : (w.observe k (.adopt raw transport state)).events = [] := by
      simp only [Observation.events, observe, effect]
      cases Socket.adopt raw transport state <;> rfl
    rw [hevents]
    exact adopted _
  | perform index operation =>
    exact hhandle fun x => hrun ((performed x.socket operation).run k w.kernel)
  | release index => exact hhandle fun x => released _
  | close index =>
    exact hhandle fun x => hrun (closed ((Socket.close_runs x.socket).run k w.kernel))
  | drop index =>
    exact hhandle fun x => hrun (dropped ((Socket.drop_runs x.socket).run k w.kernel))
  | elsewhere fd status => exact idle

/-- What a command on a live handle shows. -/
theorem observe_perform (k : Kernel σ) {w : World σ} {index : Nat} {h : LiveSocket}
    (hi : w.live[index]? = some h) (operation : Operation) :
    let run := (h.socket.perform operation).run k w.kernel
    w.observe k (.perform index operation) =
      ⟨.performed h.socket operation run.result.1, run.events.map .event⟩ := by
  simp only [observe, report, tellOf, effect, withHandle, hi]
  rfl

/-- Asking for the local address shows one call, and tells its reply. -/
theorem observe_localAddress (k : Kernel σ) {w : World σ} {index : Nat} {h : LiveSocket}
    (hi : w.live[index]? = some h) :
    ∃ reply : Reply (.localName h.socket.descriptor),
      ((h.socket.perform .localAddress).run k w.kernel).events =
        [.called (.localName h.socket.descriptor) reply] ∧
      w.observe k (.perform index .localAddress) =
        ⟨.performed h.socket .localAddress (reply.mapError (.ofErrno "local_addr")),
          [.event (.called (.localName h.socket.descriptor) reply)]⟩ := by
  obtain ⟨reply, hevents, hresult⟩ :=
    (Socket.perform_localAddress_runs h.socket).run k w.kernel
  have hobserve := observe_perform k hi .localAddress
  simp only [hevents, hresult] at hobserve
  exact ⟨reply, hevents, hobserve⟩

/-- What holds of what every command shows holds of all that a run shows. -/
theorem observed_all {motive : Observation → Prop}
    (h : ∀ (w : World σ) (c : Command), motive (w.observe k c))
    (w : World σ) (commands : List Command) : ∀ o ∈ w.observed k commands, motive o := by
  induction commands generalizing w with
  | nil => simp [observed]
  | cons c rest ih => exact List.forall_mem_cons.mpr ⟨h w c, ih _⟩

/-- **A command makes no call but those of its operation, or of making and ending a handle.** -/
theorem observe_issues (k : Kernel σ) (w : World σ) (c : Command) :
    AllCalls (w.observe k c).report.Issues (w.observe k c).events :=
  observe_cases (motive := fun report events => AllCalls report.Issues events) k w c
    (fun h => h.setup) (fun h => h.setup) (fun _ => allCalls_nil) Socket.perform_issues
    (fun _ => allCalls_nil) (fun h => h.setup) (fun h => h.setup) allCalls_nil

/-! ## Transfers of bytes -/

/-- **What a command tells of the bytes of a connection agrees with the calls that it made.** -/
theorem observe_faithful (k : Kernel σ) (w : World σ) (c : Command) :
    (w.observe k c).Faithful :=
  observe_cases (motive := fun report events => Socket.DataAgrees report.data? events) k w c
    (fun h => Socket.noTransfer_of_setup h.setup) (fun h => Socket.noTransfer_of_setup h.setup)
    (fun _ => allCalls_nil) Socket.perform_data (fun _ => allCalls_nil)
    (fun h => Socket.noTransfer_of_setup h.setup) (fun h => Socket.noTransfer_of_setup h.setup)
    allCalls_nil

theorem observed_faithful (k : Kernel σ) (w : World σ) (commands : List Command) :
    ∀ o ∈ w.observed k commands, o.Faithful :=
  observed_all (observe_faithful k) w commands

end World
end SocketLayer
