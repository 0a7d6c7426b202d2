import Mathlib.Logic.Function.Basic
import SocketLayer.Proofs.OperationRuns

/-!
# Runs with many handles

A `World` is a program that uses the library: the handles that are alive, over one kernel. Commands
make handles, operate on them and end them in any order; a command on a handle that does not exist
does nothing. Beside the handles a world keeps what no operation reads, for statements only: the
kernel's table of open descriptors, the past of each handle, and a trace of all that happened.

* `World.run` — a list of commands, one after the other.
* `DescriptorTable.next` — what each system call does to the table of open descriptors.
* `Event.Touches` — an event makes a descriptor or is a call on it; the table keeps what events do
  not touch (`DescriptorTable.after_untouched`), and open what they do not close (`open_after`).
* `World.Step`, `effect_steps` — all that a command can do, whatever the kernel replies.
* `World.Lawful` — what the kernel and the callers promise of a command.
* `run_invariant`, `run_always` — what every command keeps holds after every run.
* `Kept`, `Kept.run` — what a fresh handle has and every operation keeps, every live handle has.
-/

set_option autoImplicit false

namespace SocketLayer

/-! ## What an event is about -/

namespace Event

/-- The descriptor that a successful call made. -/
def obtained? : Event → Option Descriptor
  | .called (.socket ..) (.ok fd) => some fd
  | .called (.accept ..) (.ok fd) => some fd
  | _ => none

/-- The descriptor that a call closes, whatever the reply. -/
def closed? : Event → Option Descriptor
  | .called (.close fd) _ => some fd
  | _ => none

/-- The socket that an event is about. -/
def subject? (e : Event) : Option Descriptor := e.call?.bind SystemCall.subject?

/-- An event makes a descriptor or is a call on it. -/
def Touches (e : Event) (fd : Descriptor) : Prop := e.obtained? = some fd ∨ e.subject? = some fd

theorem closed_is_subject {e : Event} {fd : Descriptor} (h : e.closed? = some fd) :
    e.subject? = some fd := by
  rcases e with ⟨call, reply⟩ | entry
  · cases call with
    | close => exact h
    | _ => cases h
  · cases h

end Event

/-! ## The kernel's table of open descriptors -/

/-- Under each number: nothing, or an open descriptor with its non-blocking bit. -/
abbrev DescriptorTable : Type := Descriptor → Option Bool

/-- What happened in a world. -/
inductive Entry where
  | event (event : Event)
  /-- A handle took over a descriptor made elsewhere. -/
  | adopted (fd : Descriptor)
  /-- A handle ended and gave its descriptor away. -/
  | released (fd : Descriptor)
  /-- Outside the library a number got a new status: free, or open in a blocking mode. -/
  | elsewhere (fd : Descriptor) (status : Option Bool)

/-- The events of a run, as entries of a trace. -/
abbrev booked (events : List Event) : List Entry := events.map .event

theorem booked_append (first second : List Event) :
    booked (first ++ second) = booked first ++ booked second := List.map_append

namespace DescriptorTable

/-- The table after a system call. A new socket is in blocking mode, an accepted one in the mode
that the call asked for; a close frees the number whatever it reports. -/
def afterEvent (t : DescriptorTable) : Event → DescriptorTable
  | .called (.socket ..) (.ok fd) => Function.update t fd (some false)
  | .called (.accept _ nonBlocking _) (.ok fd) => Function.update t fd (some nonBlocking)
  | .called (.close fd) _ => Function.update t fd none
  | .called (.setFlags fd flags) (.ok _) =>
    Function.update t fd ((t fd).map fun _ => flags.isNonBlocking)
  | _ => t

/-- The table after an entry of the trace. -/
def next (t : DescriptorTable) : Entry → DescriptorTable
  | .event e => t.afterEvent e
  | .elsewhere fd status => Function.update t fd status
  | _ => t

/-- The table after several entries. -/
def after (t : DescriptorTable) (entries : List Entry) : DescriptorTable := entries.foldl next t

/-- A rule for the kernel: which replies it may give while the table stands as it does. -/
abbrev Rule : Type := DescriptorTable → Event → Prop

/-- The kernel makes descriptors under free numbers only. -/
def OpensUnused : Rule := fun t e => ∀ fd ∈ e.obtained?, t fd = none

instance : DecidableRel OpensUnused := fun t e =>
  inferInstanceAs (Decidable (∀ fd ∈ e.obtained?, t fd = none))

/-- An entry that is a system call is answered by the rule. -/
def Admits (rule : Rule) (t : DescriptorTable) : Entry → Prop
  | .event e => rule t e
  | _ => True

/-- Every call of the entries is answered by the rule, each at its moment. -/
def Follows (rule : Rule) : DescriptorTable → List Entry → Prop
  | _, [] => True
  | t, entry :: rest => Admits rule t entry ∧ Follows rule (t.next entry) rest

instance (rule : Rule) [DecidableRel rule] (t : DescriptorTable) :
    DecidablePred (Admits rule t)
  | .event e => inferInstanceAs (Decidable (rule t e))
  | .adopted _ | .released _ | .elsewhere _ _ => .isTrue trivial

instance decidableFollows (rule : Rule) [DecidableRel rule] :
    ∀ (t : DescriptorTable) (entries : List Entry), Decidable (Follows rule t entries)
  | _, [] => .isTrue trivial
  | t, entry :: rest =>
    have := decidableFollows rule (t.next entry) rest
    inferInstanceAs (Decidable (Admits rule t entry ∧ Follows rule (t.next entry) rest))

theorem Follows.mono {rule rule' : Rule} (himp : ∀ t e, rule t e → rule' t e) {t : DescriptorTable}
    {entries : List Entry} (h : t.Follows rule entries) : t.Follows rule' entries := by
  induction entries generalizing t with
  | nil => trivial
  | cons e rest ih =>
    refine ⟨?_, ih h.2⟩
    cases e with
    | event e => exact himp t e h.1
    | _ => trivial

theorem follows_append {rule : Rule} {t : DescriptorTable} {first second : List Entry} :
    t.Follows rule (first ++ second) ↔
      t.Follows rule first ∧ (t.after first).Follows rule second := by
  induction first generalizing t with
  | nil => simp [Follows, after]
  | cons e rest ih =>
    show Admits rule t e ∧ (t.next e).Follows rule (rest ++ second) ↔
      (Admits rule t e ∧ (t.next e).Follows rule rest) ∧ ((t.next e).after rest).Follows rule second
    rw [ih, and_assoc]

theorem after_append (t : DescriptorTable) (first second : List Entry) :
    t.after (first ++ second) = (t.after first).after second := List.foldl_append

/-! ## What events leave alone -/

section Untouched

variable {t : DescriptorTable} {events : List Event} {fd : Descriptor}

/-- An event leaves every descriptor alone that it does not touch. -/
theorem afterEvent_frame {e : Event} (h : ¬ e.Touches fd) : t.afterEvent e fd = t fd := by
  obtain ⟨hnew, hused⟩ := not_or.mp h
  rcases e with ⟨call, reply⟩ | entry
  · cases call with
    | socket transport closeOnExec =>
      rcases reply with e | fd
      · rfl
      · exact Function.update_of_ne (fun h => hnew (by rw [h]; rfl)) _ _
    | accept listener nonBlocking closeOnExec =>
      rcases reply with e | fd
      · rfl
      · exact Function.update_of_ne (fun h => hnew (by rw [h]; rfl)) _ _
    | close fd => exact Function.update_of_ne (fun h => hused (by rw [h]; rfl)) _ _
    | setFlags fd flags =>
      rcases reply with e | _
      · rfl
      · exact Function.update_of_ne (fun h => hused (by rw [h]; rfl)) _ _
    | _ => rfl
  · rfl

/-- What is open or is made now is open afterwards, unless it is closed. -/
theorem open_after {e : Event} (hopen : e.obtained? = some fd ∨ t fd ≠ none)
    (hclosed : e.closed? ≠ some fd) : t.afterEvent e fd ≠ none := by
  have hupdate : ∀ (g : Descriptor) (status : Option Bool), (g = fd → status ≠ none) →
      (g ≠ fd → t fd ≠ none) → Function.update t g status fd ≠ none := by
    intro g status hstatus hother
    by_cases hg : g = fd
    · subst hg
      rw [Function.update_self]
      exact hstatus rfl
    · rw [Function.update_of_ne fun h => hg h.symm]
      exact hother hg
  rcases e with ⟨call, reply⟩ | entry
  · cases call with
    | socket transport closeOnExec | accept listener nonBlocking closeOnExec =>
      rcases reply with e | g
      · exact hopen.resolve_left nofun
      · refine hupdate g _ (fun _ => Option.some_ne_none _) fun hne => ?_
        exact hopen.resolve_left fun h => hne (Option.some.inj h)
    | close g =>
      have hne : g ≠ fd := fun h => hclosed (congrArg some h)
      exact hupdate g none (fun h => (hne h).elim) fun _ => hopen.resolve_left nofun
    | setFlags g flags =>
      have hstill : t fd ≠ none := hopen.resolve_left nofun
      rcases reply with e | _
      · exact hstill
      · refine hupdate g _ ?_ fun _ => hstill
        rintro rfl
        simpa using hstill
    | _ => exact hopen.resolve_left nofun
  · exact hopen.resolve_left nofun

/-- Events that do not touch a descriptor leave its entry in the table alone. -/
theorem after_untouched (h : ∀ e ∈ events, ¬ e.Touches fd) :
    t.after (booked events) fd = t fd := by
  induction events generalizing t with
  | nil => rfl
  | cons e rest ih =>
    obtain ⟨he, hrest⟩ := List.forall_mem_cons.mp h
    exact (ih hrest).trans (afterEvent_frame he)

/-- What stays open is not made again. -/
theorem not_obtained_of_open (hfollows : t.Follows OpensUnused (booked events))
    (hopen : t fd ≠ none) (hclosed : ∀ e ∈ events, e.closed? ≠ some fd) :
    ∀ e ∈ events, e.obtained? ≠ some fd := by
  induction events generalizing t with
  | nil => simp
  | cons e rest ih =>
    obtain ⟨hnow, hlater⟩ := List.forall_mem_cons.mp hclosed
    have hnew : e.obtained? ≠ some fd := fun h => hopen (hfollows.1 fd h)
    exact List.forall_mem_cons.mpr ⟨hnew, ih hfollows.2 (open_after (.inr hopen) hnow) hlater⟩

end Untouched

end DescriptorTable

/-! ## Worlds -/

/-- Where a handle came from. -/
inductive Origin where
  | made (transport : Transport)
  | accepted
  | adopted (transport : Transport) (state : Lifecycle)
  deriving DecidableEq, Repr

namespace Origin

/-- The transport that a handle has for its whole life. -/
def transport : Origin → Transport
  | .made transport | .adopted transport _ => transport
  | .accepted => .tcp

/-- The position that a handle starts in. -/
def state : Origin → Lifecycle
  | .made _ => .created
  | .accepted => .connected
  | .adopted _ state => state

end Origin

/-- A live handle with its past: the events of all that was done with it, its setup included. -/
structure LiveSocket where
  socket : Socket
  origin : Origin
  history : List Event

/-- What a program may ask of the library. Handles are numbered, the latest first. -/
inductive Command where
  | makeTcp (blocking : Bool)
  | makeUdp
  | adopt (raw : Int) (transport : Transport) (state : Lifecycle)
  | perform (index : Nat) (operation : Operation)
  | release (index : Nat)
  | close (index : Nat)
  | drop (index : Nat)
  /-- Not of the library: the rest of the program opens, closes or switches a descriptor. -/
  | elsewhere (fd : Descriptor) (status : Option Bool)

/-- A program that uses the library. -/
structure World (σ : Type) where
  kernel : σ
  table : DescriptorTable
  live : List LiveSocket
  trace : List Entry

/-- What a command does: the kernel's next state, the handles alive after it, and what happened. -/
structure Effect (σ : Type) where
  kernel : σ
  live : List LiveSocket
  entries : List Entry

namespace World

variable {α σ : Type}

/-- A world without handles. -/
def start (kernel : σ) (table : DescriptorTable) : World σ := ⟨kernel, table, [], []⟩

/-- The descriptors that live handles hold. -/
def held (w : World σ) : List Descriptor := w.live.map fun h => h.socket.descriptor

/-- Takes in the handle that a constructor made, if it made one. -/
def enrol (w : World σ) (origin : Origin) (run : Run (Except NetError Socket) σ) : Effect σ where
  kernel := run.kernel
  live :=
    match run.result with
    | .ok s => ⟨s, origin, run.events⟩ :: w.live
    | .error _ => w.live
  entries := run.events.map .event

/-- Does something with a handle, if there is one under the number. -/
def withHandle (w : World σ) (index : Nat) (use : LiveSocket → Effect σ) : Effect σ :=
  match w.live[index]? with
  | some h => use h
  | none => ⟨w.kernel, w.live, []⟩

/-- Puts a handle back after an operation, and takes in a handle that was accepted. -/
def putBack (w : World σ) (index : Nat) (h : LiveSocket) (operation : Operation)
    (run : Run (operation.Result × Socket) σ) : Effect σ where
  kernel := run.kernel
  live := (operation.accepted run.result.1).map (⟨·, .accepted, []⟩) ++
    w.live.set index { h with socket := run.result.2, history := h.history ++ run.events }
  entries := run.events.map .event

/-- Takes out a handle that ended. -/
def retire (w : World σ) (index : Nat) (run : Run α σ) : Effect σ :=
  ⟨run.kernel, w.live.eraseIdx index, run.events.map .event⟩

/-- What a command does. -/
def effect (k : Kernel σ) (w : World σ) : Command → Effect σ
  | .makeTcp blocking => w.enrol (.made .tcp) ((Socket.tcp blocking).run k w.kernel)
  | .makeUdp => w.enrol (.made .udp) (Socket.udp.run k w.kernel)
  | .adopt raw transport state =>
    match Socket.adopt raw transport state with
    | .ok s => ⟨w.kernel, ⟨s, .adopted transport state, []⟩ :: w.live, [.adopted s.descriptor]⟩
    | .error _ => ⟨w.kernel, w.live, []⟩
  | .perform index operation =>
    w.withHandle index fun h =>
      w.putBack index h operation ((h.socket.perform operation).run k w.kernel)
  | .release index =>
    w.withHandle index fun h =>
      ⟨w.kernel, w.live.eraseIdx index, [.released ⟨h.socket.release.toNat⟩]⟩
  | .close index => w.withHandle index fun h => w.retire index (h.socket.close.run k w.kernel)
  | .drop index => w.withHandle index fun h => w.retire index (h.socket.drop.run k w.kernel)
  | .elsewhere fd status => ⟨w.kernel, w.live, [.elsewhere fd status]⟩

/-- The world after a command. -/
def exec (k : Kernel σ) (w : World σ) (c : Command) : World σ :=
  let e := w.effect k c
  ⟨e.kernel, w.table.after e.entries, e.live, w.trace ++ e.entries⟩

/-- The world after several commands. -/
def run (k : Kernel σ) (w : World σ) (commands : List Command) : World σ :=
  commands.foldl (exec k) w

/-! ## What a command can do -/

/-- A command that does nothing: it is about a handle that does not exist, or a number that cannot
name a descriptor. -/
def Idle (w : World σ) : Command → Prop
  | .perform index _ | .release index | .close index | .drop index => w.live[index]? = none
  | .adopt raw _ _ => Descriptor.isValidRaw raw = false
  | _ => False

/-- All that a command can do. -/
inductive Step (k : Kernel σ) (w : World σ) : Command → Effect σ → Prop
  | tcp {blocking : Bool} {run : Run (Except NetError Socket) σ}
    (hrun : (Socket.tcp blocking).run k w.kernel = run)
    (h : Socket.TcpRun blocking run.events run.result) :
    Step k w (.makeTcp blocking) (w.enrol (.made .tcp) run)
  | udp {run : Run (Except NetError Socket) σ} (hrun : Socket.udp.run k w.kernel = run)
    (h : Socket.UdpRun run.events run.result) : Step k w .makeUdp (w.enrol (.made .udp) run)
  | adopted {transport : Transport} {state : Lifecycle} (fd : Descriptor) :
    Step k w (.adopt fd.raw transport state)
      ⟨w.kernel, ⟨⟨fd, transport, state, false⟩, .adopted transport state, []⟩ :: w.live,
        [.adopted fd]⟩
  | performed {index : Nat} {operation : Operation} {h : LiveSocket}
    {run : Run (operation.Result × Socket) σ} (hi : w.live[index]? = some h)
    (hrun : (h.socket.perform operation).run k w.kernel = run)
    (hp : Socket.PerformRun h.socket operation run.events run.result) :
    Step k w (.perform index operation) (w.putBack index h operation run)
  | released {index : Nat} {h : LiveSocket} (hi : w.live[index]? = some h) :
    Step k w (.release index)
      ⟨w.kernel, w.live.eraseIdx index, [.released h.socket.descriptor]⟩
  | closed {index : Nat} {h : LiveSocket} (hi : w.live[index]? = some h)
    {run : Run (Except NetError Unit) σ}
    (hc : Socket.CloseRun h.socket.descriptor run.events run.result) :
    Step k w (.close index) (w.retire index run)
  | dropped {index : Nat} {h : LiveSocket} (hi : w.live[index]? = some h) {run : Run Unit σ}
    (hd : Socket.DropRun h.socket.descriptor run.events run.result) :
    Step k w (.drop index) (w.retire index run)
  | elsewhere (fd : Descriptor) (status : Option Bool) :
    Step k w (.elsewhere fd status) ⟨w.kernel, w.live, [.elsewhere fd status]⟩
  | idle {c : Command} (h : w.Idle c) : Step k w c ⟨w.kernel, w.live, []⟩

/-- A command on a handle acts on the handle under its number, or does nothing. -/
theorem withHandle_cases {motive : Effect σ → Prop} {w : World σ} {index : Nat}
    {use : LiveSocket → Effect σ}
    (absent : w.live[index]? = none → motive ⟨w.kernel, w.live, []⟩)
    (present : ∀ h, w.live[index]? = some h → motive (use h)) :
    motive (w.withHandle index use) := by
  unfold withHandle
  split
  · rename_i h hi
    exact present h hi
  · rename_i hi
    exact absent hi

/-- **Every command does one of the things that are listed in `Step`.** -/
theorem effect_steps (k : Kernel σ) (w : World σ) (c : Command) : Step k w c (w.effect k c) := by
  cases c with
  | makeTcp blocking => exact .tcp rfl ((Socket.tcp_runs blocking).run k _)
  | makeUdp => exact .udp rfl (Socket.udp_runs.run k _)
  | adopt raw transport state =>
    cases hraw : Descriptor.isValidRaw raw with
    | false =>
      simp only [effect, Socket.adopt, hraw, Bool.false_eq_true, if_false]
      exact .idle hraw
    | true =>
      obtain ⟨fd, rfl⟩ : ∃ fd : Descriptor, raw = fd.raw := by
        have : 0 ≤ raw := of_decide_eq_true hraw
        refine ⟨⟨raw.toNat⟩, ?_⟩
        show raw = (raw.toNat : Int)
        omega
      simp only [effect, Socket.adopt, hraw, if_true]
      exact .adopted fd
  | perform index operation =>
    exact withHandle_cases (fun hi => .idle hi) fun h hi =>
      .performed hi rfl ((Socket.perform_runs h.socket operation).run k _)
  | release index => exact withHandle_cases (fun hi => .idle hi) fun h hi => .released hi
  | close index =>
    exact withHandle_cases (fun hi => .idle hi) fun h hi =>
      .closed hi ((Socket.close_runs h.socket).run k _)
  | drop index =>
    exact withHandle_cases (fun hi => .idle hi) fun h hi =>
      .dropped hi ((Socket.drop_runs h.socket).run k _)
  | elsewhere fd status => exact .elsewhere fd status

/-! ## Promises -/

/-- What callers promise: an adopted descriptor is open and no live handle holds it, and nothing
outside the library touches a descriptor that a live handle holds. -/
def Promised (w : World σ) : Command → Prop
  | .adopt raw _ _ => Descriptor.isValidRaw raw = true →
    w.table ⟨raw.toNat⟩ ≠ none ∧ ⟨raw.toNat⟩ ∉ w.held
  | .elsewhere fd _ => fd ∉ w.held
  | _ => True

instance (w : World σ) : DecidablePred w.Promised
  | .adopt raw _ _ => inferInstanceAs (Decidable (Descriptor.isValidRaw raw = true →
    w.table ⟨raw.toNat⟩ ≠ none ∧ ⟨raw.toNat⟩ ∉ w.held))
  | .elsewhere fd _ => inferInstanceAs (Decidable (fd ∉ w.held))
  | .makeTcp _ | .makeUdp | .perform _ _ | .release _ | .close _ | .drop _ => .isTrue trivial

/-- Callers keep their promises, and the kernel answers by the rule. -/
def Lawful (rule : DescriptorTable.Rule) (k : Kernel σ) (w : World σ) (c : Command) : Prop :=
  w.Promised c ∧ w.table.Follows rule (w.effect k c).entries

instance (rule : DescriptorTable.Rule) [DecidableRel rule] (k : Kernel σ) (w : World σ) :
    DecidablePred (w.Lawful rule k) := fun c =>
  inferInstanceAs (Decidable (w.Promised c ∧ w.table.Follows rule (w.effect k c).entries))

/-- Something holds of each command of a run, in the world that it meets. -/
def Along (k : Kernel σ) (holds : World σ → Command → Prop) : World σ → List Command → Prop
  | _, [] => True
  | w, c :: rest => holds w c ∧ Along k holds (w.exec k c) rest

instance decidableAlong (k : Kernel σ) (holds : World σ → Command → Prop)
    [∀ w, DecidablePred (holds w)] :
    ∀ (w : World σ) (commands : List Command), Decidable (Along k holds w commands)
  | _, [] => .isTrue trivial
  | w, c :: rest =>
    have := decidableAlong k holds (w.exec k c) rest
    inferInstanceAs (Decidable (holds w c ∧ Along k holds (w.exec k c) rest))

theorem Lawful.mono {rule rule' : DescriptorTable.Rule} (himp : ∀ t e, rule t e → rule' t e)
    {k : Kernel σ} {w : World σ} {c : Command} (h : w.Lawful rule k c) : w.Lawful rule' k c :=
  ⟨h.1, h.2.mono himp⟩

theorem Along.mono {k : Kernel σ} {holds holds' : World σ → Command → Prop}
    (himp : ∀ w c, holds w c → holds' w c) :
    ∀ {commands : List Command} {w : World σ}, Along k holds w commands → Along k holds' w commands
  | [], _, _ => trivial
  | _ :: _, _, h => ⟨himp _ _ h.1, h.2.mono himp⟩

theorem Along.and {k : Kernel σ} {holds holds' : World σ → Command → Prop} :
    ∀ {commands : List Command} {w : World σ}, Along k holds w commands →
      Along k holds' w commands → Along k (fun w c => holds w c ∧ holds' w c) w commands
  | [], _, _, _ => trivial
  | _ :: _, _, h, h' => ⟨⟨h.1, h'.1⟩, h.2.and h'.2⟩

theorem run_append (k : Kernel σ) (w : World σ) (first second : List Command) :
    w.run k (first ++ second) = (w.run k first).run k second := List.foldl_append

theorem along_append {k : Kernel σ} {holds : World σ → Command → Prop} {w : World σ}
    {first second : List Command} :
    Along k holds w (first ++ second) ↔
      Along k holds w first ∧ Along k holds (w.run k first) second := by
  induction first generalizing w with
  | nil => exact ⟨fun h => ⟨trivial, h⟩, fun h => h.2⟩
  | cons c rest ih =>
    show holds w c ∧ Along k holds (w.exec k c) (rest ++ second) ↔
      (holds w c ∧ Along k holds (w.exec k c) rest) ∧
        Along k holds ((w.exec k c).run k rest) second
    rw [ih, and_assoc]

/-- **What every promised command keeps holds after every promised run.** -/
theorem run_invariant {k : Kernel σ} {inv : World σ → Prop} {holds : World σ → Command → Prop}
    (step : ∀ w c, inv w → holds w c → inv (w.exec k c)) :
    ∀ (commands : List Command) (w : World σ), inv w → Along k holds w commands →
      inv (w.run k commands)
  | [], _, h, _ => h
  | c :: rest, w, h, ha => run_invariant step rest _ (step w c h ha.1) ha.2

/-- **What every command keeps holds after every run**, whatever is promised. -/
theorem run_always {k : Kernel σ} {inv : World σ → Prop} (step : ∀ w c, inv w → inv (w.exec k c))
    (commands : List Command) (w : World σ) (h : inv w) : inv (w.run k commands) := by
  induction commands generalizing w with
  | nil => exact h
  | cons c rest ih => exact ih (w.exec k c) (step w c h)

/-! ## Properties of handles -/

/-- A property of handles that a fresh one has and every operation keeps.

* `tcp`, `udp`, `adopted`, `accepted` — however a handle is come by, it has the property.
* `performed` — an operation keeps it, its events being added to the history. -/
structure Kept (inv : LiveSocket → Prop) : Prop where
  tcp : ∀ {blocking : Bool} {events : List Event} {s : Socket},
    Socket.TcpRun blocking events (.ok s) → inv ⟨s, .made .tcp, events⟩
  udp : ∀ {events : List Event} {s : Socket},
    Socket.UdpRun events (.ok s) → inv ⟨s, .made .udp, events⟩
  adopted : ∀ (fd : Descriptor) (transport : Transport) (state : Lifecycle),
    inv ⟨⟨fd, transport, state, false⟩, .adopted transport state, []⟩
  accepted : ∀ (fd : Descriptor) (nonBlocking : Bool),
    inv ⟨⟨fd, .tcp, .connected, nonBlocking⟩, .accepted, []⟩
  performed : ∀ (h : LiveSocket) (operation : Operation), inv h →
    (h.socket.perform operation).Ensures fun events r =>
      inv { h with socket := r.2, history := h.history ++ events }

section Kept

variable {inv : LiveSocket → Prop} {k : Kernel σ} {w : World σ}

theorem kept_enrol {origin : Origin} {run : Run (Except NetError Socket) σ}
    (hw : ∀ h ∈ w.live, inv h) (hnew : ∀ s, run.result = .ok s → inv ⟨s, origin, run.events⟩) :
    ∀ h ∈ (w.enrol origin run).live, inv h := by
  obtain ⟨e | s, kernel, events⟩ := run
  · exact hw
  · exact List.forall_mem_cons.mpr ⟨hnew s rfl, hw⟩

theorem mem_eraseIdx_of_mem_set {l : List α} {index : Nat} {new x : α} (h : x ∈ l.set index new) :
    x = new ∨ x ∈ l.eraseIdx index := by
  obtain ⟨j, hj⟩ := List.mem_iff_getElem?.mp h
  by_cases hji : index = j
  · subst hji
    have hlt : index < l.length := by simpa using (List.getElem?_eq_some_iff.mp hj).1
    rw [List.getElem?_set_self hlt] at hj
    exact .inl (Option.some.inj hj).symm
  · rw [List.getElem?_set_ne hji] at hj
    exact .inr (List.mem_eraseIdx_iff_getElem?.mpr ⟨j, fun h => hji h.symm, hj⟩)

theorem kept_putBack {index : Nat} {h : LiveSocket} {operation : Operation}
    {run : Run (operation.Result × Socket) σ}
    (haccepted : ∀ s ∈ operation.accepted run.result.1, inv ⟨s, .accepted, []⟩)
    (hown : inv { h with socket := run.result.2, history := h.history ++ run.events })
    (hothers : ∀ other ∈ w.live.eraseIdx index, inv other) :
    ∀ h' ∈ (w.putBack index h operation run).live, inv h' := by
  intro h' hmem
  rcases List.mem_append.mp hmem with hnew | hmem
  · obtain ⟨s, hs, rfl⟩ := List.mem_map.mp hnew
    exact haccepted s hs
  · rcases mem_eraseIdx_of_mem_set hmem with rfl | hother
    · exact hown
    · exact hothers h' hother

/-- A command keeps the property of all live handles. -/
theorem Kept.step (hkept : Kept inv) {c : Command} {e : Effect σ} (h : Step k w c e)
    (hw : ∀ h ∈ w.live, inv h) : ∀ h ∈ e.live, inv h := by
  cases h with
  | tcp _ h =>
    refine kept_enrol hw fun s hs => ?_
    rw [hs] at h
    exact hkept.tcp h
  | udp _ h =>
    refine kept_enrol hw fun s hs => ?_
    rw [hs] at h
    exact hkept.udp h
  | adopted fd => exact List.forall_mem_cons.mpr ⟨hkept.adopted fd _ _, hw⟩
  | @performed index operation h run hi hrun hp =>
    refine kept_putBack (fun s hs => ?_) ?_ fun h hmem => hw h (List.mem_of_mem_eraseIdx hmem)
    · obtain ⟨fd, -, rfl⟩ := hp.accepted_cases hs
      exact hkept.accepted fd _
    · have hinv := (hkept.performed h operation (hw h (List.mem_of_getElem? hi))).run k w.kernel
      rwa [hrun] at hinv
  | released _ => exact fun h hmem => hw h (List.mem_of_mem_eraseIdx hmem)
  | closed _ _ => exact fun h hmem => hw h (List.mem_of_mem_eraseIdx hmem)
  | dropped _ _ => exact fun h hmem => hw h (List.mem_of_mem_eraseIdx hmem)
  | elsewhere fd status => exact hw
  | idle _ => exact hw

/-- **What a fresh handle has and every operation keeps, every live handle has**, in every run. -/
theorem Kept.run (hkept : Kept inv) (k : Kernel σ) (kernel : σ) (table : DescriptorTable)
    (commands : List Command) : ∀ h ∈ ((start kernel table).run k commands).live, inv h := by
  have hstep : ∀ (w : World σ) (c : Command), (∀ h ∈ w.live, inv h) →
      ∀ h ∈ (w.exec k c).live, inv h := fun w c hw => hkept.step (effect_steps k w c) hw
  have hstart : ∀ h ∈ (start kernel table).live, inv h := nofun
  exact run_always hstep commands _ hstart

end Kept

end World
end SocketLayer
