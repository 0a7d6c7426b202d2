import Mathlib.Data.List.Nodup
import SocketLayer.Host.Answer
import SocketLayer.Proofs.Ledger

/-!
# Every descriptor is owned once

The constructors, the operations and the ends of a handle are booked in the ledger of descriptors:
each leads from what is held to what is held afterwards, on every path, failed setup steps included.
So at every point of every run the live handles are the ledger's owners.

* `TcpRun.constructs`, `UdpRun.constructs` — a constructor adds its handle, or closes what it
  obtained.
* `PerformRun.performs` — an operation adds what it accepted and leaves the rest.
* `Step.settles` — what any command does to ownership.
* `Custody` — the invariant of a world, kept by every lawful command (`custody_exec`).
* `owned_once` — what it says of every run.
-/

set_option autoImplicit false

namespace SocketLayer

open Ledger

/-- The poller that an entry names. -/
def Entry.poller? : Entry → Option Descriptor
  | .event e => e.call?.bind SystemCall.poller?
  | _ => none

namespace Ledger

/-! ## Entries that leave ownership alone -/

/-- Events on one descriptor that neither take one on nor give one up, and name no poller. -/
def Neutral (fd : Descriptor) (events : List Event) : Prop :=
  ∀ e ∈ booked events, e.Stays fd ∧ e.poller? = none

theorem neutral_nil (fd : Descriptor) : Neutral fd [] := by
  intro e he
  cases he

theorem neutral_cons {fd : Descriptor} {e : Event} {rest : List Event}
    (h : (Entry.event e).Stays fd) (hp : (Entry.event e).poller? = none) (hr : Neutral fd rest) :
    Neutral fd (e :: rest) := by
  intro x hx
  rcases List.mem_cons.mp hx with rfl | hx
  · exact ⟨h, hp⟩
  · exact hr x hx

theorem stays_call {fd : Descriptor} {c : SystemCall} {reply : Reply c}
    (hs : c.subject? = some fd) (ha : (Event.called c reply).obtained? = none)
    (hc : (Event.called c reply).closed? = none) : (Entry.event (.called c reply)).Stays fd := by
  refine ⟨ha, hc, rfl, fun g hg => ?_⟩
  have : some g = some fd := hg.symm.trans hs
  exact Option.some.inj this

theorem neutral_call {fd : Descriptor} {c : SystemCall} {reply : Reply c} {rest : List Event}
    (hs : c.subject? = some fd) (ha : (Event.called c reply).obtained? = none)
    (hc : (Event.called c reply).closed? = none) (hp : c.poller? = none) (hr : Neutral fd rest) :
    Neutral fd (.called c reply :: rest) :=
  neutral_cons (stays_call hs ha hc) hp hr

theorem neutral_log {fd : Descriptor} (entry : LogRecord) {rest : List Event}
    (hr : Neutral fd rest) : Neutral fd (.logged entry :: rest) :=
  neutral_cons ⟨rfl, rfl, rfl, nofun⟩ rfl hr

theorem neutral_append {fd : Descriptor} {first second : List Event} (h : Neutral fd first)
    (h' : Neutral fd second) : Neutral fd (first ++ second) := by
  intro x hx
  rw [booked_append] at hx
  rcases List.mem_append.mp hx with hx | hx
  · exact h x hx
  · exact h' x hx

theorem Neutral.accounts {fd : Descriptor} {events : List Event} (h : Neutral fd events)
    {held : List Descriptor} (hfd : fd ∈ held) : Accounts held (booked events) held :=
  accounts_of_stays hfd fun e he => (h e he).1

theorem Neutral.closed {fd : Descriptor} {events : List Event} (h : Neutral fd events) :
    (booked events).filterMap Entry.closed? = [] :=
  List.filterMap_eq_nil_iff.mpr fun e he => (h e he).1.closed

theorem Neutral.pollers {fd : Descriptor} {events : List Event} (h : Neutral fd events) :
    (booked events).filterMap Entry.poller? = [] :=
  List.filterMap_eq_nil_iff.mpr fun e he => (h e he).2

theorem Neutral.acquired {fd : Descriptor} {events : List Event} (h : Neutral fd events) :
    (booked events).filterMap Entry.acquired? = [] :=
  List.filterMap_eq_nil_iff.mpr fun e he => (h e he).1.acquired

end Ledger

namespace Socket

/-! ## One operation -/

theorem SwitchRun.neutral {fd : Descriptor} {on : Bool} {events : List Event}
    {r : Except Errno Unit} (h : SwitchRun fd on events r) : Neutral fd events := by
  cases h with
  | unread e => exact neutral_call rfl rfl rfl rfl (neutral_nil fd)
  | already flags h => exact neutral_call rfl rfl rfl rfl (neutral_nil fd)
  | unwritten flags h e =>
    exact neutral_call rfl rfl rfl rfl (neutral_call rfl rfl rfl rfl (neutral_nil fd))
  | switched flags h =>
    exact neutral_call rfl rfl rfl rfl (neutral_call rfl rfl rfl rfl (neutral_nil fd))

/-- Events that pass one descriptor to `close`, once. -/
structure Closes (fd : Descriptor) (events : List Event) : Prop where
  accounts : ∀ held, fd ∈ held → Accounts held (booked events) (held.erase fd)
  closed : (booked events).filterMap Entry.closed? = [fd]
  acquired : (booked events).filterMap Entry.acquired? = []
  pollers : (booked events).filterMap Entry.poller? = []

theorem Closes.after {fd : Descriptor} {setup ending : List Event} (hc : Closes fd ending)
    (h : Neutral fd setup) : Closes fd (setup ++ ending) where
  accounts held hfd := by
    rw [booked_append]
    exact (h.accounts hfd).append (hc.accounts held hfd)
  closed := by
    rw [booked_append, List.filterMap_append, h.closed, hc.closed]
    rfl
  acquired := by
    rw [booked_append, List.filterMap_append, h.acquired, hc.acquired]
    rfl
  pollers := by
    rw [booked_append, List.filterMap_append, h.pollers, hc.pollers]
    rfl

theorem Closes.logged {fd : Descriptor} {ending : List Event} (hc : Closes fd ending)
    (entry : LogRecord) : Closes fd (.logged entry :: ending) :=
  hc.after (neutral_log entry (neutral_nil fd))

theorem DropRun.closes {fd : Descriptor} {events : List Event} {r : Unit}
    (h : DropRun fd events r) : Closes fd events := by
  cases h with
  | closed => exact ⟨fun held hfd => ⟨by rintro g ⟨⟩; exact hfd, rfl⟩, rfl, rfl, rfl⟩
  | failed e => exact ⟨fun held hfd => ⟨by rintro g ⟨⟩; exact hfd, nofun, rfl⟩, rfl, rfl, rfl⟩

theorem CloseRun.closes {fd : Descriptor} {events : List Event} {r : Except NetError Unit}
    (h : CloseRun fd events r) : Closes fd events := by
  cases h with
  | closed => exact ⟨fun held hfd => ⟨nofun, by rintro g ⟨⟩; exact hfd, rfl⟩, rfl, rfl, rfl⟩
  | failed e => exact ⟨fun held hfd => ⟨nofun, by rintro g ⟨⟩; exact hfd, rfl⟩, rfl, rfl, rfl⟩

/-- What a constructor adds to what is held. -/
def heldBy : Except NetError Socket → List Descriptor
  | .ok s => [s.descriptor]
  | .error _ => []

/-- What a constructor obtained and lost again, because a later step failed. -/
def lostBy (events : List Event) : Except NetError Socket → List Descriptor
  | .ok _ => []
  | .error _ => (booked events).filterMap Entry.acquired?

/-- Events of a constructor: its handle's descriptor is held afterwards, and after a failure
everything that was obtained has been passed to `close`. -/
structure Constructs (events : List Event) (r : Except NetError Socket) : Prop where
  accounts : ∀ held, Accounts held (booked events) (heldBy r ++ held)
  closed : (booked events).filterMap Entry.closed? = lostBy events r
  pollers : (booked events).filterMap Entry.poller? = []

theorem constructs_refused (transport : Transport) (e : Errno) (error : NetError) :
    Constructs [.called (.socket transport true) (.error e)] (.error error) :=
  ⟨fun _ => ⟨nofun, rfl⟩, rfl, rfl⟩

theorem constructs_made {transport : Transport} {fd : Descriptor} {setup : List Event}
    (h : Neutral fd setup) {s : Socket} (hs : s.descriptor = fd) :
    Constructs (.called (.socket transport true) (.ok fd) :: setup) (.ok s) := by
  subst hs
  exact ⟨fun held => ⟨nofun, h.accounts (List.mem_cons_self ..)⟩, h.closed, h.pollers⟩

theorem constructs_abandoned {transport : Transport} {fd : Descriptor} {rest : List Event}
    (h : Closes fd rest) (error : NetError) :
    Constructs (.called (.socket transport true) (.ok fd) :: rest) (.error error) := by
  refine ⟨fun held => ⟨nofun, ?_⟩, ?_, h.pollers⟩
  · have hrest := h.accounts (fd :: held) (List.mem_cons_self ..)
    rw [List.erase_cons_head] at hrest
    exact hrest
  · show (booked rest).filterMap Entry.closed? = fd :: (booked rest).filterMap Entry.acquired?
    rw [h.closed, h.acquired]

theorem neutral_setWord (fd : Descriptor) (name : WordOption) (value : Int32)
    (reply : Except Errno Unit) {rest : List Event} (h : Neutral fd rest) :
    Neutral fd (.called (.setWord fd name value) reply :: rest) :=
  neutral_call rfl rfl rfl rfl h

theorem TcpRun.constructs {blocking : Bool} {events : List Event} {r : Except NetError Socket}
    (h : TcpRun blocking events r) : Constructs events r := by
  cases h with
  | refused _ e => exact constructs_refused _ e _
  | blocking fd => exact constructs_made (neutral_log _ (neutral_nil fd)) rfl
  | unswitched fd e hs hd =>
    exact constructs_abandoned ((hd.closes.logged _).after hs.neutral) _
  | unshared fd e hs hd =>
    have hunshared := neutral_setWord fd .reuseAddress 1 (.error e) (neutral_nil fd)
    exact constructs_abandoned (((hd.closes.logged _).after hunshared).after hs.neutral) _
  | made fd hs =>
    exact constructs_made (neutral_append hs.neutral
      (neutral_setWord _ _ _ _ (neutral_log _ (neutral_nil fd)))) rfl

theorem UdpRun.constructs {events : List Event} {r : Except NetError Socket}
    (h : UdpRun events r) : Constructs events r := by
  cases h with
  | refused e => exact constructs_refused _ e _
  | unswitched fd e hs hd =>
    exact constructs_abandoned ((hd.closes.logged _).after hs.neutral) _
  | made fd hs =>
    exact constructs_made (neutral_append hs.neutral (neutral_log _ (neutral_nil fd))) rfl

/-! ## Operations on a live handle -/

/-- A plain call neither takes on nor gives up. -/
theorem stays_of_plain {fd : Descriptor} {poller : Option Descriptor} {c : SystemCall}
    (h : c.PlainOn fd poller) (reply : Reply c) : (Entry.event (.called c reply)).Stays fd := by
  have hplain := h.plain
  have hsubject := h.subject
  cases c with
  | socket | close | accept => cases hplain
  | _ => exact stays_call hsubject rfl rfl

/-- Events of an operation: what it accepted is held afterwards, and nothing is given up. -/
structure Performs (fd : Descriptor) (poller : Option Descriptor) (events : List Event)
    (accepted : List Socket) : Prop where
  accounts : ∀ held, fd ∈ held →
    Accounts held (booked events) (accepted.map Socket.descriptor ++ held)
  closed : (booked events).filterMap Entry.closed? = []
  pollers : ∀ p ∈ (booked events).filterMap Entry.poller?, poller = some p

theorem performs_of_neutral {fd : Descriptor} {poller : Option Descriptor} {events : List Event}
    (h : Neutral fd events) : Performs fd poller events [] where
  accounts held hfd := h.accounts hfd
  closed := h.closed
  pollers := by simp [h.pollers]

theorem TryBindRun.neutral {s : Socket} {address : SocketAddress} {events : List Event}
    {r : Except NetError Unit × Socket} (h : TryBindRun s address events r) :
    Neutral s.descriptor events ∧ r.2.descriptor = s.descriptor := by
  cases h with
  | stopped h => exact ⟨neutral_nil _, rfl⟩
  | failed h e => exact ⟨neutral_call rfl rfl rfl rfl (neutral_nil _), rfl⟩
  | moved h => exact ⟨neutral_call rfl rfl rfl rfl (neutral_log _ (neutral_nil _)), rfl⟩

theorem BindRun.neutral {s : Socket} {address : SocketAddress} {events : List Event}
    {r : Bool × Socket} (h : BindRun s address events r) :
    Neutral s.descriptor events ∧ r.2.descriptor = s.descriptor := by
  cases h with
  | refused h =>
    obtain ⟨hn, hd⟩ := h.neutral
    exact ⟨neutral_append hn (neutral_log _ (neutral_nil _)), hd⟩
  | moved h => exact h.neutral

theorem ListenRun.neutral {s : Socket} {backlog : Int32} {events : List Event}
    {r : Except NetError Unit × Socket} (h : ListenRun s backlog events r) :
    Neutral s.descriptor events ∧ r.2.descriptor = s.descriptor := by
  cases h with
  | stopped h => exact ⟨neutral_nil _, rfl⟩
  | failed h e => exact ⟨neutral_call rfl rfl rfl rfl (neutral_nil _), rfl⟩
  | moved h => exact ⟨neutral_call rfl rfl rfl rfl (neutral_log _ (neutral_nil _)), rfl⟩

theorem ConnectRun.neutral {s : Socket} {address : SocketAddress} {events : List Event}
    {r : Except NetError Connect × Socket} (h : ConnectRun s address events r) :
    Neutral s.descriptor events ∧ r.2.descriptor = s.descriptor := by
  cases h with
  | stopped h => exact ⟨neutral_nil _, rfl⟩
  | failed h e he => exact ⟨neutral_call rfl rfl rfl rfl (neutral_nil _), rfl⟩
  | established h => exact ⟨neutral_call rfl rfl rfl rfl (neutral_log _ (neutral_nil _)), rfl⟩
  | inProgress h => exact ⟨neutral_call rfl rfl rfl rfl (neutral_log _ (neutral_nil _)), rfl⟩

theorem ConfigureRun.neutral {s : Socket} {events : List Event} {r : Except NetError Unit × Socket}
    (h : ConfigureRun s events r) :
    Neutral s.descriptor events ∧ r.2.descriptor = s.descriptor := by
  cases h with
  | failed h => exact ⟨h.neutral, rfl⟩
  | switched h => exact ⟨h.neutral, rfl⟩

theorem AcceptRun.performs {s : Socket} {events : List Event}
    {r : Except NetError (Option Socket)} (h : AcceptRun s events r) :
    Performs s.descriptor .none events (Operation.accepted .accept r) := by
  cases h with
  | stopped h => exact performs_of_neutral (neutral_nil _)
  | none h =>
    exact performs_of_neutral (neutral_call rfl rfl rfl rfl (neutral_nil _))
  | failed h e he =>
    exact performs_of_neutral (neutral_call rfl rfl rfl rfl (neutral_nil _))
  | accepted h fd =>
    exact ⟨fun held hfd => ⟨by rintro g ⟨⟩; exact hfd, nofun, rfl⟩, rfl, nofun⟩

theorem performs_plain {fd : Descriptor} {poller : Option Descriptor} {events : List Event}
    (h : ∀ e ∈ events, ∀ c, e.call? = some c → c.PlainOn fd poller) :
    Performs fd poller events [] := by
  have hstays : ∀ e ∈ booked events, e.Stays fd := by
    intro e he
    obtain ⟨event, hevent, rfl⟩ := List.mem_map.mp he
    cases event with
    | called c reply => exact stays_of_plain (h _ hevent c rfl) reply
    | logged entry => exact ⟨rfl, rfl, rfl, nofun⟩
  refine ⟨fun held hfd => accounts_of_stays hfd hstays, ?_, fun p hp => ?_⟩
  · exact List.filterMap_eq_nil_iff.mpr fun e he => (hstays e he).closed
  · obtain ⟨e, he, hpoll⟩ := List.mem_filterMap.mp hp
    obtain ⟨event, hevent, rfl⟩ := List.mem_map.mp he
    cases event with
    | called c reply => exact (h _ hevent c rfl).poller p hpoll
    | logged entry => cases hpoll

/-- **An operation adds to what is held what it accepted**, and keeps the handle's descriptor. -/
theorem PerformRun.performs {s : Socket} {operation : Operation} {events : List Event}
    {r : operation.Result × Socket} (h : PerformRun s operation events r) :
    Performs s.descriptor operation.poller? events (operation.accepted r.1) ∧
      r.2.descriptor = s.descriptor := by
  cases h with
  | configure h => exact ⟨performs_of_neutral h.neutral.1, h.neutral.2⟩
  | tryBind h => exact ⟨performs_of_neutral h.neutral.1, h.neutral.2⟩
  | bind h => exact ⟨performs_of_neutral h.neutral.1, h.neutral.2⟩
  | bindIpv4 h => exact ⟨performs_of_neutral h.neutral.1, h.neutral.2⟩
  | listen h => exact ⟨performs_of_neutral h.neutral.1, h.neutral.2⟩
  | accept h => exact ⟨h.performs, rfl⟩
  | connect h => exact ⟨performs_of_neutral h.neutral.1, h.neutral.2⟩
  | plain hop h =>
    rw [Operation.accepted_of_isPlain hop]
    exact ⟨performs_plain h, rfl⟩

end Socket

/-! ## Worlds -/

/-- The poller that the caller of a command passes. -/
def Command.poller? : Command → Option Descriptor
  | .perform _ operation => operation.poller?
  | _ => none

namespace World

variable {α σ : Type} {k : Kernel σ} {w : World σ}

/-- The descriptors whose handle ends in a command by `close`, by `drop` or by a failed setup. -/
def endedBy (k : Kernel σ) (w : World σ) : Command → List Descriptor
  | .makeTcp blocking =>
    let run := (Socket.tcp blocking).run k w.kernel
    Socket.lostBy run.events run.result
  | .makeUdp =>
    let run := Socket.udp.run k w.kernel
    Socket.lostBy run.events run.result
  | .close index | .drop index => (w.live[index]?).toList.map fun h => h.socket.descriptor
  | _ => []

/-- What a command does to ownership: it uses held descriptors only, leads to what is held
afterwards, closes what ends, and names only the poller that the caller passes. -/
structure Settles (held ended : List Descriptor) (poller : Option Descriptor) (e : Effect σ) :
    Prop where
  accounts : Accounts held e.entries (e.live.map fun h => h.socket.descriptor)
  closed : e.entries.filterMap Entry.closed? = ended
  pollers : ∀ p ∈ e.entries.filterMap Entry.poller?, poller = some p

theorem settles_enrol (w : World σ) (origin : Origin) {run : Run (Except NetError Socket) σ}
    (h : Socket.Constructs run.events run.result) :
    Settles w.held (Socket.lostBy run.events run.result) none (w.enrol origin run) := by
  rcases run with ⟨e | s, kernel, events⟩
  · exact ⟨h.accounts w.held, h.closed, by simp [enrol, h.pollers]⟩
  · exact ⟨h.accounts w.held, h.closed, by simp [enrol, h.pollers]⟩

theorem held_set {index : Nat} {h h' : LiveSocket} (hi : w.live[index]? = some h)
    (hd : h'.socket.descriptor = h.socket.descriptor) :
    ((w.live.set index h').map fun h => h.socket.descriptor) = w.held := by
  obtain ⟨hlt, rfl⟩ := List.getElem?_eq_some_iff.mp hi
  have hheld : index < w.held.length := by simpa [held] using hlt
  have hsame : h'.socket.descriptor = w.held[index] := by simpa [held] using hd
  rw [List.map_set, hsame]
  exact List.set_getElem_self hheld

theorem mem_held {index : Nat} {h : LiveSocket} (hi : w.live[index]? = some h) :
    h.socket.descriptor ∈ w.held :=
  List.mem_map_of_mem (List.mem_of_getElem? hi)

theorem held_eraseIdx {index : Nat} {h : LiveSocket} (hnodup : w.held.Nodup)
    (hi : w.live[index]? = some h) :
    ((w.live.eraseIdx index).map fun h => h.socket.descriptor) =
      w.held.erase h.socket.descriptor := by
  obtain ⟨hlt, rfl⟩ := List.getElem?_eq_some_iff.mp hi
  have hheld : index < w.held.length := by simpa [held] using hlt
  have herase := hnodup.erase_getElem index hheld
  simp only [held, List.getElem_map] at herase ⊢
  rw [herase, List.eraseIdx_eq_take_drop_succ, List.eraseIdx_eq_take_drop_succ, List.map_append,
    List.map_take, List.map_drop]

theorem settles_putBack {index : Nat} {h : LiveSocket} (hi : w.live[index]? = some h)
    {operation : Operation} {run : Run (operation.Result × Socket) σ}
    (hrun : Socket.PerformRun h.socket operation run.events run.result) :
    Settles w.held [] operation.poller? (w.putBack index h operation run) := by
  obtain ⟨hp, hd⟩ := hrun.performs
  refine ⟨?_, hp.closed, hp.pollers⟩
  have hlive : ((w.putBack index h operation run).live.map fun h => h.socket.descriptor) =
      (operation.accepted run.result.1).map Socket.descriptor ++ w.held := by
    rw [putBack, List.map_append, held_set hi hd, List.map_map]
    rfl
  rw [hlive]
  exact hp.accounts w.held (mem_held hi)

theorem settles_retire {index : Nat} {h : LiveSocket} (hnodup : w.held.Nodup)
    (hi : w.live[index]? = some h) {run : Run α σ}
    (hrun : Socket.Closes h.socket.descriptor run.events) :
    Settles w.held [h.socket.descriptor] none (w.retire index run) := by
  refine ⟨?_, hrun.closed, ?_⟩
  · rw [retire, held_eraseIdx hnodup hi]
    exact hrun.accounts w.held (mem_held hi)
  · simp [retire, hrun.pollers]

/-- What a command does to ownership, whatever the kernel replies. -/
theorem Step.settles {c : Command} {e : Effect σ} (h : Step k w c e) (hnodup : w.held.Nodup) :
    Settles w.held (w.endedBy k c) c.poller? e := by
  cases h with
  | tcp hrun h =>
    subst hrun
    exact settles_enrol w _ h.constructs
  | udp hrun h =>
    subst hrun
    exact settles_enrol w _ h.constructs
  | adopted fd => exact ⟨⟨nofun, rfl⟩, rfl, nofun⟩
  | performed hi _ hp => exact settles_putBack hi hp
  | released hi =>
    refine ⟨?_, rfl, nofun⟩
    rw [held_eraseIdx hnodup hi]
    exact ⟨by rintro g ⟨⟩; exact mem_held hi, rfl⟩
  | closed hi hc =>
    simp only [endedBy, hi]
    exact settles_retire hnodup hi hc.closes
  | dropped hi hd =>
    simp only [endedBy, hi]
    exact settles_retire hnodup hi hd.closes
  | elsewhere fd status => exact ⟨⟨nofun, rfl⟩, rfl, nofun⟩
  | idle hidle =>
    refine ⟨rfl, ?_, nofun⟩
    cases c with
    | close index | drop index =>
      have hi : w.live[index]? = none := hidle
      simp only [endedBy, hi]
      rfl
    | makeTcp | makeUdp => exact hidle.elim
    | _ => rfl

/-- A lawful command makes fair entries. -/
theorem Step.fair {c : Command} {e : Effect σ} (h : Step k w c e) (hpromised : w.Promised c)
    (hfollows : w.table.Follows DescriptorTable.OpensUnused e.entries) :
    AllFair w.table w.held e.entries := by
  cases h with
  | adopted fd => exact ⟨hpromised rfl, trivial⟩
  | released hi => exact ⟨trivial, trivial⟩
  | elsewhere fd status => exact ⟨hpromised, trivial⟩
  | idle hidle => trivial
  | _ => exact allFair_events hfollows

/-- The ledger of the trace is balanced by what is held, and what is held is open. -/
structure Custody (w : World σ) : Prop where
  balanced : Balanced w.trace w.held
  covered : Covered w.table w.held

theorem custody_start (kernel : σ) (table : DescriptorTable) :
    (World.start kernel table).Custody :=
  ⟨balanced_nil, nofun⟩

/-- **A lawful command keeps custody.** -/
theorem custody_exec {c : Command} (h : w.Custody)
    (hc : w.Lawful DescriptorTable.OpensUnused k c) : (w.exec k c).Custody := by
  have hstep := effect_steps k w c
  have hfair := hstep.fair hc.1 hc.2
  have haccounts := (hstep.settles h.balanced.nodup).accounts
  obtain ⟨hbalanced, hcovered⟩ := balanced_after h.balanced h.covered hfair haccounts
  exact ⟨hbalanced, hcovered⟩

/-! ## Every run -/

/-- Exactly-once ownership in a world and in its whole past.

* `distinct` — no two live handles hold one descriptor.
* `outstanding`, `exclusive` — what was taken on and not closed since is held by a live handle or
  was handed out and not taken back, and never both.
* `balance` — each taking on is answered by one `close` or one release, or by the live handle.
* `used` — a call is made on, and a release gives away, only what is owned at that moment: nothing
  that was closed or released and not taken on again.
* `taken` — nothing is taken on that is owned already.
* `closes` — a command passes to `close` the descriptors whose handle it ends, each once, and a
  constructor that fails after it obtained a descriptor passes that one.
* `pollers` — apart from its handle's descriptor a call names only the poller that was passed. -/
structure OwnedOnce (k : Kernel σ) (w : World σ) : Prop where
  distinct : w.held.Nodup
  outstanding : ∀ fd, Outstanding fd w.trace ↔ fd ∈ w.held ∨ HandedOut fd w.trace
  exclusive : ∀ fd ∈ w.held, ¬ HandedOut fd w.trace
  balance : ∀ fd, times Entry.acquired? fd w.trace =
    times Entry.closed? fd w.trace + times Entry.released? fd w.trace + w.held.count fd
  used : ∀ before e after, w.trace = before ++ e :: after →
    ∀ fd, e.used? = some fd → Owns fd before
  taken : ∀ before e after, w.trace = before ++ e :: after →
    ∀ fd, e.acquired? = some fd → ¬ Owns fd before
  closes : ∀ c, (w.effect k c).entries.filterMap Entry.closed? = w.endedBy k c
  pollers : ∀ c, ∀ p ∈ (w.effect k c).entries.filterMap Entry.poller?, c.poller? = some p

/-- **Every descriptor is owned once, at every point of every run.** Commands come in any order,
and the kernel replies as it likes, except that it makes descriptors under free numbers only. -/
theorem owned_once (k : Kernel σ) (kernel : σ) (table : DescriptorTable) (commands : List Command)
    (h : Along k (Lawful DescriptorTable.OpensUnused k) (start kernel table) commands) :
    OwnedOnce k ((start kernel table).run k commands) := by
  have custody : ((start kernel table).run k commands).Custody :=
    run_invariant (fun w c hw hc => custody_exec hw hc) commands _ (custody_start kernel table) h
  have balanced := custody.balanced
  exact {
    distinct := balanced.nodup
    outstanding := balanced.outstanding
    exclusive := balanced.exclusive
    balance := balanced.balance
    used := fun before e after hsplit => (balanced.proper before e after hsplit).1
    taken := fun before e after hsplit => (balanced.proper before e after hsplit).2
    closes := fun c => ((effect_steps k _ c).settles balanced.nodup).closed
    pollers := fun c => ((effect_steps k _ c).settles balanced.nodup).pollers }

/-- On a host: two handles, one of them given away and taken back, both ended. -/
theorem owned_once_on_host :
    OwnedOnce Host.kernel ((start (Host.boot []) fun _ => none).run Host.kernel
      [.makeTcp false, .makeUdp, .release 0, .adopt 4 .udp .created, .close 1, .drop 0]) :=
  owned_once Host.kernel (Host.boot []) _ _ (by decide)

end World
end SocketLayer
