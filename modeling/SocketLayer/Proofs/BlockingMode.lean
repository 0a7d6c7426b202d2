import SocketLayer.Proofs.Ownership

/-!
# The tracked blocking mode is the descriptor's own

A handle remembers its blocking mode, and the kernel has a bit for it. Setup steps, accepting and
switching write the two by different calls, some of which can fail half way. An operation writes the
bit of its own descriptor only, or of one that was free before, so the two agree in every run.

* `TracksMode` — the kernel tells the flags that it has.
* `frame_of_accounts` — an operation leaves the bits of all other handles alone.
* `PerformRun.mode`, `PerformRun.accepted_mode` — what it does to its own handle and to a new one.
* `modes_exec` — one command keeps every handle in agreement.
* `bit_of_nonBlocking` — the bit of a handle that says it is non-blocking is set.
* `mode_is_descriptors` — what that says of every run, and of calls that would wait.
-/

set_option autoImplicit false

namespace SocketLayer

open Ledger

namespace Event

/-- The descriptor whose flags were read, and whether they had the non-blocking bit. -/
def modeRead? : Event → Option (Descriptor × Bool)
  | .called (.getFlags fd) (.ok flags) => some (fd, StatusFlags.isNonBlocking flags)
  | _ => none

/-- The descriptor on which a call was told that it would have to wait. -/
def awaited? : Event → Option Descriptor
  | .called (.send fd _ _) (.error e) => if e = .wouldBlock then some fd else none
  | .called (.receive fd _ _) (.error e) => if e = .wouldBlock then some fd else none
  | .called (.accept fd _ _) (.error e) => if e = .wouldBlock then some fd else none
  | .called (.connect fd _) (.error e) => if e = .inProgress then some fd else none
  | _ => none

end Event

/-- The results that tell the caller to wait. -/
def Operation.Waits : (operation : Operation) → operation.Result → Prop
  | .send _, r => r = Transfer.retry
  | .receive _, r | .peek _, r => r.1 = Transfer.retry
  | .accept, r => r = .ok none
  | .connect _, r => r = .ok Connect.inProgress
  | _, _ => False

namespace DescriptorTable

/-! ## Rules for the kernel -/

/-- The kernel makes descriptors under free numbers, and tells the flags that it has. -/
def TracksMode : Rule := fun t e =>
  OpensUnused t e ∧ ∀ read ∈ e.modeRead?, t read.1 = some read.2

/-- The kernel tells a call that it would have to wait on non-blocking descriptors only. -/
def WaitsOnNonBlocking : Rule := fun t e => ∀ fd ∈ e.awaited?, t fd = some true

instance : DecidableRel TracksMode := fun t e =>
  inferInstanceAs (Decidable (OpensUnused t e ∧ ∀ read ∈ e.modeRead?, t read.1 = some read.2))

instance : DecidableRel WaitsOnNonBlocking := fun t e =>
  inferInstanceAs (Decidable (∀ fd ∈ e.awaited?, t fd = some true))

/-! ## What an operation leaves alone -/

/-- Events that act on held descriptors only leave an open one alone that is not held. -/
theorem frame_of_accounts {t : DescriptorTable} {held held' : List Descriptor}
    {events : List Event} {g : Descriptor} (hacc : Accounts held (booked events) held')
    (hfollows : t.Follows OpensUnused (booked events)) (hg : g ∉ held) (hopen : t g ≠ none) :
    t.after (booked events) g = t g :=
  after_untouched (untouched_of_accounts hacc hfollows hg hopen)

end DescriptorTable

namespace Socket

open DescriptorTable

variable {t : DescriptorTable} {events : List Event}

/-! ## One operation -/

/-- Switching writes what it says, and a switch that failed wrote nothing. -/
theorem SwitchRun.mode {fd : Descriptor} {on : Bool} {r : Except Errno Unit} {bit : Bool}
    (h : SwitchRun fd on events r) (hbit : t fd = some bit)
    (hf : t.Follows TracksMode (booked events)) :
    t.after (booked events) fd = some (match r with | .ok () => on | .error _ => bit) := by
  cases h with
  | unread e => exact hbit
  | already flags hsame =>
    have hread : t fd = some flags.isNonBlocking := hf.1.2 (fd, flags.isNonBlocking) rfl
    have hon : flags.isNonBlocking = on := by
      rw [← hsame]
      exact flags.isNonBlocking_withNonBlocking on
    rw [hon] at hread
    exact hread
  | unwritten flags _ e => exact hbit
  | switched flags _ =>
    show Function.update t fd ((t fd).map fun _ => (flags.withNonBlocking on).isNonBlocking) fd = _
    rw [Function.update_self, hbit, Option.map_some, flags.isNonBlocking_withNonBlocking]

/-- Whatever the bit and the kernel's replies, the table is the same afterwards. -/
def Quiet (events : List Event) : Prop := ∀ t : DescriptorTable, t.after (booked events) = t

theorem quiet_append {first second : List Event} (h : Quiet first) (h' : Quiet second) :
    Quiet (first ++ second) := by
  intro t
  rw [booked_append, after_append, h t, h' t]

theorem quiet_plain {fd : Descriptor} {poller : Option Descriptor}
    (h : ∀ e ∈ events, ∀ c, e.call? = some c → c.PlainOn fd poller) : Quiet events := by
  induction events with
  | nil => exact fun t => rfl
  | cons e rest ih =>
    obtain ⟨he, hrest⟩ := List.forall_mem_cons.mp h
    have hquiet : Quiet [e] := by
      intro t
      cases e with
      | called c reply =>
        have hplain := (he c rfl).plain
        cases c with
        | socket | close | setFlags | accept => cases hplain
        | _ => rfl
      | logged entry => rfl
    exact quiet_append hquiet (ih hrest)

theorem TryBindRun.quiet {s : Socket} {address : SocketAddress} {r : Except NetError Unit × Socket}
    (h : TryBindRun s address events r) : Quiet events ∧ r.2.nonBlocking = s.nonBlocking := by
  cases h with
  | stopped | failed | moved => exact ⟨fun t => rfl, rfl⟩

theorem BindRun.quiet {s : Socket} {address : SocketAddress} {r : Bool × Socket}
    (h : BindRun s address events r) : Quiet events ∧ r.2.nonBlocking = s.nonBlocking := by
  cases h with
  | refused h =>
    obtain ⟨hq, hmode⟩ := h.quiet
    exact ⟨quiet_append hq fun t => rfl, hmode⟩
  | moved h => exact h.quiet

theorem ListenRun.quiet {s : Socket} {backlog : Int32} {r : Except NetError Unit × Socket}
    (h : ListenRun s backlog events r) : Quiet events ∧ r.2.nonBlocking = s.nonBlocking := by
  cases h with
  | stopped | failed | moved => exact ⟨fun t => rfl, rfl⟩

theorem ConnectRun.quiet {s : Socket} {address : SocketAddress}
    {r : Except NetError Connect × Socket} (h : ConnectRun s address events r) :
    Quiet events ∧ r.2.nonBlocking = s.nonBlocking := by
  cases h with
  | stopped | failed | established | inProgress => exact ⟨fun t => rfl, rfl⟩

/-- An operation leaves bit and mode of its handle as they were, or turns both on. -/
theorem PerformRun.mode {s : Socket} {operation : Operation} {r : operation.Result × Socket}
    {bit : Bool} (h : PerformRun s operation events r) (hbit : t s.descriptor = some bit)
    (hf : t.Follows TracksMode (booked events)) :
    (t.after (booked events) s.descriptor = some bit ∧ r.2.nonBlocking = s.nonBlocking) ∨
      t.after (booked events) s.descriptor = some true ∧ r.2.nonBlocking = true := by
  have quiet {mode : Bool} (hq : Quiet events) (hmode : mode = s.nonBlocking) :
      t.after (booked events) s.descriptor = some bit ∧ mode = s.nonBlocking := by
    rw [hq t]
    exact ⟨hbit, hmode⟩
  cases h with
  | configure h =>
    cases h with
    | failed h => exact .inl ⟨h.mode hbit hf, rfl⟩
    | switched h => exact .inr ⟨h.mode hbit hf, rfl⟩
  | tryBind h => exact .inl (quiet h.quiet.1 h.quiet.2)
  | bind h => exact .inl (quiet h.quiet.1 h.quiet.2)
  | bindIpv4 h => exact .inl (quiet h.quiet.1 h.quiet.2)
  | listen h => exact .inl (quiet h.quiet.1 h.quiet.2)
  | accept h =>
    refine .inl ⟨?_, rfl⟩
    cases h with
    | stopped | none | failed => exact hbit
    | accepted _ fd =>
      -- the new number was free, the listener's own was not
      have hfree : t fd = none := hf.1.1 fd rfl
      have hne : s.descriptor ≠ fd := by
        intro hfd
        rw [← hfd, hbit] at hfree
        cases hfree
      exact (Function.update_of_ne hne _ t).trans hbit
  | connect h => exact .inl (quiet h.quiet.1 h.quiet.2)
  | plain hop h => exact .inl (quiet (quiet_plain h) rfl)

/-- A handle that is accepted starts in the mode of its descriptor. -/
theorem PerformRun.accepted_mode {s new : Socket} {operation : Operation}
    {r : operation.Result × Socket} (h : PerformRun s operation events r) (t : DescriptorTable)
    (hnew : new ∈ operation.accepted r.1) :
    t.after (booked events) new.descriptor = some new.nonBlocking := by
  obtain ⟨fd, rfl, rfl⟩ := h.accepted_cases hnew
  exact Function.update_self _ _ t

/-- A setup that switched a fresh descriptor. -/
theorem switched_mode {transport : Transport} {fd : Descriptor} {switch rest : List Event}
    (hs : SwitchRun fd true switch (.ok ())) (hquiet : Quiet rest)
    (hf : t.Follows TracksMode
      (booked (.called (.socket transport true) (.ok fd) :: (switch ++ rest)))) :
    t.after (booked (.called (.socket transport true) (.ok fd) :: (switch ++ rest))) fd =
      some true := by
  have hfresh : Function.update t fd (some false) fd = some false := Function.update_self ..
  have hswitch : Follows TracksMode (Function.update t fd (some false)) (booked switch) := by
    have := hf.2
    rw [← booked, booked_append, follows_append] at this
    exact this.1
  show DescriptorTable.after (Function.update t fd (some false)) (booked (switch ++ rest)) fd = _
  rw [booked_append, after_append, hquiet]
  exact hs.mode hfresh hswitch

theorem TcpRun.mode {blocking : Bool} {s : Socket} (h : TcpRun blocking events (.ok s))
    (hf : t.Follows TracksMode (booked events)) :
    t.after (booked events) s.descriptor = some s.nonBlocking := by
  cases h with
  | blocking fd => exact Function.update_self _ _ t
  | made fd hs => exact switched_mode hs (fun t => rfl) hf

theorem UdpRun.mode {s : Socket} (h : UdpRun events (.ok s))
    (hf : t.Follows TracksMode (booked events)) :
    t.after (booked events) s.descriptor = some s.nonBlocking := by
  cases h with
  | made fd hs => exact switched_mode hs (fun t => rfl) hf

theorem SendRun.waits {s : Socket} {data : List UInt8} {r : Transfer}
    (h : SendRun s data events r) (hr : r = .retry) :
    ∃ e rest, events = e :: rest ∧ e.awaited? = some s.descriptor := by
  cases h with
  | waiting => exact ⟨_, [], rfl, rfl⟩
  | sent count => cases hr
  | lost e he => cases hr

theorem ReadRun.waits {op : String} {peek : Bool} {s : Socket} {capacity : Nat}
    {r : Transfer × List UInt8} (h : ReadRun op peek s capacity events r) (hr : r.1 = .retry) :
    ∃ e rest, events = e :: rest ∧ e.awaited? = some s.descriptor := by
  cases h with
  | waiting _ => exact ⟨_, [], rfl, rfl⟩
  | skipped _ => cases hr
  | ended _ => cases hr
  | received _ first rest => cases hr
  | lost _ e he => cases hr

theorem AcceptRun.waits {s : Socket} {r : Except NetError (Option Socket)}
    (h : AcceptRun s events r) (hr : r = .ok .none) :
    ∃ e rest, events = e :: rest ∧ e.awaited? = some s.descriptor := by
  cases h with
  | none _ => exact ⟨_, [], rfl, rfl⟩
  | stopped _ => cases hr
  | failed _ e he => cases hr
  | accepted _ fd => cases hr

theorem ConnectRun.waits {s : Socket} {address : SocketAddress}
    {r : Except NetError Connect × Socket} (h : ConnectRun s address events r)
    (hr : r.1 = .ok .inProgress) :
    ∃ e rest, events = e :: rest ∧ e.awaited? = some s.descriptor := by
  cases h with
  | inProgress _ => exact ⟨_, _, rfl, rfl⟩
  | stopped _ => cases hr
  | failed _ e he => cases hr
  | established _ => cases hr

/-- An operation tells its caller to wait only when the kernel said so of its descriptor, and then
it has made no other call before. -/
theorem perform_waits (s : Socket) (operation : Operation) :
    (s.perform operation).Ensures fun events r => operation.Waits r.1 →
      ∃ e rest, events = e :: rest ∧ e.awaited? = some s.descriptor := by
  cases operation with
  | send data => exact keeping_runs ((send_runs s data).mono fun _ _ h hr => h.waits hr)
  | receive capacity | peek capacity =>
    exact keeping_runs ((read_runs _ _ s capacity).mono fun _ _ h hr => h.waits hr)
  | accept => exact keeping_runs ((accept_runs s).mono fun _ _ h hr => h.waits hr)
  | connect address => exact (connect_runs s address).mono fun _ _ h hr => h.waits hr
  | _ => exact (perform_runs s _).mono fun _ _ _ hr => hr.elim

/-! ## Worlds -/

/-- The handle's mode and its descriptor's bit are related. -/
def InMode (rel : Bool → Bool → Prop) (t : DescriptorTable) (s : Socket) : Prop :=
  ∃ bit, t s.descriptor = some bit ∧ rel s.nonBlocking bit

theorem InMode.frame {rel : Bool → Bool → Prop} {t t' : DescriptorTable} {s : Socket}
    (h : InMode rel t s) (hsame : t' s.descriptor = t s.descriptor) : InMode rel t' s := by
  obtain ⟨bit, hbit, hrel⟩ := h
  exact ⟨bit, hsame.trans hbit, hrel⟩

theorem InMode.isOpen {rel : Bool → Bool → Prop} {s : Socket} (h : InMode rel t s) :
    t s.descriptor ≠ none := by
  obtain ⟨bit, hbit, -⟩ := h
  rw [hbit]
  exact Option.some_ne_none bit

end Socket

namespace World

open DescriptorTable

variable {σ α : Type} {k : Kernel σ} {w : World σ} {rel : Bool → Bool → Prop}

/-- Every live handle's mode is related to its descriptor's bit. -/
def Modes (rel : Bool → Bool → Prop) (w : World σ) : Prop :=
  ∀ h ∈ w.live, h.socket.InMode rel w.table

/-- An adopted descriptor has a bit that is related to blocking mode. -/
def AdoptsAs (rel : Bool → Bool → Prop) (w : World σ) : Command → Prop
  | .adopt raw _ _ => Descriptor.isValidRaw raw = true →
    ∃ bit, w.table ⟨raw.toNat⟩ = some bit ∧ rel false bit
  | _ => True

/-- Events that account for themselves leave the other handles in their modes. -/
theorem modes_frame {held held' : List Descriptor} {events : List Event} {h : LiveSocket}
    (hmode : h.socket.InMode rel w.table) (hacc : Accounts held (booked events) held')
    (hf : w.table.Follows TracksMode (booked events)) (hother : h.socket.descriptor ∉ held) :
    h.socket.InMode rel (w.table.after (booked events)) := by
  have hopens : w.table.Follows OpensUnused (booked events) := hf.mono fun t e he => he.1
  exact hmode.frame (frame_of_accounts hacc hopens hother hmode.isOpen)

theorem modes_enrol (hrefl : ∀ bit, rel bit bit) (hmodes : w.Modes rel) (origin : Origin)
    {run : Run (Except NetError Socket) σ} (hc : Socket.Constructs run.events run.result)
    (hnew : ∀ s, run.result = .ok s →
      w.table.after (booked run.events) s.descriptor = some s.nonBlocking)
    (hf : w.table.Follows TracksMode (booked run.events)) :
    ∀ h ∈ (w.enrol origin run).live, h.socket.InMode rel (w.table.after (booked run.events)) := by
  have hold : ∀ h ∈ w.live, h.socket.InMode rel (w.table.after (booked run.events)) :=
    fun h hlive => modes_frame (hmodes h hlive) (hc.accounts []) hf (by simp)
  exact kept_enrol hold fun s hs => ⟨s.nonBlocking, hnew s hs, hrefl _⟩

theorem mem_eraseIdx {index : Nat} {h h' : LiveSocket} (hnodup : w.held.Nodup)
    (hi : w.live[index]? = some h) (hmem : h' ∈ w.live.eraseIdx index) :
    h' ∈ w.live ∧ h'.socket.descriptor ≠ h.socket.descriptor := by
  refine ⟨List.mem_of_mem_eraseIdx hmem, ?_⟩
  have hheld : h'.socket.descriptor ∈
      (w.live.eraseIdx index).map fun h => h.socket.descriptor := List.mem_map_of_mem hmem
  rw [held_eraseIdx hnodup hi] at hheld
  exact (hnodup.mem_erase_iff.mp hheld).1

theorem modes_putBack (hrefl : ∀ bit, rel bit bit) (hnodup : w.held.Nodup) (hmodes : w.Modes rel)
    {index : Nat} {h : LiveSocket} (hi : w.live[index]? = some h) {operation : Operation}
    {run : Run (operation.Result × Socket) σ}
    (hrun : Socket.PerformRun h.socket operation run.events run.result)
    (hf : w.table.Follows TracksMode (booked run.events)) :
    ∀ h' ∈ (w.putBack index h operation run).live,
      h'.socket.InMode rel (w.table.after (booked run.events)) := by
  obtain ⟨hperforms, hdescriptor⟩ := hrun.performs
  have hown : run.result.2.InMode rel (w.table.after (booked run.events)) := by
    obtain ⟨bit, hbit, hrel⟩ := hmodes h (List.mem_of_getElem? hi)
    rcases hrun.mode hbit hf with ⟨hafter, hmode⟩ | ⟨hafter, hmode⟩
    · exact ⟨bit, by rw [hdescriptor, hafter], by rw [hmode]; exact hrel⟩
    · exact ⟨true, by rw [hdescriptor, hafter], by rw [hmode]; exact hrefl true⟩
  refine kept_putBack (fun s hs => ?_) hown fun h' hmem => ?_
  · exact ⟨s.nonBlocking, hrun.accepted_mode w.table hs, hrefl _⟩
  · obtain ⟨hlive, hne⟩ := mem_eraseIdx hnodup hi hmem
    have hacc := hperforms.accounts [h.socket.descriptor] (List.mem_singleton.mpr rfl)
    exact modes_frame (hmodes h' hlive) hacc hf (by simpa using hne)

theorem modes_retire (hnodup : w.held.Nodup) (hmodes : w.Modes rel) {index : Nat}
    {h : LiveSocket} (hi : w.live[index]? = some h) {run : Run α σ}
    (hrun : Socket.Closes h.socket.descriptor run.events)
    (hf : w.table.Follows TracksMode (booked run.events)) :
    ∀ h' ∈ (w.retire index run).live,
      h'.socket.InMode rel (w.table.after (booked run.events)) := by
  intro h' hmem
  obtain ⟨hlive, hne⟩ := mem_eraseIdx hnodup hi hmem
  have hacc := hrun.accounts [h.socket.descriptor] (List.mem_singleton.mpr rfl)
  exact modes_frame (hmodes h' hlive) hacc hf (by simpa using hne)

/-- What a command does to the modes of all handles. -/
theorem Step.modes (hrefl : ∀ bit, rel bit bit) {c : Command} {e : Effect σ}
    (h : Step k w c e) (hnodup : w.held.Nodup) (hmodes : w.Modes rel)
    (hpromised : w.Promised c) (hadopts : w.AdoptsAs rel c)
    (hf : w.table.Follows TracksMode e.entries) :
    ∀ h ∈ e.live, h.socket.InMode rel (w.table.after e.entries) := by
  cases h with
  | tcp _ h =>
    refine modes_enrol hrefl hmodes _ h.constructs (fun s hs => ?_) hf
    rw [hs] at h
    exact h.mode hf
  | udp _ h =>
    refine modes_enrol hrefl hmodes _ h.constructs (fun s hs => ?_) hf
    rw [hs] at h
    exact h.mode hf
  | adopted fd =>
    intro h hlive
    rcases List.mem_cons.mp hlive with rfl | hlive
    · exact hadopts rfl
    · exact hmodes h hlive
  | performed hi _ hp => exact modes_putBack hrefl hnodup hmodes hi hp hf
  | released hi => exact fun h hmem => hmodes h (mem_eraseIdx hnodup hi hmem).1
  | closed hi hc => exact modes_retire hnodup hmodes hi hc.closes hf
  | dropped hi hd => exact modes_retire hnodup hmodes hi hd.closes hf
  | elsewhere fd status =>
    intro h hlive
    have hne : h.socket.descriptor ≠ fd := by
      rintro rfl
      exact hpromised (List.mem_map_of_mem hlive)
    exact (hmodes h hlive).frame (Function.update_of_ne hne _ _)
  | idle _ => exact hmodes

/-- **A lawful command keeps custody and the modes.** -/
theorem modes_exec (hrefl : ∀ bit, rel bit bit) {c : Command} (h : w.Custody ∧ w.Modes rel)
    (hc : w.Lawful TracksMode k c ∧ w.AdoptsAs rel c) :
    (w.exec k c).Custody ∧ (w.exec k c).Modes rel := by
  obtain ⟨hcustody, hmodes⟩ := h
  obtain ⟨hlawful, hadopts⟩ := hc
  exact ⟨custody_exec hcustody (hlawful.mono fun t e he => he.1),
    (effect_steps k w c).modes hrefl hcustody.balanced.nodup hmodes hlawful.1 hadopts hlawful.2⟩

theorem modes_run (hrefl : ∀ bit, rel bit bit) {kernel : σ} {table : DescriptorTable}
    {commands : List Command}
    (h : Along k (Lawful TracksMode k) (start kernel table) commands)
    (ha : Along k (AdoptsAs rel) (start kernel table) commands) :
    ((start kernel table).run k commands).Modes rel := by
  have hstart : (start kernel table).Custody ∧ (start kernel table).Modes rel :=
    ⟨custody_start kernel table, nofun⟩
  exact (run_invariant (fun w c => modes_exec hrefl) commands _ hstart (h.and ha)).2

/-! ## Every run -/

/-- An adopted descriptor is in blocking mode. -/
def AdoptsBlocking (w : World σ) : Command → Prop
  | .adopt raw _ _ => Descriptor.isValidRaw raw = true → w.table ⟨raw.toNat⟩ = some false
  | _ => True

instance (w : World σ) : DecidablePred w.AdoptsBlocking
  | .adopt raw _ _ => inferInstanceAs
    (Decidable (Descriptor.isValidRaw raw = true → w.table ⟨raw.toNat⟩ = some false))
  | .makeTcp _ | .makeUdp | .perform _ _ | .release _ | .close _ | .drop _ | .elsewhere _ _ =>
    .isTrue trivial

/-- The handles tell the modes of their descriptors.

* `equal` — the mode of every live handle is its descriptor's bit.
* `waits` — if the next operation tells its caller to wait, and the kernel says so of non-blocking
  descriptors only, the handle says that it is non-blocking. -/
structure TellsMode (k : Kernel σ) (w : World σ) : Prop where
  equal : ∀ h ∈ w.live, w.table h.socket.descriptor = some h.socket.nonBlocking
  waits : ∀ index operation h, w.live[index]? = some h →
    w.table.Follows WaitsOnNonBlocking (w.effect k (.perform index operation)).entries →
    operation.Waits ((h.socket.perform operation).run k w.kernel).result.1 →
    h.socket.nonBlocking = true

theorem waits_of_equal
    (hequal : ∀ h ∈ w.live, w.table h.socket.descriptor = some h.socket.nonBlocking)
    {index : Nat} {operation : Operation} {h : LiveSocket} (hi : w.live[index]? = some h)
    (hf : w.table.Follows WaitsOnNonBlocking (w.effect k (.perform index operation)).entries)
    (hr : operation.Waits ((h.socket.perform operation).run k w.kernel).result.1) :
    h.socket.nonBlocking = true := by
  obtain ⟨e, rest, hevents, hawaited⟩ :=
    (Socket.perform_waits h.socket operation).run k w.kernel hr
  have hfollows : w.table.Follows WaitsOnNonBlocking (booked (e :: rest)) := by
    simp only [effect, withHandle, hi, putBack] at hf
    rw [hevents] at hf
    exact hf
  have hbit : w.table h.socket.descriptor = some true := hfollows.1 _ hawaited
  have hmode := hequal h (List.mem_of_getElem? hi)
  rw [hbit] at hmode
  exact (Option.some.inj hmode).symm

/-- In a lawful run the bit of a handle that says it is non-blocking is set. As an implication the
invariant asks nothing of adopted descriptors but that they are open. -/
theorem bit_of_nonBlocking {kernel : σ} {table : DescriptorTable} {commands : List Command}
    (h : Along k (Lawful TracksMode k) (start kernel table) commands) :
    ∀ handle ∈ ((start kernel table).run k commands).live, handle.socket.nonBlocking = true →
      ((start kernel table).run k commands).table handle.socket.descriptor = some true := by
  have hadopts : Along k (AdoptsAs fun mode bit => mode = true → bit = true)
      (start kernel table) commands := by
    refine h.mono fun w c hc => ?_
    cases c with
    | adopt raw transport state =>
      intro hraw
      obtain ⟨bit, hbit⟩ := Option.ne_none_iff_exists'.mp (hc.1 hraw).1
      exact ⟨bit, hbit, nofun⟩
    | _ => trivial
  intro handle hlive hmode
  obtain ⟨bit, hbit, hrel⟩ := modes_run (fun bit hb => hb) h hadopts handle hlive
  rw [hbit, hrel hmode]

/-- **The tracked blocking mode is the descriptor's own, in every run.** A handle that says it is
non-blocking is; and if every adopted descriptor was in blocking mode, as it should be, each handle
tells the mode of its descriptor. -/
theorem mode_is_descriptors (k : Kernel σ) (kernel : σ) (table : DescriptorTable)
    (commands : List Command)
    (h : Along k (Lawful TracksMode k) (start kernel table) commands) :
    (∀ handle ∈ ((start kernel table).run k commands).live, handle.socket.nonBlocking = true →
      ((start kernel table).run k commands).table handle.socket.descriptor = some true) ∧
    (Along k AdoptsBlocking (start kernel table) commands →
      TellsMode k ((start kernel table).run k commands)) := by
  refine ⟨bit_of_nonBlocking h, fun hblocking => ?_⟩
  -- as an equation the invariant asks that adopted descriptors are in blocking mode
  have hadopts : Along k (AdoptsAs fun mode bit => mode = bit) (start kernel table) commands := by
    refine hblocking.mono fun w c hc => ?_
    cases c with
    | adopt raw transport state => exact fun hraw => ⟨false, hc hraw, rfl⟩
    | _ => trivial
  have hequal : ∀ handle ∈ ((start kernel table).run k commands).live,
      ((start kernel table).run k commands).table handle.socket.descriptor =
        some handle.socket.nonBlocking := by
    intro handle hlive
    obtain ⟨bit, hbit, hmode⟩ := modes_run (fun _ => rfl) h hadopts handle hlive
    rw [hbit, hmode]
  exact ⟨hequal, fun index operation handle hi hf hr => waits_of_equal hequal hi hf hr⟩

/-- On a host: a handle is given away, taken back in blocking mode and then switched. -/
theorem mode_is_descriptors_on_host :
    TellsMode Host.kernel ((start (Host.boot []) fun _ => none).run Host.kernel
      [.makeTcp false, .makeTcp true, .release 0, .adopt 4 .tcp .created,
        .perform 0 .configureNonBlocking, .perform 1 (.listen 8), .perform 1 .accept]) :=
  (mode_is_descriptors Host.kernel (Host.boot []) _ _ (by decide)).2 (by decide)

end World
end SocketLayer
