import SocketLayer.Proofs.BlockingMode
import SocketLayer.Proofs.Observation

/-!
# What a kernel keeps for each descriptor

Some things a kernel keeps for each descriptor by itself: a new one starts in a known state, and the
calls made on it move that state. Numbers are closed and made again, and handles come and go, but in
a lawful run nothing but the operations on a handle moves the state of its descriptor.

* `Upkeep` — a thing of this kind; `Upkeep.model` is the kernel model of all descriptors at once.
* `Upkeep.through` — the state after the calls of a history; `tracks_exec` — a command keeps every
  live handle's descriptor in the state that its history tells.
* `World.tracks_run` — so does a run.
-/

set_option autoImplicit false

namespace SocketLayer

open Ledger

/-! ## The state of each descriptor -/

/-- Something that a kernel keeps for each descriptor.

* `fresh`, `accepted` — what a descriptor starts with that was made, or accepted.
* `next` — what a call on the descriptor makes of it.
* `Fits` — whether the reply to such a call agrees with it. -/
structure Upkeep (β : Type) where
  fresh : Transport → β
  accepted : β
  next : β → Event → β
  Fits : β → Event → Prop

namespace Upkeep

variable {β : Type} (u : Upkeep β)

/-- What a descriptor starts with that an event made. -/
def started : Event → β
  | .called (.socket transport _) _ => u.fresh transport
  | _ => u.accepted

/-- The state of a descriptor after an event. -/
def nextAt (fd : Descriptor) (x : β) (e : Event) : β :=
  if e.obtained? = some fd then u.started e
  else if e.subject? = some fd then u.next x e
  else x

/-- The kernel model that keeps the state of all descriptors. A reply agrees with the state of the
descriptor that the call is made on. -/
def model : KernelModel (Descriptor → β) where
  next t e := fun fd => u.nextAt fd (t fd) e
  Fits t e := ∀ fd ∈ e.subject?, u.Fits (t fd) e

instance [∀ x, DecidablePred (u.Fits x)] (t : Descriptor → β) : DecidablePred (u.model.Fits t) :=
  fun e => inferInstanceAs (Decidable (∀ fd ∈ e.subject?, u.Fits (t fd) e))

/-- The state that the calls on a descriptor lead to. -/
def through (fd : Descriptor) (x : β) (events : List Event) : β :=
  events.foldl (fun x e => if e.subject? = some fd then u.next x e else x) x

variable {u} {fd : Descriptor} {x : β} {t : Descriptor → β} {events : List Event}

theorem through_cons (e : Event) (rest : List Event) :
    u.through fd x (e :: rest) =
      u.through fd (if e.subject? = some fd then u.next x e else x) rest := rfl

theorem through_append (first second : List Event) :
    u.through fd x (first ++ second) = u.through fd (u.through fd x first) second :=
  List.foldl_append

theorem after_cons (e : Event) (rest : List Event) :
    u.model.after t (e :: rest) = u.model.after (u.model.next t e) rest := rfl

/-- A part of the state that events leave alone is left alone by all of them. -/
theorem through_keeps {γ : Type} {part : β → γ}
    (h : ∀ e ∈ events, ∀ x, part (u.next x e) = part x) :
    part (u.through fd x events) = part x := by
  induction events generalizing x with
  | nil => rfl
  | cons e rest ih =>
    obtain ⟨he, hrest⟩ := List.forall_mem_cons.mp h
    rw [through_cons, ih hrest]
    split
    · exact he x
    · rfl

/-- A part of the state is what the last call made of it that did not leave it alone. -/
theorem through_last {γ : Type} (part : β → γ) {before after : List Event} {e : Event}
    (he : e.subject? = some fd) (h : ∀ e ∈ after, ∀ x, part (u.next x e) = part x) :
    part (u.through fd x (before ++ e :: after)) = part (u.next (u.through fd x before) e) := by
  rw [through_append, through_cons, through_keeps h, if_pos he]

/-- Events that do not touch a descriptor leave its state alone. -/
theorem after_untouched (h : ∀ e ∈ events, ¬ e.Touches fd) : u.model.after t events fd = t fd := by
  induction events generalizing t with
  | nil => rfl
  | cons e rest ih =>
    obtain ⟨he, hrest⟩ := List.forall_mem_cons.mp h
    obtain ⟨hnew, hused⟩ := not_or.mp he
    have hstep : u.model.next t e fd = t fd := by
      show u.nextAt fd (t fd) e = t fd
      rw [nextAt, if_neg hnew, if_neg hused]
    rw [after_cons, ih hrest, hstep]

/-- While a descriptor is not made again, the calls on it lead its state. -/
theorem after_own (h : ∀ e ∈ events, e.obtained? ≠ some fd) :
    u.model.after t events fd = u.through fd (t fd) events := by
  induction events generalizing t with
  | nil => rfl
  | cons e rest ih =>
    obtain ⟨he, hrest⟩ := List.forall_mem_cons.mp h
    have hstep : u.model.next t e fd = if e.subject? = some fd then u.next (t fd) e else t fd := by
      show u.nextAt fd (t fd) e = _
      rw [nextAt, if_neg he]
    rw [after_cons, ih hrest, hstep, through_cons]

/-- What the descriptor of a handle starts with. A descriptor that was taken over may be in any
state. -/
def Starts (u : Upkeep β) : Origin → β → Prop
  | .made transport, x => x = u.fresh transport
  | .accepted, x => x = u.accepted
  | .adopted _ _, _ => True

/-- The descriptor of a handle is in the state that the handle's history tells. -/
def Tracks (u : Upkeep β) (t : Descriptor → β) (h : LiveSocket) : Prop :=
  ∃ x, u.Starts h.origin x ∧ t h.socket.descriptor = u.through h.socket.descriptor x h.history

theorem Tracks.frame {t' : Descriptor → β} {h : LiveSocket} (htracks : u.Tracks t h)
    (hsame : t' h.socket.descriptor = t h.socket.descriptor) : u.Tracks t' h := by
  obtain ⟨x, hstarts, hx⟩ := htracks
  exact ⟨x, hstarts, hsame.trans hx⟩

/-- A descriptor that was made and set up has the state that its setup tells. -/
theorem tracks_made {transport : Transport} {s : Socket} {rest : List Event}
    (h : Neutral s.descriptor rest) :
    u.Tracks (u.model.after t (.called (.socket transport true) (.ok s.descriptor) :: rest))
      ⟨s, .made transport, .called (.socket transport true) (.ok s.descriptor) :: rest⟩ := by
  refine ⟨u.fresh transport, rfl, ?_⟩
  have hrest : ∀ e ∈ rest, e.obtained? ≠ some s.descriptor := by
    intro e he
    have hnone : e.obtained? = none := (h (.event e) (List.mem_map_of_mem he)).1.acquired
    rw [hnone]
    nofun
  rw [after_cons, after_own hrest]
  exact congrArg (fun x => u.through s.descriptor x rest) (if_pos rfl)

end Upkeep

/-! ## Making a handle -/

namespace Socket

/-- The setup of a TCP handle keeps to the descriptor that it made. -/
theorem TcpRun.opens {blocking : Bool} {events : List Event} {s : Socket}
    (h : TcpRun blocking events (.ok s)) :
    ∃ rest, events = .called (.socket .tcp true) (.ok s.descriptor) :: rest ∧
      Neutral s.descriptor rest := by
  cases h with
  | blocking fd => exact ⟨_, rfl, neutral_log _ (neutral_nil fd)⟩
  | made fd hs =>
    refine ⟨_, rfl, neutral_append hs.neutral ?_⟩
    exact neutral_setWord fd .reuseAddress 1 _ (neutral_log _ (neutral_nil fd))

/-- The setup of a UDP handle keeps to the descriptor that it made. -/
theorem UdpRun.opens {events : List Event} {s : Socket} (h : UdpRun events (.ok s)) :
    ∃ rest, events = .called (.socket .udp true) (.ok s.descriptor) :: rest ∧
      Neutral s.descriptor rest := by
  cases h with
  | made fd hs => exact ⟨_, rfl, neutral_append hs.neutral (neutral_log _ (neutral_nil fd))⟩

end Socket

/-! ## The calls of a history -/

/-- Every call of a handle's history is made on its own descriptor. -/
def LiveSocket.OwnCalls (h : LiveSocket) : Prop :=
  ∀ e ∈ h.history, ∀ fd, e.subject? = some fd → fd = h.socket.descriptor

theorem LiveSocket.ownCalls_made {transport : Transport} {s : Socket} {rest : List Event}
    (h : Neutral s.descriptor rest) :
    LiveSocket.OwnCalls ⟨s, .made transport,
      .called (.socket transport true) (.ok s.descriptor) :: rest⟩ := by
  refine List.forall_mem_cons.mpr ⟨nofun, fun e he => ?_⟩
  exact (h (.event e) (List.mem_map_of_mem he)).1.used

/-! ## Worlds -/

namespace World

variable {α β σ : Type} {k : Kernel σ} {w : World σ} {u : Upkeep β} {t : Descriptor → β}

theorem kept_ownCalls : Kept LiveSocket.OwnCalls where
  tcp h := by
    obtain ⟨rest, rfl, hrest⟩ := h.opens
    exact LiveSocket.ownCalls_made hrest
  udp h := by
    obtain ⟨rest, rfl, hrest⟩ := h.opens
    exact LiveSocket.ownCalls_made hrest
  adopted fd transport state := List.forall_mem_nil _
  accepted fd nonBlocking := List.forall_mem_nil _
  performed h operation hown := by
    have hcalls := Socket.perform_issues h.socket operation
    refine (hcalls.and (Socket.perform_runs h.socket operation)).mono fun events r hrun => ?_
    obtain ⟨hissues, hperform⟩ := hrun
    intro e he fd hfd
    show fd = r.2.descriptor
    rw [hperform.performs.2]
    rcases List.mem_append.mp he with he | he
    · exact hown e he fd hfd
    · cases e with
      | called c reply =>
        have hsubject := (hissues _ he c rfl).subject
        exact Option.some.inj (hfd.symm.trans hsubject)
      | logged entry => cases hfd

/-- Events that account for themselves leave the descriptors of the other handles alone. -/
theorem tracks_frame {held held' : List Descriptor} {events : List Event} {h : LiveSocket}
    (htracks : u.Tracks t h) (hacc : Accounts held (booked events) held')
    (hf : w.table.Follows DescriptorTable.OpensUnused (booked events))
    (hother : h.socket.descriptor ∉ held) (hopen : w.table h.socket.descriptor ≠ none) :
    u.Tracks (u.model.after t events) h :=
  htracks.frame (Upkeep.after_untouched (untouched_of_accounts hacc hf hother hopen))

theorem tracks_enrol (hopen : ∀ h ∈ w.live, w.table h.socket.descriptor ≠ none)
    (htracks : ∀ h ∈ w.live, u.Tracks t h) {origin : Origin}
    {run : Run (Except NetError Socket) σ} (hc : Socket.Constructs run.events run.result)
    (hnew : ∀ s, run.result = .ok s →
      u.Tracks (u.model.after t run.events) ⟨s, origin, run.events⟩)
    (hf : w.table.Follows DescriptorTable.OpensUnused (booked run.events)) :
    ∀ h ∈ (w.enrol origin run).live, u.Tracks (u.model.after t run.events) h := by
  have hold : ∀ h ∈ w.live, u.Tracks (u.model.after t run.events) h := fun h hlive =>
    tracks_frame (htracks h hlive) (hc.accounts []) hf (by simp) (hopen h hlive)
  exact kept_enrol hold hnew

theorem tracks_putBack (hnodup : w.held.Nodup)
    (hopen : ∀ h ∈ w.live, w.table h.socket.descriptor ≠ none)
    (htracks : ∀ h ∈ w.live, u.Tracks t h) {index : Nat} {h : LiveSocket}
    (hi : w.live[index]? = some h) {operation : Operation}
    {run : Run (operation.Result × Socket) σ}
    (hrun : Socket.PerformRun h.socket operation run.events run.result)
    (hf : w.table.Follows DescriptorTable.OpensUnused (booked run.events)) :
    ∀ h' ∈ (w.putBack index h operation run).live, u.Tracks (u.model.after t run.events) h' := by
  obtain ⟨hperforms, hdescriptor⟩ := hrun.performs
  have hlive : h ∈ w.live := List.mem_of_getElem? hi
  have hclosed : ∀ e ∈ run.events, e.closed? ≠ some h.socket.descriptor := by
    intro e he
    have hnone := List.filterMap_eq_nil_iff.mp hperforms.closed (.event e) (List.mem_map_of_mem he)
    intro hsome
    cases hnone.symm.trans hsome
  have hown : u.Tracks (u.model.after t run.events)
      { h with socket := run.result.2, history := h.history ++ run.events } := by
    obtain ⟨x, hstarts, hx⟩ := htracks h hlive
    refine ⟨x, hstarts, ?_⟩
    have hnew := DescriptorTable.not_obtained_of_open hf (hopen h hlive) hclosed
    show u.model.after t run.events run.result.2.descriptor =
      u.through run.result.2.descriptor x (h.history ++ run.events)
    rw [hdescriptor, Upkeep.after_own hnew, Upkeep.through_append, hx]
  refine kept_putBack (fun s hs => ?_) hown fun h' hmem => ?_
  · obtain ⟨fd, hevents, rfl⟩ := hrun.accepted_cases hs
    refine ⟨u.accepted, rfl, ?_⟩
    rw [hevents, Upkeep.after_cons]
    exact if_pos rfl
  · obtain ⟨hlive', hne⟩ := mem_eraseIdx hnodup hi hmem
    have hacc := hperforms.accounts [h.socket.descriptor] (List.mem_singleton.mpr rfl)
    exact tracks_frame (htracks h' hlive') hacc hf (by simpa using hne) (hopen h' hlive')

theorem tracks_retire (hnodup : w.held.Nodup)
    (hopen : ∀ h ∈ w.live, w.table h.socket.descriptor ≠ none)
    (htracks : ∀ h ∈ w.live, u.Tracks t h) {index : Nat} {h : LiveSocket}
    (hi : w.live[index]? = some h) {run : Run α σ}
    (hrun : Socket.Closes h.socket.descriptor run.events)
    (hf : w.table.Follows DescriptorTable.OpensUnused (booked run.events)) :
    ∀ h' ∈ (w.retire index run).live, u.Tracks (u.model.after t run.events) h' := by
  intro h' hmem
  obtain ⟨hlive, hne⟩ := mem_eraseIdx hnodup hi hmem
  have hacc := hrun.accounts [h.socket.descriptor] (List.mem_singleton.mpr rfl)
  exact tracks_frame (htracks h' hlive) hacc hf (by simpa using hne) (hopen h' hlive)

theorem events_enrol (w : World σ) (origin : Origin) (run : Run (Except NetError Socket) σ) :
    (w.enrol origin run).entries.filterMap Entry.event? = run.events :=
  Observation.events_map_event .idle run.events

theorem events_putBack (w : World σ) (index : Nat) (h : LiveSocket) (operation : Operation)
    (run : Run (operation.Result × Socket) σ) :
    (w.putBack index h operation run).entries.filterMap Entry.event? = run.events :=
  Observation.events_map_event .idle run.events

theorem events_retire (w : World σ) (index : Nat) (run : Run α σ) :
    (w.retire index run).entries.filterMap Entry.event? = run.events :=
  Observation.events_map_event .idle run.events

/-- What a command does to the descriptors of all handles. -/
theorem Step.tracks {c : Command} {e : Effect σ} (h : Step k w c e) (hcustody : w.Custody)
    (htracks : ∀ h ∈ w.live, u.Tracks t h)
    (hf : w.table.Follows DescriptorTable.OpensUnused e.entries) :
    ∀ h ∈ e.live, u.Tracks (u.model.after t (e.entries.filterMap Entry.event?)) h := by
  have hnodup : w.held.Nodup := hcustody.balanced.nodup
  have hopen : ∀ h ∈ w.live, w.table h.socket.descriptor ≠ none := fun h hlive =>
    hcustody.covered _ (List.mem_map_of_mem hlive)
  cases h with
  | @tcp blocking run _ h =>
    rw [events_enrol]
    refine tracks_enrol hopen htracks h.constructs (fun s hs => ?_) hf
    rw [hs] at h
    obtain ⟨rest, hevents, hrest⟩ := h.opens
    rw [hevents]
    exact Upkeep.tracks_made hrest
  | @udp run _ h =>
    rw [events_enrol]
    refine tracks_enrol hopen htracks h.constructs (fun s hs => ?_) hf
    rw [hs] at h
    obtain ⟨rest, hevents, hrest⟩ := h.opens
    rw [hevents]
    exact Upkeep.tracks_made hrest
  | @adopted transport state fd =>
    exact List.forall_mem_cons.mpr ⟨⟨t fd, trivial, rfl⟩, htracks⟩
  | @performed index operation h run hi _ hp =>
    rw [events_putBack]
    exact tracks_putBack hnodup hopen htracks hi hp hf
  | released _ => exact fun h hmem => htracks h (List.mem_of_mem_eraseIdx hmem)
  | @closed index h hi run hc =>
    rw [events_retire]
    exact tracks_retire hnodup hopen htracks hi hc.closes hf
  | @dropped index h hi run hd =>
    rw [events_retire]
    exact tracks_retire hnodup hopen htracks hi hd.closes hf
  | elsewhere fd status => exact htracks
  | idle _ => exact htracks

/-- **A lawful command keeps every descriptor in the state that its handle's history tells.** -/
theorem tracks_exec {c : Command} (hcustody : w.Custody) (htracks : ∀ h ∈ w.live, u.Tracks t h)
    (hc : w.Lawful DescriptorTable.OpensUnused k c) :
    ∀ h ∈ (w.exec k c).live, u.Tracks (u.model.after t (w.observe k c).events) h :=
  (effect_steps k w c).tracks hcustody htracks hc.2

/-- **In a lawful run the descriptor of every live handle is in the state that the handle's history
tells**, whatever state all descriptors were in before the run. -/
theorem tracks_run (u : Upkeep β) (t : Descriptor → β) {kernel : σ} {table : DescriptorTable}
    {commands : List Command}
    (h : Along k (Lawful DescriptorTable.OpensUnused k) (start kernel table) commands) :
    ∀ h ∈ ((start kernel table).run k commands).live,
      u.Tracks (u.model.after t (shown ((start kernel table).observed k commands))) h := by
  have hrun : ∀ (commands : List Command) (w : World σ) (t : Descriptor → β), w.Custody →
      (∀ h ∈ w.live, u.Tracks t h) → Along k (Lawful DescriptorTable.OpensUnused k) w commands →
      ∀ h ∈ (w.run k commands).live,
        u.Tracks (u.model.after t (shown (w.observed k commands))) h := by
    intro commands
    induction commands with
    | nil => exact fun w t _ htracks _ => htracks
    | cons c rest ih =>
      intro w t hcustody htracks hlawful
      have hnext := tracks_exec hcustody htracks hlawful.1
      rw [shown_observed_cons, KernelModel.after_append]
      exact ih _ _ (custody_exec hcustody hlawful.1) hnext hlawful.2
  exact hrun commands _ t (custody_start kernel table) (List.forall_mem_nil _) h

/-- A reply at the end of a run agrees with the state that the run led to. -/
theorem follows_next {m : KernelModel β} {t : β} {commands : List Command} {c : Command}
    (h : m.Follows t (shown (w.observed k (commands ++ [c])))) :
    m.Follows (m.after t (shown (w.observed k commands)))
      ((w.run k commands).observe k c).events := by
  rw [observed_append, shown_append, KernelModel.follows_append] at h
  have hone : shown ((w.run k commands).observed k [c]) = ((w.run k commands).observe k c).events :=
    List.append_nil _
  rw [← hone]
  exact h.2

/-- So do the replies that an operation at the end of a run meets. -/
theorem follows_perform {m : KernelModel β} {t : β} {commands : List Command} {index : Nat}
    {operation : Operation} {h : LiveSocket} (hi : (w.run k commands).live[index]? = some h)
    (hf : m.Follows t (shown (w.observed k (commands ++ [.perform index operation])))) :
    m.Follows (m.after t (shown (w.observed k commands)))
      ((h.socket.perform operation).run k (w.run k commands).kernel).events := by
  have hnext := follows_next hf
  rwa [observe_perform k hi, Observation.events_map_event] at hnext

end World
end SocketLayer
