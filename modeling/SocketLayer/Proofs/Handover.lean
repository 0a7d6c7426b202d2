import Mathlib.Data.List.Perm.Basic
import SocketLayer.Proofs.DescriptorState

/-!
# Giving a descriptor away and taking it back

A handle can give up its descriptor without closing it, and a handle can be made of any number that
can name a descriptor. The two undo each other, except that the new handle is taken to be in
blocking mode; switching it to non-blocking mode then finds the bit set and writes nothing. From
there on nothing tells the new handle from the old one but its number.

* `Returned` — the word that a call returns which makes a descriptor; a negative one is a failure.
* `words_run` — in every run handles have descriptors that are words, none of them negative.
* `Command.onto`, `Reordered.run` — worlds with the same handles in another order show the same, to
  commands that find each handle under its number.
* `configure_already` — switching a descriptor whose bit is set.
* `World.handover_lossless` — giving away, taking back and restoring, in every run.
-/

set_option autoImplicit false

namespace SocketLayer

/-! ## Words and descriptors -/

/-- What a call returns that makes a descriptor: a word, and the error number to read if the word is
negative. -/
structure Returned where
  word : Int32
  errno : Errno
  deriving DecidableEq, Repr

/-- The reply that such a call gives. -/
def Returned.reply (r : Returned) : Except Errno Descriptor :=
  if r.word < 0 then .error r.errno else .ok ⟨r.word.toInt.toNat⟩

/-- Only a word that is not negative makes a descriptor, and it is that number. -/
theorem Returned.reply_ok {r : Returned} {fd : Descriptor} (h : r.reply = .ok fd) :
    0 ≤ r.word ∧ r.word.toInt = fd.raw := by
  unfold reply at h
  split at h
  · cases h
  · rename_i hword
    have hle : 0 ≤ r.word := Int32.not_lt.mp hword
    have hint : (0 : Int) ≤ r.word.toInt := Int32.le_iff_toInt_le.mp hle
    cases h
    exact ⟨hle, (Int.toNat_of_nonneg hint).symm⟩

namespace Descriptor

/-- The descriptor is what some word returned by the kernel makes. -/
def FromWord (fd : Descriptor) : Prop := ∃ r : Returned, r.reply = .ok fd

theorem fromWord_of_word {word : Int32} {fd : Descriptor} (h : word.toInt = fd.raw) :
    fd.FromWord := by
  refine ⟨⟨word, ⟨0⟩⟩, ?_⟩
  have hle : (0 : Int) ≤ word.toInt := h ▸ Int.natCast_nonneg fd.number
  have hword : ¬ word < 0 := Int32.not_lt.mpr (Int32.le_iff_toInt_le.mpr hle)
  rw [Returned.reply, if_neg hword, h]
  rfl

theorem fromWord_iff (fd : Descriptor) : fd.FromWord ↔ fd.number < 0x80000000 := by
  constructor
  · rintro ⟨r, h⟩
    have hlt := r.word.toInt_lt
    rw [(Returned.reply_ok h).2] at hlt
    exact Int.ofNat_lt.mp hlt
  · exact fun h => fromWord_of_word (Int32.toInt_ofNat_of_lt h)

instance : DecidablePred FromWord := fun fd => decidable_of_iff _ fd.fromWord_iff.symm

end Descriptor

/-! ## Switching a descriptor whose bit is set -/

namespace Socket

open Program

variable {σ : Type} {k : Kernel σ} {state : σ} {s : Socket}

/-- Switching to non-blocking mode where the bit is set reads the status flags and does nothing
else. -/
theorem configure_already {flags : StatusFlags}
    (hreply : (k.answer state (.getFlags s.descriptor)).1 = .ok flags)
    (hset : flags.isNonBlocking = true) :
    s.configureNonBlocking.run k state =
      ⟨(.ok (), { s with nonBlocking := true }), (k.answer state (.getFlags s.descriptor)).2,
        [.called (.getFlags s.descriptor) (.ok flags)]⟩ := by
  have hsame := flags.withNonBlocking_eq_self_iff.mpr hset
  have hswitch : (s.descriptor.setNonBlocking true).run k state =
      ⟨.ok (), (k.answer state (.getFlags s.descriptor)).2,
        [.called (.getFlags s.descriptor) (.ok flags)]⟩ := by
    simp only [Descriptor.setNonBlocking, bind_eq, run_bind, request, run, hreply, hsame]
    rfl
  simp only [configureNonBlocking, bind_eq, run_bind, hswitch]
  rfl

end Socket

/-! ## The same handles in another order -/

/-- The same command, on the handle under another number if it is on a handle. -/
def Command.onto (index : Nat) : Command → Command
  | .perform _ operation => .perform index operation
  | .release _ => .release index
  | .close _ => .close index
  | .drop _ => .drop index
  | c => c

namespace World

open DescriptorTable

variable {σ : Type} {k : Kernel σ} {w w' : World σ}

/-- Two worlds over kernels in one state, with the same live handles in any order. -/
structure Reordered (w w' : World σ) : Prop where
  kernel : w.kernel = w'.kernel
  sockets : w.sockets.Perm w'.sockets

theorem Reordered.symm (h : w.Reordered w') : w'.Reordered w := ⟨h.kernel.symm, h.sockets.symm⟩

/-- Two effects with the same kernel, the same handles in any order and the same events. -/
structure ReorderedEffect (e e' : Effect σ) : Prop where
  kernel : e.kernel = e'.kernel
  sockets : (e.live.map LiveSocket.socket).Perm (e'.live.map LiveSocket.socket)
  entries : e.entries = e'.entries

/-- A handle can be put in front of the others. -/
theorem sockets_perm_cons {index : Nat} {h : LiveSocket} (hi : w.live[index]? = some h) :
    (h.socket :: w.sockets.eraseIdx index).Perm w.sockets := by
  obtain ⟨hlt, rfl⟩ := List.getElem?_eq_some_iff.mp hi
  have hin : index < w.sockets.length := by simpa [sockets] using hlt
  have hself : w.live[index].socket = w.sockets[index] := by simp [sockets]
  rw [hself]
  exact List.getElem_cons_eraseIdx_perm hin

/-- So can what is put in its place. -/
theorem sockets_set_perm {index : Nat} {h : LiveSocket} (hi : w.live[index]? = some h)
    (s : Socket) : (w.sockets.set index s).Perm (s :: w.sockets.eraseIdx index) := by
  have hlt := (List.getElem?_eq_some_iff.mp hi).1
  exact List.set_perm_cons_eraseIdx (by simpa [sockets] using hlt) s

/-- The handle under a number is under some number of the other world, with the same others beside
it; or there is none under the one and under the other. -/
theorem Reordered.handle (h : w.Reordered w') (index : Nat) :
    ∃ index', (w.live[index]? = none ∧ w'.live[index']? = none) ∨
      ∃ x x', w.live[index]? = some x ∧ w'.live[index']? = some x' ∧ x.socket = x'.socket ∧
        (w.sockets.eraseIdx index).Perm (w'.sockets.eraseIdx index') := by
  cases hx : w.live[index]? with
  | none => exact ⟨w'.live.length, .inl ⟨rfl, List.getElem?_eq_none (Nat.le_refl _)⟩⟩
  | some x =>
    have hmem : x.socket ∈ w'.sockets :=
      h.sockets.mem_iff.mp (List.mem_map_of_mem (List.mem_of_getElem? hx))
    obtain ⟨x', hlive, hsame⟩ := List.mem_map.mp hmem
    obtain ⟨index', hx'⟩ := List.mem_iff_getElem?.mp hlive
    refine ⟨index', .inr ⟨x, x', rfl, hx', hsame.symm, ?_⟩⟩
    have hperm := (sockets_perm_cons hx).trans (h.sockets.trans (sockets_perm_cons hx').symm)
    rw [hsame] at hperm
    exact hperm.cons_inv

theorem Reordered.enrol (h : w.Reordered w') (origin : Origin)
    (run : Run (Except NetError Socket) σ) :
    ReorderedEffect (w.enrol origin run) (w'.enrol origin run) := by
  refine ⟨rfl, ?_, rfl⟩
  rw [sockets_enrol, sockets_enrol]
  cases run.result with
  | error e => exact h.sockets
  | ok s => exact h.sockets.cons s

/-- A command on a handle finds it under some number of the other world, tells the same of it and
does the same with it. -/
theorem Reordered.use (h : w.Reordered w') (index : Nat) {tell tell' : LiveSocket → Report}
    {use : LiveSocket → Effect σ} {use' : Nat → LiveSocket → Effect σ}
    (htell : ∀ x x', x.socket = x'.socket → tell x = tell' x')
    (huse : ∀ index' x x', w.live[index]? = some x → w'.live[index']? = some x' →
      x.socket = x'.socket → (w.sockets.eraseIdx index).Perm (w'.sockets.eraseIdx index') →
      ReorderedEffect (use x) (use' index' x')) :
    ∃ index', w.tellOf index tell = w'.tellOf index' tell' ∧
      ReorderedEffect (w.withHandle index use) (w'.withHandle index' (use' index')) := by
  obtain ⟨index', ⟨hx, hx'⟩ | ⟨x, x', hx, hx', hsame, hothers⟩⟩ := h.handle index
  · refine ⟨index', ?_⟩
    simp only [tellOf, withHandle, hx, hx']
    exact ⟨trivial, h.kernel, h.sockets, rfl⟩
  · refine ⟨index', ?_⟩
    simp only [tellOf, withHandle, hx, hx']
    exact ⟨htell x x' hsame, huse index' x x' hx hx' hsame hothers⟩

theorem Reordered.retire {α : Type} (run : Run α σ) {index index' : Nat}
    (hothers : (w.sockets.eraseIdx index).Perm (w'.sockets.eraseIdx index')) :
    ReorderedEffect (w.retire index run) (w'.retire index' run) := by
  refine ⟨rfl, ?_, rfl⟩
  rwa [World.retire, World.retire, sockets_eraseIdx, sockets_eraseIdx]

/-- Worlds with the same handles tell the same of a command that finds its handle, and it does the
same. -/
theorem Reordered.effect (h : w.Reordered w') (c : Command) :
    ∃ index, w.report k c = w'.report k (c.onto index) ∧
      ReorderedEffect (w.effect k c) (w'.effect k (c.onto index)) := by
  cases c with
  | makeTcp blocking =>
    refine ⟨0, ?_⟩
    show Report.made _ = Report.made _ ∧ ReorderedEffect (w.enrol _ _) (w'.enrol _ _)
    rw [h.kernel]
    exact ⟨rfl, h.enrol _ _⟩
  | makeUdp =>
    refine ⟨0, ?_⟩
    show Report.made _ = Report.made _ ∧ ReorderedEffect (w.enrol _ _) (w'.enrol _ _)
    rw [h.kernel]
    exact ⟨rfl, h.enrol _ _⟩
  | adopt raw transport state =>
    refine ⟨0, rfl, ?_⟩
    simp only [World.effect, Command.onto]
    split
    · exact ⟨h.kernel, h.sockets.cons _, rfl⟩
    · exact ⟨h.kernel, h.sockets, rfl⟩
  | elsewhere fd status => exact ⟨0, rfl, h.kernel, h.sockets, rfl⟩
  | perform index operation =>
    refine h.use index (fun x x' hsame => ?_) fun index' x x' hx hx' hsame hothers => ?_
    · rw [hsame, h.kernel]
    · rw [hsame, h.kernel]
      refine ⟨rfl, ?_, rfl⟩
      rw [sockets_putBack, sockets_putBack]
      refine List.Perm.append_left _ ?_
      exact (sockets_set_perm hx _).trans ((hothers.cons _).trans (sockets_set_perm hx' _).symm)
  | release index =>
    refine h.use index (fun x x' hsame => ?_) fun index' x x' hx hx' hsame hothers => ?_
    · rw [hsame]
    · rw [hsame]
      refine ⟨h.kernel, ?_, rfl⟩
      rwa [sockets_eraseIdx, sockets_eraseIdx]
  | close index =>
    refine h.use index (fun x x' hsame => ?_) fun index' x x' hx hx' hsame hothers => ?_
    · rw [hsame, h.kernel]
    · rw [hsame, h.kernel]
      exact Reordered.retire _ hothers
  | drop index =>
    refine h.use index (fun _ _ _ => rfl) fun index' x x' hx hx' hsame hothers => ?_
    rw [hsame, h.kernel]
    exact Reordered.retire _ hothers

/-- The same commands, each on the handle under some number of its own. -/
abbrev SameCommands : List Command → List Command → Prop :=
  List.Forall₂ fun c c' => ∃ index, c' = c.onto index

/-- **Worlds with the same handles show the same** to commands that find each handle under its
number, and end with the same handles. -/
theorem Reordered.run (commands : List Command) {w w' : World σ} (h : w.Reordered w') :
    ∃ commands', SameCommands commands commands' ∧
      w'.observed k commands' = w.observed k commands ∧
      (w.run k commands).Reordered (w'.run k commands') := by
  induction commands generalizing w w' with
  | nil => exact ⟨[], .nil, rfl, h⟩
  | cons c rest ih =>
    obtain ⟨index, hreport, heffect⟩ := h.effect (k := k) c
    have hshown : w'.observe k (c.onto index) = w.observe k c := by
      rw [observe, observe, hreport, heffect.entries]
    have hnext : (w.exec k c).Reordered (w'.exec k (c.onto index)) :=
      ⟨heffect.kernel, heffect.sockets⟩
    obtain ⟨rest', hsame, hobserved, hend⟩ := ih hnext
    exact ⟨c.onto index :: rest', .cons ⟨index, rfl⟩ hsame,
      congrArg₂ List.cons hshown hobserved, hend⟩

/-- Neither of two worlds shows anything that the other does not show to the same commands. -/
structure Indistinguishable (k : Kernel σ) (w w' : World σ) : Prop where
  forth : ∀ later, ∃ later', SameCommands later later' ∧
    w'.observed k later' = w.observed k later ∧ (w.run k later).Reordered (w'.run k later')
  back : ∀ later', ∃ later, SameCommands later' later ∧
    w.observed k later = w'.observed k later' ∧ (w'.run k later').Reordered (w.run k later)

theorem Reordered.indistinguishable (h : w.Reordered w') : Indistinguishable k w w' :=
  ⟨fun later => h.run later, fun later => h.symm.run later⟩

/-! ## Descriptors are words -/

/-- A number that a caller has for a descriptor is a word. -/
def Command.GivesWord : Command → Prop
  | .adopt raw _ _ => (Int32.ofInt raw).toInt = raw
  | _ => True

instance : DecidablePred Command.GivesWord
  | .adopt raw _ _ => inferInstanceAs (Decidable ((Int32.ofInt raw).toInt = raw))
  | .makeTcp _ | .makeUdp | .perform _ _ | .release _ | .close _ | .drop _ | .elsewhere _ _ =>
    .isTrue trivial

/-- The descriptors that a command is given come from words. -/
def HandsWords (k : Kernel σ) (w : World σ) (c : Command) : Prop :=
  (∀ e ∈ (w.observe k c).events, ∀ fd ∈ e.obtained?, fd.FromWord) ∧ Command.GivesWord c

instance (k : Kernel σ) (w : World σ) : DecidablePred (HandsWords k w) := fun c =>
  inferInstanceAs (Decidable
    ((∀ e ∈ (w.observe k c).events, ∀ fd ∈ e.obtained?, fd.FromWord) ∧ Command.GivesWord c))

theorem Step.words {c : Command} {e : Effect σ} (h : Step k w c e)
    (hw : ∀ h ∈ w.live, h.socket.descriptor.FromWord)
    (hnew : ∀ e' ∈ e.entries.filterMap Entry.event?, ∀ fd ∈ e'.obtained?, fd.FromWord)
    (hgiven : Command.GivesWord c) : ∀ h ∈ e.live, h.socket.descriptor.FromWord := by
  cases h with
  | @tcp blocking run _ h =>
    rw [events_enrol] at hnew
    refine kept_enrol hw fun s hs => ?_
    rw [hs] at h
    obtain ⟨rest, hevents, -⟩ := h.opens
    rw [hevents] at hnew
    exact hnew _ List.mem_cons_self s.descriptor rfl
  | @udp run _ h =>
    rw [events_enrol] at hnew
    refine kept_enrol hw fun s hs => ?_
    rw [hs] at h
    obtain ⟨rest, hevents, -⟩ := h.opens
    rw [hevents] at hnew
    exact hnew _ List.mem_cons_self s.descriptor rfl
  | adopted fd => exact List.forall_mem_cons.mpr ⟨Descriptor.fromWord_of_word hgiven, hw⟩
  | @performed index operation h run hi _ hp =>
    rw [events_putBack] at hnew
    refine kept_putBack (fun s hs => ?_) ?_ fun h hmem => hw h (List.mem_of_mem_eraseIdx hmem)
    · obtain ⟨fd, hevents, rfl⟩ := hp.accepted_cases hs
      rw [hevents] at hnew
      exact hnew _ List.mem_cons_self fd rfl
    · show run.result.2.descriptor.FromWord
      rw [hp.performs.2]
      exact hw h (List.mem_of_getElem? hi)
  | released _ => exact fun h hmem => hw h (List.mem_of_mem_eraseIdx hmem)
  | closed _ _ => exact fun h hmem => hw h (List.mem_of_mem_eraseIdx hmem)
  | dropped _ _ => exact fun h hmem => hw h (List.mem_of_mem_eraseIdx hmem)
  | elsewhere fd status => exact hw
  | idle _ => exact hw

/-- **No reply of a kernel and no number of a caller puts a negative descriptor into a handle.** -/
theorem words_run {kernel : σ} {table : DescriptorTable} {commands : List Command}
    (h : Along k (HandsWords k) (start kernel table) commands) :
    ∀ h ∈ ((start kernel table).run k commands).live, h.socket.descriptor.FromWord := by
  have hstep : ∀ (w : World σ) (c : Command), (∀ h ∈ w.live, h.socket.descriptor.FromWord) →
      w.HandsWords k c → ∀ h ∈ (w.exec k c).live, h.socket.descriptor.FromWord :=
    fun w c hw hc => (effect_steps k w c).words hw hc.1 hc.2
  exact run_invariant hstep commands _ (List.forall_mem_nil _) h

/-! ## Giving away and taking back -/

/-- A handle gives its descriptor away, and a handle of the same kind and in the same position takes
it. -/
def handover (index : Nat) (s : Socket) : List Command :=
  [.release index, .adopt s.release s.transport s.state]

/-- What a handover leaves: the same kernel, the same table of descriptors, and the handle in front,
taken to be in blocking mode. -/
theorem handover_run {index : Nat} {h : LiveSocket} (hi : w.live[index]? = some h) :
    w.run k (handover index h.socket) =
      ⟨w.kernel, w.table,
        ⟨{ h.socket with nonBlocking := false }, .adopted h.socket.transport h.socket.state, []⟩ ::
          w.live.eraseIdx index,
        w.trace ++ [.released h.socket.descriptor] ++ [.adopted h.socket.descriptor]⟩ := by
  have hreleased : w.exec k (.release index) = ⟨w.kernel, w.table, w.live.eraseIdx index,
      w.trace ++ [.released h.socket.descriptor]⟩ := by
    simp only [exec, effect, withHandle, hi]
    rfl
  show ((w.exec k (.release index)).exec k _) = _
  rw [hreleased]
  simp only [exec, effect, Socket.adopt_release]
  rfl

/-- Giving the descriptor of a handle away and taking it back, in any run.

* `taken` — what was given away can be taken.
* `silent` — nothing is asked of the kernel, and nothing happens to the table of descriptors.
* `handle` — the handle is the old one, taken to be in blocking mode; the others are as they were.
* `blocking` — if it was in blocking mode, nothing will show that it was ever away. -/
structure TakenBack (k : Kernel σ) (w : World σ) (index : Nat) (s : Socket) : Prop where
  taken : Socket.adopt s.release s.transport s.state = .ok { s with nonBlocking := false }
  silent : shown (w.observed k (handover index s)) = [] ∧
    (w.run k (handover index s)).kernel = w.kernel ∧ (w.run k (handover index s)).table = w.table
  handle : (w.run k (handover index s)).sockets =
    { s with nonBlocking := false } :: w.sockets.eraseIdx index
  blocking : s.nonBlocking = false → Indistinguishable k w (w.run k (handover index s))

theorem takenBack {index : Nat} {h : LiveSocket} (hi : w.live[index]? = some h) :
    TakenBack k w index h.socket := by
  have hrun := handover_run (k := k) hi
  have hsockets : (w.run k (handover index h.socket)).sockets =
      { h.socket with nonBlocking := false } :: w.sockets.eraseIdx index := by
    rw [hrun]
    exact congrArg (_ :: ·) (sockets_eraseIdx w index)
  refine ⟨Socket.adopt_release .., ⟨?_, by rw [hrun], by rw [hrun]⟩, hsockets, fun hmode => ?_⟩
  · simp only [handover, observed, observe, effect, withHandle, hi, Socket.adopt_release]
    rfl
  · refine Reordered.indistinguishable ⟨by rw [hrun], ?_⟩
    have hsame : ({ h.socket with nonBlocking := false } : Socket) = h.socket := by rw [← hmode]
    rw [hsockets, hsame]
    exact (sockets_perm_cons hi).symm

/-- A switch that worked found the bit set, if it is. -/
theorem configure_reply {s : Socket} {state : σ} {t : DescriptorTable}
    (hset : t s.descriptor = some true)
    (hf : t.Follows TracksMode
      (booked (s.configureNonBlocking.run k state).events))
    (hok : (s.configureNonBlocking.run k state).result.1 = .ok ()) :
    ∃ flags : StatusFlags, (k.answer state (.getFlags s.descriptor)).1 = .ok flags ∧
      flags.isNonBlocking = true := by
  have hruns := (Socket.configureNonBlocking_runs s).run k state
  have hreply : ∃ (flags : StatusFlags) (rest : List Event),
      (s.configureNonBlocking.run k state).events =
        .called (.getFlags s.descriptor) (.ok flags) :: rest := by
    generalize s.configureNonBlocking.run k state = run at hruns hok
    obtain ⟨result, kernel, events⟩ := run
    cases hruns with
    | failed => cases hok
    | switched h =>
      cases h with
      | already flags _ => exact ⟨flags, _, rfl⟩
      | switched flags _ => exact ⟨flags, _, rfl⟩
  obtain ⟨flags, rest, hevents⟩ := hreply
  refine ⟨flags, Program.run_first hevents, ?_⟩
  rw [hevents] at hf
  have hread := hf.1.2 (s.descriptor, flags.isNonBlocking) rfl
  rw [hset] at hread
  exact (Option.some.inj hread).symm

/-- The command that switches a handle asks for the flags and does nothing else, if it works and the
bit is set. -/
theorem exec_configure {index : Nat} {h : LiveSocket} (hi : w.live[index]? = some h)
    (hset : w.table h.socket.descriptor = some true)
    (hf : w.table.Follows TracksMode
      (w.effect k (.perform index .configureNonBlocking)).entries)
    (hok : (w.observe k (.perform index .configureNonBlocking)).report =
      .performed h.socket .configureNonBlocking (Except.ok () : Except NetError Unit)) :
    calls (w.observe k (.perform index .configureNonBlocking)).events =
        [.getFlags h.socket.descriptor] ∧
      (w.exec k (.perform index .configureNonBlocking)).kernel =
        (k.answer w.kernel (.getFlags h.socket.descriptor)).2 ∧
      (w.exec k (.perform index .configureNonBlocking)).sockets =
        w.sockets.set index { h.socket with nonBlocking := true } := by
  have hobserve := observe_perform k hi .configureNonBlocking
  have heffect : w.effect k (.perform index .configureNonBlocking) =
      w.putBack index h .configureNonBlocking (h.socket.configureNonBlocking.run k w.kernel) := by
    simp only [effect, withHandle, hi]
    rfl
  rw [heffect] at hf
  rw [hobserve] at hok
  obtain ⟨flags, hreply, hbit⟩ :=
    configure_reply hset hf (eq_of_heq (Report.performed.inj hok).2.2)
  have hrun := Socket.configure_already hreply hbit
  refine ⟨?_, ?_, ?_⟩
  · rw [hobserve, Observation.events_map_event]
    exact congrArg (fun run => calls run.events) hrun
  · show (w.effect k (.perform index .configureNonBlocking)).kernel = _
    rw [heffect]
    exact congrArg Run.kernel hrun
  · show (w.effect k (.perform index .configureNonBlocking)).live.map LiveSocket.socket = _
    rw [heffect, sockets_putBack]
    exact congrArg (fun run => w.sockets.set index run.result.2) hrun

/-- Restoring a handle that was in non-blocking mode.

* `reads` — the status flags are read, and not written, because the bit is set.
* `handle` — the handle is the old one, in its mode; the others are as they were.
* `indistinguishable` — if asking for the flags leaves the kernel as it was, nothing will show that
  the handle was ever away. -/
structure Restored (k : Kernel σ) (w : World σ) (index : Nat) (s : Socket) : Prop where
  reads : calls ((w.run k (handover index s)).observe k (.perform 0 .configureNonBlocking)).events =
    [.getFlags s.descriptor]
  handle : ((w.run k (handover index s)).exec k (.perform 0 .configureNonBlocking)).sockets =
    s :: w.sockets.eraseIdx index
  indistinguishable : (k.answer w.kernel (.getFlags s.descriptor)).2 = w.kernel →
    Indistinguishable k w ((w.run k (handover index s)).exec k (.perform 0 .configureNonBlocking))

theorem restored {index : Nat} {h : LiveSocket} (hi : w.live[index]? = some h)
    (hmode : h.socket.nonBlocking = true) (hset : w.table h.socket.descriptor = some true)
    (hf : (w.run k (handover index h.socket)).table.Follows TracksMode
      ((w.run k (handover index h.socket)).effect k (.perform 0 .configureNonBlocking)).entries)
    (hok : ((w.run k (handover index h.socket)).observe k
        (.perform 0 .configureNonBlocking)).report =
      .performed { h.socket with nonBlocking := false } .configureNonBlocking
        (Except.ok () : Except NetError Unit)) :
    Restored k w index h.socket := by
  have hback := takenBack (k := k) hi
  have hrun := handover_run (k := k) hi
  have hi' : (w.run k (handover index h.socket)).live[0]? =
      some ⟨{ h.socket with nonBlocking := false },
        .adopted h.socket.transport h.socket.state, []⟩ := by
    rw [hrun]
    rfl
  have hset' : (w.run k (handover index h.socket)).table h.socket.descriptor = some true := by
    rw [hback.silent.2.2]
    exact hset
  obtain ⟨hreads, hkernel, hsockets⟩ := exec_configure hi' hset' hf hok
  have hself : ({ h.socket with nonBlocking := true } : Socket) = h.socket := by rw [← hmode]
  have hhandle : ((w.run k (handover index h.socket)).exec k
      (.perform 0 .configureNonBlocking)).sockets = h.socket :: w.sockets.eraseIdx index := by
    rw [hsockets, hback.handle, List.set_cons_zero]
    exact congrArg (· :: _) hself
  refine ⟨hreads, hhandle, fun hsame => Reordered.indistinguishable ⟨?_, ?_⟩⟩
  · rw [hkernel, hback.silent.2.1]
    exact hsame.symm
  · rw [hhandle]
    exact (sockets_perm_cons hi).symm

/-- Handles and descriptors in a run.

* `word` — if descriptors come from words, that of every live handle is a word that is not negative,
  and giving it away gives that word.
* `takenBack`, `restored` — every live handle can be given away and taken back; in a lawful run a
  successful switch restores one that was in non-blocking mode.
* `refused` — a negative number makes no handle and changes nothing. -/
structure Lossless (k : Kernel σ) (w₀ : World σ) (commands : List Command) : Prop where
  word : Along k (HandsWords k) w₀ commands → ∀ h ∈ (w₀.run k commands).live,
    ∃ word : Int32, 0 ≤ word ∧ word.toInt = h.socket.release
  takenBack : ∀ index h, (w₀.run k commands).live[index]? = some h →
    TakenBack k (w₀.run k commands) index h.socket
  restored : Along k (Lawful TracksMode k) w₀ commands →
    ∀ index h, (w₀.run k commands).live[index]? = some h → h.socket.nonBlocking = true →
    let w := (w₀.run k commands).run k (handover index h.socket)
    w.table.Follows TracksMode (w.effect k (.perform 0 .configureNonBlocking)).entries →
    (w.observe k (.perform 0 .configureNonBlocking)).report =
      .performed { h.socket with nonBlocking := false } .configureNonBlocking
        (Except.ok () : Except NetError Unit) →
    Restored k (w₀.run k commands) index h.socket
  refused : ∀ raw transport state, raw < 0 →
    ((w₀.run k commands).observe k (.adopt raw transport state)).report =
        .made (.error .invalidHandle) ∧
      (w₀.run k commands).exec k (.adopt raw transport state) = w₀.run k commands

/-- A negative number makes no handle and changes nothing. -/
theorem adopt_negative (k : Kernel σ) (w : World σ) {raw : Int} (transport : Transport)
    (state : Lifecycle) (h : raw < 0) :
    (w.observe k (.adopt raw transport state)).report = .made (.error .invalidHandle) ∧
      w.exec k (.adopt raw transport state) = w := by
  have hadopt : Socket.adopt raw transport state = .error .invalidHandle :=
    if_neg (by simpa [Descriptor.isValidRaw] using h)
  refine ⟨congrArg Report.made hadopt, ?_⟩
  simp only [exec, effect, hadopt, List.append_nil]
  rfl

/-- **Giving a descriptor away and taking it back loses nothing but the blocking mode, and that can
be restored**, for every handle of every run, whatever the kernel replies. -/
theorem handover_lossless (k : Kernel σ) (kernel : σ) (table : DescriptorTable)
    (commands : List Command) : Lossless k (start kernel table) commands := by
  refine ⟨fun hwords h hlive => ?word, fun index h hi => takenBack hi,
    fun hlawful index h hi hmode => ?restored, fun raw transport state => adopt_negative k _ _ _⟩
  case word =>
    obtain ⟨r, hr⟩ := words_run hwords h hlive
    exact ⟨r.word, Returned.reply_ok hr⟩
  case restored =>
    exact restored hi hmode (bit_of_nonBlocking hlawful h (List.mem_of_getElem? hi) hmode)

/-- On a host: one of two handles, in non-blocking mode, is given away, taken back and restored. -/
theorem handover_lossless_on_host :
    let w := (start (Host.boot []) fun _ => none).run Host.kernel [.makeTcp false, .makeTcp true]
    let s : Socket := ⟨⟨3⟩, .tcp, .created, true⟩
    (∃ word : Int32, 0 ≤ word ∧ word.toInt = s.release) ∧
      Indistinguishable Host.kernel w ((w.run Host.kernel (handover 1 s)).exec Host.kernel
        (.perform 0 .configureNonBlocking)) := by
  intro w s
  have hlossless := handover_lossless Host.kernel (Host.boot []) (fun _ => none)
    [.makeTcp false, .makeTcp true]
  obtain ⟨h, hi, hs⟩ : ∃ h, w.live[1]? = some h ∧ h.socket = s := ⟨_, rfl, rfl⟩
  have hrestored := hlossless.restored (by decide) 1 h hi (by rw [hs])
  rw [hs] at hrestored
  refine ⟨?_, (hrestored (by decide) rfl).indistinguishable rfl⟩
  rw [← hs]
  exact hlossless.word (by decide) h (List.mem_of_getElem? hi)

end World
end SocketLayer
