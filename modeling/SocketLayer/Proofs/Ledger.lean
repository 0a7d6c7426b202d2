import SocketLayer.Proofs.World

/-!
# The ledger of descriptors

A trace is read as a ledger. An entry takes a descriptor on (a successful `socket` or `accept`, an
adoption) or gives one up (a `close` call, whatever its reply, or a release), and the library owns
what it took on and has not given up since. Beside the trace goes the list of what is held.

* `Ledger.next` — the list after an entry.
* `Ledger.Accounts` — entries use held descriptors only and lead from one list to another.
* `Ledger.Balanced` — the list of what is held is right about the trace.
* `balanced_after` — entries that use what is held, and take on only what is not open, keep it so.
* `untouched_of_accounts` — events leave alone what is open and not held.
-/

set_option autoImplicit false

namespace SocketLayer

/-! ## What an entry does to ownership -/

namespace Entry

/-- The descriptor that an entry takes on. -/
def acquired? : Entry → Option Descriptor
  | .event e => e.obtained?
  | .adopted fd => some fd
  | _ => none

/-- The descriptor that an entry passes to `close`. -/
def closed? : Entry → Option Descriptor
  | .event e => e.closed?
  | _ => none

/-- The descriptor that an entry gives away. -/
def released? : Entry → Option Descriptor
  | .released fd => some fd
  | _ => none

/-- The descriptor that an entry gives up. -/
def givenUp? (e : Entry) : Option Descriptor := e.closed?.or e.released?

/-- The descriptor that an entry acts on. -/
def used? : Entry → Option Descriptor
  | .event e => e.subject?
  | .released fd => some fd
  | _ => none

/-- The four turns that an entry can take. -/
inductive Turn (e : Entry) : Prop
  | takes (fd : Descriptor) (acquired : e.acquired? = some fd) (closed : e.closed? = none)
    (released : e.released? = none)
  | closes (fd : Descriptor) (used : e.used? = some fd) (acquired : e.acquired? = none)
    (closed : e.closed? = some fd) (released : e.released? = none)
  | releases (fd : Descriptor) (used : e.used? = some fd) (acquired : e.acquired? = none)
    (closed : e.closed? = none) (released : e.released? = some fd)
  | keeps (acquired : e.acquired? = none) (closed : e.closed? = none)
    (released : e.released? = none)

theorem turn (e : Entry) : e.Turn := by
  rcases e with ⟨⟨call, reply⟩ | _⟩ | fd | fd | _
  · cases call with
    | socket transport closeOnExec =>
      rcases reply with e | fd
      · exact .keeps rfl rfl rfl
      · exact .takes fd rfl rfl rfl
    | accept listener nonBlocking closeOnExec =>
      rcases reply with e | fd
      · exact .keeps rfl rfl rfl
      · exact .takes fd rfl rfl rfl
    | close fd => exact .closes fd rfl rfl rfl rfl
    | _ => exact .keeps rfl rfl rfl
  · exact .keeps rfl rfl rfl
  · exact .takes fd rfl rfl rfl
  · exact .releases fd rfl rfl rfl rfl
  · exact .keeps rfl rfl rfl

/-- An entry that acts on one descriptor at most, and neither takes one on nor gives one up. -/
structure Stays (fd : Descriptor) (e : Entry) : Prop where
  acquired : e.acquired? = none
  closed : e.closed? = none
  released : e.released? = none
  used : ∀ g, e.used? = some g → g = fd

end Entry

namespace Ledger

/-! ## What a trace says -/

/-- One thing happened, and another has not happened since. -/
def Since (on off : Entry → Prop) (trace : List Entry) : Prop :=
  ∃ before e after, trace = before ++ e :: after ∧ on e ∧ ∀ later ∈ after, ¬ off later

/-- The descriptor was taken on and has not been given up since. -/
def Owns (fd : Descriptor) : List Entry → Prop :=
  Since (fun e => e.acquired? = some fd) fun e => e.givenUp? = some fd

/-- The descriptor was taken on and has not been passed to `close` since. -/
def Outstanding (fd : Descriptor) : List Entry → Prop :=
  Since (fun e => e.acquired? = some fd) fun e => e.closed? = some fd

/-- The descriptor was given away and has not been taken on since. -/
def HandedOut (fd : Descriptor) : List Entry → Prop :=
  Since (fun e => e.released? = some fd) fun e => e.acquired? = some fd

/-- How often an event of one kind concerned a descriptor. -/
def times (kind : Entry → Option Descriptor) (fd : Descriptor) (trace : List Entry) : Nat :=
  trace.countP fun e => kind e = some fd

theorem not_since_nil (on off : Entry → Prop) : ¬ Since on off [] := by
  rintro ⟨before, e, after, h, -⟩
  simp at h

theorem since_concat (on off : Entry → Prop) (trace : List Entry) (e : Entry) :
    Since on off (trace ++ [e]) ↔ on e ∨ Since on off trace ∧ ¬ off e := by
  constructor
  · rintro ⟨before, x, after, h, hon, hoff⟩
    rcases List.eq_nil_or_concat after with rfl | ⟨front, last, rfl⟩
    · obtain ⟨-, hx⟩ := List.append_inj' h rfl
      cases hx
      exact .inl hon
    · rw [List.concat_eq_append] at h hoff
      rw [← List.cons_append, ← List.append_assoc] at h
      obtain ⟨ht, hl⟩ := List.append_inj' h rfl
      cases hl
      exact .inr ⟨⟨before, x, front, ht, hon, fun y hy => hoff y (by simp [hy])⟩, hoff e (by simp)⟩
  · rintro (hon | ⟨⟨before, x, after, rfl, hon, hoff⟩, he⟩)
    · exact ⟨trace, e, [], rfl, hon, by simp⟩
    · refine ⟨before, x, after ++ [e], by simp, hon, fun y hy => ?_⟩
      rcases List.mem_append.mp hy with hy | hy
      · exact hoff y hy
      · rw [List.mem_singleton.mp hy]
        exact he

theorem owns_concat (fd : Descriptor) (trace : List Entry) (e : Entry) :
    Owns fd (trace ++ [e]) ↔
      e.acquired? = some fd ∨ Owns fd trace ∧ (e.closed?.or e.released?) ≠ some fd :=
  since_concat _ _ trace e

theorem outstanding_concat (fd : Descriptor) (trace : List Entry) (e : Entry) :
    Outstanding fd (trace ++ [e]) ↔
      e.acquired? = some fd ∨ Outstanding fd trace ∧ e.closed? ≠ some fd :=
  since_concat _ _ trace e

theorem handedOut_concat (fd : Descriptor) (trace : List Entry) (e : Entry) :
    HandedOut fd (trace ++ [e]) ↔
      e.released? = some fd ∨ HandedOut fd trace ∧ e.acquired? ≠ some fd :=
  since_concat _ _ trace e

theorem times_concat (kind : Entry → Option Descriptor) (fd : Descriptor) (trace : List Entry)
    (e : Entry) :
    times kind fd (trace ++ [e]) = times kind fd trace + if kind e = some fd then 1 else 0 := by
  simp [times, List.countP_cons]

/-! ## What is held -/

/-- What is held after an entry. -/
def next (held : List Descriptor) (e : Entry) : List Descriptor :=
  match e.acquired?, e.givenUp? with
  | some fd, _ => fd :: held
  | none, some fd => held.erase fd
  | none, none => held

/-- The entries act on held descriptors only, and lead from one list of held ones to another. -/
def Accounts : List Descriptor → List Entry → List Descriptor → Prop
  | held, [], held' => held = held'
  | held, e :: rest, held' =>
    (∀ fd, e.used? = some fd → fd ∈ held) ∧ Accounts (next held e) rest held'

theorem Accounts.append {held middle held' : List Descriptor} {first second : List Entry}
    (h : Accounts held first middle) (h' : Accounts middle second held') :
    Accounts held (first ++ second) held' := by
  induction first generalizing held with
  | nil =>
    cases h
    exact h'
  | cons e rest ih => exact ⟨h.1, ih h.2⟩

theorem next_of_acquired {held : List Descriptor} {fd : Descriptor} {e : Entry}
    (h : e.acquired? = some fd) : next held e = fd :: held := by
  simp only [next, h]

theorem next_of_givenUp {held : List Descriptor} {fd : Descriptor} {e : Entry}
    (acquired : e.acquired? = none) (h : e.givenUp? = some fd) : next held e = held.erase fd := by
  simp only [next, acquired, h]

theorem next_of_kept {held : List Descriptor} {e : Entry} (acquired : e.acquired? = none)
    (h : e.givenUp? = none) : next held e = held := by
  simp only [next, acquired, h]

/-- What is held after an entry was taken on by it or was held before. -/
theorem mem_of_mem_next {held : List Descriptor} {fd : Descriptor} {e : Entry}
    (h : fd ∈ next held e) : e.acquired? = some fd ∨ fd ∈ held := by
  unfold next at h
  split at h
  · rename_i g _ hg
    rcases List.mem_cons.mp h with rfl | hmem
    · exact .inl hg
    · exact .inr hmem
  · exact .inr (List.mem_of_mem_erase h)
  · exact .inr h

/-- What an entry closes is not held after it. -/
theorem not_mem_next_of_closed {held : List Descriptor} {fd : Descriptor} {e : Entry}
    (hnodup : held.Nodup) (h : e.closed? = some fd) : fd ∉ next held e := by
  cases e.turn with
  | closes g _ acquired closed _ =>
    rw [h] at closed
    cases closed
    have hgone : e.givenUp? = some fd := by rw [Entry.givenUp?, h, Option.some_or]
    rw [next_of_givenUp acquired hgone]
    exact hnodup.not_mem_erase
  | takes _ _ closed _ | releases _ _ _ closed _ | keeps _ closed _ =>
    rw [h] at closed
    cases closed

theorem next_of_stays {held : List Descriptor} {fd : Descriptor} {e : Entry} (h : e.Stays fd) :
    next held e = held := by
  refine next_of_kept h.acquired ?_
  rw [Entry.givenUp?, h.closed, h.released, Option.or_none]

theorem accounts_of_stays {held : List Descriptor} {fd : Descriptor} (hfd : fd ∈ held)
    {entries : List Entry} (h : ∀ e ∈ entries, e.Stays fd) : Accounts held entries held := by
  induction entries with
  | nil => rfl
  | cons e rest ih =>
    obtain ⟨he, hrest⟩ := List.forall_mem_cons.mp h
    refine ⟨fun g hg => he.used g hg ▸ hfd, ?_⟩
    rw [next_of_stays he]
    exact ih hrest

/-! ## The list is right about the trace -/

/-- Everywhere in the trace: what is acted on is owned, and what is taken on is not. -/
def Proper (trace : List Entry) : Prop :=
  ∀ before e after, trace = before ++ e :: after →
    (∀ fd, e.used? = some fd → Owns fd before) ∧ ∀ fd, e.acquired? = some fd → ¬ Owns fd before

/-- The list of what is held is right about the trace. -/
structure Balanced (trace : List Entry) (held : List Descriptor) : Prop where
  nodup : held.Nodup
  owns : ∀ fd, fd ∈ held ↔ Owns fd trace
  outstanding : ∀ fd, Outstanding fd trace ↔ fd ∈ held ∨ HandedOut fd trace
  exclusive : ∀ fd ∈ held, ¬ HandedOut fd trace
  balance : ∀ fd, times Entry.acquired? fd trace =
    times Entry.closed? fd trace + times Entry.released? fd trace + held.count fd
  proper : Proper trace

theorem proper_concat {trace : List Entry} {e : Entry} (h : Proper trace)
    (hused : ∀ fd, e.used? = some fd → Owns fd trace)
    (hnew : ∀ fd, e.acquired? = some fd → ¬ Owns fd trace) : Proper (trace ++ [e]) := by
  intro before x after hsplit
  rcases List.eq_nil_or_concat after with rfl | ⟨front, last, rfl⟩
  · obtain ⟨rfl, hx⟩ := List.append_inj' hsplit rfl
    cases hx
    exact ⟨hused, hnew⟩
  · rw [List.concat_eq_append, ← List.cons_append, ← List.append_assoc] at hsplit
    obtain ⟨ht, -⟩ := List.append_inj' hsplit rfl
    exact h before x front ht

theorem balanced_nil : Balanced [] [] where
  nodup := List.nodup_nil
  owns fd := by simp [Owns, not_since_nil]
  outstanding fd := by simp [Outstanding, HandedOut, not_since_nil]
  exclusive fd hfd := by simp at hfd
  balance fd := rfl
  proper before e after h := by simp at h

/-- Taking a descriptor on. -/
theorem Balanced.take {trace : List Entry} {held : List Descriptor} {e : Entry} {g : Descriptor}
    (h : Balanced trace held) (hproper : Proper (trace ++ [e])) (hg : g ∉ held)
    (acquired : e.acquired? = some g) (closed : e.closed? = none) (released : e.released? = none) :
    Balanced (trace ++ [e]) (g :: held) where
  nodup := List.nodup_cons.mpr ⟨hg, h.nodup⟩
  owns fd := by
    rw [owns_concat, ← h.owns, List.mem_cons, acquired, closed, released]
    grind
  outstanding fd := by
    rw [outstanding_concat, handedOut_concat, h.outstanding, List.mem_cons, acquired, closed,
      released]
    grind
  exclusive fd hfd := by
    have hold : fd ∈ held → ¬ HandedOut fd trace := h.exclusive fd
    rw [handedOut_concat, acquired, released]
    grind
  balance fd := by
    rw [times_concat, times_concat, times_concat, h.balance, acquired, closed, released,
      List.count_cons]
    grind
  proper := hproper

/-- Passing a descriptor to `close`. -/
theorem Balanced.close {trace : List Entry} {held : List Descriptor} {e : Entry} {g : Descriptor}
    (h : Balanced trace held) (hproper : Proper (trace ++ [e])) (hg : g ∈ held)
    (acquired : e.acquired? = none) (closed : e.closed? = some g) (released : e.released? = none) :
    Balanced (trace ++ [e]) (held.erase g) where
  nodup := h.nodup.erase g
  owns fd := by
    rw [owns_concat, ← h.owns, h.nodup.mem_erase_iff, acquired, closed, released]
    grind
  outstanding fd := by
    -- the closed descriptor was held, so it was not handed out either
    have hgone : ¬ HandedOut g trace := h.exclusive g hg
    rw [outstanding_concat, handedOut_concat, h.outstanding, h.nodup.mem_erase_iff, acquired,
      closed, released]
    grind
  exclusive fd hfd := by
    have hold : ¬ HandedOut fd trace := h.exclusive fd (List.mem_of_mem_erase hfd)
    rw [handedOut_concat, acquired, released]
    grind
  balance fd := by
    have hcount : 0 < held.count g := List.count_pos_iff.mpr hg
    rw [times_concat, times_concat, times_concat, h.balance, acquired, closed, released,
      List.count_erase]
    grind
  proper := hproper

/-- Giving a descriptor away. -/
theorem Balanced.release {trace : List Entry} {held : List Descriptor} {e : Entry}
    {g : Descriptor} (h : Balanced trace held) (hproper : Proper (trace ++ [e])) (hg : g ∈ held)
    (acquired : e.acquired? = none) (closed : e.closed? = none) (released : e.released? = some g) :
    Balanced (trace ++ [e]) (held.erase g) where
  nodup := h.nodup.erase g
  owns fd := by
    rw [owns_concat, ← h.owns, h.nodup.mem_erase_iff, acquired, closed, released]
    grind
  outstanding fd := by
    rw [outstanding_concat, handedOut_concat, h.outstanding, h.nodup.mem_erase_iff, acquired,
      closed, released]
    grind
  exclusive fd hfd := by
    obtain ⟨hne, hmem⟩ := h.nodup.mem_erase_iff.mp hfd
    have hold : ¬ HandedOut fd trace := h.exclusive fd hmem
    rw [handedOut_concat, acquired, released]
    grind
  balance fd := by
    have hcount : 0 < held.count g := List.count_pos_iff.mpr hg
    rw [times_concat, times_concat, times_concat, h.balance, acquired, closed, released,
      List.count_erase]
    grind
  proper := hproper

/-- An entry that neither takes on nor gives up. -/
theorem Balanced.keep {trace : List Entry} {held : List Descriptor} {e : Entry}
    (h : Balanced trace held) (hproper : Proper (trace ++ [e])) (acquired : e.acquired? = none)
    (closed : e.closed? = none) (released : e.released? = none) :
    Balanced (trace ++ [e]) held where
  nodup := h.nodup
  owns fd := by
    rw [owns_concat, ← h.owns, acquired, closed, released]
    simp
  outstanding fd := by
    rw [outstanding_concat, handedOut_concat, h.outstanding, acquired, closed, released]
    simp
  exclusive fd hfd := by
    have hold : ¬ HandedOut fd trace := h.exclusive fd hfd
    rw [handedOut_concat, acquired, released]
    simpa using hold
  balance fd := by
    rw [times_concat, times_concat, times_concat, h.balance, acquired, closed, released]
    simp
  proper := hproper

/-- An entry that acts on what is held, and takes on only what is not, keeps the list right. -/
theorem Balanced.next {trace : List Entry} {held : List Descriptor} {e : Entry}
    (h : Balanced trace held) (hused : ∀ fd, e.used? = some fd → fd ∈ held)
    (hnew : ∀ fd, e.acquired? = some fd → fd ∉ held) :
    Balanced (trace ++ [e]) (Ledger.next held e) := by
  have hproper : Proper (trace ++ [e]) :=
    proper_concat h.proper (fun fd hfd => (h.owns fd).mp (hused fd hfd))
      fun fd hfd hown => hnew fd hfd ((h.owns fd).mpr hown)
  cases e.turn with
  | takes g acquired closed released =>
    rw [next_of_acquired acquired]
    exact h.take hproper (hnew g acquired) acquired closed released
  | closes g used acquired closed released =>
    have hgone : e.givenUp? = some g := by rw [Entry.givenUp?, closed, Option.some_or]
    rw [next_of_givenUp acquired hgone]
    exact h.close hproper (hused g used) acquired closed released
  | releases g used acquired closed released =>
    have hgone : e.givenUp? = some g := by rw [Entry.givenUp?, closed, released, Option.none_or]
    rw [next_of_givenUp acquired hgone]
    exact h.release hproper (hused g used) acquired closed released
  | keeps acquired closed released =>
    have hkept : e.givenUp? = none := by rw [Entry.givenUp?, closed, released, Option.or_none]
    rw [next_of_kept acquired hkept]
    exact h.keep hproper acquired closed released

/-! ## What is held is open -/

/-- Every descriptor that is held is open. -/
def Covered (t : DescriptorTable) (held : List Descriptor) : Prop := ∀ fd ∈ held, t fd ≠ none

/-- What an entry may count on: a made descriptor was not open, an adopted one was open and not
held, and what happens elsewhere concerns a descriptor that is not held. -/
def Fair (t : DescriptorTable) (held : List Descriptor) : Entry → Prop
  | .event e => DescriptorTable.OpensUnused t e
  | .adopted fd => t fd ≠ none ∧ fd ∉ held
  | .elsewhere fd _ => fd ∉ held
  | .released _ => True

/-- Entries that are fair, each at its moment. -/
def AllFair : DescriptorTable → List Descriptor → List Entry → Prop
  | _, _, [] => True
  | t, held, e :: rest => Fair t held e ∧ AllFair (t.next e) (next held e) rest

theorem allFair_events {t : DescriptorTable} {held : List Descriptor} {events : List Event}
    (h : t.Follows DescriptorTable.OpensUnused (events.map .event)) :
    AllFair t held (events.map .event) := by
  induction events generalizing t held with
  | nil => trivial
  | cons e rest ih => exact ⟨h.1, ih h.2⟩

/-- A descriptor that is fairly taken on is not held. -/
theorem Covered.fresh {t : DescriptorTable} {held : List Descriptor} {e : Entry}
    (h : Covered t held) (hfair : Fair t held e) (fd : Descriptor)
    (hfd : e.acquired? = some fd) : fd ∉ held := by
  rcases e with e | g | g | ⟨g, status⟩
  · intro hmem
    exact h fd hmem (hfair fd hfd)
  · cases hfd
    exact hfair.2
  · cases hfd
  · cases hfd

/-- A fair entry leaves what is held open. -/
theorem Covered.next {t : DescriptorTable} {held : List Descriptor} {e : Entry}
    (h : Covered t held) (hnodup : held.Nodup) (hfair : Fair t held e) :
    Covered (t.next e) (Ledger.next held e) := by
  intro fd hfd
  rcases e with e | g | g | ⟨g, status⟩
  · have hkept : (Entry.event e).closed? ≠ some fd := fun hclosed =>
      not_mem_next_of_closed hnodup hclosed hfd
    exact DescriptorTable.open_after ((mem_of_mem_next hfd).imp_right (h fd)) hkept
  · rcases List.mem_cons.mp hfd with rfl | hmem
    · exact hfair.1
    · exact h fd hmem
  · exact h fd (List.mem_of_mem_erase hfd)
  · have hne : fd ≠ g := fun hg => hfair (hg ▸ hfd)
    have hsame : t.next (.elsewhere g status) fd = t fd := Function.update_of_ne hne _ _
    rw [hsame]
    exact h fd hfd

/-- **Fair entries that act on what is held keep the ledger balanced and what is held open.** -/
theorem balanced_after {trace : List Entry} {held held' : List Descriptor} {t : DescriptorTable}
    {entries : List Entry} (h : Balanced trace held) (hcov : Covered t held)
    (hfair : AllFair t held entries) (hacc : Accounts held entries held') :
    Balanced (trace ++ entries) held' ∧ Covered (t.after entries) held' := by
  -- each entry is judged by the table and the list that the entries before it left behind
  induction entries generalizing trace held t with
  | nil =>
    cases hacc
    rw [List.append_nil]
    exact ⟨h, hcov⟩
  | cons e rest ih =>
    obtain ⟨hused, hrest⟩ := hacc
    have hb := h.next hused (hcov.fresh hfair.1)
    have hc := hcov.next h.nodup hfair.1
    have := ih hb hc hfair.2 hrest
    rw [List.append_assoc] at this
    exact this

/-! ## What is not held is left alone -/

/-- Events that act on held descriptors only do not touch an open one that is not held. -/
theorem untouched_of_accounts {t : DescriptorTable} {held held' : List Descriptor}
    {events : List Event} {fd : Descriptor} (hacc : Accounts held (booked events) held')
    (hfollows : t.Follows DescriptorTable.OpensUnused (booked events)) (hfd : fd ∉ held)
    (hopen : t fd ≠ none) : ∀ e ∈ events, ¬ e.Touches fd := by
  -- what is held may grow on the way, but only by numbers that were free
  induction events generalizing t held with
  | nil => simp
  | cons e rest ih =>
    obtain ⟨hused, hrest⟩ := hacc
    have hnew : e.obtained? ≠ some fd := fun h => hopen (hfollows.1 fd h)
    have huntouched : ¬ e.Touches fd := not_or.mpr ⟨hnew, fun h => hfd (hused fd h)⟩
    have hheld : fd ∉ next held (.event e) := fun h => (mem_of_mem_next h).elim hnew hfd
    have hstays : t.afterEvent e fd ≠ none := by
      rw [DescriptorTable.afterEvent_frame huntouched]
      exact hopen
    exact List.forall_mem_cons.mpr ⟨huntouched, ih hrest hfollows.2 hheld hstays⟩

end Ledger
end SocketLayer
