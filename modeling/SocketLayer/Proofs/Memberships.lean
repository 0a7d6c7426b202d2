import Mathlib.Data.Finset.Basic
import SocketLayer.AddressSource
import SocketLayer.Proofs.DescriptorState
import SocketLayer.Proofs.OptionRegisters

/-!
# Group memberships follow what callers are told

A kernel keeps, for each descriptor, the groups that were joined, each with the interface it was
joined on. Of this set nothing is kept on the side of the handle, but a caller who writes down the
joins and leaves that were told to have worked has the same set, for any number of handles and
whatever else is done with them.

* `MembershipRequest` — a join or a leave, and what it makes of a set of memberships.
* `memberships` — a kernel that keeps the sets.
* `perform_membership` — a join or a leave makes its one call and tells whether it worked; nothing
  else makes such a call.
* `replayed`, `MembershipStep` — one command, as it is told and as the kernel takes it.
* `foldl_replayed_withMember`, `leave_undoes` — what is told meanwhile goes on beside a membership
  that nobody leaves, until it is left.
* `World.memberships_replayed` — all this in every run over a kernel that keeps the sets.
-/

set_option autoImplicit false

namespace SocketLayer

/-! ## Sets of memberships -/

/-- A group that a socket belongs to, on one of the machine's interfaces. -/
structure Membership where
  group : Octets
  interface : Octets
  deriving DecidableEq, Repr

/-- The membership that a caller means. -/
def Membership.of (interface group : Ipv4) : Membership := ⟨group.octets, interface.octets⟩

/-- The octets that an argument stands for. -/
def IpArgument.sent : IpArgument → Octets
  | .octets o => o
  | .number value => Ipv4.octets ⟨value⟩

theorem IpArgument.octets_toIpv4 (a : IpArgument) : a.toIpv4.octets = a.sent := by
  cases a with
  | octets o => exact Ipv4.octets_ofOctets o
  | number value => rfl

/-- A request to join or to leave. -/
structure MembershipRequest where
  change : MembershipChange
  membership : Membership
  deriving DecidableEq, Repr

namespace MembershipRequest

/-- What a request that works makes of a set of memberships. -/
def apply (r : MembershipRequest) (x : Finset Membership) : Finset Membership :=
  match r.change with
  | .join => insert r.membership x
  | .leave => x.erase r.membership

/-- The request is to join what is absent, or to leave what is present. -/
def Alters (r : MembershipRequest) (x : Finset Membership) : Prop :=
  match r.change with
  | .join => r.membership ∉ x
  | .leave => r.membership ∈ x

instance (r : MembershipRequest) : DecidablePred r.Alters := fun x =>
  match r with
  | ⟨.join, m⟩ => inferInstanceAs (Decidable (m ∉ x))
  | ⟨.leave, m⟩ => inferInstanceAs (Decidable (m ∈ x))

theorem apply_ne_iff (r : MembershipRequest) (x : Finset Membership) :
    r.apply x ≠ x ↔ r.Alters x := by
  obtain ⟨change, m⟩ := r
  cases change with
  | join => exact Finset.insert_ne_self
  | leave => exact Finset.erase_ne_self

/-- Requests about different memberships do not meet. -/
theorem apply_insert {r : MembershipRequest} {m : Membership} (h : r.membership ≠ m)
    (x : Finset Membership) : r.apply (insert m x) = insert m (r.apply x) := by
  obtain ⟨change, m'⟩ := r
  cases change with
  | join => exact Finset.insert_comm m' m x
  | leave => exact Finset.erase_insert_of_ne h.symm

theorem mem_apply {r : MembershipRequest} {m : Membership} (h : r.membership ≠ m)
    {x : Finset Membership} : m ∈ r.apply x ↔ m ∈ x := by
  obtain ⟨change, m'⟩ := r
  cases change with
  | join => exact Finset.mem_insert.trans (or_iff_right h.symm)
  | leave => exact Finset.mem_erase.trans (and_iff_right h.symm)

end MembershipRequest

/-! ## A kernel that keeps them -/

/-- The request that an event makes, and whether it worked. -/
def Event.membership? : Event → Option (MembershipRequest × Bool)
  | .called (.changeMembership _ change group interface) reply =>
    some (⟨change, ⟨group, interface⟩⟩, reply.toBool)
  | _ => none

/-- How a kernel may take a request: it works only if it alters the set, and a leave always if it
does. A join may fail for other reasons. -/
def MembershipRequest.Admits (x : Finset Membership) (r : MembershipRequest) (worked : Bool) :
    Prop :=
  (worked = true → r.Alters x) ∧ (r.change = .leave → r.Alters x → worked = true)

/-- The memberships of each descriptor, none to begin with. -/
def memberships : Upkeep (Finset Membership) where
  fresh _ := ∅
  accepted := ∅
  next x e :=
    if e.closed?.isSome then ∅
    else match e.membership? with
      | some (r, true) => r.apply x
      | _ => x
  Fits x e := ∀ r ∈ e.membership?, r.1.Admits x r.2

instance (x : Finset Membership) : DecidablePred (memberships.Fits x) := fun e =>
  inferInstanceAs (Decidable (∀ r ∈ e.membership?, (r.2 = true → r.1.Alters x) ∧
    (r.1.change = .leave → r.1.Alters x → r.2 = true)))

/-- The memberships of all descriptors. -/
abbrev MembershipTable : Type := Descriptor → Finset Membership

section Kernel

variable {t : MembershipTable} {events : List Event} {fd : Descriptor}

theorem memberships_started (e : Event) : memberships.started e = ∅ := by
  unfold Upkeep.started
  split <;> rfl

/-- A request on a socket alters the set of that socket, if it works. -/
theorem memberships_next (r : MembershipRequest)
    (reply : Reply (.changeMembership fd r.change r.membership.group r.membership.interface)) :
    memberships.model.next t (.called _ reply) =
      if reply.toBool = true then Function.update t fd (r.apply (t fd)) else t := by
  funext g
  show memberships.nextAt g (t g) (.called _ reply) = _
  have hobtained : (Event.called _ reply).obtained? ≠ some g := nofun
  have hsubject : (Event.called _ reply).subject? = some fd := rfl
  rw [Upkeep.nextAt, if_neg hobtained, hsubject]
  rcases reply with e | ⟨⟩
  · exact ite_self _
  · show _ = Function.update t fd (r.apply (t fd)) g
    by_cases hg : fd = g
    · subst hg
      rw [if_pos rfl, Function.update_self]
      rfl
    · rw [if_neg fun h => hg (Option.some.inj h), Function.update_of_ne fun h => hg h.symm]

/-- Log records change no memberships. -/
theorem memberships_after_logged (h : calls events = []) :
    memberships.model.after t events = t := by
  have hnone : ∀ e ∈ events, e.call? = none := List.filterMap_eq_nil_iff.mp h
  funext g
  refine Upkeep.after_untouched fun e he htouches => ?_
  cases e with
  | called c reply => cases hnone _ he
  | logged entry => rcases htouches with h | h <;> cases h

/-- An event that makes no request changes a set only if its number is made or closed. -/
theorem memberships_next_other {e : Event} (h : e.membership? = none) (g : Descriptor) :
    memberships.model.next t e g = if e.Reassigns g then ∅ else t g := by
  show memberships.nextAt g (t g) e = _
  unfold Upkeep.nextAt
  by_cases hmade : e.obtained? = some g
  · have hnew : e.Reassigns g := .inl hmade
    rw [if_pos hmade, if_pos hnew, memberships_started]
  by_cases hclosed : e.closed? = some g
  · have hnew : e.Reassigns g := .inr hclosed
    rw [if_neg hmade, if_pos (Event.closed_is_subject hclosed), if_pos hnew]
    exact if_pos (Option.isSome_iff_exists.mpr ⟨g, hclosed⟩)
  have hsame : ¬ e.Reassigns g := not_or.mpr ⟨hmade, hclosed⟩
  rw [if_neg hmade, if_neg hsame]
  split
  · rename_i hsubject
    have hopen : e.closed? = none := by
      refine Option.eq_none_iff_forall_ne_some.mpr fun g' hg' => hclosed ?_
      rw [hg', ← Event.closed_is_subject hg', hsubject]
    show (if e.closed?.isSome = true then ∅ else _) = t g
    simp only [hopen, h, Option.isSome_none, Bool.false_eq_true, if_false]
  · rfl

/-- Without requests a set changes only where its number is made or closed, and then it is empty. -/
theorem memberships_after_others (h : ∀ e ∈ events, e.membership? = none) :
    memberships.model.after t events =
      fun g => if ∃ e ∈ events, e.Reassigns g then ∅ else t g := by
  induction events generalizing t with
  | nil => exact funext fun g => (if_neg (by simp)).symm
  | cons e rest ih =>
    obtain ⟨he, hrest⟩ := List.forall_mem_cons.mp h
    rw [Upkeep.after_cons, ih hrest]
    funext g
    simp only [List.exists_mem_cons_iff, memberships_next_other he]
    by_cases hlater : ∃ e ∈ rest, e.Reassigns g
    · rw [if_pos hlater, if_pos (.inr hlater)]
    · simp only [hlater, or_false, if_false]

end Kernel

/-! ## What an operation tells -/

/-- A request on a socket, and whether its caller was told that it worked. -/
structure MembershipReport where
  socket : Descriptor
  request : MembershipRequest
  worked : Bool
  deriving DecidableEq, Repr

/-- Whether a call is a request about memberships. -/
def SystemCall.isMembership : SystemCall → Bool
  | .changeMembership .. => true
  | _ => false

theorem Event.membership?_eq_none {events : List Event}
    (h : AllCalls (·.isMembership = false) events) : ∀ e ∈ events, e.membership? = none := by
  intro e he
  cases e with
  | logged entry => rfl
  | called c reply =>
    have hc := h _ he c rfl
    cases c with
    | changeMembership => cases hc
    | _ => rfl

namespace Socket

open Program

/-- What the result of an operation tells of memberships. -/
def membershipReport? (s : Socket) :
    (operation : Operation) → operation.Result → Option MembershipReport
  | .joinMulticast interface group, worked =>
    some ⟨s.descriptor, ⟨.join, .of interface group⟩, worked⟩
  | .leaveMulticast interface group, worked =>
    some ⟨s.descriptor, ⟨.leave, .of interface group⟩, worked⟩
  | _, _ => none

/-- What is told of memberships agrees with the calls made: a request is one call, and worked if it
was answered without an error; where nothing is told there was no request. -/
def MembershipAgrees : Option MembershipReport → List Event → Prop
  | some r, events =>
    ∃ (reply : Reply (.changeMembership r.socket r.request.change r.request.membership.group
        r.request.membership.interface)) (rest : List Event),
      events = .called _ reply :: rest ∧ calls rest = [] ∧ r.worked = reply.toBool
  | none, events => ∀ e ∈ events, e.membership? = none

theorem changeMembership_agrees (s : Socket) (change : MembershipChange) (interface group : Ipv4) :
    (s.changeMembership change interface group).Ensures fun events worked =>
      MembershipAgrees (some ⟨s.descriptor, ⟨change, .of interface group⟩, worked⟩) events := by
  rintro (e | ⟨⟩)
  · exact ⟨.error e, _, rfl, rfl, rfl⟩
  · exact ⟨.ok (), _, rfl, rfl, rfl⟩

/-- Every operation but a join or a leave asks for no change of membership. -/
theorem issues_no_membership {s : Socket} {operation : Operation} {c : SystemCall}
    (h : operation.Issues s c) (hop : ∀ result, s.membershipReport? operation result = none) :
    c.isMembership = false := by
  cases operation with
  | joinMulticast _ _ | leaveMulticast _ _ => cases hop true
  | configureNonBlocking => obtain rfl | ⟨flags, rfl⟩ := h <;> rfl
  | receive _ | peek _ =>
    obtain ⟨-, rfl⟩ := h
    rfl
  | apply profile =>
    have hwants := OptionProfile.wants_of_mem_plan h
    generalize s.transport = transport at hwants
    cases hwants <;> rfl
  | _ =>
    cases h
    rfl

/-- **What an operation tells of memberships agrees with its calls.** -/
theorem perform_membership (s : Socket) (operation : Operation) :
    (s.perform operation).Ensures fun events r =>
      MembershipAgrees (s.membershipReport? operation r.1) events := by
  have others (hop : ∀ result, s.membershipReport? operation result = none) :
      (s.perform operation).Ensures fun events r =>
        MembershipAgrees (s.membershipReport? operation r.1) events := by
    refine (perform_issues s operation).mono fun events r hissues => ?_
    rw [hop]
    exact Event.membership?_eq_none fun e he c hc => issues_no_membership (hissues e he c hc) hop
  cases operation with
  | joinMulticast interface group | leaveMulticast interface group =>
    exact keeping_runs (changeMembership_agrees s _ interface group)
  | _ => exact others fun _ => rfl

end Socket

/-- What a report tells of memberships. -/
def Report.membership? : Report → Option MembershipReport
  | .performed s operation result => s.membershipReport? operation result
  | _ => none

/-! ## One command -/

/-- The memberships that a caller writes down who follows what each command tells: a request that
worked has its effect, and where a number is made or closed nothing is left. -/
def replayed (t : MembershipTable) (o : Observation) : MembershipTable :=
  match o.report.membership? with
  | some ⟨fd, request, true⟩ => Function.update t fd (request.apply (t fd))
  | some ⟨_, _, false⟩ => t
  | none => fun fd => if ∃ e ∈ o.events, e.Reassigns fd then ∅ else t fd

/-- One command, as it is told and as the kernel takes it.

* `after` — what is told leads to the kernel's sets.
* `changed` — a request is told to have worked exactly if it changed them.
* `refused` — a join of what is present and a leave of what is absent are told to have failed.
* `left` — a leave of what is present is told to have worked.
* `unchanged` — a request that failed, a multicast setting and any other operation that leaves the
  handle as it is change no set of any socket. -/
structure MembershipStep (t : MembershipTable) (o : Observation) : Prop where
  after : memberships.model.after t o.events = replayed t o
  changed : ∀ r, o.report.membership? = some r →
    (r.worked = true ↔ memberships.model.after t o.events ≠ t)
  refused : ∀ r, o.report.membership? = some r → ¬ r.request.Alters (t r.socket) →
    r.worked = false
  left : ∀ r, o.report.membership? = some r → r.request.change = .leave →
    r.request.Alters (t r.socket) → r.worked = true
  unchanged : ∀ s operation result, o.report = .performed s operation result →
    operation.isPlain = true → (∀ r, o.report.membership? = some r → r.worked = false) →
    memberships.model.after t o.events = t

/-- What a command tells agrees with its calls, as far as memberships go. -/
structure Observation.TellsMembership (o : Observation) : Prop where
  agrees : Socket.MembershipAgrees o.report.membership? o.events
  issued : AllCalls o.report.Issues o.events

section Command

variable {t : MembershipTable} {o : Observation}

/-- The kernel admits a request that it answers. -/
theorem admits_of_follows {r : MembershipReport} (h : o.TellsMembership)
    (hr : o.report.membership? = some r) (hf : memberships.model.Follows t o.events) :
    r.request.Admits (t r.socket) r.worked := by
  have hagrees := h.agrees
  rw [hr] at hagrees
  obtain ⟨reply, rest, hevents, -, hworked⟩ := hagrees
  rw [hevents] at hf
  rw [hworked]
  exact hf.1 r.socket rfl _ rfl

/-- What is told of a command leads to the kernel's sets. -/
theorem after_eq_replayed (h : o.TellsMembership) :
    memberships.model.after t o.events = replayed t o := by
  have hagrees := h.agrees
  unfold replayed
  cases hr : o.report.membership? with
  | none =>
    rw [hr] at hagrees
    exact memberships_after_others hagrees
  | some r =>
    rw [hr] at hagrees
    obtain ⟨reply, rest, hevents, hrest, hworked⟩ := hagrees
    obtain ⟨fd, request, worked⟩ := r
    rw [hevents, Upkeep.after_cons, memberships_after_logged hrest, memberships_next, ← hworked]
    cases worked <;> rfl

theorem membershipStep (h : o.TellsMembership) (hf : memberships.model.Follows t o.events) :
    MembershipStep t o := by
  have hafter := after_eq_replayed (t := t) h
  refine ⟨hafter, fun r hr => ?changed, fun r hr hsame => ?refused, fun r hr => ?left,
    fun s operation result hreport hplain hfailed => ?unchanged⟩
  case changed =>
    have hadmits := admits_of_follows h hr hf
    rw [hafter, replayed, hr]
    obtain ⟨fd, request, worked⟩ := r
    cases worked with
    | false => simp
    | true =>
      have halters := (request.apply_ne_iff (t fd)).mpr (hadmits.1 rfl)
      simpa using halters
  case refused =>
    exact Bool.eq_false_iff.mpr (mt (admits_of_follows h hr hf).1 hsame)
  case left => exact (admits_of_follows h hr hf).2
  case unchanged =>
    rw [hafter, replayed]
    cases hr : o.report.membership? with
    | some r =>
      obtain ⟨fd, request, worked⟩ := r
      obtain rfl : worked = false := hfailed _ hr
      rfl
    | none =>
      funext fd
      have hissued := h.issued
      rw [hreport] at hissued
      have hsame : ¬ ∃ e ∈ o.events, e.Reassigns fd := by
        rintro ⟨e, he, hnew⟩
        cases e with
        | called c reply =>
          have hcall := ((hissued _ he c rfl).plainOn hplain).plain
          exact Event.not_reassigns_of_plain hcall fd hnew
        | logged entry => rcases hnew with h | h <;> cases h
      exact if_neg hsame

/-- The replies to a command agree with the sets that it meets. -/
theorem follows_at {τ : Type} {m : KernelModel τ} {x : τ} {before after : List Observation}
    (h : m.Follows x (shown (before ++ o :: after))) :
    m.Follows (m.after x (shown before)) o.events := by
  rw [shown_append, KernelModel.follows_append] at h
  exact (KernelModel.follows_append.mp h.2).1

end Command

/-! ## Many commands -/

/-- What is told of several commands leads to the kernel's sets. -/
theorem after_shown_eq_replayed {seen : List Observation} (h : ∀ o ∈ seen, o.TellsMembership)
    (t : MembershipTable) :
    memberships.model.after t (shown seen) = seen.foldl replayed t := by
  induction seen generalizing t with
  | nil => rfl
  | cons o rest ih =>
    obtain ⟨ho, hrest⟩ := List.forall_mem_cons.mp h
    show memberships.model.after t (o.events ++ shown rest) = rest.foldl replayed (replayed t o)
    rw [KernelModel.after_append, after_eq_replayed ho, ih hrest]

/-- A command makes or closes a number, or a request about a membership of its socket worked. -/
def Observation.Disturbs (fd : Descriptor) (m : Membership) (o : Observation) : Prop :=
  (∃ e ∈ o.events, e.Reassigns fd) ∨
    ∃ change, o.report.membership? = some ⟨fd, ⟨change, m⟩, true⟩

/-- The sets with one membership more. -/
def withMember (fd : Descriptor) (m : Membership) (t : MembershipTable) : MembershipTable :=
  Function.update t fd (insert m (t fd))

section WithMember

variable {t : MembershipTable} {fd : Descriptor} {m : Membership}

theorem withMember_self (t : MembershipTable) : withMember fd m t fd = insert m (t fd) :=
  Function.update_self ..

theorem withMember_of_ne {g : Descriptor} (h : g ≠ fd) : withMember fd m t g = t g :=
  Function.update_of_ne h ..

/-- A command that does not disturb a membership goes on beside it. -/
theorem replayed_withMember {o : Observation} (h : ¬ o.Disturbs fd m) (hm : m ∉ t fd) :
    replayed (withMember fd m t) o = withMember fd m (replayed t o) ∧ m ∉ replayed t o fd := by
  obtain ⟨hnew, hown⟩ := not_or.mp h
  unfold replayed
  cases hr : o.report.membership? with
  | none =>
    refine ⟨funext fun g => ?_, by simpa only [hnew, if_false] using hm⟩
    by_cases hg : g = fd
    · subst hg
      simp only [withMember_self, hnew, if_false]
    · simp only [withMember_of_ne hg]
  | some r =>
    obtain ⟨fd', request, worked⟩ := r
    cases worked with
    | false => exact ⟨rfl, hm⟩
    | true =>
      by_cases hfd : fd' = fd
      · subst hfd
        have hother : request.membership ≠ m := fun hsame => hown ⟨request.change, by
          rw [hr, ← hsame]⟩
        refine ⟨?_, ?_⟩
        · show Function.update (withMember fd' m t) fd' (request.apply (withMember fd' m t fd')) =
            Function.update (Function.update t fd' (request.apply (t fd'))) fd'
              (insert m (Function.update t fd' (request.apply (t fd')) fd'))
          rw [withMember_self, request.apply_insert hother, withMember, Function.update_idem,
            Function.update_idem, Function.update_self]
        · show m ∉ Function.update t fd' (request.apply (t fd')) fd'
          rw [Function.update_self, request.mem_apply hother]
          exact hm
      · have hfd' : fd ≠ fd' := fun h => hfd h.symm
        refine ⟨?_, ?_⟩
        · show Function.update (withMember fd m t) fd' (request.apply (withMember fd m t fd')) =
            Function.update (Function.update t fd' (request.apply (t fd'))) fd
              (insert m (Function.update t fd' (request.apply (t fd')) fd))
          rw [withMember_of_ne hfd, withMember, Function.update_comm hfd',
            Function.update_of_ne hfd']
        · show m ∉ Function.update t fd' (request.apply (t fd')) fd
          rw [Function.update_of_ne hfd']
          exact hm

/-- **What is told meanwhile goes on beside a membership that nobody disturbs.** -/
theorem foldl_replayed_withMember {seen : List Observation} (h : ∀ o ∈ seen, ¬ o.Disturbs fd m)
    (hm : m ∉ t fd) :
    seen.foldl replayed (withMember fd m t) = withMember fd m (seen.foldl replayed t) ∧
      m ∉ seen.foldl replayed t fd := by
  induction seen generalizing t with
  | nil => exact ⟨rfl, hm⟩
  | cons o rest ih =>
    obtain ⟨ho, hrest⟩ := List.forall_mem_cons.mp h
    obtain ⟨hstep, hstill⟩ := replayed_withMember ho hm
    rw [List.foldl_cons, List.foldl_cons, hstep]
    exact ih hrest hstill

/-- Leaving what was joined takes the sets back. -/
theorem leave_withMember (hm : m ∉ t fd) :
    Function.update (withMember fd m t) fd ((withMember fd m t fd).erase m) = t := by
  rw [withMember_self, Finset.erase_insert hm, withMember, Function.update_idem,
    Function.update_eq_self]

/-- **A leave undoes a join that nothing disturbed meanwhile, and nothing else.** -/
theorem leave_undoes {joined left : Observation} {mid : List Observation} {worked : Bool}
    (htells : ∀ o ∈ joined :: (mid ++ [left]), o.TellsMembership)
    (h : memberships.model.Follows t (shown (joined :: (mid ++ [left]))))
    (hjoined : joined.report.membership? = some ⟨fd, ⟨.join, m⟩, true⟩)
    (hmid : ∀ o ∈ mid, ¬ o.Disturbs fd m)
    (hleft : left.report.membership? = some ⟨fd, ⟨.leave, m⟩, worked⟩) :
    worked = true ∧ memberships.model.after t (shown (joined :: (mid ++ [left]))) =
      memberships.model.after t (shown mid) := by
  obtain ⟨hjoins, hrest⟩ := List.forall_mem_cons.mp htells
  obtain ⟨htold, hleaves⟩ := List.forall_mem_append.mp hrest
  have hleave : left.TellsMembership := hleaves left (List.mem_singleton_self left)
  -- the join worked, so what it joined was absent
  have hfirst : memberships.model.Follows t joined.events := (KernelModel.follows_append.mp h).1
  have habsent : m ∉ t fd := (admits_of_follows hjoins hjoined hfirst).1 rfl
  have hjoin : replayed t joined = withMember fd m t := by
    unfold replayed
    rw [hjoined]
    rfl
  obtain ⟨hbeside, hstill⟩ := foldl_replayed_withMember hmid habsent
  have hmeets : memberships.model.after t (shown (joined :: mid)) =
      withMember fd m (mid.foldl replayed t) := by
    rw [after_shown_eq_replayed (List.forall_mem_cons.mpr ⟨hjoins, htold⟩), List.foldl_cons, hjoin,
      hbeside]
  -- it is still there when the leave is asked for, which therefore works
  have hlast : memberships.model.Follows (memberships.model.after t (shown (joined :: mid)))
      left.events := follows_at h
  rw [hmeets] at hlast
  have hpresent : m ∈ withMember fd m (mid.foldl replayed t) fd := by
    rw [withMember_self]
    exact Finset.mem_insert_self _ _
  obtain rfl : worked = true := (admits_of_follows hleave hleft hlast).2 rfl hpresent
  refine ⟨rfl, ?_⟩
  have hend : replayed (withMember fd m (mid.foldl replayed t)) left = mid.foldl replayed t := by
    unfold replayed
    rw [hleft]
    exact leave_withMember hstill
  rw [after_shown_eq_replayed htells, after_shown_eq_replayed htold, List.foldl_cons,
    List.foldl_append, hjoin, hbeside]
  exact hend

end WithMember

/-! ## A kernel that is nothing but the sets -/

/-- The number of calls so far, under which sockets are made, and the sets. -/
structure MembershipKeeper where
  count : Nat
  sets : MembershipTable

namespace MembershipKeeper

/-- The replies of a kernel that takes every request it may take. -/
def reply (x : MembershipKeeper) : (c : SystemCall) → Reply c
  | .socket .. => .ok ⟨x.count⟩
  | .changeMembership fd .join group interface =>
    if (⟨group, interface⟩ : Membership) ∈ x.sets fd then .error .addressInUse else .ok ()
  | .changeMembership fd .leave group interface =>
    if (⟨group, interface⟩ : Membership) ∈ x.sets fd then .ok () else .error .addressUnavailable
  | .getFlags _ => .ok ⟨0⟩
  | .setFlags .. | .setWord .. | .setMulticastInterface .. | .close _ => .ok ()
  | _ => .error .badDescriptor

def kernel : Kernel MembershipKeeper where
  answer x c := (x.reply c, ⟨x.count + 1, memberships.model.next x.sets (.called c (x.reply c))⟩)

end MembershipKeeper

namespace World

variable {σ : Type} {k : Kernel σ} {w : World σ} {t : MembershipTable}

/-- What every command tells of memberships agrees with its calls. -/
theorem observe_membership (k : Kernel σ) (w : World σ) (c : Command) :
    (w.observe k c).TellsMembership := by
  have hsetup {events : List Event} (h : AllCalls SystemCall.IsSetup events) :
      Socket.MembershipAgrees none events :=
    Event.membership?_eq_none fun e he c hc => by
      have := h e he c hc
      cases c <;> first | rfl | cases this
  refine ⟨?_, observe_issues k w c⟩
  exact observe_cases
    (motive := fun report events => Socket.MembershipAgrees report.membership? events) k w c
    (fun h => hsetup h.setup) (fun h => hsetup h.setup) (fun _ => hsetup allCalls_nil)
    Socket.perform_membership (fun _ => hsetup allCalls_nil) (fun h => hsetup h.setup)
    (fun h => hsetup h.setup) (hsetup allCalls_nil)

/-- The memberships of a run, as they are told and as the kernel keeps them.

* `asked_join`, `asked_leave` — a request is about the two addresses that the caller gave, each in
  its place, by its octets or as a host-order number.
* `replay` — the kernel's sets are the replay of what was told to have worked, in order.
* `each` — every command meets the sets of its moment (`MembershipStep`).
* `undone` — a leave of what was joined, with whatever else in between, works, and leaves the sets
  as if there had been no join and no leave. -/
structure ReplaysMemberships (k : Kernel σ) (w : World σ) (t : MembershipTable)
    (commands : List Command) : Prop where
  asked_join : ∀ (w' : World σ) index h (bind group : IpArgument), w'.live[index]? = some h →
    let o := w'.observe k (.perform index (.joinMulticast bind.toIpv4 group.toIpv4))
    ∃ worked, o.report = .performed h.socket (.joinMulticast bind.toIpv4 group.toIpv4) worked ∧
      o.report.membership? =
        some ⟨h.socket.descriptor, ⟨.join, ⟨group.sent, bind.sent⟩⟩, worked⟩
  asked_leave : ∀ (w' : World σ) index h (bind group : IpArgument), w'.live[index]? = some h →
    let o := w'.observe k (.perform index (.leaveMulticast bind.toIpv4 group.toIpv4))
    ∃ worked, o.report = .performed h.socket (.leaveMulticast bind.toIpv4 group.toIpv4) worked ∧
      o.report.membership? =
        some ⟨h.socket.descriptor, ⟨.leave, ⟨group.sent, bind.sent⟩⟩, worked⟩
  replay : memberships.model.after t (shown (w.observed k commands)) =
    (w.observed k commands).foldl replayed t
  each : ∀ past c future, commands = past ++ c :: future →
    MembershipStep (memberships.model.after t (shown (w.observed k past)))
      ((w.run k past).observe k c)
  undone : ∀ before joined mid left after fd m,
    w.observed k commands = before ++ joined :: (mid ++ left :: after) →
    joined.report.membership? = some ⟨fd, ⟨.join, m⟩, true⟩ →
    (∀ o ∈ mid, ¬ o.Disturbs fd m) →
    ∀ worked, left.report.membership? = some ⟨fd, ⟨.leave, m⟩, worked⟩ →
      worked = true ∧
        memberships.model.after t (shown (before ++ joined :: (mid ++ [left]))) =
          memberships.model.after t (shown (before ++ mid))

/-- **The kernel's memberships are what callers were told**, in every run over a kernel that keeps
them, from any sets and with any handles. -/
theorem memberships_replayed {commands : List Command}
    (h : memberships.model.Follows t (shown (w.observed k commands))) :
    ReplaysMemberships k w t commands := by
  have htells : ∀ o ∈ w.observed k commands, o.TellsMembership :=
    observed_all (observe_membership k) w commands
  refine ⟨?asked_join, ?asked_leave, after_shown_eq_replayed htells t, ?each, ?undone⟩
  case asked_join =>
    intro w' index h bind group hi o
    have hreport := congrArg Observation.report
      (observe_perform k hi (.joinMulticast bind.toIpv4 group.toIpv4))
    refine ⟨_, hreport, ?_⟩
    rw [hreport, ← group.octets_toIpv4, ← bind.octets_toIpv4]
    rfl
  case asked_leave =>
    intro w' index h bind group hi o
    have hreport := congrArg Observation.report
      (observe_perform k hi (.leaveMulticast bind.toIpv4 group.toIpv4))
    refine ⟨_, hreport, ?_⟩
    rw [hreport, ← group.octets_toIpv4, ← bind.octets_toIpv4]
    rfl
  case each =>
    rintro past c future rfl
    rw [observed_append] at h
    exact membershipStep (observe_membership k _ c) (follows_at h)
  case undone =>
    intro before joined mid left after fd m hseen hjoined hmid worked hleft
    have hsplit : before ++ joined :: (mid ++ left :: after) =
        before ++ (joined :: (mid ++ [left]) ++ after) := by simp
    rw [hseen, hsplit] at h htells
    rw [shown_append, KernelModel.follows_append, shown_append, KernelModel.follows_append] at h
    have hpart := fun o ho => htells o (List.mem_append_right _ (List.mem_append_left _ ho))
    rw [shown_append, shown_append, KernelModel.after_append, KernelModel.after_append]
    exact leave_undoes hpart h.2.1 hjoined hmid hleft

/-- Two sockets that join one group on one interface, given in both ways. The first is asked to join
again, to leave with the two addresses exchanged, and to leave. -/
def twoMembers : List Command :=
  let bind : IpArgument := .octets ⟨127, 0, 0, 1⟩
  let group : IpArgument := .octets ⟨224, 1, 2, 3⟩
  [.makeUdp, .makeUdp, .perform 1 (.joinMulticast bind.toIpv4 group.toIpv4),
    .perform 1 (.joinMulticast bind.toIpv4 group.toIpv4), .perform 1 (.setMulticastLoop true),
    .perform 0 (.joinMulticast (IpArgument.number 0x7f000001).toIpv4
      (IpArgument.number 0xe0010203).toIpv4),
    .perform 1 (.leaveMulticast group.toIpv4 bind.toIpv4),
    .perform 1 (.leaveMulticast bind.toIpv4 group.toIpv4)]

/-- The second join and the exchanged leave are told to have failed, all else to have worked. -/
theorem memberships_replayed_of_keeper :
    let w₀ := start (⟨0, fun _ => ∅⟩ : MembershipKeeper) fun _ => none
    ReplaysMemberships MembershipKeeper.kernel w₀ (fun _ => ∅) twoMembers ∧
      (w₀.observed MembershipKeeper.kernel twoMembers).filterMap (·.report.membership?) =
        let request (change : MembershipChange) : MembershipRequest :=
          ⟨change, ⟨⟨224, 1, 2, 3⟩, ⟨127, 0, 0, 1⟩⟩⟩
        [⟨⟨0⟩, request .join, true⟩, ⟨⟨0⟩, request .join, false⟩, ⟨⟨3⟩, request .join, true⟩,
          ⟨⟨0⟩, ⟨.leave, ⟨⟨127, 0, 0, 1⟩, ⟨224, 1, 2, 3⟩⟩⟩, false⟩,
          ⟨⟨0⟩, request .leave, true⟩] :=
  ⟨memberships_replayed (by decide), by decide⟩

end World
end SocketLayer
