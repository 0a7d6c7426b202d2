import SocketLayer.Proofs.FailureReports
import SocketLayer.Proofs.OptionRegisters

/-!
# Profiles act on the kernel's options

On a kernel that takes every option and keeps one value of each, a profile overlays the options of
its handle: those that it names have its values afterwards, all others what they had. Two profiles
one after the other overlay what `OptionProfile.merge` makes of them, so that any sequence of
profiles is one, and each option is as the last profile made it that names it.

* `TakesOptions` — a kernel that takes every option; a profile is then applied in full.
* `kept_apply` — the overlay: what the kernel keeps after one profile.
* `wanted_merge` — the overlay of a merge.
* `reading_after` — what a getter gives after a sequence of profiles.
* `profiles_act` — profiles act on the kernel's options, and every getter reads the last of them.
-/

set_option autoImplicit false

namespace SocketLayer

/-- A kernel that takes every option. -/
def TakesOptions {σ : Type} (k : Kernel σ) : Prop :=
  ∀ state c, c.option?.isSome → ∃ answer, (k.answer state c).1 = .ok answer

/-- On a kernel that takes every option no program fails whose calls all set options. -/
theorem TakesOptions.no_failures {α σ : Type} {k : Kernel σ} (h : TakesOptions k)
    (program : Program α) (state : σ)
    (hcalls : AllCalls (·.option?.isSome) (program.run k state).events) :
    failures (program.run k state).events = [] := by
  induction program generalizing state with
  | done a => rfl
  | call c next ih =>
    obtain ⟨hc, hrest⟩ := List.forall_mem_cons.mp hcalls
    obtain ⟨answer, hanswer⟩ := h state c (hc c rfl)
    calc failures ((Program.call c next).run k state).events
        = failures ((next (k.answer state c).1).run k (k.answer state c).2).events :=
          List.filterMap_cons_none (by rw [hanswer]; rfl)
      _ = [] := ih _ _ hrest
  | log entry next ih => exact ih state (List.forall_mem_cons.mp hcalls).2

theorem Registry.takesOptions {keep : (name : OptionName) → name.Value → name.Value} :
    TakesOptions (kernel keep) := by
  intro r c hc
  cases c with
  | setWord | setLinger => exact ⟨(), rfl⟩
  | _ => cases hc

/-- A plan of which no call failed was carried out in full. -/
theorem Socket.PlanRun.whole {plan : List SystemCall} {events : List Event}
    {outcome : OptionProfile.Outcome} (h : Socket.PlanRun plan events outcome)
    (hevents : failures events = []) :
    outcome = .ok () ∧ ∀ c ∈ plan, ∃ answer, .called c (.ok answer) ∈ events := by
  induction h with
  | finished => exact ⟨rfl, by simp⟩
  | set answer h ih =>
    obtain ⟨hok, hplan⟩ := ih hevents
    refine ⟨hok, List.forall_mem_cons.mpr ⟨⟨answer, List.mem_cons_self⟩, fun c hc => ?_⟩⟩
    obtain ⟨answer', hmem⟩ := hplan c hc
    exact ⟨answer', List.mem_cons_of_mem _ hmem⟩
  | skipped e he h ih => cases hevents
  | failed e he => cases hevents

namespace OptionProfile

/-! ## The monoid of profiles -/

/-- A profile without options. -/
def blank (backlog : Int32) : OptionProfile where
  tcpNoDelay := none
  reuseAddress := none
  reusePort := false
  receiveBuffer := none
  sendBuffer := none
  linger := none
  backlog := backlog
  multicastTtl := none
  multicastLoop := none

theorem merge_assoc (a b c : OptionProfile) : (a.merge b).merge c = a.merge (b.merge c) := by
  simp only [merge, Option.or_assoc, Bool.or_assoc]

theorem merge_self (a : OptionProfile) : a.merge a = a := by
  simp only [merge, Option.or_self, Bool.or_self]

theorem blank_merge (backlog : Int32) (a : OptionProfile) : (blank backlog).merge a = a := by
  simp [merge, blank]

theorem merge_blank (a : OptionProfile) : a.merge (blank a.backlog) = a := by
  simp [merge, blank]

/-- A merge has the values of the second profile, and those of the first where it has none. -/
theorem wanted_merge (a b : OptionProfile) (transport : Transport) (name : OptionName) :
    (a.merge b).wanted? transport name =
      (b.wanted? transport name).or (a.wanted? transport name) := by
  cases name with
  | linger => exact Option.map_or
  | word name =>
    cases name with
    | sendBuffer | receiveBuffer | reuseAddress => exact Option.map_or
    | reusePort =>
      by_cases ha : a.reusePort <;> by_cases hb : b.reusePort <;> simp [wanted?, merge, ha, hb]
    | tcpNoDelay | multicastTtl | multicastLoop =>
      cases transport with
      | tcp => first | exact Option.map_or | rfl
      | udp => first | exact Option.map_or | rfl

/-! ## One profile -/

section Apply

variable {σ : Type} {k : Kernel σ} {store : σ → OptionStore}
  {keep : Descriptor → (name : OptionName) → name.Value → name.Value}

theorem apply_wants (p : OptionProfile) (s : Socket) (k : Kernel σ) (state : σ) :
    AllCalls (p.Wants s.descriptor s.transport) ((p.apply s).run k state).events :=
  fun e he c hc => wants_of_mem_plan (((Socket.apply_runs p s).run k state).calls_mem e he c hc)

/-- On a kernel that takes every option a profile is applied in full. -/
theorem apply_failures (htakes : TakesOptions k) (p : OptionProfile) (s : Socket) (state : σ) :
    failures ((p.apply s).run k state).events = [] :=
  htakes.no_failures _ _ fun e he c hc => (p.apply_wants s k state e he c hc).isSome_option

/-- **A profile overlays the options of its handle.** -/
theorem kept_apply (hkeeps : KeepsOptions k store keep) (htakes : TakesOptions k)
    (p : OptionProfile) (s : Socket) (state : σ) (fd : Descriptor) (name : OptionName) :
    store ((p.apply s).run k state).kernel fd name =
      if fd = s.descriptor then
        settled (keep fd name) (store state fd name) (p.wanted? s.transport name).toList
      else store state fd name := by
  have hrun := (Socket.apply_runs p s).run k state
  have hplain : AllCalls (·.PlainOn s.descriptor none) ((p.apply s).run k state).events :=
    fun e he c hc => Operation.plainOn_of_mem_plan (hrun.calls_mem e he c hc)
  have hfd : ∀ e ∈ ((p.apply s).run k state).events, ¬ e.Reassigns fd := by
    rintro (⟨c, reply⟩ | _) he
    · exact Event.not_reassigns_of_plain (hplain _ he c rfl).plain fd
    · exact not_or.mpr ⟨nofun, nofun⟩
  rw [hkeeps.run (p.apply s) state hfd name]
  split
  · rename_i hown
    subst hown
    refine settled_of_getLast (getLast_of_all (fun value => given_wanted hrun) fun hnone => ?_)
    rw [Option.eq_none_iff_forall_ne_some]
    intro value hvalue
    obtain ⟨c, hc, hgives⟩ := wants_of_wanted s.descriptor hvalue
    have hwhole := hrun.whole (apply_failures htakes p s state)
    obtain ⟨answer, hmem⟩ := hwhole.2 c (mem_plan_of_wants hc)
    have hnothing : c.gives? s.descriptor name = none := List.filterMap_eq_nil_iff.mp hnone _ hmem
    rw [hnothing] at hgives
    cases hgives
  · rename_i hother
    have hgiven : given fd name ((p.apply s).run k state).events = [] := by
      refine given_of_calls fun e he c hc => SystemCall.gives_none_of_subject ?_
      rw [(hplain e he c hc).subject]
      exact fun hsame => hother (Option.some.inj hsame).symm
    rw [hgiven, settled_nil]

/-! ## Sequences of profiles -/

/-- The kernel's state after profiles were applied to a handle, one after the other. -/
def after (k : Kernel σ) (s : Socket) (state : σ) (ps : List OptionProfile) : σ :=
  ps.foldl (fun state p => ((p.apply s).run k state).kernel) state

/-- **A getter gives what the last profile set that names its option**, or what it gave before. -/
theorem reading_after (hkeeps : KeepsOptions k store keep) (htakes : TakesOptions k) (s : Socket)
    (t : Tunable) (ps : List OptionProfile) (state : σ) :
    t.decode (store (after k s state ps) s.descriptor t.name) =
      settled (t.readBack (keep s.descriptor)) (t.decode (store state s.descriptor t.name))
        (ps.filterMap (·.argument? s.transport t)) := by
  induction ps generalizing state with
  | nil => rfl
  | cons p rest ih =>
    have hfirst : store ((p.apply s).run k state).kernel s.descriptor t.name =
        settled (keep s.descriptor t.name) (store state s.descriptor t.name)
          ((p.argument? s.transport t).toList.map t.encode) := by
      rw [kept_apply hkeeps htakes, if_pos rfl, wanted_eq_argument, Option.toList_map]
    calc t.decode (store (after k s state (p :: rest)) s.descriptor t.name)
        = settled (t.readBack (keep s.descriptor))
            (t.decode (store ((p.apply s).run k state).kernel s.descriptor t.name))
            (rest.filterMap (·.argument? s.transport t)) := ih _
      _ = settled (t.readBack (keep s.descriptor)) (t.decode (store state s.descriptor t.name))
            ((p :: rest).filterMap (·.argument? s.transport t)) := by
        rw [hfirst, Tunable.decode_settled, settled_filterMap_cons]

/-- Profiles act on the options that a kernel keeps.

* `assoc`, `blank_left`, `blank_right` — merging is associative, and a profile without options is
  neutral.
* `applied` — every profile is applied in full.
* `merged` — a profile after another leaves the options, all those of all descriptors, as their
  merge does.
* `again` — applying a profile twice is applying it once.
* `unchanged` — a profile without options changes nothing in the kernel.
* `reads` — after any sequence of profiles a getter gives what the last of them set that names the
  option and fits the transport; without one it gives what it gave before.
* `exact` — what was set is the profile's own value, if the kernel does no more than round sizes. -/
structure Act (k : Kernel σ) (store : σ → OptionStore)
    (keep : Descriptor → (name : OptionName) → name.Value → name.Value) : Prop where
  assoc : ∀ a b c : OptionProfile, (a.merge b).merge c = a.merge (b.merge c)
  blank_left : ∀ backlog (a : OptionProfile), (blank backlog).merge a = a
  blank_right : ∀ a : OptionProfile, a.merge (blank a.backlog) = a
  applied : ∀ (s : Socket) state (p : OptionProfile), ((p.apply s).run k state).result = .ok ()
  merged : ∀ s state a b, store (after k s state [a, b]) = store (after k s state [a.merge b])
  again : ∀ s state a, store (after k s state [a, a]) = store (after k s state [a])
  unchanged : ∀ s state backlog, after k s state [blank backlog] = state
  reads : ∀ (s : Socket) state ps (t : Tunable), ∃ before,
    ((t.read s).run k state).result = .ok before ∧
      ((t.read s).run k (after k s state ps)).result =
        .ok (settled (t.readBack (keep s.descriptor)) before
          (ps.filterMap (·.argument? s.transport t)))
  exact : ∀ fd send receive, keep fd = Tunable.rounding send receive →
    ∀ t : Tunable, t.readBack (keep fd) = t.stored send receive

/-- **Profiles act on the kernel's options**: any profiles in any number, any handle, any kernel
that takes every option and keeps one value of each. -/
theorem profiles_act (hkeeps : KeepsOptions k store keep) (htakes : TakesOptions k) :
    Act k store keep := by
  have hmerged (s : Socket) (state : σ) (a b : OptionProfile) :
      store (after k s state [a, b]) = store (after k s state [a.merge b]) := by
    funext fd name
    show store ((b.apply s).run k ((a.apply s).run k state).kernel).kernel fd name =
      store (((a.merge b).apply s).run k state).kernel fd name
    simp only [kept_apply hkeeps htakes]
    split
    · rw [wanted_merge]
      cases b.wanted? s.transport name <;> rfl
    · rfl
  refine ⟨merge_assoc, blank_merge, merge_blank, ?applied, hmerged, ?again, ?unchanged, ?reads,
    ?exact⟩
  case applied =>
    intro s state p
    exact (((Socket.apply_runs p s).run k state).whole (apply_failures htakes p s state)).1
  case again =>
    intro s state a
    rw [hmerged, merge_self]
  case unchanged =>
    intro s state backlog
    obtain ⟨fd, transport, position, nonBlocking⟩ := s
    cases transport <;> rfl
  case reads =>
    intro s state ps t
    refine ⟨_, Tunable.read_run hkeeps t s state, ?_⟩
    rw [Tunable.read_run hkeeps, reading_after hkeeps htakes]
  case exact =>
    intro fd send receive hkeep t
    rw [hkeep]
    exact t.readBack_rounding send receive

end Apply

/-- It holds on a registry that doubles the sizes of buffers. -/
theorem profiles_act_on_registry :
    let k := Registry.doubling
    let keep (_ : Descriptor) := Tunable.rounding (2 * ·) (2 * ·)
    let s : Socket := ⟨⟨0⟩, .udp, .created, true⟩
    let tuned := after k s Registry.start [lowLatency, highThroughput]
    KeepsOptions k Registry.store keep ∧ TakesOptions k ∧ Act k Registry.store keep ∧
      (s.receiveBufferSize.run k tuned).result = .ok (32 * 1024 * 1024) ∧
      (s.linger.run k tuned).result = .ok (some .zero) ∧
      (s.tcpNoDelay.run k tuned).result = .ok false :=
  ⟨Registry.keepsOptions, Registry.takesOptions,
    profiles_act Registry.keepsOptions Registry.takesOptions, rfl, rfl, rfl⟩

end OptionProfile
end SocketLayer
