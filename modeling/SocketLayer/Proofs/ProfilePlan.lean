import SocketLayer.Proofs.LifecycleOrder

/-!
# A profile is applied by its plan, up to the first failure

`OptionProfile.plan` lists the calls that set a profile's options. Applying the profile issues them
in this order and stops at the first one that fails. A kernel that cannot share ports has not
failed.

* `StopsAtFirst` — all steps of a plan, or the steps up to the first failure.
* `planRun_stops` — every run through a plan is of this kind.
* `options_nodup` — no plan sets an option twice.
* `SetsOwnOption`, `value_eq` — an option that no call sets keeps its value.
* `apply_by_plan` — all of this for every profile, every handle and every kernel.
-/

set_option autoImplicit false

namespace SocketLayer

namespace Event

/-- The error that a reply to a setter stands for: none after a success, and none where the kernel
cannot share ports. -/
def failure? : Event → Option NetError
  | .called c (.error e) => if c.Tolerates e then none else some (.ofErrno c.setterName e)
  | _ => none

/-- A call with its reply, and the log record of an error that is passed over. -/
def noted : Event → List Event
  | .called c (.error e) =>
    if c.Tolerates e then [.called c (.error e), .logged .reusePortSkipped]
    else [.called c (.error e)]
  | e => [e]

end Event

namespace OptionProfile

/-! ## Runs through a plan -/

section Runs

variable {plan : List SystemCall} {events : List Event} {outcome : Outcome}

/-- The steps of a plan in order: all of them without a failure, or those up to the first failure,
whose error is the outcome. -/
inductive StopsAtFirst (plan : List SystemCall) : List Event → Outcome → Prop
  | whole {events : List Event} (hcalls : calls events = plan)
    (hpass : ∀ e ∈ events, e.failure? = none) : StopsAtFirst plan events (.ok ())
  | stopped {past : List Event} {c : SystemCall} {e : Errno} {error : NetError}
    (rest : List SystemCall) (hplan : plan = calls past ++ c :: rest)
    (hpass : ∀ e ∈ past, e.failure? = none)
    (hfail : (Event.called c (.error e)).failure? = some error) :
    StopsAtFirst plan (past ++ [.called c (.error e)]) (.error error)

/-- A step that passed comes before the rest of a plan. -/
theorem StopsAtFirst.after {first : List Event} (h : StopsAtFirst plan events outcome)
    (hfirst : ∀ e ∈ first, e.failure? = none) :
    StopsAtFirst (calls first ++ plan) (first ++ events) outcome := by
  cases h with
  | whole hcalls hpass =>
    refine .whole (by rw [calls_append, hcalls]) fun e he => ?_
    rcases List.mem_append.mp he with he | he
    · exact hfirst e he
    · exact hpass e he
  | @stopped past c e error rest hplan hpass hfail =>
    rw [← List.append_assoc]
    refine .stopped rest (by rw [calls_append, hplan, List.append_assoc]) (fun e he => ?_) hfail
    rcases List.mem_append.mp he with he | he
    · exact hfirst e he
    · exact hpass e he

/-- **A run through a plan stops at the first failure.** -/
theorem planRun_stops (h : Socket.PlanRun plan events outcome) :
    StopsAtFirst plan events outcome := by
  induction h with
  | finished => exact .whole rfl (by simp)
  | @set c plan events outcome answer h ih =>
    have hpass : ∀ e ∈ [Event.called c (.ok answer)], e.failure? = none := by simp [Event.failure?]
    exact ih.after hpass
  | @skipped c plan events outcome e he h ih =>
    have hpass : ∀ x ∈ [Event.called c (.error e), .logged .reusePortSkipped],
        x.failure? = none := by
      simp [Event.failure?, he]
    exact ih.after hpass
  | @failed c plan e he =>
    have hfail : (Event.called c (.error e)).failure? = some (.ofErrno c.setterName e) := if_neg he
    have hstop : StopsAtFirst (c :: plan) ([] ++ [.called c (.error e)]) _ :=
      .stopped plan rfl (by simp) hfail
    exact hstop

/-- A run leaves a log record for an error that is passed over, right after it, and no other. -/
theorem planRun_notes (h : Socket.PlanRun plan events outcome) :
    events = (events.filter fun e => e.call?.isSome).flatMap Event.noted := by
  induction h with
  | finished => rfl
  | set answer h ih =>
    rw [List.filter_cons_of_pos rfl, List.flatMap_cons, ← ih]
    rfl
  | skipped e he h ih =>
    rw [List.filter_cons_of_pos rfl, List.filter_cons_of_neg (by simp [Event.call?]),
      List.flatMap_cons, ← ih, Event.noted, if_pos he]
    rfl
  | failed e he => simp [Event.call?, Event.noted, he]

/-- The calls made are a prefix of the plan. -/
theorem StopsAtFirst.issued (h : StopsAtFirst plan events outcome) : calls events <+: plan := by
  cases h with
  | whole hcalls hpass => exact hcalls ▸ List.prefix_refl _
  | @stopped past c e error rest hplan hpass hfail =>
    refine ⟨rest, ?_⟩
    rw [hplan, calls_append]
    simp [calls, Event.call?]

/-- The outcome is a success exactly when no step failed. -/
theorem StopsAtFirst.ok_iff (h : StopsAtFirst plan events outcome) :
    outcome = .ok () ↔ ∀ e ∈ events, e.failure? = none := by
  cases h with
  | whole hcalls hpass => exact ⟨fun _ => hpass, fun _ => rfl⟩
  | stopped rest hplan hpass hfail =>
    refine ⟨nofun, fun hall => ?_⟩
    rw [hall _ (by simp)] at hfail
    cases hfail

end Runs

/-! ## The options of a plan -/

/-- The options in the order of a plan. -/
def optionOrder : List OptionName :=
  [.word .receiveBuffer] ++ [.word .sendBuffer] ++ [.word .reuseAddress] ++ [.word .reusePort] ++
    [.linger] ++ ([.word .tcpNoDelay] ++ ([.word .multicastTtl] ++ [.word .multicastLoop]))

theorem options_ofSome {α : Type} (value : Option α) {call : α → SystemCall} {name : OptionName}
    (h : ∀ a, (call a).option? = some name) :
    ((value.map call).toList.filterMap SystemCall.option?).Sublist [name] := by
  cases value with
  | none => simp
  | some a => simp [h a]

/-- A plan sets its options in a fixed order. -/
theorem options_sublist (p : OptionProfile) (fd : Descriptor) (transport : Transport) :
    ((p.plan fd transport).filterMap SystemCall.option?).Sublist optionOrder := by
  simp only [plan, List.filterMap_append]
  refine List.Sublist.append ?common ?specific
  case common =>
    refine .append (.append (.append (.append ?_ ?_) ?_) ?_) ?_
    · exact options_ofSome p.receiveBuffer fun _ => rfl
    · exact options_ofSome p.sendBuffer fun _ => rfl
    · exact options_ofSome p.reuseAddress fun _ => rfl
    · split <;> simp [SystemCall.option?]
    · exact options_ofSome p.linger fun _ => rfl
  case specific =>
    cases transport with
    | tcp => exact (options_ofSome p.tcpNoDelay fun _ => rfl).trans (List.sublist_append_left _ _)
    | udp =>
      simp only [List.filterMap_append]
      refine .trans (.append ?_ ?_) (List.sublist_append_right _ _)
      · exact options_ofSome p.multicastTtl fun _ => rfl
      · exact options_ofSome p.multicastLoop fun _ => rfl

/-- No plan sets an option twice. -/
theorem options_nodup (p : OptionProfile) (fd : Descriptor) (transport : Transport) :
    ((p.plan fd transport).filterMap SystemCall.option?).Nodup :=
  (p.options_sublist fd transport).nodup (by decide)

/-- Every call of a plan sets an option, and no two calls set the same. -/
theorem options_distinct (p : OptionProfile) (fd : Descriptor) (transport : Transport) :
    (p.plan fd transport).Pairwise fun c d =>
      c.option? ≠ none ∧ d.option? ≠ none ∧ c.option? ≠ d.option? := by
  have hsets (c : SystemCall) (hc : c ∈ p.plan fd transport) : c.option? ≠ none := by
    cases wants_of_mem_plan hc <;> exact nofun
  have hdistinct := List.pairwise_filterMap.mp (p.options_nodup fd transport)
  refine hdistinct.imp_of_mem fun {c d} hc hd h => ⟨hsets c hc, hsets d hd, fun hsame => ?_⟩
  obtain ⟨name, hname⟩ := Option.ne_none_iff_exists'.mp (hsets c hc)
  exact h name hname name (hsame ▸ hname) rfl

/-! ## The kernel's values -/

section Values

variable {α σ τ : Type} {k : Kernel σ} {value : σ → OptionName → τ}

/-- Setting an option on this kernel changes the value of no other option. -/
def SetsOwnOption (k : Kernel σ) (value : σ → OptionName → τ) : Prop :=
  ∀ s c own name, c.option? = some own → name ≠ own → value (k.answer s c).2 name = value s name

/-- An option keeps its value in a run whose calls all set other options. -/
theorem value_eq (hown : SetsOwnOption k value) (program : Program α) (s : σ) (name : OptionName)
    (hcalls : ∀ c ∈ calls (program.run k s).events, ∃ own, c.option? = some own ∧ name ≠ own) :
    value (program.run k s).kernel name = value s name := by
  induction program generalizing s with
  | done a => rfl
  | call c next ih =>
    obtain ⟨⟨own, hc, hname⟩, hrest⟩ := List.forall_mem_cons.mp hcalls
    calc value ((Program.call c next).run k s).kernel name
        = value (k.answer s c).2 name := ih _ _ hrest
      _ = value s name := hown s c own name hc hname
  | log entry next ih => exact ih s hcalls

end Values

/-- A kernel that also remembers, of every option, the last call that set it. -/
def recording {σ : Type} (k : Kernel σ) : Kernel (σ × (OptionName → Option SystemCall)) where
  answer s c :=
    let (reply, state) := k.answer s.1 c
    (reply, state, match c.option? with
      | some name => Function.update s.2 name (some c)
      | none => s.2)

theorem setsOwnOption_recording {σ : Type} (k : Kernel σ) :
    SetsOwnOption (recording k) Prod.snd := by
  intro s c own name hown hname
  show (match c.option? with
    | some name => Function.update s.2 name (some c)
    | none => s.2) name = s.2 name
  rw [hown]
  exact Function.update_of_ne hname _ _

/-! ## Applying a profile -/

/-- A profile was applied by its plan.

* `stops` — the calls are the whole plan without a failure, or the part of it that ends in the first
  failure; the result is a success or that failure.
* `ok_iff` — the result is a success exactly when no step failed.
* `notes` — the only log records are those of the errors that were passed over.
* `wanted` — every call is for an option that has a value and fits the transport.
* `backlog` — the queue length for listeners plays no part.
* `kept` — on a kernel where setting an option changes no other, the options of the steps that were
  not reached keep their values, and so do those that the plan does not mention. -/
structure AppliedByPlan {σ : Type} (p : OptionProfile) (s : Socket) (k : Kernel σ) (state : σ)
    (run : Run Outcome σ) : Prop where
  stops : StopsAtFirst (p.plan s.descriptor s.transport) run.events run.result
  ok_iff : run.result = .ok () ↔ ∀ e ∈ run.events, e.failure? = none
  notes : run.events = (run.events.filter fun e => e.call?.isSome).flatMap Event.noted
  wanted : ∀ c ∈ calls run.events, p.Wants s.descriptor s.transport c
  backlog : ∀ backlog, (({ p with backlog } : OptionProfile).apply s).run k state = run
  kept : ∀ {τ : Type} (value : σ → OptionName → τ), SetsOwnOption k value → ∀ rest,
    p.plan s.descriptor s.transport = calls run.events ++ rest → ∀ name,
      (∃ c ∈ rest, c.option? = some name) ∨
        (∀ c ∈ p.plan s.descriptor s.transport, c.option? ≠ some name) →
      value run.kernel name = value state name

/-- **A profile is applied by its plan**, up to the first failure: every profile, every handle in
any state, every kernel. -/
theorem apply_by_plan {σ : Type} (p : OptionProfile) (s : Socket) (k : Kernel σ) (state : σ) :
    AppliedByPlan p s k state ((p.apply s).run k state) := by
  have hrun := (Socket.apply_runs p s).run k state
  have hstops := planRun_stops hrun
  have hwanted : ∀ c ∈ calls ((p.apply s).run k state).events,
      p.Wants s.descriptor s.transport c :=
    fun c hc => wants_of_mem_plan (hstops.issued.subset hc)
  refine ⟨hstops, hstops.ok_iff, planRun_notes hrun, hwanted, fun _ => rfl, ?_⟩
  intro τ value hown rest hplan name hname
  refine value_eq hown _ state name fun c hc => ?_
  obtain ⟨own, hoption⟩ : ∃ own, c.option? = some own := by
    have hwant := hwanted c hc
    generalize s.transport = transport at hwant
    cases hwant <;> exact ⟨_, rfl⟩
  refine ⟨own, hoption, ?_⟩
  rintro rfl
  rcases hname with ⟨d, hd, hsame⟩ | habsent
  · -- the option would be set twice: by `c`, which was issued, and by `d`, which was not
    have hnodup := p.options_nodup s.descriptor s.transport
    rw [hplan, List.filterMap_append] at hnodup
    exact (List.nodup_append.mp hnodup).2.2 name (List.mem_filterMap.mpr ⟨c, hc, hoption⟩) name
      (List.mem_filterMap.mpr ⟨d, hd, hsame⟩) rfl
  · exact habsent c (hstops.issued.subset hc) hoption

end OptionProfile
end SocketLayer
