import SocketLayer.Proofs.Frame

/-!
# Different handles are independent

Handles share nothing inside the library, so one can feel another only through the kernel. Over a
kernel that keeps descriptors apart, an operation that makes and closes no descriptor is felt on its
own handle only: whatever is done in between on a handle with another descriptor, a handle gives the
same results, makes the same calls, leaves the same log and ends the same.

* `Kernel.Separates` — the answer to a call depends on the earlier calls on the same descriptor
  only.
* `Kernel.Alike` — states that no later call on a descriptor tells apart; `Alike.run`: a program
  that keeps to the descriptor runs from them in the same way; `Alike.run_other`: a program that
  keeps to another is not felt.
* `Interleaves` — the operations of two handles, mixed in some order.
* `World.handles_independent` — for each handle a mixed run is the run of its own operations alone.
* `Kernel.perDescriptor` — a kernel with a machine for each descriptor; it separates them.
-/

set_option autoImplicit false

namespace SocketLayer

namespace SystemCall

/-- Whether a call makes and closes no descriptor, and names one socket and nothing else. -/
def isLocal : SystemCall → Bool
  | .socket .. | .close _ | .accept .. | .createPoller | .watch .. | .rewatch .. | .unwatch .. =>
    false
  | _ => true

/-- A call that is about one descriptor only. -/
structure LocalOn (fd : Descriptor) (c : SystemCall) : Prop where
  isLocal : c.isLocal = true
  subject : c.subject? = some fd

/-- The calls on a descriptor. -/
def on (fd : Descriptor) (past : List SystemCall) : List SystemCall :=
  past.filter fun c => c.subject? = some fd

theorem on_cons (fd : Descriptor) (c : SystemCall) (rest : List SystemCall) :
    on fd (c :: rest) = if c.subject? = some fd then c :: on fd rest else on fd rest := by
  simp only [on, List.filter_cons, decide_eq_true_eq]

theorem on_append (fd : Descriptor) (first second : List SystemCall) :
    on fd (first ++ second) = on fd first ++ on fd second := List.filter_append ..

/-- A program that keeps to a descriptor makes no other calls. -/
theorem on_calls_self {fd : Descriptor} {events : List Event} (h : AllCalls (·.LocalOn fd) events) :
    on fd (calls events) = calls events := by
  refine List.filter_eq_self.mpr fun c hmem => decide_eq_true ?_
  obtain ⟨e, he, hc⟩ := mem_calls.mp hmem
  exact (h e he c hc).subject

/-- A program that keeps to another descriptor makes none on this one. -/
theorem on_calls_other {fd other : Descriptor} {events : List Event} (hne : other ≠ fd)
    (h : AllCalls (·.LocalOn other) events) : on fd (calls events) = [] := by
  refine List.filter_eq_nil_iff.mpr fun c hmem => ?_
  obtain ⟨e, he, hc⟩ := mem_calls.mp hmem
  simp [(h e he c hc).subject, hne]

theorem PlainOn.isLocal {fd : Descriptor} {c : SystemCall} (h : c.PlainOn fd none) :
    c.isLocal = true := by
  cases c with
  | socket | close | accept | createPoller => cases h.plain
  | watch | rewatch | unwatch => cases h.poller _ rfl
  | _ => rfl

end SystemCall

namespace Operation

/-- Whether an operation makes and closes no descriptor, and concerns its handle only: all but
`accept` and the registration with an event loop. -/
def isLocal : Operation → Bool
  | .accept | .register .. | .reregister .. | .deregister _ => false
  | _ => true

variable {s : Socket} {operation : Operation} {c : SystemCall}

theorem Issues.localOn (hop : operation.isLocal = true) (h : operation.Issues s c) :
    c.LocalOn s.descriptor := by
  refine ⟨?_, h.subject⟩
  cases hplain : operation.isPlain with
  | true =>
    have hpoller : operation.poller? = none := by
      cases operation with
      | register | reregister | deregister => cases hop
      | _ => rfl
    have hplainOn := h.plainOn hplain
    rw [hpoller] at hplainOn
    exact hplainOn.isLocal
  | false =>
    cases operation with
    | configureNonBlocking => rcases h with rfl | ⟨flags, rfl⟩ <;> rfl
    | bind _ | bindIpv4 _ _ | tryBind _ | listen _ | connect _ =>
      cases h
      rfl
    | accept => cases hop
    | _ => cases hplain

theorem accepted_of_isLocal (hop : operation.isLocal = true) (result : operation.Result) :
    operation.accepted result = [] := by
  cases operation with
  | accept => cases hop
  | _ => rfl

end Operation

/-! ## Kernels that keep descriptors apart -/

namespace Kernel

variable {α σ : Type}

/-- The state after several calls. -/
def after (k : Kernel σ) (s : σ) (past : List SystemCall) : σ :=
  past.foldl (fun s c => (k.answer s c).2) s

theorem after_concat (k : Kernel σ) (s : σ) (past : List SystemCall) (c : SystemCall) :
    k.after s (past ++ [c]) = (k.answer (k.after s past) c).2 := by
  rw [after, List.foldl_append]
  rfl

/-- From the state `s` on, the answer to a call on a descriptor depends on the earlier calls on that
descriptor only, as long as no call makes or closes a descriptor. -/
def Separates (k : Kernel σ) (s : σ) : Prop :=
  ∀ (fd : Descriptor) (c : SystemCall), c.LocalOn fd → ∀ past past' : List SystemCall,
    (∀ c ∈ past, c.isLocal = true) → (∀ c ∈ past', c.isLocal = true) →
    SystemCall.on fd past = SystemCall.on fd past' →
    (k.answer (k.after s past) c).1 = (k.answer (k.after s past') c).1

/-- Two states that came from `s` by calls which are the same on a descriptor. -/
def Alike (k : Kernel σ) (s : σ) (fd : Descriptor) (a b : σ) : Prop :=
  ∃ past past' : List SystemCall, (∀ c ∈ past, c.isLocal = true) ∧ (∀ c ∈ past', c.isLocal = true) ∧
    SystemCall.on fd past = SystemCall.on fd past' ∧ a = k.after s past ∧ b = k.after s past'

variable {k : Kernel σ} {s a b : σ} {fd other : Descriptor}

theorem alike_start (k : Kernel σ) (s : σ) (fd : Descriptor) : k.Alike s fd s s :=
  ⟨[], [], nofun, nofun, rfl, rfl, rfl⟩

theorem isLocal_concat {past : List SystemCall} {c : SystemCall}
    (h : ∀ c ∈ past, c.isLocal = true) (hc : c.isLocal = true) :
    ∀ c' ∈ past ++ [c], c'.isLocal = true :=
  List.forall_mem_append.mpr ⟨h, List.forall_mem_singleton.mpr hc⟩

/-- A call on the descriptor gets the same answer in both states, and leads on alike. -/
theorem Alike.answer (h : k.Alike s fd a b) (hsep : k.Separates s) {c : SystemCall}
    (hc : c.LocalOn fd) : (k.answer a c).1 = (k.answer b c).1 ∧
      k.Alike s fd (k.answer a c).2 (k.answer b c).2 := by
  obtain ⟨past, past', hpast, hpast', hsame, rfl, rfl⟩ := h
  refine ⟨hsep fd c hc past past' hpast hpast' hsame, past ++ [c], past' ++ [c],
    isLocal_concat hpast hc.isLocal, isLocal_concat hpast' hc.isLocal, ?_,
    (after_concat ..).symm, (after_concat ..).symm⟩
  rw [SystemCall.on_append, SystemCall.on_append, hsame]

/-- A call on another descriptor leads to a state that is alike. -/
theorem Alike.answer_other (h : k.Alike s fd a b) (hne : other ≠ fd) {c : SystemCall}
    (hc : c.LocalOn other) : k.Alike s fd (k.answer a c).2 b := by
  obtain ⟨past, past', hpast, hpast', hsame, rfl, rfl⟩ := h
  refine ⟨past ++ [c], past', isLocal_concat hpast hc.isLocal, hpast', ?_,
    (after_concat ..).symm, rfl⟩
  have hnone : SystemCall.on fd [c] = [] := by
    simp [SystemCall.on, hc.subject, hne]
  rw [SystemCall.on_append, hnone, List.append_nil, hsame]

/-- **A program that keeps to a descriptor runs in the same way** from states that are alike. -/
theorem Alike.run {program : Program α} (h : k.Alike s fd a b) (hsep : k.Separates s)
    (hcalls : AllCalls (·.LocalOn fd) (program.run k a).events) :
    (program.run k a).result = (program.run k b).result ∧
      (program.run k a).events = (program.run k b).events ∧
      k.Alike s fd (program.run k a).kernel (program.run k b).kernel := by
  induction program generalizing a b with
  | done result => exact ⟨rfl, rfl, h⟩
  | call c next ih =>
    obtain ⟨hc, hrest⟩ := List.forall_mem_cons.mp hcalls
    obtain ⟨hreply, hnext⟩ := h.answer hsep (hc c rfl)
    obtain ⟨hresult, hevents, hkernel⟩ := ih (k.answer a c).1 hnext hrest
    simp only [Program.run, ← hreply]
    exact ⟨hresult, congrArg (List.cons _) hevents, hkernel⟩
  | log entry next ih =>
    obtain ⟨hresult, hevents, hkernel⟩ := ih h (List.forall_mem_cons.mp hcalls).2
    exact ⟨hresult, congrArg (List.cons _) hevents, hkernel⟩

/-- **A program that keeps to another descriptor is not felt.** -/
theorem Alike.run_other {program : Program α} (h : k.Alike s fd a b) (hne : other ≠ fd)
    (hcalls : AllCalls (·.LocalOn other) (program.run k a).events) :
    k.Alike s fd (program.run k a).kernel b := by
  induction program generalizing a with
  | done result => exact h
  | call c next ih =>
    obtain ⟨hc, hrest⟩ := List.forall_mem_cons.mp hcalls
    exact ih _ (h.answer_other hne (hc c rfl)) hrest
  | log entry next ih => exact ih h (List.forall_mem_cons.mp hcalls).2

/-! ## A machine for each descriptor -/

section PerDescriptor

variable {τ : Type} (machine : Kernel τ)

/-- The kernel that has a machine of its own for each descriptor. -/
def perDescriptor : Kernel (Descriptor → τ) where
  answer s c :=
    match c.subject? with
    | some fd => ((machine.answer (s fd) c).1, Function.update s fd (machine.answer (s fd) c).2)
    | none => (.error .badDescriptor, s)

variable {machine}

theorem perDescriptor_reply {c : SystemCall} (h : c.subject? = some fd) (s : Descriptor → τ) :
    ((perDescriptor machine).answer s c).1 = (machine.answer (s fd) c).1 := by
  simp only [perDescriptor, h]

/-- A call moves the machine of its own descriptor. -/
theorem perDescriptor_state (s : Descriptor → τ) (c : SystemCall) (fd : Descriptor) :
    ((perDescriptor machine).answer s c).2 fd =
      if c.subject? = some fd then (machine.answer (s fd) c).2 else s fd := by
  cases hsubject : c.subject? with
  | none => simp only [perDescriptor, hsubject, reduceCtorEq, if_false]
  | some other =>
    by_cases hfd : fd = other
    · subst hfd
      simp only [perDescriptor, hsubject, Function.update_self, if_true]
    · simp only [perDescriptor, hsubject, Function.update_of_ne hfd, Option.some.injEq,
        Ne.symm hfd, if_false]

/-- A machine has moved by the calls on its descriptor. -/
theorem perDescriptor_after (s : Descriptor → τ) (past : List SystemCall) (fd : Descriptor) :
    (perDescriptor machine).after s past fd = machine.after (s fd) (SystemCall.on fd past) := by
  induction past generalizing s with
  | nil => rfl
  | cons c rest ih =>
    have hstep : (perDescriptor machine).after s (c :: rest) fd =
        machine.after (((perDescriptor machine).answer s c).2 fd) (SystemCall.on fd rest) := ih _
    rw [hstep, perDescriptor_state, SystemCall.on_cons]
    split <;> rfl

/-- **A kernel with a machine for each descriptor keeps descriptors apart.** -/
theorem separates_perDescriptor (s : Descriptor → τ) : (perDescriptor machine).Separates s := by
  intro fd c hc past past' _ _ hsame
  rw [perDescriptor_reply hc.subject, perDescriptor_reply hc.subject, perDescriptor_after,
    perDescriptor_after, hsame]

end PerDescriptor

/-- A peer that sends back what it gets, as one descriptor meets it: the bytes that wait. -/
def echo : Kernel (List UInt8) where
  answer waiting
    | .send _ data _ => (.ok (data.length : Nat), waiting ++ data)
    | .receive _ capacity peek =>
      if waiting = [] then (.error .wouldBlock, waiting)
      else (.ok (waiting.take capacity), if peek then waiting else waiting.drop capacity)
    | .shutdown _ _ => (.ok (), waiting)
    | _ => (.error .notSupported, waiting)

end Kernel

/-! ## Mixed runs -/

/-- The operations of the handles under two numbers, mixed in some order. -/
inductive Interleaves (i j : Nat) : List Operation → List Operation → List Command → Prop
  | done : Interleaves i j [] [] []
  | left {first second : List Operation} {commands : List Command} (operation : Operation)
    (h : Interleaves i j first second commands) :
    Interleaves i j (operation :: first) second (.perform i operation :: commands)
  | right {first second : List Operation} {commands : List Command} (operation : Operation)
    (h : Interleaves i j first second commands) :
    Interleaves i j first (operation :: second) (.perform j operation :: commands)

theorem Interleaves.symm {i j : Nat} {first second : List Operation} {commands : List Command}
    (h : Interleaves i j first second commands) : Interleaves j i second first commands := by
  induction h with
  | done => exact .done
  | left operation _ ih => exact .right operation ih
  | right operation _ ih => exact .left operation ih

/-- Whether a report tells of an operation on a handle with the descriptor. -/
def Report.isOn (fd : Descriptor) : Report → Bool
  | .performed s _ _ => s.descriptor = fd
  | _ => false

namespace World

variable {σ : Type} {k : Kernel σ}

/-- To the handle under a number some commands in one world look as others do in another.

* `told` — what the commands on the handle show, its results, its calls with their answers and its
  log, is the same.
* `made` — the same calls are made on its descriptor.
* `handle` — it is there afterwards, and is the same. -/
structure LooksAs (k : Kernel σ) (index : Nat) (fd : Descriptor) (w : World σ)
    (commands : List Command) (w' : World σ) (commands' : List Command) : Prop where
  told : (w.observed k commands).filter (·.report.isOn fd) = w'.observed k commands'
  made : SystemCall.on fd (calls (shown (w.observed k commands))) =
    calls (shown (w'.observed k commands'))
  handle : ∃ t, (w.run k commands).live[index]? = some t ∧
    (w'.run k commands').live[index]? = some t

section Steps

variable {index : Nat} {fd : Descriptor} {w w' : World σ} {c c' : Command}
  {commands commands' : List Command}

/-- What is done to the handle in both worlds alike. -/
theorem LooksAs.cons_own (hsame : w.observe k c = w'.observe k c')
    (hon : (w.observe k c).report.isOn fd = true)
    (hcalls : AllCalls (·.LocalOn fd) (w.observe k c).events)
    (h : LooksAs k index fd (w.exec k c) commands (w'.exec k c') commands') :
    LooksAs k index fd w (c :: commands) w' (c' :: commands') := by
  refine ⟨?told, ?made, h.handle⟩
  case told =>
    rw [observed, List.filter_cons, if_pos hon, h.told, observed, hsame]
  case made =>
    rw [shown_observed_cons, shown_observed_cons, calls_append, calls_append, SystemCall.on_append,
      SystemCall.on_calls_self hcalls, h.made, hsame]

/-- What is done elsewhere in one of the worlds. -/
theorem LooksAs.cons_other {other : Descriptor} (hne : other ≠ fd)
    (hoff : (w.observe k c).report.isOn fd = false)
    (hcalls : AllCalls (·.LocalOn other) (w.observe k c).events)
    (h : LooksAs k index fd (w.exec k c) commands w' commands') :
    LooksAs k index fd w (c :: commands) w' commands' := by
  refine ⟨?told, ?made, h.handle⟩
  case told =>
    rw [observed, List.filter_cons, hoff, if_neg Bool.false_ne_true, h.told]
  case made =>
    rw [shown_observed_cons, calls_append, SystemCall.on_append,
      SystemCall.on_calls_other hne hcalls, List.nil_append, h.made]

end Steps

section Mixed

variable {s : σ} {w w' : World σ} {i j : Nat} {h h' : LiveSocket} {operation : Operation}

/-- The calls of an operation on a handle keep to the handle's descriptor. -/
theorem perform_localOn (k : Kernel σ) (h : LiveSocket) (kernel : σ)
    (hop : operation.isLocal = true) :
    AllCalls (·.LocalOn h.socket.descriptor)
      ((h.socket.perform operation).run k kernel).events :=
  allCalls_mono ((Socket.perform_issues h.socket operation).run k kernel) fun _ hc => hc.localOn hop

/-- The kernel and the handles after an operation that hands none out. -/
theorem exec_local (k : Kernel σ) (hi : w.live[i]? = some h) (hop : operation.isLocal = true) :
    let run := (h.socket.perform operation).run k w.kernel
    (w.exec k (.perform i operation)).kernel = run.kernel ∧
      (w.exec k (.perform i operation)).live[i]? =
        some { h with socket := run.result.2, history := h.history ++ run.events } ∧
      ∀ j, i ≠ j → (w.exec k (.perform i operation)).live[j]? = w.live[j]? := by
  intro run
  have hlive : (w.exec k (.perform i operation)).live =
      w.live.set i { h with socket := run.result.2, history := h.history ++ run.events } := by
    simp only [exec, effect, withHandle, hi, putBack, Operation.accepted_of_isLocal hop,
      List.map_nil, List.nil_append]
    rfl
  have hlt : i < w.live.length := (List.getElem?_eq_some_iff.mp hi).1
  refine ⟨(exec_perform k hi operation).1, ?_, fun j hij => ?_⟩
  · rw [hlive, List.getElem?_set_self hlt]
  · rw [hlive, List.getElem?_set_ne hij]

/-- What an operation on a live handle tells, and the calls that it makes. -/
theorem observe_local (k : Kernel σ) (hi : w.live[i]? = some h) (hop : operation.isLocal = true) :
    let o := w.observe k (.perform i operation)
    (∀ fd, o.report.isOn fd = decide (h.socket.descriptor = fd)) ∧
      AllCalls (·.LocalOn h.socket.descriptor) o.events := by
  intro o
  have ho : o = ⟨.performed h.socket operation _, _⟩ := observe_perform k hi operation
  rw [ho, Observation.events_map_event]
  exact ⟨fun fd => rfl, perform_localOn k h w.kernel hop⟩

/-- **For each of two handles a mixed run is the run of its own operations**, from any two worlds
that the handle cannot tell apart. -/
theorem looksAs_of_interleaves {first second : List Operation} {commands : List Command}
    (hmix : Interleaves i j first second commands) (hsep : k.Separates s)
    (hfirst : ∀ operation ∈ first, operation.isLocal = true)
    (hsecond : ∀ operation ∈ second, operation.isLocal = true)
    (hi : w.live[i]? = some h) (hi' : w'.live[i]? = some h) (hj : w.live[j]? = some h')
    (hne : h.socket.descriptor ≠ h'.socket.descriptor)
    (halike : k.Alike s h.socket.descriptor w.kernel w'.kernel) :
    LooksAs k i h.socket.descriptor w commands w' (first.map (.perform i)) := by
  have hij : i ≠ j := by
    rintro rfl
    rw [hi] at hj
    cases hj
    exact hne rfl
  -- both handles change along the run, but neither changes its descriptor
  induction hmix generalizing w w' h h' with
  | done => exact ⟨rfl, rfl, h, hi, hi'⟩
  | left operation hmix ih =>
    -- both worlds take the step, and it goes the same way
    obtain ⟨hop, hfirst⟩ := List.forall_mem_cons.mp hfirst
    obtain ⟨hresult, hevents, hnext⟩ := halike.run hsep (perform_localOn k h w.kernel hop)
    obtain ⟨hkernel, hown, hothers⟩ := exec_local k hi hop
    obtain ⟨hkernel', hown', -⟩ := exec_local k hi' hop
    obtain ⟨hon, hcalls⟩ := observe_local k hi hop
    have hsame : w.observe k (.perform i operation) = w'.observe k (.perform i operation) := by
      rw [observe_perform k hi, observe_perform k hi', hresult, hevents]
    have hkept := ((Socket.perform_runs h.socket operation).run k w.kernel).named.descriptor
    rw [← hresult, ← hevents] at hown'
    rw [← hkernel, ← hkernel'] at hnext
    refine LooksAs.cons_own hsame (by simp [hon]) hcalls ?_
    rw [← hkept] at hnext hne ⊢
    exact ih hfirst hsecond hown hown' ((hothers j hij).trans hj) hne hnext
  | right operation hmix ih =>
    -- only the mixed run takes the step, and `h` does not feel it
    obtain ⟨hop, hsecond⟩ := List.forall_mem_cons.mp hsecond
    have hnext := halike.run_other hne.symm (perform_localOn k h' w.kernel hop)
    obtain ⟨hkernel, hown, hothers⟩ := exec_local k hj hop
    obtain ⟨hon, hcalls⟩ := observe_local k hj hop
    have hkept := ((Socket.perform_runs h'.socket operation).run k w.kernel).named.descriptor
    rw [← hkernel] at hnext
    refine LooksAs.cons_other hne.symm (by simp [hon, hne.symm]) hcalls ?_
    rw [← hkept] at hne
    exact ih hfirst hsecond ((hothers i hij.symm).trans hi) hi' hown hne hnext

end Mixed

/-- **Different handles are independent.** Two live handles with different descriptors, any
operations on the one and on the other, and any mixture of the two: over a kernel that keeps
descriptors apart from then on, each handle has the results, the calls, the log and the end that it
has when its own operations run alone. -/
theorem handles_independent (k : Kernel σ) (w : World σ) {i j : Nat} {h h' : LiveSocket}
    (hi : w.live[i]? = some h) (hj : w.live[j]? = some h')
    (hne : h.socket.descriptor ≠ h'.socket.descriptor) (hsep : k.Separates w.kernel)
    {first second : List Operation} {commands : List Command}
    (hfirst : ∀ operation ∈ first, operation.isLocal = true)
    (hsecond : ∀ operation ∈ second, operation.isLocal = true)
    (hmix : Interleaves i j first second commands) :
    LooksAs k i h.socket.descriptor w commands w (first.map (.perform i)) ∧
      LooksAs k j h'.socket.descriptor w commands w (second.map (.perform j)) :=
  ⟨looksAs_of_interleaves hmix hsep hfirst hsecond hi hi hj hne (k.alike_start _ _),
    looksAs_of_interleaves hmix.symm hsep hsecond hfirst hj hj hi hne.symm (k.alike_start _ _)⟩

/-- Two connections to peers that echo. -/
def twoEchoes : World (Descriptor → List UInt8) :=
  (start (fun _ => []) fun _ => none).run (.perDescriptor .echo)
    [.adopt 3 .tcp .connected, .adopt 4 .tcp .connected]

/-- One handle reads before there is anything, sends and reads; the other sends in between, and is
tested twice. -/
theorem handles_independent_on_echo :
    let first : List Operation := [.send [1, 2], .isDead, .isDead]
    let second : List Operation := [.receive 8, .send [3], .receive 8]
    let mixed : List Command := [.perform 1 (.receive 8), .perform 0 (.send [1, 2]),
      .perform 1 (.send [3]), .perform 0 .isDead, .perform 1 (.receive 8), .perform 0 .isDead]
    LooksAs (.perDescriptor .echo) 0 ⟨4⟩ twoEchoes mixed twoEchoes (first.map (.perform 0)) ∧
      LooksAs (.perDescriptor .echo) 1 ⟨3⟩ twoEchoes mixed twoEchoes (second.map (.perform 1)) := by
  intro first second mixed
  have hi : twoEchoes.live[0]? =
      some ⟨⟨⟨4⟩, .tcp, .connected, false⟩, .adopted .tcp .connected, []⟩ := rfl
  have hj : twoEchoes.live[1]? =
      some ⟨⟨⟨3⟩, .tcp, .connected, false⟩, .adopted .tcp .connected, []⟩ := rfl
  have hmix : Interleaves 0 1 first second mixed :=
    .right _ (.left _ (.right _ (.left _ (.right _ (.left _ .done)))))
  exact handles_independent _ _ hi hj (by decide) (Kernel.separates_perDescriptor _) (by decide)
    (by decide) hmix

end World
end SocketLayer
