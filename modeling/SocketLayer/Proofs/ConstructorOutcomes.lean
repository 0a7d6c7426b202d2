import SocketLayer.Proofs.CallDiscipline
import SocketLayer.Proofs.DescriptorState

/-!
# A constructor makes all or nothing

Making a handle takes a descriptor and, for a non-blocking handle, some steps on it. Each of them
can fail, and so can the close that follows. Whatever the kernel replies, there are two ends: every
step succeeded and there is a handle with the settings it should have, or one step failed, what was
made is closed, and the caller is told of that step.

* `SetupStep`, `SetupStep.needed` — the steps, and which of them a handle takes.
* `SetupStep.Succeeds`, `SetupStep.Fails`, `Completes` — the calls of a step, and of several.
* `SetupOutcome` — how making a handle can end; `TcpRun.outcome`, `UdpRun.outcome`.
* `Settings.after` — what the kernel's replies say of a descriptor's settings.
* `World.constructors_all_or_nothing` — what this says of every constructor in every world.
-/

set_option autoImplicit false

namespace SocketLayer

/-! ## Steps -/

/-- A step that sets up a descriptor. -/
inductive SetupStep where
  /-- Switching to non-blocking mode. -/
  | switch
  /-- Allowing to rebind a recently used address. -/
  | share
  deriving DecidableEq, Repr

namespace SetupStep

/-- The name under which the step's failure is told. -/
def name : SetupStep → String
  | .switch => "set_nonblocking"
  | .share => "set_reuse_addr"

/-- The steps that a handle takes, in order. -/
def needed (transport : Transport) (blocking : Bool) : List SetupStep :=
  if blocking then []
  else match transport with
    | .tcp => [.switch, .share]
    | .udp => [.switch]

/-- The calls of a step that succeeds. -/
inductive Succeeds (fd : Descriptor) : SetupStep → List Event → Prop
  | already {flags : StatusFlags} (h : flags.isNonBlocking = true) :
    Succeeds fd .switch [.called (.getFlags fd) (.ok flags)]
  | written {flags : StatusFlags} (h : flags.isNonBlocking = false) :
    Succeeds fd .switch
      [.called (.getFlags fd) (.ok flags),
        .called (.setFlags fd (flags.withNonBlocking true)) (.ok ())]
  | shared : Succeeds fd .share [.called (.setWord fd .reuseAddress 1) (.ok ())]

/-- The calls of a step that fails, and the number of its error. -/
inductive Fails (fd : Descriptor) : SetupStep → Errno → List Event → Prop
  | unread (e : Errno) : Fails fd .switch e [.called (.getFlags fd) (.error e)]
  | unwritten {flags : StatusFlags} (h : flags.isNonBlocking = false) (e : Errno) :
    Fails fd .switch e
      [.called (.getFlags fd) (.ok flags),
        .called (.setFlags fd (flags.withNonBlocking true)) (.error e)]
  | unshared (e : Errno) : Fails fd .share e [.called (.setWord fd .reuseAddress 1) (.error e)]

end SetupStep

open SetupStep

/-- The calls of several steps that succeed, one after the other. -/
inductive Completes (fd : Descriptor) : List SetupStep → List Event → Prop
  | nil : Completes fd [] []
  | cons {step : SetupStep} {steps : List SetupStep} {first rest : List Event}
    (h : step.Succeeds fd first) (hrest : Completes fd steps rest) :
    Completes fd (step :: steps) (first ++ rest)

/-- How making a handle can end, by its calls and their replies.

* `made` — the descriptor was made and every step succeeded.
* `refused` — no descriptor was made.
* `rolledBack` — a step failed after others had succeeded. No later step is tried, and the
  descriptor is closed; whatever the reply to that, the failed step is what is told. -/
inductive SetupOutcome (transport : Transport) (blocking : Bool) :
    List Event → Except NetError Socket → Prop
  | made (fd : Descriptor) {setup : List Event}
    (h : Completes fd (needed transport blocking) setup) :
    SetupOutcome transport blocking (.called (.socket transport true) (.ok fd) :: setup)
      (.ok ⟨fd, transport, .created, !blocking⟩)
  | refused (e : Errno) :
    SetupOutcome transport blocking [.called (.socket transport true) (.error e)]
      (.error (.ofErrno "socket" e))
  | rolledBack (fd : Descriptor) {before later : List SetupStep} {step : SetupStep} {e : Errno}
    {done failing : List Event} (hneeded : needed transport blocking = before ++ step :: later)
    (hdone : Completes fd before done) (hfails : step.Fails fd e failing)
    (reply : Reply (.close fd)) :
    SetupOutcome transport blocking
      (.called (.socket transport true) (.ok fd) ::
        (done ++ (failing ++ [.called (.close fd) reply])))
      (.error (.ofErrno step.name e))

/-! ## The constructors -/

namespace Socket

section Outcome

variable {fd : Descriptor} {events : List Event} {e : Errno}

theorem clear_of_ne {flags : StatusFlags} (h : flags.withNonBlocking true ≠ flags) :
    flags.isNonBlocking = false :=
  Bool.eq_false_iff.mpr fun hset => h (flags.withNonBlocking_eq_self_iff.mpr hset)

theorem SwitchRun.succeeds (h : SwitchRun fd true events (.ok ())) :
    SetupStep.switch.Succeeds fd events := by
  cases h with
  | already flags h => exact .already (flags.withNonBlocking_eq_self_iff.mp h)
  | switched flags h => exact .written (clear_of_ne h)

theorem SwitchRun.fails (h : SwitchRun fd true events (.error e)) :
    SetupStep.switch.Fails fd e events := by
  cases h with
  | unread e => exact .unread e
  | unwritten flags h e => exact .unwritten (clear_of_ne h) e

/-- A descriptor that was made and given up again. -/
theorem rolledBack_of_drop {transport : Transport} {blocking : Bool}
    {before later : List SetupStep} {step : SetupStep} {done failing ending : List Event}
    (hneeded : needed transport blocking = before ++ step :: later)
    (hdone : Completes fd before done) (hfails : step.Fails fd e failing)
    (hd : DropRun fd ending ()) :
    SetupOutcome transport blocking
      (.called (.socket transport true) (.ok fd) ::
        (done ++ (failing ++ SocketLayer.answered ending)))
      (.error (.ofErrno step.name e)) := by
  obtain ⟨reply, hending⟩ := hd.answered
  rw [hending]
  exact .rolledBack fd hneeded hdone hfails reply

theorem TcpRun.outcome {blocking : Bool} {r : Except NetError Socket}
    (h : TcpRun blocking events r) :
    SetupOutcome .tcp blocking (SocketLayer.answered events) r := by
  cases h with
  | refused _ e => exact .refused e
  | blocking fd => exact .made fd .nil
  | unswitched fd e hs hd =>
    have hneeded : needed .tcp false = [] ++ .switch :: [.share] := rfl
    rw [answered_append, answered_called, answered_logged, hs.answered]
    exact rolledBack_of_drop hneeded .nil hs.fails hd
  | @unshared fd e switch ending hs hd =>
    rw [answered_append, answered_called, answered_called, answered_logged, hs.answered]
    have hdone : Completes fd [.switch] (switch ++ []) := .cons hs.succeeds .nil
    rw [List.append_nil] at hdone
    exact rolledBack_of_drop rfl hdone (.unshared e) hd
  | @made fd switch hs =>
    rw [answered_append, answered_called, answered_called, answered_logged, hs.answered]
    exact .made fd (.cons hs.succeeds (.cons .shared .nil))

theorem UdpRun.outcome {r : Except NetError Socket} (h : UdpRun events r) :
    SetupOutcome .udp false (SocketLayer.answered events) r := by
  cases h with
  | refused e => exact .refused e
  | unswitched fd e hs hd =>
    have hneeded : needed .udp false = [] ++ .switch :: [] := rfl
    rw [answered_append, answered_called, answered_logged, hs.answered]
    exact rolledBack_of_drop hneeded .nil hs.fails hd
  | @made fd switch hs =>
    rw [answered_append, answered_called, answered_logged, hs.answered]
    exact .made fd (.cons hs.succeeds .nil)

end Outcome

end Socket

/-! ## What becomes of the descriptor -/

/-- The settings of a descriptor that a constructor is concerned with. -/
structure Settings where
  nonBlocking : Bool
  reuseAddress : Bool
  deriving DecidableEq, Repr

namespace Settings

/-- The settings after an event on the descriptor. A descriptor is made with both of them off; what
its flags are is what the kernel tells of them or takes for them. -/
def next (fd : Descriptor) (x : Settings) : Event → Settings
  | e@(.called (.socket _ _) _) => if e.obtained? = some fd then ⟨false, false⟩ else x
  | .called (.getFlags g) (.ok flags) =>
    if g = fd then { x with nonBlocking := StatusFlags.isNonBlocking flags } else x
  | .called (.setFlags g flags) (.ok _) =>
    if g = fd then { x with nonBlocking := flags.isNonBlocking } else x
  | .called (.setWord g .reuseAddress value) (.ok _) =>
    if g = fd then { x with reuseAddress := value != 0 } else x
  | _ => x

/-- The settings after several events. -/
def after (fd : Descriptor) (x : Settings) (events : List Event) : Settings :=
  events.foldl (next fd) x

theorem after_append (fd : Descriptor) (x : Settings) (first second : List Event) :
    after fd x (first ++ second) = after fd (after fd x first) second := List.foldl_append

end Settings

/-- What a step that succeeds does to the settings. -/
def SetupStep.sets (x : Settings) : SetupStep → Settings
  | .switch => { x with nonBlocking := true }
  | .share => { x with reuseAddress := true }

section Steps

variable {fd : Descriptor} {step : SetupStep} {steps : List SetupStep} {events : List Event}
  {e : Errno}

theorem SetupStep.Succeeds.settings (h : step.Succeeds fd events) (x : Settings) :
    Settings.after fd x events = step.sets x := by
  cases h with
  | already h => simp [Settings.after, Settings.next, SetupStep.sets, h]
  | written h => simp [Settings.after, Settings.next, SetupStep.sets]
  | shared => simp [Settings.after, Settings.next, SetupStep.sets]

theorem Completes.settings (h : Completes fd steps events) (x : Settings) :
    Settings.after fd x events = steps.foldl SetupStep.sets x := by
  induction h generalizing x with
  | nil => rfl
  | cons hstep _ ih => rw [Settings.after_append, hstep.settings, ih, List.foldl_cons]

theorem SetupStep.Succeeds.neutral (h : step.Succeeds fd events) : Ledger.Neutral fd events := by
  have hnil := Ledger.neutral_nil fd
  cases h with
  | already h => exact Ledger.neutral_call rfl rfl rfl rfl hnil
  | written h =>
    refine Ledger.neutral_call rfl rfl rfl rfl ?_
    exact Ledger.neutral_call rfl rfl rfl rfl hnil
  | shared => exact Ledger.neutral_call rfl rfl rfl rfl hnil

theorem SetupStep.Fails.neutral (h : step.Fails fd e events) : Ledger.Neutral fd events := by
  have hnil := Ledger.neutral_nil fd
  cases h with
  | unread e => exact Ledger.neutral_call rfl rfl rfl rfl hnil
  | unwritten h e =>
    refine Ledger.neutral_call rfl rfl rfl rfl ?_
    exact Ledger.neutral_call rfl rfl rfl rfl hnil
  | unshared e => exact Ledger.neutral_call rfl rfl rfl rfl hnil

/-- The steps keep to the descriptor, and do not close it. -/
theorem Completes.neutral (h : Completes fd steps events) : Ledger.Neutral fd events := by
  induction h with
  | nil => exact Ledger.neutral_nil fd
  | cons hstep _ ih => exact Ledger.neutral_append hstep.neutral ih

end Steps

/-- What keeps to a descriptor does not touch another. -/
theorem Ledger.Neutral.untouched {fd g : Descriptor} {events : List Event}
    (h : Ledger.Neutral fd events) (hne : g ≠ fd) : ∀ e ∈ events, ¬ e.Touches g := by
  intro e he
  have hstays := (h (.event e) (List.mem_map_of_mem he)).1
  rintro (hnew | hused)
  · cases hstays.acquired.symm.trans hnew
  · exact hne (hstays.used g hused)

/-- Neither does making the descriptor before that, and closing it afterwards. -/
theorem untouched_of_neutral {transport : Transport} {fd g : Descriptor} {events : List Event}
    (h : Ledger.Neutral fd events) (reply : Reply (.close fd)) (hne : g ≠ fd) :
    ∀ e ∈ .called (.socket transport true) (.ok fd) :: (events ++ [.called (.close fd) reply]),
      ¬ e.Touches g := by
  have hfd : ¬ some fd = some g := fun hsame => hne (Option.some.inj hsame).symm
  intro e he
  rcases List.mem_cons.mp he with rfl | he
  · exact not_or.mpr ⟨hfd, nofun⟩
  rcases List.mem_append.mp he with he | he
  · exact h.untouched hne e he
  · rw [List.mem_singleton.mp he]
    exact not_or.mpr ⟨nofun, hfd⟩

/-- After a close the descriptor is free, whatever the reply. -/
theorem DescriptorTable.after_close (t : DescriptorTable) (events : List Event) {fd : Descriptor}
    (reply : Reply (.close fd)) :
    t.after (booked (events ++ [.called (.close fd) reply])) fd = none := by
  rw [booked_append, after_append]
  show (t.after (booked events)).afterEvent (.called (.close fd) reply) fd = none
  cases reply <;> simp [afterEvent]

/-- Log records do not change the table. -/
theorem DescriptorTable.after_answered (t : DescriptorTable) (events : List Event) :
    t.after (booked (answered events)) = t.after (booked events) := by
  induction events generalizing t with
  | nil => rfl
  | cons e rest ih =>
    cases e with
    | called c reply => exact ih (t.afterEvent (.called c reply))
    | logged entry => exact ih t

theorem DescriptorTable.follows_answered {rule : Rule} {t : DescriptorTable} {events : List Event}
    (h : t.Follows rule (booked events)) : t.Follows rule (booked (answered events)) := by
  induction events generalizing t with
  | nil => trivial
  | cons e rest ih =>
    cases e with
    | called c reply => exact ⟨h.1, ih h.2⟩
    | logged entry => exact ih h.2

namespace SetupOutcome

variable {transport : Transport} {blocking : Bool} {calls : List Event}
  {r : Except NetError Socket}

/-- There is a handle if and only if the descriptor was made and every step succeeded. -/
theorem ok_iff (h : SetupOutcome transport blocking calls r) :
    (∃ s, r = .ok s) ↔ ∃ fd setup, calls = .called (.socket transport true) (.ok fd) :: setup ∧
      Completes fd (needed transport blocking) setup := by
  constructor
  · rintro ⟨s, rfl⟩
    cases h with
    | made fd hsetup => exact ⟨fd, _, rfl, hsetup⟩
  · rintro ⟨fd, setup, hcalls, hsetup⟩
    cases h with
    | made fd' _ => exact ⟨_, rfl⟩
    | refused e => cases hcalls
    | @rolledBack fd' before later step e done failing _ _ _ reply =>
      -- steps that succeed close nothing
      obtain ⟨-, hrest⟩ := List.cons.inj hcalls
      have hmem : Event.called (.close fd') reply ∈ setup := by
        rw [← hrest]
        simp
      cases (hsetup.neutral _ (List.mem_map_of_mem hmem)).1.closed

/-- A handle is fresh, in the mode that it was asked for. -/
theorem fresh {s : Socket} (h : SetupOutcome transport blocking calls (.ok s)) :
    s.state = .created ∧ s.transport = transport ∧ s.nonBlocking = !blocking := by
  cases h with
  | made fd hsetup => exact ⟨rfl, rfl, rfl⟩

/-- So is its descriptor. -/
theorem settings {s : Socket} (h : SetupOutcome transport blocking calls (.ok s)) (x : Settings) :
    Settings.after s.descriptor x calls = ⟨!blocking, !blocking && transport = .tcp⟩ := by
  cases h with
  | @made fd setup hsetup =>
    have hfresh : Settings.next fd x (.called (.socket transport true) (.ok fd)) = ⟨false, false⟩ :=
      if_pos rfl
    rw [Settings.after, List.foldl_cons, hfresh, ← Settings.after, hsetup.settings]
    cases transport <;> cases blocking <;> rfl

/-- Without a handle no descriptor stays open that was not open before. -/
theorem restores {error : NetError} (h : SetupOutcome transport blocking calls (.error error))
    {t : DescriptorTable} (hf : t.Follows DescriptorTable.OpensUnused (booked calls)) :
    t.after (booked calls) = t := by
  cases h with
  | refused e => rfl
  | @rolledBack fd before later step e done failing _ hdone hfails reply =>
    have hneutral := Ledger.neutral_append hdone.neutral hfails.neutral
    rw [← List.append_assoc] at hf ⊢
    funext g
    by_cases hg : g = fd
    · subst hg
      have hfree : t g = none := hf.1 g rfl
      rw [hfree]
      exact DescriptorTable.after_close t (.called (.socket transport true) (.ok g) :: _) reply
    · exact DescriptorTable.after_untouched (untouched_of_neutral hneutral reply hg)

end SetupOutcome

/-! ## Every constructor -/

namespace World

variable {σ : Type}

/-- What becomes of making a handle.

* `outcome` — the steps are taken in order up to the first that fails; a failure is told under the
  name of its step, after the one close of what was made, whatever the reply to that.
* `ok_iff` — there is a handle if and only if every step that it takes succeeded.
* `told` — the result is what the caller is told.
* `fresh` — a handle is created, of its transport, and tells the mode that was asked for.
* `settings` — its descriptor is in that mode, and can rebind an address if it is a non-blocking
  TCP one.
* `closes` — what was made without becoming a handle is closed, once, and nothing else is.
* `handles` — all other handles are as they were.
* `restored` — without a handle the open descriptors are those from before. -/
structure AllOrNothing (k : Kernel σ) (w : World σ) (c : Command) (transport : Transport)
    (blocking : Bool) (run : Run (Except NetError Socket) σ) : Prop where
  outcome : SetupOutcome transport blocking (answered run.events) run.result
  ok_iff : (∃ s, run.result = .ok s) ↔ ∃ fd setup,
    answered run.events = .called (.socket transport true) (.ok fd) :: setup ∧
      Completes fd (needed transport blocking) setup
  told : w.observe k c = ⟨.made run.result, booked run.events⟩
  fresh : ∀ s, run.result = .ok s →
    s.state = .created ∧ s.transport = transport ∧ s.nonBlocking = !blocking
  settings : ∀ s, run.result = .ok s → ∀ x,
    Settings.after s.descriptor x (answered run.events) =
      ⟨!blocking, !blocking && transport = .tcp⟩
  closes : (w.effect k c).entries.filterMap Entry.closed? =
    match run.result with
    | .ok _ => []
    | .error _ => (w.effect k c).entries.filterMap Entry.acquired?
  handles : (w.exec k c).sockets =
    match run.result with
    | .ok s => s :: w.sockets
    | .error _ => w.sockets
  restored : ∀ error, run.result = .error error →
    w.table.Follows DescriptorTable.OpensUnused (w.effect k c).entries →
      (w.exec k c).table = w.table

/-- A command that runs a constructor makes all or nothing if the constructor does. -/
theorem allOrNothing_of_enrol {k : Kernel σ} {w : World σ} {c : Command} {transport : Transport}
    {blocking : Bool} {run : Run (Except NetError Socket) σ}
    (heffect : w.effect k c = w.enrol (.made transport) run)
    (hreport : w.report k c = .made run.result)
    (houtcome : SetupOutcome transport blocking (answered run.events) run.result)
    (hconstructs : Socket.Constructs run.events run.result) :
    AllOrNothing k w c transport blocking run := by
  have hentries : (w.effect k c).entries = booked run.events := by
    rw [heffect]
    rfl
  refine ⟨houtcome, houtcome.ok_iff, ?told, ?fresh, ?settings, ?closes, ?handles, ?restored⟩
  case told => rw [observe, hreport, hentries]
  case fresh =>
    intro s hs
    rw [hs] at houtcome
    exact houtcome.fresh
  case settings =>
    intro s hs
    rw [hs] at houtcome
    exact houtcome.settings
  case closes =>
    rw [hentries, hconstructs.closed]
    cases run.result <;> rfl
  case handles =>
    show (w.effect k c).live.map LiveSocket.socket = _
    rw [heffect]
    exact sockets_enrol w (.made transport) run
  case restored =>
    intro error herror hf
    rw [herror] at houtcome
    show w.table.after (w.effect k c).entries = w.table
    rw [hentries] at hf ⊢
    rw [← DescriptorTable.after_answered]
    exact houtcome.restores (DescriptorTable.follows_answered hf)

/-- **A constructor makes all or nothing, and tells of the step that failed**, for all replies of
the kernel, in every world. -/
theorem constructors_all_or_nothing (k : Kernel σ) (w : World σ) :
    (∀ blocking, AllOrNothing k w (.makeTcp blocking) .tcp blocking
      ((Socket.tcp blocking).run k w.kernel)) ∧
    AllOrNothing k w .makeUdp .udp false (Socket.udp.run k w.kernel) := by
  constructor
  · intro blocking
    have hrun := (Socket.tcp_runs blocking).run k w.kernel
    exact allOrNothing_of_enrol rfl rfl hrun.outcome hrun.constructs
  · have hrun := Socket.udp_runs.run k w.kernel
    exact allOrNothing_of_enrol rfl rfl hrun.outcome hrun.constructs

end World
end SocketLayer
