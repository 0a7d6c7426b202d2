import SocketLayer.Proofs.World

/-!
# The lifecycle is the replay of the kernel's answers

A handle's history is everything that happened in the operations on it. A successful `bind`,
`listen` or `connect`, or a pending `connect`, is a move with a target; the position of the handle
is the target of the latest move. Each of these calls is made only where the position allows it, so
the position goes forward, and a handle that listens or is connected stays so.

* `replay` — the position that a history leads to.
* `Orderly` — every lifecycle call of a history is permitted at its moment.
* `PerformRun.moves` — what an operation adds to the history.
* `alive_run` — the history of every live handle is orderly and leads to its position.
* `lifecycle_replayed` — what that says of every run.
-/

set_option autoImplicit false

namespace SocketLayer

/-! ## Moves -/

/-- Where an event moves the handle, if it does. -/
def Event.target? : Event → Option Lifecycle
  | .called (.bind ..) (.ok _) => some .bound
  | .called (.listen ..) (.ok _) => some .listening
  | .called (.connect ..) (.ok _) => some .connected
  | .called (.connect ..) (.error e) => if e = .inProgress then some .connected else none
  | _ => none

/-- A move is made by one of three calls, each to a position of its own. -/
theorem Event.target_cases {e : Event} {goal : Lifecycle} (h : e.target? = some goal) :
    (∃ fd address, e.call? = some (.bind fd address) ∧ goal = .bound) ∨
      (∃ fd backlog, e.call? = some (.listen fd backlog) ∧ goal = .listening) ∨
      ∃ fd address, e.call? = some (.connect fd address) ∧ goal = .connected := by
  rcases e with ⟨call, reply⟩ | entry
  · cases call with
    | bind fd address =>
      rcases reply with e | _
      · cases h
      · exact .inl ⟨fd, address, rfl, (Option.some.inj h).symm⟩
    | listen fd backlog =>
      rcases reply with e | _
      · cases h
      · exact .inr (.inl ⟨fd, backlog, rfl, (Option.some.inj h).symm⟩)
    | connect fd address =>
      refine .inr (.inr ⟨fd, address, rfl, ?_⟩)
      rcases reply with e | _
      · simp only [Event.target?] at h
        split at h
        · exact (Option.some.inj h).symm
        · cases h
      · exact (Option.some.inj h).symm
    | _ => cases h
  · cases h

/-- The calls that the position decides on. -/
def SystemCall.isLifecycle : SystemCall → Bool
  | .bind .. | .listen .. | .accept .. | .connect .. => true
  | _ => false

/-- Whether a position allows a call. -/
def SystemCall.Permitted (transport : Transport) (state : Lifecycle) : SystemCall → Prop
  | .bind .. => state = .created
  | .listen .. => transport = .tcp ∧ state ≠ .listening ∧ state ≠ .connected
  | .accept .. => state = .listening
  | .connect .. => state ≠ .listening
  | _ => True

namespace Lifecycle

/-- How far a position is. -/
def rank : Lifecycle → Nat
  | .created => 0
  | .bound => 1
  | .listening | .connected => 2

/-- Forward, to a position that is farther; listening and connected are ends. -/
instance : LE Lifecycle := ⟨fun a b => a = b ∨ a.rank < b.rank⟩

theorem le_refl (a : Lifecycle) : a ≤ a := .inl rfl

theorem le_trans {a b c : Lifecycle} (h : a ≤ b) (h' : b ≤ c) : a ≤ c := by
  rcases h with rfl | h
  · exact h'
  · rcases h' with rfl | h'
    · exact .inr h
    · exact .inr (Nat.lt_trans h h')

/-- A position that no move leads away from. -/
def Final (a : Lifecycle) : Prop := a = .listening ∨ a = .connected

theorem Final.eq_of_le {a b : Lifecycle} (h : a.Final) (hle : a ≤ b) : b = a := by
  rcases hle with rfl | hlt
  · rfl
  · rcases h with rfl | rfl
    · cases b <;> simp [rank] at hlt
    · cases b <;> simp [rank] at hlt

end Lifecycle

/-- The position after some events: the target of the latest move, or where the handle started. -/
def replay (start : Lifecycle) (events : List Event) : Lifecycle :=
  (events.filterMap Event.target?).getLastD start

@[simp] theorem replay_nil (start : Lifecycle) : replay start [] = start := rfl

theorem replay_cons (start : Lifecycle) (e : Event) (rest : List Event) :
    replay start (e :: rest) = replay (e.target?.getD start) rest := by
  unfold replay
  cases h : e.target? with
  | none => rw [List.filterMap_cons_none h, Option.getD_none]
  | some goal =>
    rw [List.filterMap_cons_some h, Option.getD_some, List.getLastD_cons]

theorem replay_append (start : Lifecycle) (first second : List Event) :
    replay start (first ++ second) = replay (replay start first) second := by
  induction first generalizing start with
  | nil => rfl
  | cons e rest ih => rw [List.cons_append, replay_cons, replay_cons, ih]

/-- A pending handshake counts, a refused one does not. -/
example (a : SocketAddress) :
    replay .created [.called (.bind ⟨3⟩ a) (.ok ()), .called (.connect ⟨3⟩ a) (.error .inProgress),
      .called (.connect ⟨3⟩ a) (.error .connectionRefused)] = .connected := rfl

/-- Every lifecycle call of the events is permitted at its moment. -/
def Orderly (transport : Transport) : Lifecycle → List Event → Prop
  | _, [] => True
  | state, e :: rest =>
    (∀ call, e.call? = some call → call.Permitted transport state) ∧
      Orderly transport (e.target?.getD state) rest

section Replay

variable {transport : Transport} {start : Lifecycle} {events : List Event}

theorem orderly_append {first second : List Event} :
    Orderly transport start (first ++ second) ↔
      Orderly transport start first ∧ Orderly transport (replay start first) second := by
  induction first generalizing start with
  | nil => exact ⟨fun h => ⟨trivial, h⟩, fun h => h.2⟩
  | cons e rest ih =>
    rw [replay_cons]
    show _ ∧ Orderly transport (e.target?.getD start) (rest ++ second) ↔
      (_ ∧ Orderly transport (e.target?.getD start) rest) ∧ _
    rw [ih, and_assoc]

/-- A permitted move goes forward. -/
theorem target_forward {e : Event} {goal : Lifecycle}
    (h : ∀ call, e.call? = some call → call.Permitted transport start)
    (htarget : e.target? = some goal) : start ≤ goal := by
  rcases e.target_cases htarget with ⟨fd, address, hcall, rfl⟩ | ⟨fd, backlog, hcall, rfl⟩ |
    ⟨fd, address, hcall, rfl⟩
  · have hcreated : start = .created := h _ hcall
    rw [hcreated]
    exact .inr (by decide)
  · obtain ⟨-, hl, hc⟩ := h _ hcall
    cases start with
    | created => exact .inr (by decide)
    | bound => exact .inr (by decide)
    | listening => exact .inl rfl
    | connected => exact (hc rfl).elim
  · have hl : start ≠ .listening := h _ hcall
    cases start with
    | created => exact .inr (by decide)
    | bound => exact .inr (by decide)
    | listening => exact (hl rfl).elim
    | connected => exact .inl rfl

/-- An orderly history goes forward. -/
theorem replay_forward (h : Orderly transport start events) : start ≤ replay start events := by
  induction events generalizing start with
  | nil => exact Lifecycle.le_refl start
  | cons e rest ih =>
    rw [replay_cons]
    have hrest : e.target?.getD start ≤ replay (e.target?.getD start) rest := ih h.2
    cases htarget : e.target? with
    | none =>
      rw [htarget] at hrest
      exact hrest
    | some goal =>
      rw [htarget] at hrest
      exact Lifecycle.le_trans (target_forward h.1 htarget) hrest

/-- An orderly history stays at an end. -/
theorem replay_final (h : Orderly transport start events) (hfinal : start.Final) :
    replay start events = start :=
  hfinal.eq_of_le (replay_forward h)

/-- A move of an orderly history leads at most to where the history leads. -/
theorem target_le_replay {e : Event} {goal : Lifecycle} (h : Orderly transport start events)
    (he : e ∈ events) (htarget : e.target? = some goal) : goal ≤ replay start events := by
  obtain ⟨before, after, rfl⟩ := List.append_of_mem he
  obtain ⟨-, -, hafter⟩ := orderly_append.mp h
  have hmove : e.target?.getD (replay start before) = goal := by rw [htarget, Option.getD_some]
  rw [hmove] at hafter
  rw [replay_append, replay_cons, hmove]
  exact replay_forward hafter

/-- A position is where the handle started or the target of a move. -/
theorem replay_eq_or_target (start : Lifecycle) (events : List Event) :
    replay start events = start ∨ ∃ e ∈ events, e.target? = some (replay start events) := by
  induction events generalizing start with
  | nil => exact .inl rfl
  | cons e rest ih =>
    rw [replay_cons]
    rcases ih (e.target?.getD start) with hsame | ⟨later, hlater, htarget⟩
    · rw [hsame]
      cases htarget : e.target? with
      | none => exact .inl rfl
      | some goal => exact .inr ⟨e, List.mem_cons_self .., htarget⟩
    · exact .inr ⟨later, List.mem_cons_of_mem e hlater, htarget⟩

/-- An end is reached by starting there or by moving there. -/
theorem replay_eq_final_iff {goal : Lifecycle} (h : Orderly transport start events)
    (hfinal : goal.Final) :
    replay start events = goal ↔ start = goal ∨ ∃ e ∈ events, e.target? = some goal := by
  constructor
  · rintro rfl
    exact (replay_eq_or_target start events).imp_left Eq.symm
  -- from an end the rest of the history leads nowhere else
  · rintro (rfl | ⟨e, he, htarget⟩)
    · exact replay_final h hfinal
    · exact hfinal.eq_of_le (target_le_replay h he htarget)

/-- Only a TCP handle moves to listening. -/
theorem tcp_of_listening {e : Event} (h : Orderly transport start events) (he : e ∈ events)
    (htarget : e.target? = some .listening) : transport = .tcp := by
  obtain ⟨before, after, rfl⟩ := List.append_of_mem he
  obtain ⟨-, hpermitted, -⟩ := orderly_append.mp h
  rcases e.target_cases htarget with ⟨fd, address, hcall, hgoal⟩ | ⟨fd, backlog, hcall, -⟩ |
    ⟨fd, address, hcall, hgoal⟩
  · cases hgoal
  · exact (hpermitted _ hcall).1
  · cases hgoal

/-! ## What an operation adds to the history -/

/-- Events that are orderly from one position and lead to another. -/
structure Moves (transport : Transport) (start : Lifecycle) (events : List Event)
    (finish : Lifecycle) : Prop where
  orderly : Orderly transport start events
  replays : replay start events = finish

theorem Moves.append {middle finish : Lifecycle} {first second : List Event}
    (h : Moves transport start first middle) (h' : Moves transport middle second finish) :
    Moves transport start (first ++ second) finish := by
  obtain ⟨horderly, rfl⟩ := h
  refine ⟨orderly_append.mpr ⟨horderly, h'.orderly⟩, ?_⟩
  rw [replay_append, h'.replays]

/-- Events without lifecycle calls. -/
def Still (events : List Event) : Prop :=
  ∀ e ∈ events, ∀ call, e.call? = some call → call.isLifecycle = false

theorem target_of_still {e : Event} (h : ∀ call, e.call? = some call → call.isLifecycle = false) :
    e.target? = none := by
  rcases e with ⟨call, reply⟩ | entry
  · have hcall := h call rfl
    cases call with
    | bind | listen | accept | connect => cases hcall
    | _ => rfl
  · rfl

theorem SystemCall.permitted_of_still {c : SystemCall} (h : c.isLifecycle = false)
    (transport : Transport) (start : Lifecycle) : c.Permitted transport start := by
  cases c with
  | bind | listen | accept | connect => cases h
  | _ => trivial

theorem moves_of_still (transport : Transport) (start : Lifecycle) (h : Still events) :
    Moves transport start events start := by
  induction events with
  | nil => exact ⟨trivial, rfl⟩
  | cons e rest ih =>
    obtain ⟨he, hrest⟩ := List.forall_mem_cons.mp h
    have hmoves := ih hrest
    have hstay := target_of_still he
    have hpermitted := fun call hcall =>
      SystemCall.permitted_of_still (he call hcall) transport start
    refine ⟨⟨hpermitted, ?_⟩, ?_⟩
    · rw [hstay]
      exact hmoves.orderly
    · rw [replay_cons, hstay]
      exact hmoves.replays

theorem still_nil : Still [] := nofun

theorem still_log (entry : LogRecord) : Still [.logged entry] := by
  intro e he call hcall
  rw [List.mem_singleton.mp he] at hcall
  cases hcall

/-- Making and ending a handle takes no call of the lifecycle. -/
theorem still_of_setup (h : AllCalls SystemCall.IsSetup events) : Still events := by
  intro e he call hcall
  have hsetup := h e he call hcall
  cases call with
  | bind | listen | accept | connect => cases hsetup
  | _ => rfl

/-- Plain calls are none of the lifecycle. -/
theorem still_of_plain {fd : Descriptor} {poller : Option Descriptor}
    (h : AllCalls (·.PlainOn fd poller) events) : Still events := by
  intro e he call hcall
  have hplain := (h e he call hcall).plain
  cases call with
  | bind | listen | accept | connect => cases hplain
  | _ => rfl

/-- A permitted call moves to its target. -/
theorem moves_call {c : SystemCall} (h : c.Permitted transport start) (reply : Reply c) :
    Moves transport start [.called c reply] ((Event.called c reply).target?.getD start) := by
  refine ⟨⟨?_, trivial⟩, replay_cons start _ []⟩
  rintro _ ⟨⟩
  exact h

/-- A permitted call and the record of its move. -/
theorem moves_call_log {c : SystemCall} (h : c.Permitted transport start) (reply : Reply c)
    (entry : LogRecord) :
    Moves transport start [.called c reply, .logged entry]
      ((Event.called c reply).target?.getD start) :=
  (moves_call h reply).append (moves_of_still _ _ (still_log entry))

namespace Socket

/-- A fresh TCP handle is created, and its setup made no lifecycle call. -/
theorem TcpRun.moves {blocking : Bool} {s : Socket} (h : TcpRun blocking events (.ok s)) :
    s.transport = .tcp ∧ Moves .tcp .created events s.state := by
  have hstill := still_of_setup h.setup
  cases h with
  | blocking fd => exact ⟨rfl, moves_of_still _ _ hstill⟩
  | made fd hs => exact ⟨rfl, moves_of_still _ _ hstill⟩

/-- A fresh UDP handle is created, and its setup made no lifecycle call. -/
theorem UdpRun.moves {s : Socket} (h : UdpRun events (.ok s)) :
    s.transport = .udp ∧ Moves .udp .created events s.state := by
  have hstill := still_of_setup h.setup
  cases h with
  | made fd hs => exact ⟨rfl, moves_of_still _ _ hstill⟩

/-- What an operation does to the position of its handle. -/
structure Steps (s : Socket) (events : List Event) (t : Socket) : Prop where
  transport : t.transport = s.transport
  moves : Moves s.transport s.state events t.state

theorem steps_of_still {s : Socket} (h : Still events) : Steps s events s :=
  ⟨rfl, moves_of_still _ _ h⟩

theorem ConfigureRun.steps {s : Socket} {r : Except NetError Unit × Socket}
    (h : ConfigureRun s events r) : Steps s events r.2 := by
  cases h with
  | failed h => exact steps_of_still (still_of_setup h.setup)
  | switched h => exact ⟨rfl, moves_of_still _ _ (still_of_setup h.setup)⟩

theorem TryBindRun.steps {s : Socket} {address : SocketAddress} {r : Except NetError Unit × Socket}
    (h : TryBindRun s address events r) : Steps s events r.2 := by
  cases h with
  | stopped h => exact steps_of_still still_nil
  | failed h e =>
    refine ⟨rfl, moves_call ?_ _⟩
    exact h
  | moved h =>
    refine ⟨rfl, moves_call_log ?_ _ _⟩
    exact h

theorem BindRun.steps {s : Socket} {address : SocketAddress} {r : Bool × Socket}
    (h : BindRun s address events r) : Steps s events r.2 := by
  cases h with
  | refused h =>
    obtain ⟨htransport, hmoves⟩ := h.steps
    exact ⟨htransport, hmoves.append (moves_of_still _ _ (still_log _))⟩
  | moved h => exact h.steps

/-- The guard of listening is what a position allows. -/
theorem mayListen_iff (s : Socket) :
    s.mayListen = true ↔ s.transport = .tcp ∧ s.state ≠ .listening ∧ s.state ≠ .connected := by
  rcases s with ⟨fd, transport, state, nonBlocking⟩
  cases transport <;> cases state <;> simp [mayListen]

theorem ListenRun.steps {s : Socket} {backlog : Int32} {r : Except NetError Unit × Socket}
    (h : ListenRun s backlog events r) : Steps s events r.2 := by
  cases h with
  | stopped h => exact steps_of_still still_nil
  | failed h e =>
    refine ⟨rfl, moves_call ?_ _⟩
    exact (mayListen_iff s).mp h
  | moved h =>
    refine ⟨rfl, moves_call_log ?_ _ _⟩
    exact (mayListen_iff s).mp h

theorem AcceptRun.steps {s : Socket} {r : Except NetError (Option Socket)}
    (h : AcceptRun s events r) : Steps s events s := by
  cases h with
  | stopped h => exact steps_of_still still_nil
  | none h =>
    refine ⟨rfl, moves_call ?_ _⟩
    exact h
  | failed h e he =>
    refine ⟨rfl, moves_call ?_ _⟩
    exact h
  | accepted h fd =>
    refine ⟨rfl, moves_call_log ?_ _ _⟩
    exact h

theorem ConnectRun.steps {s : Socket} {address : SocketAddress}
    {r : Except NetError Connect × Socket} (h : ConnectRun s address events r) :
    Steps s events r.2 := by
  cases h with
  | stopped h => exact steps_of_still still_nil
  | failed h e he =>
    have hcall : (SystemCall.connect s.descriptor address).Permitted s.transport s.state := h
    have hnone : (Event.called (.connect s.descriptor address) (.error e)).target? = .none :=
      if_neg he
    have hmoves := moves_call hcall (.error e)
    rw [hnone] at hmoves
    exact ⟨rfl, hmoves⟩
  | established h =>
    refine ⟨rfl, moves_call_log ?_ _ _⟩
    exact h
  | inProgress h =>
    refine ⟨rfl, moves_call_log ?_ _ _⟩
    exact h

/-- **An operation moves its handle by permitted calls only**, to the target of the last of them. -/
theorem PerformRun.steps {s : Socket} {operation : Operation} {r : operation.Result × Socket}
    (h : PerformRun s operation events r) : Steps s events r.2 := by
  cases h with
  | configure h => exact h.steps
  | tryBind h => exact h.steps
  | bind h => exact h.steps
  | bindIpv4 h => exact h.steps
  | listen h => exact h.steps
  | accept h => exact h.steps
  | connect h => exact h.steps
  | plain hop h => exact steps_of_still (still_of_plain h)

end Socket
end Replay

/-! ## Worlds -/

/-- The history of a handle is orderly and leads to its position. -/
structure LiveSocket.Alive (h : LiveSocket) : Prop where
  transport : h.socket.transport = h.origin.transport
  moves : Moves h.origin.transport h.origin.state h.history h.socket.state

namespace World

variable {σ : Type}

/-- A fresh handle has no history to speak of, and every operation adds orderly events. -/
theorem kept_alive : Kept LiveSocket.Alive where
  tcp h := ⟨h.moves.1, h.moves.2⟩
  udp h := ⟨h.moves.1, h.moves.2⟩
  adopted fd transport state := ⟨rfl, trivial, rfl⟩
  accepted fd nonBlocking := ⟨rfl, trivial, rfl⟩
  performed h operation halive := by
    obtain ⟨htransport, hmoves⟩ := halive
    refine (Socket.perform_runs h.socket operation).mono fun events r hrun => ?_
    obtain ⟨hkept, hsteps⟩ := hrun.steps
    rw [htransport] at hsteps
    exact ⟨hkept.trans htransport, hmoves.append hsteps⟩

/-- **The history of every live handle is orderly and leads to its position**, in every run. -/
theorem alive_run (k : Kernel σ) (kernel : σ) (table : DescriptorTable)
    (commands : List Command) : ∀ h ∈ ((start kernel table).run k commands).live, h.Alive :=
  kept_alive.run k kernel table commands

/-! ## Every run -/

/-- The lifecycle of all live handles.

* `replays` — the position is the target of the latest `bind`, `listen` or `connect` that succeeded
  or, for `connect`, is pending; without one it is where the handle started.
* `forward` — at no moment has it gone back.
* `settled` — once listening or connected, it has stayed so.
* `exclusive` — a handle that ever began to listen has no successful or pending `connect`.
* `udp` — a handle made for UDP does not listen.
* `accepted` — an accepted handle is connected and never began to listen. -/
structure Replayed (w : World σ) : Prop where
  replays : ∀ h ∈ w.live, h.socket.state = replay h.origin.state h.history
  forward : ∀ h ∈ w.live, ∀ past present future, h.history = past ++ present ++ future →
    replay h.origin.state past ≤ replay h.origin.state (past ++ present)
  settled : ∀ h ∈ w.live, ∀ past present future, h.history = past ++ present ++ future →
    (replay h.origin.state past).Final →
    replay h.origin.state (past ++ present) = replay h.origin.state past
  exclusive : ∀ h ∈ w.live, ∀ e ∈ h.history, ∀ e' ∈ h.history,
    e.target? = some .listening → e'.target? ≠ some .connected
  udp : ∀ h ∈ w.live, h.origin = .made .udp → h.socket.state ≠ .listening
  accepted : ∀ h ∈ w.live, h.origin = .accepted →
    h.socket.state = .connected ∧ ∀ e ∈ h.history, e.target? ≠ some .listening

/-- **The lifecycle is the replay of the kernel's answers, in every run**: any commands in any
order, any kernel. -/
theorem lifecycle_replayed (k : Kernel σ) (kernel : σ) (table : DescriptorTable)
    (commands : List Command) : Replayed ((start kernel table).run k commands) := by
  have halive := alive_run k kernel table commands
  refine ⟨fun h hlive => ?_, fun h hlive past present future hsplit => ?_,
    fun h hlive past present future hsplit hfinal => ?_, fun h hlive e he e' he' hl hc => ?_,
    fun h hlive horigin hl => ?_, fun h hlive horigin => ?_⟩
  · exact (halive h hlive).moves.replays.symm
  · have horderly := (halive h hlive).moves.orderly
    rw [hsplit, List.append_assoc] at horderly
    obtain ⟨-, hrest⟩ := orderly_append.mp horderly
    rw [replay_append]
    exact replay_forward (orderly_append.mp hrest).1
  · have horderly := (halive h hlive).moves.orderly
    rw [hsplit, List.append_assoc] at horderly
    obtain ⟨-, hrest⟩ := orderly_append.mp horderly
    rw [replay_append]
    exact replay_final (orderly_append.mp hrest).1 hfinal
  · have horderly := (halive h hlive).moves.orderly
    have hlistening := (replay_eq_final_iff horderly (.inl rfl)).mpr (.inr ⟨e, he, hl⟩)
    have hconnected := (replay_eq_final_iff horderly (.inr rfl)).mpr (.inr ⟨e', he', hc⟩)
    rw [hlistening] at hconnected
    cases hconnected
  · obtain ⟨horderly, hreplays⟩ := (halive h hlive).moves
    rw [horigin] at horderly hreplays
    rw [hl] at hreplays
    rcases (replay_eq_final_iff horderly (.inl rfl)).mp hreplays with hstart | ⟨e, he, htarget⟩
    · cases hstart
    · cases tcp_of_listening horderly he htarget
  · obtain ⟨horderly, hreplays⟩ := (halive h hlive).moves
    rw [horigin] at horderly hreplays
    have hconnected : replay .connected h.history = .connected := replay_final horderly (.inr rfl)
    refine ⟨hreplays.symm.trans hconnected, fun e he htarget => ?_⟩
    have hlistening := (replay_eq_final_iff horderly (.inl rfl)).mpr (.inr ⟨e, he, htarget⟩)
    rw [Origin.state, hconnected] at hlistening
    cases hlistening

end World
end SocketLayer
