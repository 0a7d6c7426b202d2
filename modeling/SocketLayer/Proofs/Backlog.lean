import SocketLayer.Proofs.Frame
import SocketLayer.Proofs.Ownership

/-!
# Accepting loses and doubles no connection

A listening descriptor is a `Backlog`: a queue of connections that wait to be accepted.
`Backlog.model` says how a kernel keeps it: connections arrive at any time, an accept takes the head
of the queue under a number of its own, would block on an empty queue only, and takes nothing when
it fails. Between the queue and the callers stands `accept`, on whatever handles and in whatever
order.

* `Backlog.conserved` — what waits and what arrives is what is taken and what still waits.
* `Backlog.returned` — the connections behind the handles that callers are given.
* `Accepts` — what one accept tells and leaves, by the queue that it meets.
* `World.accepts_in_order` — every run over a kernel that keeps the backlog hands its connections
  out in order.
-/

set_option autoImplicit false

namespace SocketLayer

/-- A connection that a peer asked for. -/
structure Connection where
  number : Nat
  deriving DecidableEq, Repr

/-- A listening descriptor as long as it is open, the connections that wait to be accepted from it,
the connection behind each descriptor that was accepted, and the number of calls so far. -/
structure Backlog where
  listener : Option Descriptor
  pending : List Connection
  behind : Descriptor → Option Connection
  clock : Nat

/-- The listener and the new handle of a report that tells of an accepted connection. -/
def Report.accepted? : Report → Option (Socket × Socket)
  | .performed s .accept (.ok (some new)) => some (s, new)
  | _ => none

namespace Backlog

/-! ## How a kernel keeps a backlog -/

/-- The kernel's reply to an accept on the listener. -/
def accepting? (b : Backlog) : Event → Option (Except Errno Descriptor)
  | .called (.accept fd _ _) reply => if b.listener = some fd then some reply else none
  | _ => none

/-- The connection that an event takes out of the queue. -/
def taking (b : Backlog) (e : Event) : List Connection :=
  match b.accepting? e with
  | some (.ok _) => b.pending.take 1
  | _ => []

/-- What is behind each descriptor after an event: a number that is made anew stands for what was
taken, a number that is closed for nothing. -/
def behindAfter (b : Backlog) (e : Event) : Descriptor → Option Connection :=
  match e.obtained?, e.closed? with
  | some fd, _ => Function.update b.behind fd (b.taking e).head?
  | none, some fd => Function.update b.behind fd none
  | none, none => b.behind

/-- How an accept on the listener may be answered. -/
def Answers (b : Backlog) : Except Errno Descriptor → Prop
  | .ok _ => b.pending ≠ []
  | .error e => e = .wouldBlock → b.pending = []

instance (b : Backlog) : DecidablePred b.Answers
  | .ok _ => inferInstanceAs (Decidable (b.pending ≠ []))
  | .error e => inferInstanceAs (Decidable (e = .wouldBlock → b.pending = []))

section Arrivals

-- the connections that arrive right after each call, the calls being counted from the start
variable (arrivals : Nat → List Connection)

/-- The connections that arrive with an event. Between two calls nobody can tell when they do. -/
def arriving (b : Backlog) : Event → List Connection
  | .called .. => arrivals b.clock
  | .logged _ => []

/-- The backlog after an event. -/
def next (b : Backlog) (e : Event) : Backlog where
  listener := e.stillOpen b.listener
  pending := b.pending.drop (b.taking e).length ++ b.arriving arrivals e
  behind := b.behindAfter e
  clock := b.clock + (calls [e]).length

/-- How a kernel keeps a backlog: a successful accept takes the head of the queue, one that would
block meets an empty queue, and one may fail for any other reason at any time. -/
def model : KernelModel Backlog where
  next := next arrivals
  Fits b e := ∀ r ∈ b.accepting? e, b.Answers r

instance (b : Backlog) : DecidablePred ((model arrivals).Fits b) := fun e =>
  inferInstanceAs (Decidable (∀ r ∈ b.accepting? e, b.Answers r))

/-- The connections that arrive with events, in order. -/
def arrived : Backlog → List Event → List Connection := (model arrivals).collect (arriving arrivals)

/-- The connections that events take out of the queue, in order. -/
def taken : Backlog → List Event → List Connection := (model arrivals).collect taking

/-- The connection behind the handle that a report gives, if the listener was accepted from. -/
def returnedIn (b : Backlog) (report : Report) (events : List Event) : List Connection :=
  match report.accepted? with
  | some (s, new) =>
    if b.listener = some s.descriptor then
      (((model arrivals).after b events).behind new.descriptor).toList
    else []
  | none => []

/-- The connections behind the handles that callers are given, in order. -/
def returned : Backlog → List Observation → List Connection :=
  (model arrivals).collectSeen fun b o => b.returnedIn arrivals o.report o.events

/-- The replies of a kernel that is nothing but one backlog. It is out of descriptors once. -/
def reply (b : Backlog) : (c : SystemCall) → Reply c
  | .socket .. => .ok ⟨3⟩
  | .accept fd _ _ =>
    if b.listener = some fd then
      if b.clock = 7 then .error .tooManyOpenFiles
      else if b.pending = [] then .error .wouldBlock
      else .ok ⟨4 + b.clock⟩
    else .error .badDescriptor
  | .getFlags _ => .ok ⟨2⟩
  | .setFlags .. | .bind .. | .listen .. | .close _ => .ok ()
  | _ => .error .badDescriptor

/-- A kernel that is nothing but one backlog. -/
def kernel : Kernel Backlog where
  answer b c := (b.reply c, b.next arrivals (.called c (b.reply c)))

/-! ## What arrives and what is taken -/

variable {arrivals} {b : Backlog} {e : Event} {events : List Event}

@[simp] theorem accepting?_accept (b : Backlog) (fd : Descriptor) (nonBlocking closeOnExec : Bool)
    (reply : Reply (.accept fd nonBlocking closeOnExec)) :
    b.accepting? (.called (.accept fd nonBlocking closeOnExec) reply) =
      if b.listener = some fd then some reply else none := rfl

theorem taking_ok (b : Backlog) (fd new : Descriptor) (nonBlocking closeOnExec : Bool) :
    b.taking (.called (.accept fd nonBlocking closeOnExec) (.ok new)) =
      if b.listener = some fd then b.pending.take 1 else [] := by
  by_cases h : b.listener = some fd <;> simp [taking, h]

theorem taking_error (b : Backlog) (fd : Descriptor) (nonBlocking closeOnExec : Bool) (e : Errno) :
    b.taking (.called (.accept fd nonBlocking closeOnExec) (.error e)) = [] := by
  by_cases h : b.listener = some fd <;> simp [taking, h]

/-- Behind a new handle stands what its accept took. -/
theorem behindAfter_ok (b : Backlog) (fd new : Descriptor) (nonBlocking closeOnExec : Bool) :
    b.behindAfter (.called (.accept fd nonBlocking closeOnExec) (.ok new)) new =
      (b.taking (.called (.accept fd nonBlocking closeOnExec) (.ok new))).head? :=
  Function.update_self ..

/-- What is taken was at the head of the queue. -/
theorem taking_prefix (b : Backlog) (e : Event) : b.taking e <+: b.pending := by
  unfold taking
  split
  · exact List.take_prefix 1 b.pending
  · exact List.nil_prefix

/-- A log record changes nothing. -/
theorem next_log (b : Backlog) (entry : LogRecord) : b.next arrivals (.logged entry) = b := by
  obtain ⟨listener, pending, behind, clock⟩ := b
  cases listener <;> simp [next, taking, accepting?, arriving, behindAfter, Event.stillOpen,
    Event.obtained?, Event.closed?]

theorem after_call_log (b : Backlog) (c : SystemCall) (reply : Reply c) (entry : LogRecord) :
    (model arrivals).after b [.called c reply, .logged entry] =
      b.next arrivals (.called c reply) := next_log _ entry

/-- One event: what waits and what arrives is what is taken and what waits afterwards. -/
theorem conserved_step (b : Backlog) (e : Event) :
    b.pending ++ b.arriving arrivals e = b.taking e ++ (b.next arrivals e).pending := by
  have hsplit : b.taking e ++ b.pending.drop (b.taking e).length = b.pending :=
    List.prefix_iff_eq_append.mp (b.taking_prefix e)
  calc b.pending ++ b.arriving arrivals e
      = (b.taking e ++ b.pending.drop (b.taking e).length) ++ b.arriving arrivals e := by
        rw [hsplit]
    _ = b.taking e ++ (b.next arrivals e).pending := List.append_assoc _ _ _

/-- **No connection is lost, doubled or moved out of order in the queue.** -/
theorem conserved (h : (model arrivals).Follows b events) :
    b.pending ++ b.arrived arrivals events =
      b.taken arrivals events ++ ((model arrivals).after b events).pending :=
  KernelModel.conserved (fun b e _ => b.conserved_step e) h

/-! ## What the callers are given -/

/-- Events without an accept take nothing. -/
theorem taken_of_quiet (h : AllCalls (fun c => ∀ fd nonBlocking closeOnExec,
    c ≠ .accept fd nonBlocking closeOnExec) events) (b : Backlog) :
    b.taken arrivals events = [] := by
  induction events generalizing b with
  | nil => rfl
  | cons e rest ih =>
    obtain ⟨hcall, hrest⟩ := List.forall_mem_cons.mp h
    have hfirst : b.taking e = [] := by
      cases e with
      | logged entry => rfl
      | called c reply =>
        have hc := hcall c rfl
        cases c with
        | accept fd nonBlocking closeOnExec => exact (hc _ _ _ rfl).elim
        | _ => rfl
    show b.taking e ++ (b.next arrivals e).taken arrivals rest = []
    rw [hfirst, ih hrest, List.append_nil]

/-- Only `accept` makes an accept call. -/
theorem not_accept_of_issues {s : Socket} {operation : Operation} (hop : operation ≠ .accept)
    {c : SystemCall} (h : operation.Issues s c) (fd : Descriptor) (nonBlocking closeOnExec : Bool) :
    c ≠ .accept fd nonBlocking closeOnExec := by
  rintro rfl
  cases hplain : operation.isPlain with
  | true => cases (h.plainOn hplain).plain
  | false =>
    cases operation with
    | accept => exact hop rfl
    | configureNonBlocking => obtain h | ⟨flags, h⟩ := h <;> cases h
    | bind _ | bindIpv4 _ _ | tryBind _ | listen _ | connect _ => cases h
    | _ => cases hplain

theorem accepted?_performed {s : Socket} {operation : Operation} (hop : operation ≠ .accept)
    (r : operation.Result) : (Report.performed s operation r).accepted? = none := by
  cases operation with
  | accept => exact (hop rfl).elim
  | _ => rfl

theorem returned_of_quiet {report : Report} (hreport : report.accepted? = none)
    (h : AllCalls (fun c => ∀ fd nonBlocking closeOnExec,
      c ≠ .accept fd nonBlocking closeOnExec) events) (b : Backlog) :
    b.taken arrivals events = b.returnedIn arrivals report events := by
  rw [taken_of_quiet h, returnedIn, hreport]

/-- What an accept takes is behind the handle that it gives. -/
theorem acceptRun_returned {s : Socket} {r : Except NetError (Option Socket)}
    (h : Socket.AcceptRun s events r) (b : Backlog) :
    b.taken arrivals events = b.returnedIn arrivals (.performed s .accept r) events := by
  cases h with
  | stopped h => rfl
  | none h | failed h e he =>
    show b.taking _ ++ [] = []
    rw [taking_error, List.append_nil]
  | accepted h fd =>
    show b.taking (.called (.accept s.descriptor s.nonBlocking true) (.ok fd)) ++ ([] ++ []) =
      if b.listener = some s.descriptor then
        (b.behindAfter (.called (.accept s.descriptor s.nonBlocking true) (.ok fd)) fd).toList
      else []
    rw [behindAfter_ok, taking_ok, List.append_nil, List.append_nil]
    split
    · cases b.pending <;> rfl
    · rfl

end Arrivals
end Backlog

/-- How an accept on a listener goes, by the queue `b` that it meets, the queue `b'` that it leaves
and the live handles before and after: it gives the head of the queue, under a number that no handle
holds and in the listener's mode; or the kernel says that it would block, which it does on an empty
queue; or it fails, and queue and listener are left to the next accept. -/
inductive Accepts (arrivals : Nat → List Connection) (b b' : Backlog) (before after : List Socket)
    (s : Socket) (events : List Event) : Except NetError (Option Socket) → Prop
  | accepted {c : Connection} {rest : List Connection} (fd : Descriptor)
    (hreply : events = [.called (.accept s.descriptor s.nonBlocking true) (.ok fd),
      .logged (.accepted s.descriptor fd)])
    (hqueue : b.pending = c :: rest) (hbehind : b'.behind fd = some c)
    (hrest : b'.pending = rest ++ arrivals b.clock)
    (hfresh : fd ∉ before.map Socket.descriptor)
    (hlive : after = ⟨fd, .tcp, .connected, s.nonBlocking⟩ :: before) :
    Accepts arrivals b b' before after s events (.ok (some ⟨fd, .tcp, .connected, s.nonBlocking⟩))
  | none
    (hreply : events = [.called (.accept s.descriptor s.nonBlocking true) (.error .wouldBlock)])
    (hqueue : b.pending = []) (hlive : after = before) :
    Accepts arrivals b b' before after s events (.ok none)
  | failed (e : Errno) (he : e ≠ .wouldBlock)
    (hreply : events = [.called (.accept s.descriptor s.nonBlocking true) (.error e)])
    (hqueue : b'.pending = b.pending ++ arrivals b.clock) (hopen : b'.listener = b.listener)
    (hlive : after = before) :
    Accepts arrivals b b' before after s events (.error (.ofErrno "accept" e))

namespace World

variable {σ : Type} {k : Kernel σ} {arrivals : Nat → List Connection}

/-- What a command takes out of a backlog is behind the handle that it gives. -/
theorem observe_returned (k : Kernel σ) (w : World σ) (c : Command) (b : Backlog) :
    b.taken arrivals (w.observe k c).events =
      b.returnedIn arrivals (w.observe k c).report (w.observe k c).events := by
  have hsetup {report : Report} {events : List Event} (hreport : report.accepted? = none)
      (h : AllCalls SystemCall.IsSetup events) :
      ∀ b : Backlog, b.taken arrivals events = b.returnedIn arrivals report events := by
    refine Backlog.returned_of_quiet hreport (allCalls_mono h ?_)
    rintro c hc fd nonBlocking closeOnExec rfl
    exact hc
  refine observe_cases (motive := fun report events => ∀ b : Backlog,
    b.taken arrivals events = b.returnedIn arrivals report events) k w c
    (fun h => hsetup rfl h.setup) (fun h => hsetup rfl h.setup) (fun _ _ => rfl)
    (fun s operation => ?performed) (fun _ _ => rfl) (fun h => hsetup rfl h.setup)
    (fun h => hsetup rfl h.setup) (fun _ => rfl) b
  by_cases hop : operation = .accept
  · subst hop
    exact Socket.keeping_runs ((Socket.accept_runs s).mono fun _ _ => Backlog.acceptRun_returned)
  · refine (Socket.perform_issues s operation).mono fun events r h => ?_
    refine Backlog.returned_of_quiet (Backlog.accepted?_performed hop _) ?_
    exact allCalls_mono h fun c => Backlog.not_accept_of_issues hop

/-- One accept on a listener, over a kernel that keeps the backlog. -/
theorem accepts_of_follows {w : World σ} {b : Backlog} {index : Nat} {h : LiveSocket}
    (hcustody : w.Custody) (hi : w.live[index]? = some h) (hstate : h.socket.state = .listening)
    (hlistener : b.listener = some h.socket.descriptor)
    (hlawful : w.Lawful DescriptorTable.OpensUnused k (.perform index .accept))
    (hfollows : (Backlog.model arrivals).Follows b (w.observe k (.perform index .accept)).events) :
    let o := w.observe k (.perform index .accept)
    ∃ r, o.report = .performed h.socket .accept r ∧
      Accepts arrivals b ((Backlog.model arrivals).after b o.events) w.sockets
        (w.exec k (.perform index .accept)).sockets h.socket o.events r := by
  intro o
  have hrun := (Socket.perform_runs h.socket .accept).run k w.kernel
  have hobserve : o = ⟨.performed h.socket .accept _, _⟩ := observe_perform k hi .accept
  have hsockets := (exec_perform k hi .accept).2
  have hopens : w.table.Follows DescriptorTable.OpensUnused o.entries := hlawful.2
  have hfits : (Backlog.model arrivals).Follows b o.events := hfollows
  generalize (h.socket.perform .accept).run k w.kernel = run at hrun hobserve hsockets
  obtain ⟨⟨r, t⟩, kernel, events⟩ := run
  rw [hobserve, Observation.events_map_event] at hfits
  rw [hobserve] at hopens
  rw [hobserve, Observation.events_map_event]
  refine ⟨r, rfl, ?_⟩
  cases hrun with
  | accept hrun =>
    rw [sockets_set_self hi] at hsockets
    cases hrun with
    | stopped hstopped => exact (hstopped hstate).elim
    | none _ =>
      have hempty : b.Answers (.error .wouldBlock) := hfits.1 _ (if_pos hlistener)
      exact .none rfl (hempty rfl) hsockets
    | failed _ e he =>
      have hnone := b.taking_error h.socket.descriptor h.socket.nonBlocking true e
      refine .failed e he rfl ?_ (Event.stillOpen_eq_self rfl _) hsockets
      show b.pending.drop (b.taking _).length ++ arrivals b.clock = _
      rw [hnone]
      rfl
    | accepted _ fd =>
      have hsome : b.Answers (.ok fd) := hfits.1 _ (if_pos hlistener)
      obtain ⟨c, rest, hqueue⟩ := List.exists_cons_of_ne_nil hsome
      have hfree : w.table fd = none := hopens.1 fd rfl
      have htaken := b.taking_ok h.socket.descriptor fd h.socket.nonBlocking true
      rw [if_pos hlistener, hqueue] at htaken
      rw [Backlog.after_call_log]
      refine .accepted fd rfl hqueue ?_ ?_ (fun hmem => ?_) hsockets
      · show b.behindAfter (.called (.accept h.socket.descriptor h.socket.nonBlocking true)
          (.ok fd)) fd = some c
        rw [Backlog.behindAfter_ok, htaken]
        rfl
      · show b.pending.drop (b.taking _).length ++ arrivals b.clock = _
        rw [htaken, hqueue]
        rfl
      · rw [sockets, List.map_map] at hmem
        exact hcustody.covered fd hmem hfree
  | plain hop _ => cases hop

/-! ## Every run -/

/-- What waits on the listener after some commands of a run. -/
def backlogAfter (k : Kernel σ) (arrivals : Nat → List Connection) (b : Backlog) (w : World σ)
    (past : List Command) : Backlog :=
  (Backlog.model arrivals).after b (shown (w.observed k past))

/-- Accepting hands the connections of a backlog out in order.

* `order` — what waited and what arrived in the run is what stands behind the accepted handles, in
  order, and what still waits: none is lost, none is doubled, and the handles got a prefix.
* `each` — every accept on the listener gives the head of the queue, or tells that the queue is
  empty where the kernel said that it would block, or fails and leaves all as it was.
* `drained` — when an accept tells that the queue is empty, all that waited and arrived until then
  has been handed out. -/
structure AcceptsInOrder (k : Kernel σ) (arrivals : Nat → List Connection) (b : Backlog)
    (w : World σ) (commands : List Command) : Prop where
  order : b.pending ++ b.arrived arrivals (shown (w.observed k commands)) =
    b.returned arrivals (w.observed k commands) ++ (backlogAfter k arrivals b w commands).pending
  each : ∀ past index future h, commands = past ++ .perform index .accept :: future →
    (w.run k past).live[index]? = some h → h.socket.state = .listening →
    (backlogAfter k arrivals b w past).listener = some h.socket.descriptor →
    let v := w.run k past
    let o := v.observe k (.perform index .accept)
    ∃ r, o.report = .performed h.socket .accept r ∧
      Accepts arrivals (backlogAfter k arrivals b w past)
        (backlogAfter k arrivals b w (past ++ [.perform index .accept])) v.sockets
        (v.exec k (.perform index .accept)).sockets h.socket o.events r
  drained : ∀ past index future h, commands = past ++ .perform index .accept :: future →
    (w.run k past).live[index]? = some h → h.socket.state = .listening →
    (backlogAfter k arrivals b w past).listener = some h.socket.descriptor →
    ((w.run k past).observe k (.perform index .accept)).report =
      .performed h.socket .accept (.ok none) →
    b.returned arrivals (w.observed k past) =
      b.pending ++ b.arrived arrivals (shown (w.observed k past))

/-- What is behind the accepted handles is a prefix of what waited and arrived. -/
theorem returned_in_order {w : World σ} {b : Backlog} {commands : List Command}
    (h : (Backlog.model arrivals).Follows b (shown (w.observed k commands))) :
    b.pending ++ b.arrived arrivals (shown (w.observed k commands)) =
      b.returned arrivals (w.observed k commands) ++
        (backlogAfter k arrivals b w commands).pending := by
  have htaken : b.taken arrivals (shown (w.observed k commands)) =
      b.returned arrivals (w.observed k commands) :=
    KernelModel.collect_shown (observed_all (observe_returned k) w commands) b
  rw [← htaken]
  exact Backlog.conserved h

theorem backlogAfter_concat (w : World σ) (b : Backlog) (past : List Command) (c : Command) :
    backlogAfter k arrivals b w (past ++ [c]) =
      (Backlog.model arrivals).after (backlogAfter k arrivals b w past)
        ((w.run k past).observe k c).events := by
  have hlast : shown [(w.run k past).observe k c] = ((w.run k past).observe k c).events :=
    List.append_nil _
  rw [backlogAfter, observed_append, shown_append, KernelModel.after_append, observed, observed,
    hlast]
  rfl

section AnyRun

variable {kernel : σ} {table : DescriptorTable} {opening past future : List Command} {b : Backlog}
  {index : Nat} {h : LiveSocket}

/-- One accept on the listener, anywhere in a run. -/
theorem accept_at
    (hlawful : Along k (Lawful DescriptorTable.OpensUnused k) (start kernel table)
      (opening ++ (past ++ .perform index .accept :: future)))
    (hfollows : (Backlog.model arrivals).Follows b (shown
      (((start kernel table).run k opening).observed k (past ++ .perform index .accept :: future))))
    (hi : (((start kernel table).run k opening).run k past).live[index]? = some h)
    (hstate : h.socket.state = .listening)
    (hlistener : (backlogAfter k arrivals b ((start kernel table).run k opening) past).listener =
      some h.socket.descriptor) :
    let v := ((start kernel table).run k opening).run k past
    let o := v.observe k (.perform index .accept)
    ∃ r, o.report = .performed h.socket .accept r ∧
      Accepts arrivals (backlogAfter k arrivals b ((start kernel table).run k opening) past)
        (backlogAfter k arrivals b ((start kernel table).run k opening)
          (past ++ [.perform index .accept]))
        v.sockets (v.exec k (.perform index .accept)).sockets h.socket o.events r := by
  intro v o
  -- up to the accept the run is lawful, and the backlog follows its events
  rw [← List.append_assoc, along_append, run_append] at hlawful
  obtain ⟨hpast, hnow, -⟩ := hlawful
  have hcustody : v.Custody := by
    have hrun := run_invariant (fun w c hw hc => custody_exec hw hc) _ _
      (custody_start kernel table) hpast
    rwa [run_append] at hrun
  rw [observed_append, shown_append, KernelModel.follows_append] at hfollows
  have hfits := (KernelModel.follows_append.mp hfollows.2).1
  rw [backlogAfter_concat]
  exact accepts_of_follows hcustody hi hstate hlistener hnow hfits

end AnyRun

/-- **Accepting loses and doubles no connection**, in every run: whatever else is done on whatever
handles, however arrivals, errors and accepts are mixed. The kernel keeps the backlog and makes
descriptors under free numbers, and callers keep their promises. -/
theorem accepts_in_order (k : Kernel σ) (kernel : σ) (table : DescriptorTable)
    (opening commands : List Command) (arrivals : Nat → List Connection) (b : Backlog)
    (hlawful : Along k (Lawful DescriptorTable.OpensUnused k) (start kernel table)
      (opening ++ commands))
    (hfollows : (Backlog.model arrivals).Follows b
      (shown (((start kernel table).run k opening).observed k commands))) :
    AcceptsInOrder k arrivals b ((start kernel table).run k opening) commands := by
  refine ⟨returned_in_order hfollows, ?each, ?drained⟩
  case each =>
    rintro past index future h rfl hi hstate hlistener
    exact accept_at hlawful hfollows hi hstate hlistener
  case drained =>
    rintro past index future h rfl hi hstate hlistener hnone
    obtain ⟨r, hreport, haccepts⟩ := accept_at hlawful hfollows hi hstate hlistener
    rw [hnone] at hreport
    cases hreport
    rw [observed_append, shown_append, KernelModel.follows_append] at hfollows
    have horder := returned_in_order hfollows.1
    cases haccepts with
    | none _ hqueue _ =>
      rw [hqueue, List.append_nil] at horder
      exact horder.symm

/-- One connection arrives when the listener is ready, and two when it is switched. -/
def schedule : Nat → List Connection
  | 2 => [⟨1⟩]
  | 5 => [⟨2⟩, ⟨3⟩]
  | _ => []

/-- A blocking listener. -/
def openListener : List Command :=
  [.makeTcp true, .perform 0 (.tryBind (.ofEndpoint ⟨⟨0⟩, 80⟩)), .perform 0 (.listen 8)]

/-- An accept, a switch of the listener, an accept, one that fails, and two more after a close. -/
def acceptAll : List Command :=
  [.perform 0 .accept, .perform 1 .configureNonBlocking, .perform 1 .accept, .perform 2 .accept,
    .close 0, .perform 1 .accept, .perform 2 .accept]

/-- A run in which connections arrive in between, and one accept fails. -/
theorem accepts_in_order_on_host :
    let k := Backlog.kernel schedule
    let w := (start ⟨some ⟨3⟩, [], fun _ => none, 0⟩ fun _ => none).run k openListener
    Backlog.returned schedule w.kernel (w.observed k acceptAll) = [⟨1⟩, ⟨2⟩, ⟨3⟩] ∧
      AcceptsInOrder k schedule w.kernel w acceptAll :=
  ⟨by decide, accepts_in_order _ _ _ _ _ _ _ (by decide) (by decide)⟩

end World
end SocketLayer
