import SocketLayer.Proofs.Observation

/-!
# The bytes of a connection arrive once and in order

One direction of a connection is a `Link`: a queue of bytes between the descriptor that writes and
the one that reads. `Link.model` says how a kernel keeps it: a send takes a prefix of its buffer, a
read takes or shows leading bytes of the queue, would block on an empty queue, and ends after the
writer has closed. Between the kernel and the callers stand the operations, and they add nothing.

* `Link.conserved` — what enters the queue is what leaves it and what is left in it.
* `Link.Sees` — what a read and a probe say about the queue.
* `Link.Delivers` — what the callers on both ends are told in a run.
* `World.bytes_in_order` — every run over a kernel that keeps the link delivers.
-/

set_option autoImplicit false

namespace SocketLayer

/-- One direction of a connection: the descriptors at its ends as long as they are open, the bytes
on the way, and whether the writer has closed or shut down. -/
structure Link where
  writer : Option Descriptor
  reader : Option Descriptor
  queued : List UInt8
  ended : Bool
  deriving DecidableEq, Repr

namespace Link

open Socket

/-! ## How a kernel keeps a link -/

/-- The buffer of a send by the writer, and how many bytes of it the kernel took. -/
def sending? (l : Link) : Event → Option (List UInt8 × Nat)
  | .called (.send fd data _) (.ok (count : Nat)) =>
    if l.writer = some fd then some (data, count) else none
  | .called (.sendTo fd data _ _) (.ok (count : Nat)) =>
    if l.writer = some fd then some (data, count) else none
  | _ => none

/-- The bytes that an event puts into the queue. -/
def entering (l : Link) (e : Event) : List UInt8 :=
  match l.sending? e with
  | some (data, count) => data.take count
  | none => []

/-- The bytes that an event takes out of the queue. -/
def leaving (l : Link) : Event → List UInt8
  | .called (.receive fd _ false) (.ok (data : List UInt8)) =>
    if l.reader = some fd then data else []
  | _ => []

/-- Whether an event is the writer's last word. -/
def ends (l : Link) : Event → Bool
  | .called (.shutdown fd direction) (.ok _) => l.writer = some fd && direction.coversWrite
  | .called (.close fd) _ => l.writer = some fd
  | _ => false

/-- The link after an event. A number that was closed no longer names an end. -/
def next (l : Link) (e : Event) : Link where
  writer := e.stillOpen l.writer
  reader := e.stillOpen l.reader
  queued := l.queued.drop (l.leaving e).length ++ l.entering e
  ended := l.ended || l.ends e

/-- How a read of the queue may be answered. -/
def Answers (l : Link) (capacity : Nat) : Except Errno (List UInt8) → Prop
  | .ok data => data.length ≤ capacity ∧ data <+: l.queued ∧
    (data = [] → capacity = 0 ∨ (l.queued = [] ∧ l.ended = true))
  | .error e => e = .wouldBlock ∧ l.queued = [] ∧ l.ended = false

instance (l : Link) (capacity : Nat) : DecidablePred (l.Answers capacity)
  | .ok data => inferInstanceAs (Decidable (data.length ≤ capacity ∧ data <+: l.queued ∧
    (data = [] → capacity = 0 ∨ (l.queued = [] ∧ l.ended = true))))
  | .error e => inferInstanceAs (Decidable (e = .wouldBlock ∧ l.queued = [] ∧ l.ended = false))

/-- How a kernel keeps a link: a send takes no more than it was given, and a read is answered from
the queue. A send may fail for any reason; it then has no effect. -/
def model : KernelModel Link where
  next := next
  Fits l e := (∀ s ∈ l.sending? e, s.2 ≤ s.1.length) ∧ ∀ r ∈ e.reading? l.reader, l.Answers r.1 r.2

instance (l : Link) : DecidablePred (model.Fits l) := fun e =>
  inferInstanceAs (Decidable ((∀ s ∈ l.sending? e, s.2 ≤ s.1.length) ∧
    ∀ r ∈ e.reading? l.reader, l.Answers r.1 r.2))

/-- The replies of a kernel that is nothing but one link. It takes at most three bytes at a time and
hands out at most two. -/
def reply (l : Link) : (c : SystemCall) → Reply c
  | .send fd data _ =>
    if l.writer = some fd ∧ l.ended = false then .ok (min data.length 3 : Nat)
    else .error .brokenPipe
  | .receive fd capacity _ =>
    if l.reader = some fd then
      if l.queued ≠ [] then .ok (l.queued.take (min capacity 2))
      else if l.ended then .ok ([] : List UInt8)
      else .error .wouldBlock
    else .error .badDescriptor
  | .shutdown .. | .close _ => .ok ()
  | _ => .error .badDescriptor

/-- A kernel that is nothing but one link. -/
def pipe : Kernel Link where
  answer l c := (l.reply c, l.next (.called c (l.reply c)))

/-! ## What enters and what leaves -/

/-- The bytes that events put into the queue, in order. -/
def entered : Link → List Event → List UInt8 := model.collect entering

/-- The bytes that events take out of the queue, in order. -/
def left : Link → List Event → List UInt8 := model.collect leaving

section Events

variable {l : Link} {e : Event} {events : List Event}

@[simp] theorem entering_send (l : Link) (fd : Descriptor) (data : List UInt8) (noSignal : Bool)
    (count : Nat) :
    l.entering (.called (.send fd data noSignal) (.ok count)) =
      if l.writer = some fd then data.take count else [] := by
  by_cases h : l.writer = some fd <;> simp [entering, sending?, h]

@[simp] theorem entering_sendTo (l : Link) (fd : Descriptor) (data : List UInt8) (noSignal : Bool)
    (address : SocketAddress) (count : Nat) :
    l.entering (.called (.sendTo fd data noSignal address) (.ok count)) =
      if l.writer = some fd then data.take count else [] := by
  by_cases h : l.writer = some fd <;> simp [entering, sending?, h]

/-- What leaves the queue was at its head. -/
theorem leaving_at_head (h : model.Fits l e) : l.leaving e <+: l.queued := by
  unfold leaving
  split
  · rename_i fd capacity data
    split
    · rename_i hreader
      have hanswer : l.Answers capacity (.ok data) := h.2 (capacity, .ok data) (if_pos hreader)
      exact hanswer.2.1
    · exact List.nil_prefix
  · exact List.nil_prefix

/-- One event: the queue and what enters it are what leaves it and the queue afterwards. -/
theorem conserved_step (h : model.Fits l e) :
    l.queued ++ l.entering e = l.leaving e ++ (l.next e).queued := by
  have hsplit : l.leaving e ++ l.queued.drop (l.leaving e).length = l.queued :=
    List.prefix_iff_eq_append.mp (leaving_at_head h)
  calc l.queued ++ l.entering e
      = (l.leaving e ++ l.queued.drop (l.leaving e).length) ++ l.entering e := by rw [hsplit]
    _ = l.leaving e ++ (l.next e).queued := List.append_assoc _ _ _

/-- **No byte is lost, doubled or moved out of order in the queue.** -/
theorem conserved (h : model.Follows l events) :
    l.queued ++ l.entered events = l.left events ++ (model.after l events).queued :=
  KernelModel.conserved (fun _ _ => conserved_step) h

end Events

/-! ## What the callers are told -/

section Told

variable {l : Link} {events : List Event}

/-- The bytes that the writer is told to have sent. -/
def sentOf (l : Link) : DataReport → List UInt8
  | .sent s data count => if l.writer = some s.descriptor then data.take (count.getD 0) else []
  | _ => []

/-- The bytes taken at the reader's end: those that a receive tells of, and what a probe swallowed,
which it tells nobody. -/
def takenOf (l : Link) : DataReport → List Event → List UInt8
  | .read r, _ => if r.peek = false ∧ l.reader = some r.socket.descriptor then r.bytes else []
  | .probed s _, events => if l.reader = some s.descriptor then l.left events else []
  | .sent .., _ => []

/-- Calls that transfer nothing leave the queue. -/
theorem quiet (h : NoTransfer events) (l : Link) : l.entered events = [] ∧ l.left events = [] := by
  induction events generalizing l with
  | nil => exact ⟨rfl, rfl⟩
  | cons e rest ih =>
    obtain ⟨hcall, hrest⟩ := List.forall_mem_cons.mp h
    obtain ⟨hentered, hleft⟩ := ih hrest (l.next e)
    have hfirst : l.entering e = [] ∧ l.leaving e = [] := by
      cases e with
      | logged entry => exact ⟨rfl, rfl⟩
      | called c reply =>
        have hc := hcall c rfl
        cases c with
        | send | sendTo | receive => cases hc
        | _ => exact ⟨rfl, rfl⟩
    show l.entering e ++ (l.next e).entered rest = [] ∧ l.leaving e ++ (l.next e).left rest = []
    rw [hfirst.1, hfirst.2, hentered, hleft]
    exact ⟨rfl, rfl⟩

/-- What an operation tells is what its calls put into the queue and took out of it. -/
theorem dataRun_told {report : DataReport} (h : DataRun report events) (l : Link) :
    l.entered events = l.sentOf report ∧ l.left events = l.takenOf report events := by
  cases h with
  | send h =>
    cases h with
    | sent count => simp [entered, left, leaving, sentOf, takenOf, Transfer.count?]
    | waiting | lost =>
      simp [entered, entering, sending?, left, leaving, sentOf, takenOf, Transfer.count?]
  | sendTo h =>
    cases h with
    | sent count => simp [entered, left, leaving, sentOf, takenOf, Except.toOption]
    | failed e =>
      simp [entered, entering, sending?, left, leaving, sentOf, takenOf, Except.toOption]
  | @read op r events h =>
    obtain ⟨s, peek, capacity, outcome, data⟩ := r
    cases peek <;> cases h <;>
      simp [entered, entering, sending?, left, leaving, sentOf, takenOf, ReadReport.bytes,
        Transfer.count?]
  | probed h =>
    cases h <;> simp [entered, entering, sending?, left, leaving, sentOf, takenOf]

/-- What a read tells of the queue, when its buffer is not empty: leading bytes, or that there are
none yet, or that there are none and the writer has closed. -/
def Tells (l : Link) (r : ReadReport) : Prop :=
  match r.outcome with
  | .transferred n => n = r.data.length ∧ 0 < n ∧ n ≤ r.capacity ∧ r.data <+: l.queued
  | .retry => r.data = [] ∧ l.queued = [] ∧ l.ended = false
  | .disconnected => r.data = [] ∧ l.queued = [] ∧ l.ended = true

/-- A read of the reader's end is answered from the queue. -/
theorem readRun_answers {s : Socket} {capacity : Nat} {peek : Bool}
    {reply : Except Errno (List UInt8)} {rest : List Event}
    (hf : model.Follows l (.called (.receive s.descriptor capacity peek) reply :: rest))
    (hreader : l.reader = some s.descriptor) : l.Answers capacity reply :=
  hf.1.2 (capacity, reply) (if_pos hreader)

theorem readRun_tells {op : String} {r : ReadReport}
    (h : ReadRun op r.peek r.socket r.capacity events (r.outcome, r.data))
    (hf : model.Follows l events) (hreader : l.reader = some r.socket.descriptor)
    (hcapacity : r.capacity ≠ 0) : l.Tells r := by
  obtain ⟨s, peek, capacity, outcome, data⟩ := r
  cases h with
  | skipped h => exact (hcapacity h).elim
  | ended h =>
    obtain ⟨-, -, hempty⟩ := readRun_answers hf hreader
    exact ⟨rfl, (hempty rfl).resolve_left hcapacity⟩
  | received h first rest =>
    obtain ⟨hlength, hprefix, -⟩ := readRun_answers hf hreader
    exact ⟨rfl, Nat.succ_pos _, hlength, hprefix⟩
  | waiting h =>
    obtain ⟨-, hopen⟩ := readRun_answers hf hreader
    exact ⟨rfl, hopen⟩
  | lost h e he =>
    obtain ⟨hblock, -⟩ := readRun_answers hf hreader
    exact (he hblock).elim

/-- Reading into an empty buffer makes no call. -/
theorem readRun_empty {op : String} {r : ReadReport}
    (h : ReadRun op r.peek r.socket r.capacity events (r.outcome, r.data))
    (hcapacity : r.capacity = 0) : events = [] ∧ r.outcome = .transferred 0 ∧ r.data = [] := by
  obtain ⟨s, peek, capacity, outcome, data⟩ := r
  cases h with
  | skipped h => exact ⟨rfl, rfl, rfl⟩
  | ended h | received h | waiting h | lost h => exact (h hcapacity).elim

theorem next_of_still {e : Event} (hclosed : e.closed? = none) (hentering : l.entering e = [])
    (hleaving : l.leaving e = []) (hends : l.ends e = false) : l.next e = l := by
  unfold next
  rw [e.stillOpen_eq_self hclosed, e.stillOpen_eq_self hclosed, hentering, hleaving, hends]
  simp

/-- A look at the queue leaves the link as it was. -/
theorem next_peek (l : Link) (fd : Descriptor) (capacity : Nat)
    (reply : Except Errno (List UInt8)) :
    l.next (.called (.receive fd capacity true) reply) = l := by
  refine next_of_still rfl rfl ?_ rfl
  cases reply <;> rfl

theorem next_log (l : Link) (entry : LogRecord) : l.next (.logged entry) = l :=
  next_of_still rfl rfl rfl rfl

theorem readRun_peek {op : String} {s : Socket} {capacity : Nat} {result : Transfer × List UInt8}
    (h : ReadRun op true s capacity events result) (l : Link) : model.after l events = l := by
  cases h with
  | skipped h => rfl
  | received h first rest => exact next_peek l _ _ _
  | waiting h => exact next_peek l _ _ _
  | ended h | lost h =>
    show (l.next _).next (.logged _) = l
    rw [next_log]
    exact next_peek l _ _ _

/-- A probe swallows at most one byte and then says that the connection lives; that it is dead it
says exactly when nothing is queued and the writer has closed. -/
theorem probe_tells {s : Socket} {result : Transfer × List UInt8}
    (h : ReadRun "recv" false s 1 events result) (hf : model.Follows l events)
    (hreader : l.reader = some s.descriptor) :
    (l.left events).length ≤ 1 ∧ (l.left events ≠ [] → result.1.isDisconnected = false) ∧
      (result.1.isDisconnected = true ↔ l.queued = [] ∧ l.ended = true) := by
  cases h with
  | skipped h => cases h
  | ended h =>
    obtain ⟨-, -, hempty⟩ := readRun_answers hf hreader
    have hend := (hempty rfl).resolve_left Nat.one_ne_zero
    refine ⟨?_, ?_, fun _ => hend, fun _ => rfl⟩ <;> simp [left, leaving]
  | received h first rest =>
    obtain ⟨hlength, hprefix, -⟩ := readRun_answers hf hreader
    have hleft : l.left [.called (.receive s.descriptor 1 false) (.ok (first :: rest))] =
        first :: rest := by
      simp [left, leaving, hreader]
    refine ⟨by rw [hleft]; exact hlength, fun _ => rfl, nofun, ?_⟩
    rintro ⟨hnone, -⟩
    rw [hnone] at hprefix
    simp at hprefix
  | waiting h =>
    obtain ⟨-, -, hopen⟩ := readRun_answers hf hreader
    refine ⟨?_, fun _ => rfl, nofun, ?_⟩
    · simp [left, leaving]
    · rintro ⟨-, hended⟩
      rw [hopen] at hended
      cases hended
  | lost h e he =>
    obtain ⟨hblock, -⟩ := readRun_answers hf hreader
    exact (he hblock).elim

end Told

/-! ## What a run tells -/

section Runs

variable {l : Link} {o : Observation} {seen : List Observation}

/-- The bytes that the writer is told to have sent by a command. -/
def sentIn (l : Link) (o : Observation) : List UInt8 := o.report.data?.elim [] l.sentOf

/-- The bytes taken at the reader's end by a command. -/
def takenIn (l : Link) (o : Observation) : List UInt8 :=
  o.report.data?.elim [] fun report => l.takenOf report o.events

/-- The bytes that the writer is told to have sent, in order. -/
def sent : Link → List Observation → List UInt8 := model.collectSeen sentIn

/-- The bytes taken at the reader's end, in order: those that its receives tell of, merged with
those that its probes swallowed. -/
def taken : Link → List Observation → List UInt8 := model.collectSeen takenIn

theorem faithful_told (h : o.Faithful) (l : Link) :
    l.entered o.events = l.sentIn o ∧ l.left o.events = l.takenIn o := by
  unfold Observation.Faithful at h
  unfold sentIn takenIn
  cases hdata : o.report.data? with
  | none =>
    rw [hdata] at h
    exact quiet h l
  | some report =>
    rw [hdata] at h
    exact dataRun_told h l

/-- What the callers are told is what enters and leaves the queue. -/
theorem shown_told (h : ∀ o ∈ seen, o.Faithful) (l : Link) :
    l.entered (shown seen) = l.sent seen ∧ l.left (shown seen) = l.taken seen :=
  ⟨KernelModel.collect_shown (fun o ho l => (faithful_told (h o ho) l).1) l,
    KernelModel.collect_shown (fun o ho l => (faithful_told (h o ho) l).2) l⟩

/-- Callers are told every byte once and in order: what was queued and what the writer is told to
have sent is what the reader's end took and what is still queued. -/
theorem sent_eq_taken (h : ∀ o ∈ seen, o.Faithful) (hf : model.Follows l (shown seen)) :
    l.queued ++ l.sent seen = l.taken seen ++ (model.after l (shown seen)).queued := by
  obtain ⟨hentered, hleft⟩ := shown_told h l
  rw [← hentered, ← hleft]
  exact conserved hf

/-- An end that is open was open before. -/
theorem reader_of_after {events : List Event} {fd : Descriptor}
    (h : (model.after l events).reader = some fd) : l.reader = some fd := by
  induction events generalizing l with
  | nil => exact h
  | cons e rest ih => exact Event.eq_some_of_stillOpen (ih h)

/-- A command takes bytes from a descriptor: it is a receive or a probe there. -/
def TakesFrom (fd : Descriptor) (o : Observation) : Prop :=
  match o.report.data? with
  | some (.read r) => r.peek = false ∧ r.socket.descriptor = fd
  | some (.probed s _) => s.descriptor = fd
  | _ => False

theorem takenIn_of_not_takes {fd : Descriptor} (h : ¬ TakesFrom fd o)
    (hreader : ∀ fd', l.reader = some fd' → fd' = fd) : l.takenIn o = [] := by
  unfold TakesFrom at h
  unfold takenIn
  cases hdata : o.report.data? with
  | none => rfl
  | some report =>
    rw [hdata] at h
    cases report with
    | sent s data count => rfl
    | read r => exact if_neg fun hr => h ⟨hr.1, hreader _ hr.2⟩
    | probed s answer => exact if_neg fun hs => h (hreader _ hs)

theorem taken_of_not_takes {fd : Descriptor} (h : ∀ o ∈ seen, ¬ TakesFrom fd o)
    (hreader : ∀ fd', l.reader = some fd' → fd' = fd) : l.taken seen = [] := by
  induction seen generalizing l with
  | nil => rfl
  | cons o rest ih =>
    obtain ⟨ho, hrest⟩ := List.forall_mem_cons.mp h
    have hnext : ∀ fd', (model.after l o.events).reader = some fd' → fd' = fd :=
      fun fd' hfd' => hreader fd' (reader_of_after hfd')
    show l.takenIn o ++ (model.after l o.events).taken rest = []
    rw [takenIn_of_not_takes ho hreader, ih hrest hnext]
    rfl

/-- What one command tells of the link that it meets.

* `reads` — a read of the reader's end into a buffer that is not empty tells of the queue.
* `empty` — a read into an empty buffer makes no call.
* `looks` — a peek leaves the link as it was.
* `probes` — a probe swallows at most one byte, and then answers that the connection lives; it
  answers that it is dead exactly when nothing is queued and the writer has closed. -/
structure Sees (l : Link) (o : Observation) : Prop where
  reads : ∀ r, o.report.data? = some (.read r) → l.reader = some r.socket.descriptor →
    r.capacity ≠ 0 → l.Tells r
  empty : ∀ r, o.report.data? = some (.read r) → r.capacity = 0 →
    o.events = [] ∧ r.outcome = .transferred 0 ∧ r.data = []
  looks : ∀ r, o.report.data? = some (.read r) → r.peek = true → model.after l o.events = l
  probes : ∀ s answer, o.report.data? = some (.probed s answer) → l.reader = some s.descriptor →
    (l.left o.events).length ≤ 1 ∧ (l.left o.events ≠ [] → answer = false) ∧
      (answer = true ↔ l.queued = [] ∧ l.ended = true)

theorem sees_of_faithful (h : o.Faithful) (hf : model.Follows l o.events) : l.Sees o := by
  have hread (r : ReadReport) (hr : o.report.data? = some (.read r)) :
      ∃ op, ReadRun op r.peek r.socket r.capacity o.events (r.outcome, r.data) := by
    unfold Observation.Faithful at h
    rw [hr] at h
    cases h with
    | read h => exact ⟨_, h⟩
  refine ⟨fun r hr hreader hcapacity => ?_, fun r hr hcapacity => ?_, fun r hr hpeek => ?_,
    fun s answer hprobe hreader => ?_⟩
  · obtain ⟨op, hrun⟩ := hread r hr
    exact readRun_tells hrun hf hreader hcapacity
  · obtain ⟨op, hrun⟩ := hread r hr
    exact readRun_empty hrun hcapacity
  · obtain ⟨op, hrun⟩ := hread r hr
    rw [hpeek] at hrun
    exact readRun_peek hrun l
  · unfold Observation.Faithful at h
    rw [hprobe] at h
    cases h with
    | probed h => exact probe_tells h hf hreader

/-- The bytes of a read were at the head of the queue. -/
theorem Sees.bytes_at_head (h : l.Sees o) {r : ReadReport} (hr : o.report.data? = some (.read r))
    (hreader : l.reader = some r.socket.descriptor) : r.bytes <+: l.queued := by
  by_cases hcapacity : r.capacity = 0
  · obtain ⟨-, -, hdata⟩ := h.empty r hr hcapacity
    rw [ReadReport.bytes, hdata, List.take_nil]
    exact List.nil_prefix
  · have htells := h.reads r hr hreader hcapacity
    unfold Tells at htells
    cases houtcome : r.outcome with
    | transferred n =>
      rw [houtcome] at htells
      have htake : r.bytes <+: r.data := List.take_prefix _ _
      exact htake.trans htells.2.2.2
    | retry | disconnected =>
      rw [ReadReport.bytes, houtcome]
      exact List.nil_prefix

/-- What the callers at both ends are told in a run.

* `conserved` — what was queued, followed by what the writer is told to have sent, is what the
  reader's end took, followed by what is still queued.
* `each` — every command tells the truth about the link that it met.
* `agree` — a peek and the next receive, with no byte taken in between, tell of the same bytes as
  far as both go. -/
structure Delivers (l : Link) (seen : List Observation) : Prop where
  conserved : l.queued ++ l.sent seen = l.taken seen ++ (model.after l (shown seen)).queued
  each : ∀ past o future, seen = past ++ o :: future → (model.after l (shown past)).Sees o
  agree : ∀ past first between second future p r,
    seen = past ++ first :: (between ++ second :: future) →
    first.report.data? = some (.read p) → p.peek = true →
    second.report.data? = some (.read r) → r.peek = false →
    (model.after l (shown past)).reader = some p.socket.descriptor →
    (model.after l (shown (past ++ first :: between))).reader = some r.socket.descriptor →
    (∀ o ∈ between, ¬ TakesFrom r.socket.descriptor o) →
    p.bytes <+: r.bytes ∨ r.bytes <+: p.bytes

theorem delivers_of_follows (h : ∀ o ∈ seen, o.Faithful) (hf : model.Follows l (shown seen)) :
    l.Delivers seen := by
  have heach : ∀ past o future, seen = past ++ o :: future →
      (model.after l (shown past)).Sees o := by
    rintro past o future rfl
    rw [shown_append] at hf
    obtain ⟨-, hrest⟩ := KernelModel.follows_append.mp hf
    exact sees_of_faithful (h o (by simp)) (KernelModel.follows_append.mp hrest).1
  refine ⟨sent_eq_taken h hf, heach, ?_⟩
  rintro past first between second future p r rfl hp hpeek hr htake hlooks hreads hbetween
  -- the peek leaves the link as it was, and what comes in between only adds to its queue
  have hfirst := heach past first _ rfl
  have hsecond := heach (past ++ first :: between) second future (by simp)
  have hlink : model.after l (shown (past ++ first :: between)) =
      model.after (model.after l (shown past)) (shown between) := by
    have hshown : shown (first :: between) = first.events ++ shown between := rfl
    rw [shown_append, KernelModel.after_append, hshown, KernelModel.after_append,
      hfirst.looks p hp hpeek]
  have hp' := hfirst.bytes_at_head hp hlooks
  have hr' := hsecond.bytes_at_head hr hreads
  rw [hlink] at hr' hreads
  have hfollows : model.Follows (model.after l (shown past)) (shown between) := by
    have hsplit : shown (past ++ first :: (between ++ second :: future)) =
        shown past ++ (first.events ++ (shown between ++ shown (second :: future))) := by
      rw [shown_append, ← shown_append between]
      rfl
    rw [hsplit] at hf
    have hrest := (KernelModel.follows_append.mp hf).2
    have hrest := (KernelModel.follows_append.mp hrest).2
    rw [hfirst.looks p hp hpeek] at hrest
    exact (KernelModel.follows_append.mp hrest).1
  have hgrows := sent_eq_taken (fun o ho => h o (by simp [ho])) hfollows
  rw [taken_of_not_takes hbetween fun fd' hfd' =>
    Option.some.inj (hfd'.symm.trans (reader_of_after hreads)), List.nil_append] at hgrows
  have hp'' := hp'.trans (List.prefix_append _ (sent (model.after l (shown past)) between))
  rw [hgrows] at hp''
  exact List.prefix_or_prefix_of_prefix hp'' hr'

end Runs
end Link

namespace World

/-- **A connection's bytes arrive once and in order**: any kernel that keeps the link, any handles,
and any commands, among them the sends of the writer and the receives, peeks and probes of the
reader in any order, with any buffers. -/
theorem bytes_in_order {σ : Type} (k : Kernel σ) (w : World σ) (commands : List Command) (l : Link)
    (h : Link.model.Follows l (shown (w.observed k commands))) :
    l.Delivers (w.observed k commands) :=
  Link.delivers_of_follows (observed_faithful k w commands) h

/-- The handle with descriptor 3 writes, the one with descriptor 4 reads. -/
def pipeCommands : List Command :=
  [.adopt 3 .tcp .connected, .adopt 4 .tcp .connected, .perform 0 (.receive 8),
    .perform 1 (.send [1, 2, 3, 4, 5]), .perform 0 (.peek 8), .perform 0 .isDead,
    .perform 1 (.send [4, 5]), .perform 0 (.receive 0), .perform 0 (.receive 8), .close 1,
    .perform 0 (.receive 1), .perform 0 (.receive 8), .perform 0 (.receive 8), .perform 0 .isDead]

/-- A run with a short send, short reads, an empty buffer, a probe and a close. -/
theorem bytes_in_order_on_pipe :
    Link.model.Follows ⟨some ⟨3⟩, some ⟨4⟩, [], false⟩
        (shown ((start ⟨some ⟨3⟩, some ⟨4⟩, [], false⟩ fun _ => none).observed Link.pipe
          pipeCommands)) ∧
      Link.Delivers ⟨some ⟨3⟩, some ⟨4⟩, [], false⟩
        ((start ⟨some ⟨3⟩, some ⟨4⟩, [], false⟩ fun _ => none).observed Link.pipe pipeCommands) :=
  ⟨by decide, bytes_in_order _ _ _ _ (by decide)⟩

example :
    Link.taken ⟨some ⟨3⟩, some ⟨4⟩, [], false⟩
      ((start ⟨some ⟨3⟩, some ⟨4⟩, [], false⟩ fun _ => none).observed Link.pipe pipeCommands) =
      [1, 2, 3, 4, 5] := by decide

end World
end SocketLayer
