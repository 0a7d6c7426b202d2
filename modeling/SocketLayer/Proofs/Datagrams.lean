import SocketLayer.Proofs.Observation

/-!
# What a UDP handle tells of its datagrams

The datagrams queued at a socket are an `Inbox`: a read takes or shows the head, cut to the buffer,
and would block on an empty inbox. Datagrams arrive at any moment, from anywhere.

* `Inbox.model` — how a kernel keeps an inbox.
* `Inbox.Sees` — what one command tells: a datagram with bytes in it comes through as data, an empty
  inbox as `retry`, and a real error as `disconnected`.
* `World.datagrams_told` — this for every run over a kernel that keeps the inbox.
* `World.empty_datagram_disconnects` — a datagram without bytes comes through as `disconnected`: the
  kernel's answer for it is the one that ends a connection, and a read does not look at the
  transport.
-/

set_option autoImplicit false

namespace SocketLayer

/-- The datagrams queued at a socket, the socket's descriptor as long as it is open, and all that
happened before. -/
structure Inbox where
  owner : Option Descriptor
  queue : List (List UInt8)
  past : List Event

/-- Which datagrams arrive right after a past. -/
abbrev Arrivals : Type := List Event → List (List UInt8)

namespace Inbox

open Socket

/-! ## How a kernel keeps an inbox -/

/-- Whether an event takes the head of the queue. -/
def takes (b : Inbox) : Event → Bool
  | .called (.receive fd _ false) (.ok _) => b.owner = some fd
  | _ => false

/-- The inbox after an event. -/
def next (arrives : Arrivals) (b : Inbox) (e : Event) : Inbox where
  owner := e.stillOpen b.owner
  queue := (if b.takes e then b.queue.tail else b.queue) ++ arrives (b.past ++ [e])
  past := b.past ++ [e]

/-- How a read of the inbox may be answered: with the head, cut to the buffer, with "would block" if
there is none, or with a real error at any time. -/
def Answers (b : Inbox) (capacity : Nat) : Except Errno (List UInt8) → Prop
  | .ok data => b.queue.head?.map (·.take capacity) = some data
  | .error e => e = .wouldBlock → b.queue = []

instance (b : Inbox) (capacity : Nat) : DecidablePred (b.Answers capacity)
  | .ok data => inferInstanceAs (Decidable (b.queue.head?.map (·.take capacity) = some data))
  | .error e => inferInstanceAs (Decidable (e = .wouldBlock → b.queue = []))

/-- How a kernel keeps an inbox. -/
def model (arrives : Arrivals) : KernelModel Inbox where
  next := next arrives
  Fits b e := ∀ r ∈ e.reading? b.owner, b.Answers r.1 r.2

instance (arrives : Arrivals) (b : Inbox) : DecidablePred ((model arrives).Fits b) := fun e =>
  inferInstanceAs (Decidable (∀ r ∈ e.reading? b.owner, b.Answers r.1 r.2))

/-! ## What a command tells -/

/-- The kernel answered a receive with an error other than "would block". -/
def isRealError : Event → Bool
  | .called (.receive ..) (.error e) => e ≠ .wouldBlock
  | _ => false

/-- A real error is among the events. -/
def RealError (events : List Event) : Prop := ∃ e ∈ events, isRealError e = true

instance : DecidablePred RealError := fun events =>
  inferInstanceAs (Decidable (∃ e ∈ events, isRealError e = true))

/-- What a read without a real error is told. -/
def told (b : Inbox) (capacity : Nat) : Transfer × List UInt8 :=
  match b.queue with
  | [] => (.retry, [])
  | datagram :: _ =>
    if datagram = [] then (.disconnected, [])
    else (.transferred (min datagram.length capacity), datagram.take capacity)

/-- What one command tells of the inbox that it meets.

* `reads` — a read into a buffer that is not empty tells of the head of the queue.
* `fails` — after a real error it tells of a disconnect.
* `probes` — a probe answers that the socket is dead after a real error, and on a datagram without
  bytes. -/
structure Sees (b : Inbox) (o : Observation) : Prop where
  reads : ∀ r, o.report.data? = some (.read r) → b.owner = some r.socket.descriptor →
    r.capacity ≠ 0 → ¬ RealError o.events → (r.outcome, r.data) = b.told r.capacity
  fails : ∀ r, o.report.data? = some (.read r) → RealError o.events →
    (r.outcome, r.data) = (.disconnected, [])
  probes : ∀ s answer, o.report.data? = some (.probed s answer) → b.owner = some s.descriptor →
    (answer = true ↔ RealError o.events ∨ b.queue.head? = some [])

section Command

variable {arrives : Arrivals} {b : Inbox} {o : Observation} {events : List Event} {s : Socket}
  {op : String} {peek : Bool} {capacity : Nat} {result : Transfer × List UInt8}

theorem readRun_answers {reply : Except Errno (List UInt8)} {rest : List Event}
    (hf : (model arrives).Follows b (.called (.receive s.descriptor capacity peek) reply :: rest))
    (howner : b.owner = some s.descriptor) : b.Answers capacity reply :=
  hf.1 (capacity, reply) (if_pos howner)

/-- The head of the queue, where a read was answered with data. -/
theorem Answers.head {data : List UInt8} (h : b.Answers capacity (.ok data)) :
    ∃ datagram rest, b.queue = datagram :: rest ∧ datagram.take capacity = data := by
  obtain ⟨datagram, hhead, hdata⟩ := Option.map_eq_some_iff.mp h
  obtain ⟨rest, hqueue⟩ := List.head?_eq_some_iff.mp hhead
  exact ⟨datagram, rest, hqueue, hdata⟩

/-- A read tells of the head of the queue, or of a real error. -/
theorem readRun_told (h : ReadRun op peek s capacity events result)
    (hf : (model arrives).Follows b events) (howner : b.owner = some s.descriptor)
    (hcapacity : capacity ≠ 0) :
    (RealError events ∧ result = (.disconnected, [])) ∨
      (¬ RealError events ∧ result = b.told capacity) := by
  cases h with
  | skipped h => exact (hcapacity h).elim
  | ended h =>
    obtain ⟨datagram, rest, hqueue, hdata⟩ := (readRun_answers hf howner).head
    have hempty : datagram = [] := (List.take_eq_nil_iff.mp hdata).resolve_left hcapacity
    refine .inr ⟨by simp [RealError, isRealError], ?_⟩
    rw [told, hqueue, hempty]
    rfl
  | received h first tail =>
    obtain ⟨datagram, rest, hqueue, hdata⟩ := (readRun_answers hf howner).head
    have hbytes : datagram ≠ [] := by
      rintro rfl
      simp at hdata
    have hlength : min datagram.length capacity = tail.length + 1 := by
      have := congrArg List.length hdata
      rw [List.length_take, List.length_cons, Nat.min_comm] at this
      exact this
    refine .inr ⟨by simp [RealError, isRealError], ?_⟩
    rw [told, hqueue]
    simp only [if_neg hbytes, hlength, hdata]
  | waiting h =>
    have hqueue : b.queue = [] := readRun_answers hf howner rfl
    refine .inr ⟨by simp [RealError, isRealError], ?_⟩
    rw [told, hqueue]
  | lost h e he => exact .inl ⟨by simp [RealError, isRealError, he], rfl⟩

/-- After a real error a read tells of a disconnect, whosever socket it is. -/
theorem readRun_fails (h : ReadRun op peek s capacity events result) (herror : RealError events) :
    result = (.disconnected, []) := by
  cases h with
  | ended | lost => rfl
  | skipped | received | waiting => simp [RealError, isRealError] at herror

/-- The answers of `told` that end a connection. -/
theorem told_disconnected_iff (b : Inbox) (capacity : Nat) :
    (b.told capacity).1.isDisconnected = true ↔ b.queue.head? = some [] := by
  unfold told
  split
  · rename_i hqueue
    simp [hqueue, Transfer.isDisconnected]
  · rename_i datagram rest hqueue
    by_cases hempty : datagram = [] <;> simp [hqueue, hempty, Transfer.isDisconnected]

theorem sees_of_faithful (h : o.Faithful) (hf : (model arrives).Follows b o.events) : b.Sees o := by
  unfold Observation.Faithful at h
  refine ⟨fun r hr howner hcapacity hreal => ?_, fun r hr hreal => ?_,
    fun s answer hprobe howner => ?_⟩
  · rw [hr] at h
    cases h with
    | read h =>
      rcases readRun_told h hf howner hcapacity with ⟨herror, -⟩ | ⟨-, htold⟩
      · exact (hreal herror).elim
      · exact htold
  · rw [hr] at h
    cases h with
    | read h => exact readRun_fails h hreal
  · rw [hprobe] at h
    cases h with
    | probed h =>
      rcases readRun_told h hf howner Nat.one_ne_zero with ⟨herror, hresult⟩ | ⟨hreal, hresult⟩
      · rw [hresult]
        exact ⟨fun _ => .inl herror, fun _ => rfl⟩
      · rw [hresult, told_disconnected_iff]
        exact ⟨.inr, fun hanswer => hanswer.resolve_left hreal⟩

end Command

/-! ## A kernel with one inbox -/

/-- What is sent anywhere arrives here, at once. -/
def delivered : Arrivals := fun past =>
  match past.getLast? with
  | some (.called (.sendTo _ data _ _) (.ok _)) => [data]
  | _ => []

/-- The replies of a kernel that is nothing but one inbox, to which all datagrams are sent. -/
def reply (b : Inbox) : (c : SystemCall) → Reply c
  | .sendTo _ data _ _ => .ok data.length
  | .receive fd capacity _ =>
    if b.owner = some fd then
      match b.queue with
      | datagram :: _ => .ok (datagram.take capacity)
      | [] => .error .wouldBlock
    else .error .badDescriptor
  | .close _ => .ok ()
  | _ => .error .badDescriptor

/-- A kernel that is nothing but one inbox. -/
def mailbox : Kernel Inbox where
  answer b c := (b.reply c, b.next delivered (.called c (b.reply c)))

end Inbox

namespace World

/-- **A UDP handle tells of the datagrams in its inbox**: any kernel that keeps the inbox, any
arrivals, any handles, and any commands in any order. -/
theorem datagrams_told {σ : Type} (k : Kernel σ) (w : World σ) (commands : List Command)
    (arrives : Arrivals) (b : Inbox)
    (h : (Inbox.model arrives).Follows b (shown (w.observed k commands))) :
    ∀ past o future, w.observed k commands = past ++ o :: future →
      ((Inbox.model arrives).after b (shown past)).Sees o := by
  intro past o future hsplit
  have hfaithful := observed_faithful k w commands
  rw [hsplit, shown_append] at h
  rw [hsplit] at hfaithful
  have hrest := (KernelModel.follows_append.mp h).2
  exact Inbox.sees_of_faithful (hfaithful o (by simp)) (KernelModel.follows_append.mp hrest).1

/-- A handle with descriptor 3 is sent a datagram by one with descriptor 4. -/
def mailed (data : List UInt8) : World Inbox :=
  (start ⟨some ⟨3⟩, [], []⟩ fun _ => none).run Inbox.mailbox
    [.adopt 3 .udp .bound, .adopt 4 .udp .created,
      .perform 0 (.sendTo data (.ofEndpoint ⟨⟨0x7F000001⟩, 4000⟩))]

/-- Reads and probes of the handle. -/
def readings : List Command :=
  [.perform 1 (.peek 16), .perform 1 (.receive 2), .perform 1 (.receive 16), .perform 1 .isDead]

/-- A datagram that is cut by the buffer, and then an empty inbox. -/
theorem datagrams_told_of_mail :
    (Inbox.model Inbox.delivered).Follows (mailed [1, 2, 3]).kernel
        (shown ((mailed [1, 2, 3]).observed Inbox.mailbox readings)) ∧
      ∀ past o future, (mailed [1, 2, 3]).observed Inbox.mailbox readings = past ++ o :: future →
        ((Inbox.model Inbox.delivered).after (mailed [1, 2, 3]).kernel (shown past)).Sees o :=
  ⟨by decide, datagrams_told _ _ _ _ _ (by decide)⟩

/-- **A datagram without bytes ends a connection that does not exist**: it is in the inbox, the
kernel reports no error, and still a peek and a receive tell of a disconnect, and a probe answers
that the socket is dead. -/
theorem empty_datagram_disconnects :
    (mailed []).kernel.queue = [[]] ∧
      ((mailed []).observed Inbox.mailbox [.perform 1 (.peek 16), .perform 1 (.receive 16)]).map
          (·.report.data?) =
        [some (.read ⟨⟨⟨3⟩, .udp, .bound, false⟩, true, 16, .disconnected, []⟩),
          some (.read ⟨⟨⟨3⟩, .udp, .bound, false⟩, false, 16, .disconnected, []⟩)] ∧
      ((mailed []).observe Inbox.mailbox (.perform 1 .isDead)).report.data? =
        some (.probed ⟨⟨3⟩, .udp, .bound, false⟩ true) ∧
      ¬ Inbox.RealError (shown ((mailed []).observed Inbox.mailbox
        [.perform 1 (.peek 16), .perform 1 (.receive 16), .perform 1 .isDead])) := by
  decide

end World
end SocketLayer
