import SocketLayer.Proofs.DataReports

/-!
# Which outcome stands for which reply

A send and a read make one call and sort its reply into three outcomes. A read of no bytes is an
orderly close, so a read into an empty buffer, which could only be answered so, makes no call. What
follows is what a caller relies on who takes the count as an index into the buffer.

* `SendTold`, `ReadTold` — the outcome of each reply, each way round.
* `SendRun.told`, `ReadRun.told` — a run tells its reply.
* `filled` — a caller's buffer after a read.
* `Reads.fits` — the count of a read stays within the buffer, and the rest of it as it was.
* `Probes.dead` — when a probe answers that the connection has ended.
* `transfers_classified` — this for every handle, buffer and kernel, in any state.
-/

set_option autoImplicit false

namespace SocketLayer.Socket

open Program

variable {σ : Type} {k : Kernel σ} {state : σ} {s : Socket} {events : List Event}

/-! ## Replies and outcomes -/

/-- What a send tells of the kernel's reply.

* `transferred` — the count, zero included.
* `retry` — would-block.
* `disconnected` — every other error. -/
structure SendTold (reply : Except Errno Nat) (outcome : Transfer) : Prop where
  transferred : ∀ n, outcome = .transferred n ↔ reply = .ok n
  retry : outcome = .retry ↔ reply = .error .wouldBlock
  disconnected : outcome = .disconnected ↔ ∃ e, reply = .error e ∧ e ≠ .wouldBlock

/-- A reply that ends a connection for its reader: no bytes, or an error other than would-block. -/
def Ends (reply : Except Errno (List UInt8)) : Prop :=
  reply = .ok [] ∨ ∃ e, reply = .error e ∧ e ≠ .wouldBlock

/-- What a read into a buffer that is not empty tells of the kernel's reply.

* `transferred` — the number of bytes, if there are any.
* `retry` — would-block.
* `disconnected` — no bytes, and every other error.
* `bytes` — the bytes of the reply go into the buffer. -/
structure ReadTold (reply : Except Errno (List UInt8)) (result : Transfer × List UInt8) : Prop where
  transferred : ∀ n, result.1 = .transferred n ↔ 1 ≤ n ∧ ∃ data, reply = .ok data ∧ data.length = n
  retry : result.1 = .retry ↔ reply = .error .wouldBlock
  disconnected : result.1 = .disconnected ↔ Ends reply
  bytes : result.2 = reply.toOption.getD []

theorem not_ends_wouldBlock : ¬ Ends (.error .wouldBlock) := by
  rintro (h | ⟨e, h, he⟩)
  · cases h
  · cases h
    exact he rfl

theorem not_ends_bytes {first : UInt8} {rest : List UInt8} : ¬ Ends (.ok (first :: rest)) := by
  rintro (h | ⟨e, h, -⟩) <;> cases h

/-- The reply determines what a read tells. -/
theorem ReadTold.unique {reply : Except Errno (List UInt8)} {first second : Transfer × List UInt8}
    (h : ReadTold reply first) (h' : ReadTold reply second) : first = second := by
  refine Prod.ext ?_ (h.bytes.trans h'.bytes.symm)
  cases hfirst : first.1 with
  | transferred n => exact ((h'.transferred n).mpr ((h.transferred n).mp hfirst)).symm
  | retry => exact (h'.retry.mpr (h.retry.mp hfirst)).symm
  | disconnected => exact (h'.disconnected.mpr (h.disconnected.mp hfirst)).symm

theorem sendTold_sent (count : Nat) : SendTold (.ok count) (.transferred count) :=
  ⟨by simp, by simp, by simp⟩

theorem sendTold_waiting : SendTold (.error .wouldBlock) .retry := ⟨by simp, by simp, by simp⟩

theorem sendTold_lost {e : Errno} (he : e ≠ .wouldBlock) : SendTold (.error e) .disconnected :=
  ⟨by simp, by simp [he], by simp [he]⟩

theorem readTold_ended : ReadTold (.ok []) (.disconnected, []) := by
  refine ⟨fun n => ?_, by simp, by simp [Ends], rfl⟩
  simp only [reduceCtorEq, false_iff]
  rintro ⟨hn, data, hdata, hlength⟩
  cases hdata
  rw [List.length_nil] at hlength
  omega

theorem readTold_received (first : UInt8) (rest : List UInt8) :
    ReadTold (.ok (first :: rest)) (.transferred (rest.length + 1), first :: rest) := by
  refine ⟨fun n => ?_, by simp, by simp [not_ends_bytes], rfl⟩
  simp only [Transfer.transferred.injEq, Except.ok.injEq, exists_eq_left', List.length_cons]
  omega

theorem readTold_waiting : ReadTold (.error .wouldBlock) (.retry, []) :=
  ⟨by simp, by simp, by simp [not_ends_wouldBlock], rfl⟩

theorem readTold_lost {e : Errno} (he : e ≠ .wouldBlock) :
    ReadTold (.error e) (.disconnected, []) :=
  ⟨by simp, by simp [he], by simp [Ends, he], rfl⟩

/-- A send makes one call and tells its reply. -/
theorem SendRun.told {data : List UInt8} {outcome : Transfer} (h : SendRun s data events outcome) :
    ∃ (reply : Reply (.send s.descriptor data true)) (rest : List Event),
      events = .called _ reply :: rest ∧ calls rest = [] ∧ SendTold reply outcome := by
  cases h with
  | sent count => exact ⟨.ok count, _, rfl, rfl, sendTold_sent count⟩
  | waiting => exact ⟨.error .wouldBlock, _, rfl, rfl, sendTold_waiting⟩
  | lost e he => exact ⟨.error e, _, rfl, rfl, sendTold_lost he⟩

/-- A read into a buffer that is not empty makes one call and tells its reply. -/
theorem ReadRun.told {op : String} {peek : Bool} {capacity : Nat} {result : Transfer × List UInt8}
    (h : ReadRun op peek s capacity events result) (hcapacity : capacity ≠ 0) :
    ∃ (reply : Reply (.receive s.descriptor capacity peek)) (rest : List Event),
      events = .called _ reply :: rest ∧ calls rest = [] ∧ ReadTold reply result := by
  cases h with
  | skipped h => exact (hcapacity h).elim
  | ended _ => exact ⟨.ok [], _, rfl, rfl, readTold_ended⟩
  | received _ first rest => exact ⟨.ok (first :: rest), _, rfl, rfl, readTold_received first rest⟩
  | waiting _ => exact ⟨.error .wouldBlock, _, rfl, rfl, readTold_waiting⟩
  | lost _ e he => exact ⟨.error e, _, rfl, rfl, readTold_lost he⟩

/-! ## The caller's buffer -/

/-- A caller's buffer after a read that put bytes into it, from its start. -/
def filled (buffer data : List UInt8) : List UInt8 := data ++ buffer.drop data.length

theorem length_filled {buffer data : List UInt8} (h : data.length ≤ buffer.length) :
    (filled buffer data).length = buffer.length := by
  rw [filled, List.length_append, List.length_drop]
  omega

theorem drop_filled (buffer data : List UInt8) :
    (filled buffer data).drop data.length = buffer.drop data.length := List.drop_left

/-- The count of a read stays within the buffer, and beyond it the buffer is as it was.

* `within` — the count is an index into the buffer, or its length.
* `positive` — it is zero for an empty buffer only.
* `count` — so many bytes were put into the buffer.
* `length`, `beyond` — the buffer keeps its size and all bytes from the count on. -/
structure Fits (buffer : List UInt8) (n : Nat) (data : List UInt8) : Prop where
  within : n ≤ buffer.length
  positive : n = 0 ↔ buffer = []
  count : data.length = n
  length : (filled buffer data).length = buffer.length
  beyond : (filled buffer data).drop n = buffer.drop n

/-- A read on a kernel, by the program that reads.

* `skipped` — an empty buffer is told as full, whatever the kernel would have answered: nothing is
  asked and nothing logged.
* `called`, `told` — else one call is made, and the outcome tells its reply.
* `fits` — if the kernel hands out no more than it was asked for, the count fits the buffer.
* `untouched` — without a count the buffer is as it was. -/
structure Reads (k : Kernel σ) (state : σ) (s : Socket) (peek : Bool) (buffer : List UInt8)
    (program : Program (Transfer × List UInt8)) : Prop where
  skipped : buffer = [] → program.run k state = ⟨(.transferred 0, []), state, []⟩
  called : buffer ≠ [] →
    calls (program.run k state).events = [.receive s.descriptor buffer.length peek]
  told : buffer ≠ [] →
    ReadTold (k.answer state (.receive s.descriptor buffer.length peek)).1
      (program.run k state).result
  fits : (∀ data : List UInt8,
      (k.answer state (.receive s.descriptor buffer.length peek)).1 = .ok data →
        data.length ≤ buffer.length) →
    ∀ n, (program.run k state).result.1 = .transferred n →
      Fits buffer n (program.run k state).result.2
  untouched : (∀ n, (program.run k state).result.1 ≠ .transferred n) →
    filled buffer (program.run k state).result.2 = buffer

theorem reads (k : Kernel σ) (state : σ) (s : Socket) (op : String) (peek : Bool)
    (buffer : List UInt8) : Reads k state s peek buffer (s.read op peek buffer.length) := by
  have hempty : buffer = [] →
      (s.read op peek buffer.length).run k state = ⟨(.transferred 0, []), state, []⟩ := by
    rintro rfl
    rfl
  have hruns := (read_runs op peek s buffer.length).run k state
  have htold : buffer ≠ [] →
      calls ((s.read op peek buffer.length).run k state).events =
          [.receive s.descriptor buffer.length peek] ∧
        ReadTold (k.answer state (.receive s.descriptor buffer.length peek)).1
          ((s.read op peek buffer.length).run k state).result := by
    intro hbuffer
    obtain ⟨reply, rest, hevents, hrest, htold⟩ :=
      hruns.told (mt List.eq_nil_of_length_eq_zero hbuffer)
    rw [run_first hevents, hevents, calls_called, hrest]
    exact ⟨rfl, htold⟩
  refine ⟨hempty, fun h => (htold h).1, fun h => (htold h).2, fun hkernel n hn => ?_,
    fun hnone => ?_⟩
  · by_cases hbuffer : buffer = []
    · rw [hempty hbuffer] at hn ⊢
      cases hn
      subst hbuffer
      exact ⟨Nat.le_refl 0, by simp, rfl, rfl, rfl⟩
    · have htold := (htold hbuffer).2
      obtain ⟨hpositive, data, hreply, rfl⟩ := (htold.transferred n).mp hn
      have hdata : ((s.read op peek buffer.length).run k state).result.2 = data := by
        rw [htold.bytes, hreply]
        rfl
      have hwithin := hkernel data hreply
      rw [hdata]
      exact ⟨hwithin, by simp only [hbuffer, iff_false]; omega, rfl, length_filled hwithin,
        drop_filled buffer data⟩
  · by_cases hbuffer : buffer = []
    · rw [hempty hbuffer] at hnone
      exact (hnone 0 rfl).elim
    · have htold := (htold hbuffer).2
      rw [htold.bytes]
      cases hreply : (k.answer state (.receive s.descriptor buffer.length peek)).1 with
      | error e => rfl
      | ok data =>
        cases data with
        | nil => rfl
        | cons first rest =>
          exact (hnone _ ((htold.transferred _).mpr ⟨Nat.succ_pos _, _, hreply, rfl⟩)).elim

/-- Reads into buffers of one size that get the same reply tell the same, taking or peeking. -/
theorem Reads.alike {σ' : Type} {k' : Kernel σ'} {state' : σ'} {peek peek' : Bool}
    {buffer buffer' : List UInt8} {program program' : Program (Transfer × List UInt8)}
    (h : Reads k state s peek buffer program) (h' : Reads k' state' s peek' buffer' program')
    (hlength : buffer.length = buffer'.length)
    (hreply : (k.answer state (.receive s.descriptor buffer.length peek)).1 =
      (k'.answer state' (.receive s.descriptor buffer'.length peek')).1) :
    (program.run k state).result = (program'.run k' state').result := by
  by_cases hbuffer : buffer = []
  · have hbuffer' : buffer' = [] := by
      rw [← List.length_eq_zero_iff, ← hlength, hbuffer]
      rfl
    rw [h.skipped hbuffer, h'.skipped hbuffer']
  · have hbuffer' : buffer' ≠ [] := by
      rw [← List.length_pos_iff, ← hlength]
      exact List.length_pos_iff.mpr hbuffer
    have htold' := h'.told hbuffer'
    rw [← hreply] at htold'
    exact (h.told hbuffer).unique htold'

/-! ## Every transfer -/

/-- A probe on a kernel: a read of one byte, which answers whether the connection has ended. -/
structure Probes (k : Kernel σ) (state : σ) (s : Socket) : Prop where
  called : calls (s.isDead.run k state).events = [.receive s.descriptor 1 false]
  dead : (s.isDead.run k state).result = true ↔
    Ends (k.answer state (.receive s.descriptor 1 false)).1
  waits : (k.answer state (.receive s.descriptor 1 false)).1 = .error .wouldBlock →
    (s.isDead.run k state).result = false

theorem probes (k : Kernel σ) (state : σ) (s : Socket) : Probes k state s := by
  have hread := reads k state s "recv" false [0]
  have hevents : (s.isDead.run k state).events = ((s.receive 1).run k state).events := by
    simp only [isDead, bind_eq, pure_eq, run_bind, run, List.append_nil]
  have hresult : (s.isDead.run k state).result =
      ((s.receive 1).run k state).result.1.isDisconnected := by
    simp only [isDead, bind_eq, pure_eq, run_bind, run]
  have hdead : (s.isDead.run k state).result = true ↔
      Ends (k.answer state (.receive s.descriptor 1 false)).1 := by
    rw [hresult, Transfer.isDisconnected, beq_iff_eq]
    exact (hread.told (List.cons_ne_nil _ _)).disconnected
  refine ⟨hevents ▸ hread.called (List.cons_ne_nil _ _), hdead, fun hreply => ?_⟩
  rw [hreply] at hdead
  exact Bool.eq_false_iff.mpr (mt hdead.mp not_ends_wouldBlock)

/-- The transfers of a handle with a buffer, on a kernel in some state.

* `called`, `sends` — a send makes one call and tells its reply.
* `receives`, `peeks` — so do the two reads, unless the buffer is empty.
* `alike` — a receive and a peek, of any two states, that get the same reply tell the same.
* `probes` — a probe answers what a receive would tell. -/
structure Classified (k : Kernel σ) (state : σ) (s : Socket) (buffer : List UInt8) : Prop where
  called : calls ((s.send buffer).run k state).events = [.send s.descriptor buffer true]
  sends : SendTold (k.answer state (.send s.descriptor buffer true)).1
    ((s.send buffer).run k state).result
  receives : Reads k state s false buffer (s.receive buffer.length)
  peeks : Reads k state s true buffer (s.peek buffer.length)
  alike : ∀ state' : σ, (k.answer state (.receive s.descriptor buffer.length false)).1 =
      (k.answer state' (.receive s.descriptor buffer.length true)).1 →
    ((s.receive buffer.length).run k state).result = ((s.peek buffer.length).run k state').result
  probes : Probes k state s

/-- **Every reply to a transfer has its outcome, and every outcome its replies**, whatever the
kernel: would-block is the only reply that asks to wait, what ends a connection is never told as
waiting, and a count can be taken as an index into the buffer. -/
theorem transfers_classified (k : Kernel σ) (state : σ) (s : Socket) (buffer : List UInt8) :
    Classified k state s buffer := by
  obtain ⟨reply, rest, hevents, hrest, htold⟩ := ((send_runs s buffer).run k state).told
  have hreceives := reads k state s "recv" false buffer
  refine ⟨?_, ?_, hreceives, reads k state s "peek" true buffer, fun state' hreply => ?_,
    probes k state s⟩
  · rw [hevents, calls_called, hrest]
  · rw [run_first hevents]
    exact htold
  · exact hreceives.alike (reads k state' s "peek" true buffer) rfl hreply

end SocketLayer.Socket
