import SocketLayer.Proofs.LifecycleHistory
import SocketLayer.Proofs.Observation

/-!
# What an operation leaves as it was

An operation on one handle changes no other. A failed one, or one that made no progress, does not
even change its own handle: nothing but its system calls tells that it was tried.

* `Operation.Fails` — the results that report failure or no progress.
* `PerformRun.unmoved`, `PerformRun.named` — what becomes of the handle itself.
* `operations_framed` — this for every handle of every world: what a failed operation leaves, what a
  successful one may change, and that a later run cannot tell a failed operation from its calls.
-/

set_option autoImplicit false

namespace SocketLayer

namespace Operation

/-- The results that report failure or no progress. A probe has nothing to achieve, so each of its
answers is one. -/
def Fails : (operation : Operation) → operation.Result → Prop
  | .bind _, r | .bindIpv4 _ _, r | .joinMulticast _ _, r | .leaveMulticast _ _, r => r = false
  | .isDead, _ => True
  | .accept, r => ∀ s, r ≠ .ok (some s)
  | .send _, r => r = .retry ∨ r = .disconnected
  | .receive _, r | .peek _, r => r.1 = .retry ∨ r.1 = .disconnected
  | .configureNonBlocking, r | .tryBind _, r | .listen _, r | .connect _, r | .shutdown _, r
  | .localAddress, r | .peerAddress, r | .peerIp, r | .peerPort, r | .sendTo _ _, r
  | .setSendBufferSize _, r | .sendBufferSize, r | .setReceiveBufferSize _, r
  | .receiveBufferSize, r | .setLinger _, r | .linger, r | .setReuseAddress _, r
  | .reuseAddress, r | .setReusePort _, r | .reusePort, r | .setTcpNoDelay _, r | .tcpNoDelay, r
  | .apply _, r | .setMulticastTtl _, r | .setMulticastLoop _, r | .setMulticastInterface _, r
  | .register _ _ _, r | .reregister _ _ _, r | .deregister _, r => ∃ e, r = .error e

/-- The operations that may move a handle through its lifecycle. -/
def mayMove : Operation → Bool
  | .bind _ | .bindIpv4 _ _ | .tryBind _ | .listen _ | .connect _ => true
  | _ => false

end Operation

namespace Socket

variable {s : Socket} {events : List Event}

/-! ## The handle itself -/

theorem TryBindRun.unmoved {address : SocketAddress} {error : NetError} {t : Socket}
    (h : TryBindRun s address events (.error error, t)) : t = s := by
  cases h <;> rfl

theorem BindRun.unmoved {address : SocketAddress} {t : Socket}
    (h : BindRun s address events (false, t)) : t = s := by
  cases h with
  | refused h => exact h.unmoved

/-- **A failed operation leaves its handle as it was**, and hands out none. -/
theorem PerformRun.unmoved {operation : Operation} {r : operation.Result × Socket}
    (h : PerformRun s operation events r) (hfails : operation.Fails r.1) :
    r.2 = s ∧ operation.accepted r.1 = [] := by
  obtain ⟨result, t⟩ := r
  cases h with
  | configure h =>
    obtain ⟨e, rfl⟩ := hfails
    cases h
    exact ⟨rfl, rfl⟩
  | tryBind h =>
    obtain ⟨e, rfl⟩ := hfails
    exact ⟨h.unmoved, rfl⟩
  | bind h =>
    cases hfails
    exact ⟨h.unmoved, rfl⟩
  | bindIpv4 h =>
    cases hfails
    exact ⟨h.unmoved, rfl⟩
  | listen h =>
    obtain ⟨e, rfl⟩ := hfails
    cases h <;> exact ⟨rfl, rfl⟩
  | accept h =>
    cases h with
    | stopped | none | failed => exact ⟨rfl, rfl⟩
    | accepted _ fd => exact (hfails _ rfl).elim
  | connect h =>
    obtain ⟨e, rfl⟩ := hfails
    cases h <;> exact ⟨rfl, rfl⟩
  | plain hop h => exact ⟨rfl, Operation.accepted_of_isPlain hop _⟩

/-- What an operation may change of its handle. -/
structure Named (operation : Operation) (s t : Socket) : Prop where
  descriptor : t.descriptor = s.descriptor
  transport : t.transport = s.transport
  state : operation.mayMove = false → t.state = s.state
  nonBlocking : operation ≠ .configureNonBlocking → t.nonBlocking = s.nonBlocking

theorem named_self (operation : Operation) (s : Socket) : Named operation s s :=
  ⟨rfl, rfl, fun _ => rfl, fun _ => rfl⟩

/-- A move changes the position only. -/
theorem named_moved {operation : Operation} (hop : operation.mayMove = true) (s : Socket)
    (state : Lifecycle) : Named operation s { s with state } := by
  refine ⟨rfl, rfl, fun hstays => ?_, fun _ => rfl⟩
  rw [hop] at hstays
  cases hstays

theorem TryBindRun.named {operation : Operation} (hop : operation.mayMove = true)
    {address : SocketAddress} {r : Except NetError Unit × Socket}
    (h : TryBindRun s address events r) : Named operation s r.2 := by
  cases h with
  | stopped | failed => exact named_self _ s
  | moved => exact named_moved hop s _

theorem BindRun.named {operation : Operation} (hop : operation.mayMove = true)
    {address : SocketAddress} {r : Bool × Socket} (h : BindRun s address events r) :
    Named operation s r.2 := by
  cases h with
  | refused h => exact h.named hop
  | moved h => exact h.named hop

/-- **An operation changes only what it is for**: the position, or the blocking mode, or nothing. -/
theorem PerformRun.named {operation : Operation} {r : operation.Result × Socket}
    (h : PerformRun s operation events r) : Named operation s r.2 := by
  cases h with
  | configure h =>
    cases h with
    | failed => exact named_self _ s
    | switched => exact ⟨rfl, rfl, fun _ => rfl, fun hop => (hop rfl).elim⟩
  | tryBind h => exact h.named rfl
  | bind h => exact h.named rfl
  | bindIpv4 h => exact h.named rfl
  | listen h =>
    cases h with
    | stopped | failed => exact named_self _ s
    | moved => exact named_moved rfl s _
  | accept h => exact named_self _ s
  | connect h =>
    cases h with
    | stopped | failed => exact named_self _ s
    | established | inProgress => exact named_moved rfl s _
  | plain hop h => exact named_self _ s

end Socket

namespace World

variable {σ : Type}

/-- What an operation on a live handle leaves as it was.

* `named` — of its own handle it changes the position only if it is one of the lifecycle, the
  blocking mode only if it is for that, and nothing else.
* `others` — every other handle stays as it was; a connection that was accepted comes first.
* `ends` — the end of a handle leaves the others, whatever the kernel replies.
* `failed` — if it reports failure or no progress, all handles are as they were, its own included.
* `later` — whatever is done after a failure shows what it would have shown had only the system
  calls been made, and ends in the same kernel and the same handles. -/
structure Framed (k : Kernel σ) (w : World σ) : Prop where
  named : ∀ (index : Nat) (h : LiveSocket) (operation : Operation), w.live[index]? = some h →
    Socket.Named operation h.socket ((h.socket.perform operation).run k w.kernel).result.2
  others : ∀ (index : Nat) (h : LiveSocket) (operation : Operation), w.live[index]? = some h →
    let run := (h.socket.perform operation).run k w.kernel
    (w.exec k (.perform index operation)).sockets =
      operation.accepted run.result.1 ++ w.sockets.set index run.result.2
  ends : ∀ (index : Nat), ∀ c ∈ [Command.release index, .close index, .drop index],
    (w.exec k c).sockets = w.sockets.eraseIdx index
  failed : ∀ (index : Nat) (h : LiveSocket) (operation : Operation), w.live[index]? = some h →
    operation.Fails ((h.socket.perform operation).run k w.kernel).result.1 →
    (w.exec k (.perform index operation)).sockets = w.sockets
  later : ∀ (index : Nat) (h : LiveSocket) (operation : Operation), w.live[index]? = some h →
    let run := (h.socket.perform operation).run k w.kernel
    operation.Fails run.result.1 → ∀ commands,
      (w.exec k (.perform index operation)).observed k commands =
          ({ w with kernel := run.kernel } : World σ).observed k commands ∧
        ((w.exec k (.perform index operation)).run k commands).Alike
          (({ w with kernel := run.kernel } : World σ).run k commands)

/-- The kernel and the handles after an operation on a live handle. -/
theorem exec_perform (k : Kernel σ) {w : World σ} {index : Nat} {h : LiveSocket}
    (hi : w.live[index]? = some h) (operation : Operation) :
    let run := (h.socket.perform operation).run k w.kernel
    (w.exec k (.perform index operation)).kernel = run.kernel ∧
      (w.exec k (.perform index operation)).sockets =
        operation.accepted run.result.1 ++ w.sockets.set index run.result.2 := by
  intro run
  have heffect : w.effect k (.perform index operation) = w.putBack index h operation run := by
    simp only [effect, withHandle, hi]
    rfl
  refine ⟨?_, ?_⟩
  · show (w.effect k (.perform index operation)).kernel = run.kernel
    rw [heffect]
    rfl
  · show (w.effect k (.perform index operation)).live.map LiveSocket.socket = _
    rw [heffect, sockets_putBack]

/-- The handles after the end of one. -/
theorem exec_end (k : Kernel σ) (w : World σ) (index : Nat) {c : Command}
    (hc : c ∈ [Command.release index, .close index, .drop index]) :
    (w.exec k c).sockets = w.sockets.eraseIdx index := by
  have hends (use : LiveSocket → Effect σ) (huse : ∀ h, (use h).live = w.live.eraseIdx index) :
      (w.withHandle index use).live.map LiveSocket.socket = w.sockets.eraseIdx index := by
    unfold withHandle
    cases hi : w.live[index]? with
    | none =>
      have hout : w.sockets.length ≤ index := by
        simpa [sockets] using List.getElem?_eq_none_iff.mp hi
      exact (List.eraseIdx_of_length_le hout).symm
    | some h =>
      dsimp only
      rw [huse, sockets_eraseIdx]
  simp only [List.mem_cons, List.not_mem_nil, or_false] at hc
  rcases hc with rfl | rfl | rfl <;> exact hends _ fun _ => rfl

/-- **Operations leave alone what they do not name**: any kernel, any handles, however reached. -/
theorem operations_framed (k : Kernel σ) (w : World σ) : Framed k w := by
  have hfailed : ∀ (index : Nat) (h : LiveSocket) (operation : Operation), w.live[index]? = some h →
      operation.Fails ((h.socket.perform operation).run k w.kernel).result.1 →
      (w.exec k (.perform index operation)).sockets = w.sockets := by
    intro index h operation hi hfails
    obtain ⟨hsame, hnone⟩ :=
      ((Socket.perform_runs h.socket operation).run k w.kernel).unmoved hfails
    rw [(exec_perform k hi operation).2, hnone, hsame, List.nil_append, sockets_set_self hi]
  refine ⟨?named, fun index h operation hi => (exec_perform k hi operation).2,
    fun index c hc => exec_end k w index hc, hfailed, ?later⟩
  case named =>
    intro index h operation hi
    exact ((Socket.perform_runs h.socket operation).run k w.kernel).named
  case later =>
    intro index h operation hi run hfails commands
    exact Alike.run commands
      ⟨(exec_perform k hi operation).1, hfailed index h operation hi hfails⟩

end World
end SocketLayer
