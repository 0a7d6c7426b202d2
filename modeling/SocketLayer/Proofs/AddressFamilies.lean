import SocketLayer.Host.Answer
import SocketLayer.Proofs.EntryPoints
import SocketLayer.Proofs.HostOrder
import SocketLayer.Proofs.LocalBinding

/-!
# The families of addresses

An address stands for an IPv4 endpoint, and its family field says so in every address that a caller
makes. The kernel fills the field in when it names a socket. A lookup of the peer reads it and tells
an endpoint of IPv4 only; a lookup of the local address does not look at it. So the name of a socket
of another family is told as an address, and a caller that passes it on hands it to the kernel.

* `Socket.PeerTold`, `Socket.Lookups` — what the two lookups tell of each reply.
* `Obtainable` — the addresses that a caller can have: made, told, or copied.
* `World.told` — the local addresses told in a run; `told_exec` — they are what callers were told.
* `World.GivesObtainable` — callers pass on no address but one that they can have by then.
* `families` — a kernel that names each socket in the socket's family.
* `World.addresses_by_family` — the lookups, the addresses in a run, those that the kernel is
  handed, and the handles that are told names of IPv4 only.
* `World.foreign_name_told` — a run in which an address of another family is told and handed over.
-/

set_option autoImplicit false

namespace SocketLayer

/-! ## The two lookups -/

namespace Socket

open Program

variable {σ : Type} {s : Socket} {events : List Event}

/-- What a lookup of the peer tells of the kernel's reply.

* `found` — the endpoint of a name of IPv4.
* `foreign` — the family of any other name.
* `none` — there is no peer, whatever the error. -/
structure PeerTold (reply : Except Errno SocketAddress) (result : Except NetError Endpoint) :
    Prop where
  found : ∀ e, result = .ok e ↔ ∃ name, reply = .ok name ∧ name.family = .inet ∧ name.endpoint = e
  foreign : ∀ family, result = .error (.unsupportedFamily family) ↔
    ∃ name, reply = .ok name ∧ name.family ≠ .inet ∧ .ofNat name.family.toNat = family
  none : result = .error .noPeer ↔ ∃ e, reply = .error e

theorem peerTold_found {name : SocketAddress} (h : name.family = .inet) :
    PeerTold (.ok name) (.ok name.endpoint) :=
  ⟨by simp [h], by simp [h], by simp⟩

theorem peerTold_foreign {name : SocketAddress} (h : name.family ≠ .inet) :
    PeerTold (.ok name) (.error (.unsupportedFamily (.ofNat name.family.toNat))) :=
  ⟨by simp [h], by simp [h], by simp⟩

theorem peerTold_none (e : Errno) : PeerTold (.error e) (.error .noPeer) :=
  ⟨by simp, by simp, by simp⟩

/-- A lookup of the peer makes one call and tells its reply. -/
theorem PeerRun.sorted {result : Except NetError Endpoint} (h : PeerRun s events result) :
    ∃ (reply : Reply (.peerName s.descriptor)) (rest : List Event),
      events = .called _ reply :: rest ∧ calls rest = [] ∧ PeerTold reply result := by
  cases h with
  | found name hfamily => exact ⟨.ok name, _, rfl, rfl, peerTold_found hfamily⟩
  | foreign name hfamily => exact ⟨.ok name, _, rfl, rfl, peerTold_foreign hfamily⟩
  | none e => exact ⟨.error e, _, rfl, rfl, peerTold_none e⟩

/-- A peer is told exactly if the kernel names one of IPv4. -/
theorem PeerTold.isOk_iff {name : SocketAddress} {result : Except NetError Endpoint}
    (h : PeerTold (.ok name) result) : result.isOk = true ↔ name.family = .inet := by
  constructor
  · intro hok
    obtain ⟨e, rfl⟩ : ∃ e, result = .ok e := by
      cases result with
      | error e => cases hok
      | ok e => exact ⟨e, rfl⟩
    obtain ⟨name', hreply, hfamily, -⟩ := (h.found e).mp rfl
    cases hreply
    exact hfamily
  · intro hfamily
    rw [(h.found name.endpoint).mpr ⟨name, rfl, hfamily, rfl⟩]
    rfl

/-- The two lookups on a kernel in some state.

* `peer_called`, `peer` — a lookup of the peer makes one call and sorts its reply by the family.
* `name_called`, `name` — a lookup of the local address makes one call and tells its reply as it is.
* `alike` — of a name that the kernel gives to both, both tell an address or only one does, by
  whether its family is IPv4. -/
structure Lookups (k : Kernel σ) (state : σ) (s : Socket) : Prop where
  peer_called : calls (s.peerAddress.run k state).events = [.peerName s.descriptor]
  peer : PeerTold (k.answer state (.peerName s.descriptor)).1 (s.peerAddress.run k state).result
  name_called : calls (s.localAddress.run k state).events = [.localName s.descriptor]
  name : (s.localAddress.run k state).result =
    (k.answer state (.localName s.descriptor)).1.mapError (.ofErrno "local_addr")
  alike : ∀ (state' : σ) (name : SocketAddress),
    (k.answer state (.peerName s.descriptor)).1 = .ok name →
    (k.answer state' (.localName s.descriptor)).1 = .ok name →
    ((s.peerAddress.run k state).result.isOk = (s.localAddress.run k state').result.isOk ↔
      name.family = .inet)

/-- A lookup of the local address tells the kernel's reply, whatever the family. -/
theorem localAddress_run (k : Kernel σ) (state : σ) (s : Socket) :
    calls (s.localAddress.run k state).events = [.localName s.descriptor] ∧
      (s.localAddress.run k state).result =
        (k.answer state (.localName s.descriptor)).1.mapError (.ofErrno "local_addr") := by
  have hrun : s.localAddress.run k state =
      ⟨(k.answer state (.localName s.descriptor)).1.mapError (.ofErrno "local_addr"), _, _⟩ :=
    run_ask k "local_addr" (.localName s.descriptor) state
  rw [hrun]
  exact ⟨rfl, rfl⟩

theorem lookups (k : Kernel σ) (state : σ) (s : Socket) : Lookups k state s := by
  obtain ⟨reply, rest, hevents, hrest, htold⟩ := ((peerAddress_runs s).run k state).sorted
  have hpeer : PeerTold (k.answer state (.peerName s.descriptor)).1
      (s.peerAddress.run k state).result := by
    rw [run_first hevents]
    exact htold
  obtain ⟨hcalled, hname⟩ := localAddress_run k state s
  refine ⟨?_, hpeer, hcalled, hname, fun state' name hreply hreply' => ?_⟩
  · rw [hevents, calls_called, hrest]
  · rw [hreply] at hpeer
    have hlocal : (s.localAddress.run k state').result.isOk = true := by
      rw [(localAddress_run k state' s).2, hreply']
      rfl
    rw [hlocal]
    exact hpeer.isOk_iff

end Socket

/-! ## The addresses that a caller can have -/

/-- The addresses that a caller can have who was told some: it made them from numbers, or was told
them, or copied such an address. -/
def Obtainable (told : List SocketAddress) (address : SocketAddress) : Prop :=
  ∃ source : AddressSource, source.address = address ∧ (source.values = none → address ∈ told)

/-- An address that a caller made is what its endpoint makes of it. -/
theorem obtainable_iff {told : List SocketAddress} {address : SocketAddress} :
    Obtainable told address ↔ address = .ofEndpoint address.endpoint ∨ address ∈ told := by
  constructor
  · rintro ⟨source, rfl, htold⟩
    cases hvalues : source.values with
    | none => exact .inr (htold hvalues)
    | some v =>
      rw [AddressSource.address_of_values hvalues, SocketAddress.new,
        SocketAddress.endpoint_ofEndpoint]
      exact .inl rfl
  · rintro (hmade | htold)
    · exact ⟨.new address.ip.value address.port, hmade.symm, nofun⟩
    · exact ⟨.given address, rfl, fun _ => htold⟩

-- membership is spelled out: the equality of callers, by endpoint, would not decide it
instance (told : List SocketAddress) : DecidablePred (Obtainable told) := fun address =>
  decidable_of_iff (address = .ofEndpoint address.endpoint ∨ ∃ name ∈ told, name = address)
    (by rw [obtainable_iff, exists_eq_right])

/-- An address that was not told is of IPv4. -/
theorem Obtainable.family {told : List SocketAddress} {address : SocketAddress}
    (h : Obtainable told address) : address.family = .inet ∨ address ∈ told :=
  (obtainable_iff.mp h).imp_left fun hmade => congrArg SocketAddress.family hmade

/-- The local addresses that the kernel told in a trace, in order. -/
def localNames (entries : List Entry) : List SocketAddress :=
  (entries.filterMap Entry.event?).filterMap Event.localName?

theorem localNames_append (first second : List Entry) :
    localNames (first ++ second) = localNames first ++ localNames second := by
  rw [localNames, List.filterMap_append, List.filterMap_append]
  rfl

/-- The address that a report tells. -/
def Report.address? : Report → Option SocketAddress
  | .performed _ .localAddress (.ok name) => some name
  | _ => none

/-- The address that the caller of a command gives. -/
def Command.address? : Command → Option SocketAddress
  | .perform _ operation => operation.address?
  | _ => none

/-! ## Who asks for local addresses, and who hands addresses over -/

theorem SystemCall.IsSetup.address? {c : SystemCall} (h : c.IsSetup) : c.address? = none := by
  cases c with
  | bind | connect | sendTo => cases h
  | _ => rfl

theorem Operation.Issues.asks {s : Socket} {operation : Operation} {fd : Descriptor}
    (h : operation.Issues s (.localName fd)) : operation = .localAddress := by
  cases operation with
  | localAddress => rfl
  | configureNonBlocking => obtain h | ⟨flags, h⟩ := h <;> cases h
  | receive capacity | peek capacity => cases h.2
  | apply profile =>
    have hwants := OptionProfile.wants_of_mem_plan h
    generalize s.transport = transport at hwants
    cases hwants
  | _ => cases h

/-- Where the kernel is not asked for a local address, none is told. -/
theorem no_name_told {events : List Event}
    (h : AllCalls (fun c => ∀ fd, c ≠ .localName fd) events) :
    events.filterMap Event.localName? = [] := by
  refine List.filterMap_eq_nil_iff.mpr fun e he => ?_
  rcases e with ⟨c, reply⟩ | entry
  · cases c with
    | localName fd => exact (h _ he _ rfl fd rfl).elim
    | _ => rfl
  · rfl

namespace Socket

/-- Asking for the local address tells what the kernel replies. -/
theorem perform_localAddress_tells (s : Socket) :
    (s.perform .localAddress).Ensures fun events r =>
      events.filterMap Event.localName? =
        (Report.performed s .localAddress r.1).address?.toList := by
  refine (perform_localAddress_runs s).mono ?_
  rintro events ⟨result, s'⟩ ⟨reply, rfl, hresult⟩
  obtain rfl : result = reply.mapError (.ofErrno "local_addr") := hresult
  rcases reply with e | (name : SocketAddress) <;> rfl

/-- **The addresses that an operation tells are the kernel's replies to it.** -/
theorem perform_tells (s : Socket) (operation : Operation) :
    (s.perform operation).Ensures fun events r =>
      events.filterMap Event.localName? = (Report.performed s operation r.1).address?.toList := by
  by_cases hop : operation = .localAddress
  · subst hop
    exact perform_localAddress_tells s
  · refine (perform_issues s operation).mono fun events r hissues => ?_
    rw [no_name_told (allCalls_mono hissues fun c hc fd => ?_)]
    · cases operation with
      | localAddress => exact (hop rfl).elim
      | _ => rfl
    · rintro rfl
      exact hop hc.asks

end Socket

/-! ## The families of sockets -/

/-- The family of each socket, as a kernel names it. Of a socket that was accepted nothing is known:
it has the family of its listener. -/
def families : Upkeep (Option Family) where
  fresh _ := some .inet
  accepted := none
  next family _ := family
  Fits family? e := ∀ name ∈ e.localName?, family? = none ∨ family? = some name.family

instance (family? : Option Family) : DecidablePred (families.Fits family?) := fun e =>
  inferInstanceAs (Decidable (∀ name ∈ e.localName?, family? = none ∨ family? = some name.family))

/-- The descriptor of a handle that was made is of IPv4 for the handle's whole life. -/
theorem family_of_made {h : LiveSocket} {transport : Transport}
    (horigin : h.origin = .made transport) {t : Descriptor → Option Family}
    (htracks : families.Tracks t h) : t h.socket.descriptor = some .inet := by
  obtain ⟨family, hstarts, hkept⟩ := htracks
  have hfresh : family = some .inet := by rwa [horigin] at hstarts
  have hsame : id (families.through h.socket.descriptor family h.history) = id family :=
    Upkeep.through_keeps fun _ _ _ => rfl
  exact hkept.trans (hsame.trans hfresh)

/-! ## The addresses of a run -/

namespace World

variable {σ : Type} {k : Kernel σ} {w : World σ}

/-- The local addresses that were told so far. -/
def told (w : World σ) : List SocketAddress := localNames w.trace

/-- What a command tells is what the kernel replied. -/
theorem localNames_effect (k : Kernel σ) (w : World σ) (c : Command) :
    localNames (w.effect k c).entries = (w.observe k c).report.address?.toList := by
  have hsetup {events : List Event} (h : AllCalls SystemCall.IsSetup events) :
      events.filterMap Event.localName? = [] := by
    refine no_name_told (allCalls_mono h ?_)
    rintro c hc fd rfl
    exact hc
  exact observe_cases
    (motive := fun report events =>
      events.filterMap Event.localName? = report.address?.toList) k w c
    (fun h => hsetup h.setup) (fun h => hsetup h.setup) (fun _ => rfl) Socket.perform_tells
    (fun _ => rfl) (fun h => hsetup h.setup) (fun h => hsetup h.setup) rfl

theorem told_exec (k : Kernel σ) (w : World σ) (c : Command) :
    (w.exec k c).told = w.told ++ (w.observe k c).report.address?.toList := by
  rw [← localNames_effect]
  exact localNames_append w.trace (w.effect k c).entries

/-- The addresses told in a run are those in its reports, in order. -/
theorem told_run (k : Kernel σ) (w : World σ) (commands : List Command) :
    (w.run k commands).told =
      w.told ++ (w.observed k commands).filterMap fun o => o.report.address? := by
  induction commands generalizing w with
  | nil => exact (List.append_nil _).symm
  | cons c rest ih =>
    have hreport : (w.observed k (c :: rest)).filterMap (fun o => o.report.address?) =
        (w.observe k c).report.address?.toList ++
          ((w.exec k c).observed k rest).filterMap fun o => o.report.address? := by
      rw [observed, List.filterMap_cons]
      cases (w.observe k c).report.address? <;> rfl
    rw [hreport, ← List.append_assoc, ← told_exec]
    exact ih (w.exec k c)

/-- Without an operation a command only makes and ends handles. -/
theorem tellOf_setup {index : Nat} {tell : LiveSocket → Report}
    (h : ∀ x, (tell x).Issues = SystemCall.IsSetup) :
    (w.tellOf index tell).Issues = SystemCall.IsSetup := by
  unfold tellOf
  cases w.live[index]? with
  | none => rfl
  | some x => exact h x

/-- The kernel is handed the address that the caller gave. -/
theorem given_of_handed (k : Kernel σ) (w : World σ) (c : Command) {call : SystemCall}
    (hcall : call ∈ calls (w.observe k c).events) {address : SocketAddress}
    (haddress : call.address? = some address) : c.address? = some address := by
  obtain ⟨e, he, hmade⟩ := mem_calls.mp hcall
  have hissues : (w.report k c).Issues call := observe_issues k w c e he call hmade
  have hnone (hsetup : (w.report k c).Issues = SystemCall.IsSetup) : c.address? = some address := by
    rw [hsetup] at hissues
    rw [hissues.address?] at haddress
    cases haddress
  cases c with
  | perform index operation => exact address_handed k w index operation hcall haddress
  | release index | close index | drop index => exact hnone (tellOf_setup fun _ => rfl)
  | _ => exact hnone rfl

/-- A caller passes on no address but one that it can have by now. -/
def GivesObtainable (w : World σ) (c : Command) : Prop :=
  ∀ address ∈ c.address?, Obtainable w.told address

instance (w : World σ) : DecidablePred w.GivesObtainable := fun c =>
  inferInstanceAs (Decidable (∀ address ∈ c.address?, Obtainable w.told address))

/-- An address that the kernel was handed is of IPv4, or the kernel had told it before. -/
def HandedByFamily (w : World σ) : Prop :=
  ∀ past call reply future, w.trace = past ++ .event (.called call reply) :: future →
    ∀ address ∈ call.address?, address.family = .inet ∨ address ∈ localNames past

/-- A command hands over addresses of IPv4, and what was told before it. -/
theorem family_of_handed {c : Command} (hc : w.GivesObtainable c) {call : SystemCall}
    {reply : Reply call} (hcall : .event (.called call reply) ∈ (w.effect k c).entries)
    {address : SocketAddress} (haddress : call.address? = some address) :
    address.family = .inet ∨ address ∈ w.told := by
  have hmade : call ∈ calls (w.observe k c).events :=
    mem_calls.mpr ⟨.called call reply, List.mem_filterMap.mpr ⟨_, hcall, rfl⟩, rfl⟩
  exact (hc address (given_of_handed k w c hmade haddress)).family

theorem handedByFamily_exec {c : Command} (h : w.HandedByFamily) (hc : w.GivesObtainable c) :
    (w.exec k c).HandedByFamily := by
  intro past call reply future htrace address haddress
  have hentries : w.trace ++ (w.effect k c).entries =
      past ++ .event (.called call reply) :: future := htrace
  rcases List.append_eq_append_iff.mp hentries with ⟨between, hpast, hnew⟩ | ⟨between, hold, hnew⟩
  · -- the call is one of the command's own
    have hcall : .event (.called call reply) ∈ (w.effect k c).entries := by
      rw [hnew]
      exact List.mem_append_right between List.mem_cons_self
    rw [hpast, localNames_append]
    exact (family_of_handed hc hcall haddress).imp_right (List.mem_append_left _)
  · cases between with
    | nil =>
      -- it is the first of them
      have hcall : .event (.called call reply) ∈ (w.effect k c).entries := by
        rw [← List.nil_append (w.effect k c).entries, ← hnew]
        exact List.mem_cons_self
      rw [List.append_nil] at hold
      rw [← hold]
      exact family_of_handed hc hcall haddress
    | cons entry rest =>
      -- it was there before
      obtain ⟨rfl, -⟩ := List.cons.inj hnew
      exact h past call reply rest hold address haddress

/-- The families of addresses after some commands.

* `told` — the local addresses that the kernel named are those that callers were told, in order.
* `existing` — an address that a caller can have is of IPv4, or was told as a local address.
* `handed` — an address that the kernel was handed is of IPv4, or was told before.
* `inet` — so if every local address that was told is of IPv4, all are: those that callers can have,
  and those that the kernel was handed. -/
structure ByFamily (k : Kernel σ) (w₀ : World σ) (commands : List Command) : Prop where
  told : (w₀.run k commands).told =
    (w₀.observed k commands).filterMap fun o => o.report.address?
  existing : ∀ address, Obtainable (w₀.run k commands).told address →
    address.family = .inet ∨ address ∈ (w₀.run k commands).told
  handed : (w₀.run k commands).HandedByFamily
  inet : (∀ name ∈ (w₀.run k commands).told, name.family = .inet) →
    (∀ address, Obtainable (w₀.run k commands).told address → address.family = .inet) ∧
      ∀ call reply, .event (.called call reply) ∈ (w₀.run k commands).trace →
        ∀ address ∈ call.address?, address.family = .inet

theorem byFamily (k : Kernel σ) (kernel : σ) (table : DescriptorTable) (commands : List Command)
    (h : Along k GivesObtainable (start kernel table) commands) :
    ByFamily k (start kernel table) commands := by
  have hstart : (start kernel table).HandedByFamily := by
    intro past call reply future htrace
    exact (List.append_ne_nil_of_right_ne_nil past (List.cons_ne_nil _ _) htrace.symm).elim
  have hhanded := run_invariant (fun _ _ => handedByFamily_exec) commands _ hstart h
  refine ⟨told_run k _ commands, fun _ => Obtainable.family, hhanded, fun hinet => ⟨?_, ?_⟩⟩
  · exact fun address hhas => hhas.family.elim id (hinet address)
  · intro call reply hcall address haddress
    obtain ⟨past, future, htrace⟩ := List.append_of_mem hcall
    refine (hhanded past call reply future htrace address haddress).elim id fun htold => ?_
    refine hinet address ?_
    rw [World.told, htrace, localNames_append]
    exact List.mem_append_left _ htold

/-- No handle that the library made is told a name of another family, after some commands. -/
def NamedInFamily (k : Kernel σ) (w₀ : World σ) (t : Descriptor → Option Family)
    (commands : List Command) : Prop :=
  ∀ index h transport name, (w₀.run k commands).live[index]? = some h → h.origin = .made transport →
    families.model.Follows t
      (shown (w₀.observed k (commands ++ [.perform index .localAddress]))) →
    ((w₀.run k commands).observe k (.perform index .localAddress)).report =
      .performed h.socket .localAddress (.ok name) →
    name.family = .inet

theorem namedInFamily (k : Kernel σ) (kernel : σ) (table : DescriptorTable)
    (t : Descriptor → Option Family) (commands : List Command)
    (h : Along k (Lawful DescriptorTable.OpensUnused k) (start kernel table) commands) :
    NamedInFamily k (start kernel table) t commands := by
  intro index handle transport name hi horigin hf hreport
  have htracks := tracks_run families t h handle (List.mem_of_getElem? hi)
  have hfits := follows_perform hi hf
  obtain ⟨reply, hevents, hobserve⟩ := observe_localAddress k hi
  rw [hevents] at hfits
  have hnamed := hfits.1 handle.socket.descriptor rfl
  rw [family_of_made horigin htracks] at hnamed
  rw [hobserve] at hreport
  rcases reply with e | (name' : SocketAddress)
  · cases hreport
  · cases hreport
    obtain hunknown | hfamily := hnamed name rfl
    · cases hunknown
    · exact (Option.some.inj hfamily).symm

/-- **Addresses are of IPv4, but for the names of sockets that are not.** On any kernel, for every
handle: a lookup of the peer tells what is of IPv4 and refuses all else by its family; a lookup of
the local address tells any name. In every run, of callers that make, copy and are told their
addresses, only a name told so can be of another family, or be handed to the kernel as such; and on
a kernel that names sockets in their families no handle that the library made is told one. -/
theorem addresses_by_family (k : Kernel σ) (kernel : σ) (table : DescriptorTable)
    (t : Descriptor → Option Family) (commands : List Command) :
    (∀ (state : σ) (s : Socket), Socket.Lookups k state s) ∧
      (Along k GivesObtainable (start kernel table) commands →
        ByFamily k (start kernel table) commands) ∧
      (Along k (Lawful DescriptorTable.OpensUnused k) (start kernel table) commands →
        NamedInFamily k (start kernel table) t commands) :=
  ⟨fun state s => Socket.lookups k state s, byFamily k kernel table commands,
    namedInFamily k kernel table t commands⟩

/-- A UDP handle is bound and asked for its address, and sends to a copy of it. -/
def sentToItself : List Command :=
  [.makeUdp, .perform 0 (.tryBind (.new 0x7F000001 0)), .perform 0 .localAddress,
    .perform 0 (.sendTo [120] (.new 0x7F000001 32768))]

theorem addresses_by_family_on_host :
    let w := silent.run Host.kernel sentToItself
    w.told = [.new 0x7F000001 32768] ∧
      (∀ call reply, .event (.called call reply) ∈ w.trace →
        ∀ address ∈ call.address?, address.family = .inet) ∧
      ∀ name, (w.observe Host.kernel (.perform 0 .localAddress)).report =
          .performed ⟨⟨3⟩, .udp, .bound, true⟩ .localAddress (.ok name) → name.family = .inet := by
  intro w
  obtain ⟨-, hrun, hnames⟩ := addresses_by_family Host.kernel (Host.boot []) (fun _ => none)
    (fun _ => none) sentToItself
  have horigin : w.live[0]?.map LiveSocket.origin = some (.made .udp) := by decide
  have hsocket : w.live[0]?.map LiveSocket.socket = some ⟨⟨3⟩, .udp, .bound, true⟩ := by decide
  obtain ⟨h, hi, hs⟩ := Option.map_eq_some_iff.mp hsocket
  rw [hi] at horigin
  refine ⟨by decide, ((hrun (by decide)).inet (by decide)).2, fun name hreport => ?_⟩
  rw [← hs] at hreport
  exact hnames (by decide) 0 h .udp name hi (Option.some.inj horigin) (by decide) hreport

/-- A host with a local stream pair that the rest of the program opened. -/
def paired : World Host where
  kernel := ((Host.boot []).socketPair.toOption.map fun pair => pair.2.2).getD (Host.boot [])
  table fd := if fd = ⟨3⟩ ∨ fd = ⟨4⟩ then some true else none
  live := []
  trace := []

/-- One end is taken over. -/
def endAdopted : List Command := [.adopt 3 .tcp .connected]

/-- **A name of another family is told as an address.** The end of a local stream pair is asked for
both of its names: the peer is refused by its family, and the local address is told although its
family is the same. A caller that then binds a new handle to the address hands it to the kernel. -/
theorem foreign_name_told :
    let k := Host.kernel
    let pairEnd := paired.run k endAdopted
    let name := SocketAddress.ofFamily .unix
    let passedOn : List Command :=
      [.perform 0 .localAddress, .makeTcp true, .perform 0 (.tryBind name)]
    Along k (Lawful DescriptorTable.OpensUnused k) paired (endAdopted ++ passedOn) ∧
      Along k GivesObtainable paired (endAdopted ++ passedOn) ∧
      (pairEnd.observe k (.perform 0 .peerAddress)).report =
        .performed ⟨⟨3⟩, .tcp, .connected, false⟩ .peerAddress (.error (.unsupportedFamily 1)) ∧
      (pairEnd.observe k (.perform 0 .localAddress)).report =
        .performed ⟨⟨3⟩, .tcp, .connected, false⟩ .localAddress (.ok name) ∧
      name.family ≠ .inet ∧
      .bind ⟨5⟩ name ∈ calls (shown (pairEnd.observed k passedOn)) := by
  refine ⟨?lawful, ?obtainable, ?peer, ?name, ?family, ?handed⟩
  case lawful => decide
  case obtainable => decide
  case peer => rfl
  case name => rfl
  case family => decide
  case handed => decide

end World
end SocketLayer
