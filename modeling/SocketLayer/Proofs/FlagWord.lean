import SocketLayer.Proofs.FailureReports
import SocketLayer.Proofs.OptionRegisters

/-!
# The non-blocking bit as a register

The status flags of a descriptor are one word, and a switch of the blocking mode reads the word and
writes it back with one bit changed. Either call can fail, and the write is left out where the bit
stands already. Whatever the word, the kernel and the sequence of switches, nothing but that bit
moves, and it stands where the last switch that worked put it.

* `StatusFlags.overwritten` — a write, of which a kernel may take a part of the bits only.
* `flagWords` — a kernel that keeps the words of its descriptors.
* `TurnsBit`, `SwitchRun.turnsBit` — one switch, by what became of its calls.
* `turnAll`, `turnAll_words` — a sequence of switches leaves what the last one that worked asked
  for.
* `switches_touch_one_bit` — all this for every word, every sequence and every failure.
-/

set_option autoImplicit false

namespace SocketLayer

/-! ## Words that are written in part -/

namespace StatusFlags

/-- The word after a write. The bits of a word that a kernel lets be written are those of the given
word, all others stay as they were. -/
def overwritten (flags writable given : StatusFlags) : StatusFlags :=
  ⟨flags.word &&& ~~~writable.word ||| given.word &&& writable.word⟩

theorem bit_overwritten (flags writable given : StatusFlags) (i : Nat) :
    (flags.overwritten writable given).bit i =
      if writable.bit i = true then given.bit i else flags.bit i := by
  have hbeyond : 32 ≤ i → flags.bit i = false := flags.word.toBitVec.getLsbD_of_ge i
  have hmix : (flags.overwritten writable given).bit i =
      (flags.bit i && (decide (i < 32) && !writable.bit i) || given.bit i && writable.bit i) := by
    simp only [overwritten, bit, UInt32.toBitVec_or, UInt32.toBitVec_and, UInt32.toBitVec_not,
      BitVec.getLsbD_or, BitVec.getLsbD_and, BitVec.getLsbD_not]
  rw [hmix]
  by_cases hi : i < 32
  · cases writable.bit i <;> simp [hi]
  · rw [hbeyond (by omega)]
    cases writable.bit i <;> simp

/-- A word that differs in the non-blocking bit only is written whole if that bit may be written. -/
theorem overwritten_withNonBlocking {flags writable : StatusFlags}
    (h : writable.isNonBlocking = true) (on : Bool) :
    flags.overwritten writable (flags.withNonBlocking on) = flags.withNonBlocking on := by
  rw [isNonBlocking_eq_bit] at h
  refine eq_of_bits fun i => ?_
  rw [bit_overwritten, bit_withNonBlocking]
  by_cases hi : i = 11
  · rw [hi, if_pos h]
  · simp [hi]

/-- What was written to the bit does not matter to the next write. -/
theorem withNonBlocking_settled (flags : StatusFlags) (values : List Bool) :
    (settled flags.withNonBlocking flags values).withNonBlocking = flags.withNonBlocking := by
  unfold settled
  cases values.getLast? with
  | none => rfl
  | some on => exact funext fun last => flags.withNonBlocking_withNonBlocking on last

end StatusFlags

/-! ## A kernel that keeps the words -/

/-- The status flags of each descriptor. -/
abbrev FlagTable : Type := Descriptor → StatusFlags

/-- The descriptor whose flags were read, and the flags. -/
def Event.flagsRead? : Event → Option (Descriptor × StatusFlags)
  | .called (.getFlags fd) (.ok flags) => some (fd, flags)
  | _ => none

/-- A kernel that keeps the status flags of its descriptors: it tells the flags that it has, and a
write that works overwrites what may be written. A call that fails changes nothing, for whatever
reason it fails; a word that is told as a negative number is one of these, being taken for a
failure. -/
def flagWords (writable : StatusFlags) : KernelModel FlagTable where
  next t
    | .called (.setFlags fd flags) (.ok _) =>
      Function.update t fd ((t fd).overwritten writable flags)
    | _ => t
  Fits t e := ∀ read ∈ e.flagsRead?, t read.1 = read.2

instance (writable : StatusFlags) (t : FlagTable) : DecidablePred ((flagWords writable).Fits t) :=
  fun e => inferInstanceAs (Decidable (∀ read ∈ e.flagsRead?, t read.1 = read.2))

/-! ## One switch -/

/-- What a switch does to the words of all descriptors.

* `turned` — if it worked, the bit is as asked for and every other bit of the word as before.
* `others` — the words of other descriptors are as before.
* `failed` — if it failed, so are all words.
* `reported` — it fails exactly if one of its calls did, and tells the error of that call.
* `issued` — it reads the word once, and then writes it exactly if the word could be read and the
  bit has to change. -/
structure TurnsBit (fd : Descriptor) (on : Bool) (before after : FlagTable) (events : List Event)
    (r : Except Errno Unit) : Prop where
  turned : r = .ok () → ∀ i, (after fd).bit i = if i = 11 then on else (before fd).bit i
  others : ∀ g, g ≠ fd → after g = before g
  failed : ∀ e, r = .error e → after = before
  reported : (failures events = [] ∧ r = .ok ()) ∨ ∃ c e, failures events = [(c, e)] ∧ r = .error e
  issued : ∃ (reply : Reply (.getFlags fd)) (rest : List Event),
    events = .called (.getFlags fd) reply :: rest ∧
      calls rest = if reply.toBool = true ∧ (before fd).isNonBlocking ≠ on then
        [.setFlags fd ((before fd).withNonBlocking on)] else []

namespace Socket

variable {fd : Descriptor} {on : Bool} {events : List Event} {r : Except Errno Unit}
  {writable : StatusFlags} {t : FlagTable}

/-- A switch that worked changes one bit of one word, and one that failed changes nothing. -/
theorem SwitchRun.words (h : SwitchRun fd on events r) (hw : writable.isNonBlocking = true)
    (hf : (flagWords writable).Follows t events) :
    (flagWords writable).after t events =
      match r with
      | .ok () => Function.update t fd ((t fd).withNonBlocking on)
      | .error _ => t := by
  cases h with
  | unread e => rfl
  | already flags hsame =>
    have hread : t fd = flags := hf.1 (fd, flags) rfl
    show t = Function.update t fd ((t fd).withNonBlocking on)
    rw [hread, hsame, ← hread, Function.update_eq_self]
  | unwritten flags hchanged e => rfl
  | switched flags hchanged =>
    obtain rfl : t fd = flags := hf.1 (fd, flags) rfl
    exact congrArg (Function.update t fd) (StatusFlags.overwritten_withNonBlocking hw on)

/-- A switch that worked settles the bit of its own descriptor. -/
theorem SwitchRun.settles (h : SwitchRun fd on events r) (hw : writable.isNonBlocking = true)
    (hf : (flagWords writable).Follows t events) (g : Descriptor) :
    (flagWords writable).after t events g =
      settled (t g).withNonBlocking (t g)
        (if fd = g ∧ r.toBool = true then some on else none).toList := by
  rw [h.words hw hf]
  cases r with
  | error e =>
    have hnone : ¬ (fd = g ∧ (Except.error e : Except Errno Unit).toBool = true) :=
      fun h => Bool.noConfusion h.2
    rw [if_neg hnone]
    rfl
  | ok done =>
    by_cases hg : fd = g
    · subst hg
      rw [if_pos ⟨rfl, rfl⟩]
      exact Function.update_self ..
    · rw [if_neg fun h => hg h.1]
      exact Function.update_of_ne (fun h => hg h.symm) ..

/-- A switch writes exactly if it could read the word and the bit has to change. -/
theorem SwitchRun.writes (h : SwitchRun fd on events r)
    (hf : (flagWords writable).Follows t events) :
    ∃ (reply : Reply (.getFlags fd)) (rest : List Event),
      events = .called (.getFlags fd) reply :: rest ∧
        calls rest = if reply.toBool = true ∧ (t fd).isNonBlocking ≠ on then
          [.setFlags fd ((t fd).withNonBlocking on)] else [] := by
  cases h with
  | unread e => exact ⟨.error e, [], rfl, (if_neg fun h => Bool.noConfusion h.1).symm⟩
  | already flags hsame =>
    obtain rfl : t fd = flags := hf.1 (fd, flags) rfl
    have hset := (t fd).withNonBlocking_eq_self_iff.mp hsame
    exact ⟨.ok _, [], rfl, (if_neg fun h => h.2 hset).symm⟩
  | unwritten flags hchanged e =>
    obtain rfl : t fd = flags := hf.1 (fd, flags) rfl
    have hclear := mt (t fd).withNonBlocking_eq_self_iff.mpr hchanged
    exact ⟨.ok _, _, rfl, (if_pos ⟨rfl, hclear⟩).symm⟩
  | switched flags hchanged =>
    obtain rfl : t fd = flags := hf.1 (fd, flags) rfl
    have hclear := mt (t fd).withNonBlocking_eq_self_iff.mpr hchanged
    exact ⟨.ok _, _, rfl, (if_pos ⟨rfl, hclear⟩).symm⟩

/-- **A switch turns one bit, or leaves all words alone and tells why.** -/
theorem SwitchRun.turnsBit (h : SwitchRun fd on events r) (hw : writable.isNonBlocking = true)
    (hf : (flagWords writable).Follows t events) :
    TurnsBit fd on t ((flagWords writable).after t events) events r := by
  have hwords := h.words hw hf
  refine ⟨?turned, ?others, ?failed, ?reported, h.writes hf⟩
  case turned =>
    rintro rfl i
    rw [hwords]
    show (Function.update t fd _ fd).bit i = _
    rw [Function.update_self, StatusFlags.bit_withNonBlocking]
  case others =>
    intro g hg
    rw [hwords]
    split
    · exact Function.update_of_ne hg _ t
    · rfl
  case failed =>
    rintro e rfl
    exact hwords
  case reported =>
    obtain h | ⟨⟨c, e⟩, hfailed, hr, -⟩ := h.failures
    · exact .inl h
    · exact .inr ⟨c, e, hfailed, hr⟩

end Socket

namespace TurnsBit

variable {fd : Descriptor} {on : Bool} {t t' t'' : FlagTable} {events : List Event}
  {r : Except Errno Unit}

/-- After a switch that worked the descriptor is in the mode that was asked for. -/
theorem isNonBlocking (h : TurnsBit fd on t t' events (.ok ())) : (t' fd).isNonBlocking = on := by
  rw [StatusFlags.isNonBlocking_eq_bit, h.turned rfl, if_pos rfl]

/-- A switch to the mode that the descriptor is in makes no write and changes nothing. -/
theorem of_same (h : TurnsBit fd on t t' events r) (hsame : (t fd).isNonBlocking = on) :
    calls events = [.getFlags fd] ∧ t' = t := by
  constructor
  · obtain ⟨reply, rest, rfl, hrest⟩ := h.issued
    have hnone : ¬ (reply.toBool = true ∧ (t fd).isNonBlocking ≠ on) := fun h => h.2 hsame
    rw [calls_called, hrest, if_neg hnone]
  · cases r with
    | error e => exact h.failed e rfl
    | ok done =>
      funext g
      by_cases hg : g = fd
      · subst hg
        refine StatusFlags.eq_of_bits fun i => ?_
        rw [h.turned rfl]
        split
        · rename_i hi
          rw [hi, ← StatusFlags.isNonBlocking_eq_bit, hsame]
        · rfl
      · exact h.others g hg

/-- Turning the bit on and then off restores a word whose bit was clear. -/
theorem restores {events' : List Event} (h : TurnsBit fd true t t' events (.ok ()))
    (h' : TurnsBit fd false t' t'' events' (.ok ())) (hclear : (t fd).isNonBlocking = false) :
    t'' = t := by
  funext g
  by_cases hg : g = fd
  · subst hg
    refine StatusFlags.eq_of_bits fun i => ?_
    rw [h'.turned rfl, h.turned rfl]
    by_cases hi : i = 11
    · rw [if_pos hi, hi, ← StatusFlags.isNonBlocking_eq_bit, hclear]
    · rw [if_neg hi, if_neg hi]
  · rw [h'.others g hg, h.others g hg]

end TurnsBit

/-! ## Many switches -/

/-- A request to turn the bit of a descriptor on or off. -/
structure BitRequest where
  descriptor : Descriptor
  on : Bool
  deriving DecidableEq, Repr

namespace BitRequest

/-- Makes the one switch. -/
def perform (r : BitRequest) : Program (Except Errno Unit) := r.descriptor.setNonBlocking r.on

theorem perform_runs (r : BitRequest) :
    r.perform.Ensures (Socket.SwitchRun r.descriptor r.on) :=
  Socket.setNonBlocking_runs r.descriptor r.on

end BitRequest

/-- Makes switches in a row, each whatever became of those before it, and tells what each was
told. -/
def turnAll : List BitRequest → Program (List (BitRequest × Except Errno Unit))
  | [] => return []
  | request :: rest => do
    let told ← request.perform
    return (request, told) :: (← turnAll rest)

/-- What a switch of a descriptor asked for, if it worked. -/
def workedFor? (fd : Descriptor) : BitRequest × Except Errno Unit → Option Bool
  | (request, r) => if request.descriptor = fd ∧ r.toBool = true then some request.on else none

section Sequence

variable {σ : Type} {k : Kernel σ} {state : σ} {writable : StatusFlags} {t : FlagTable}
  {requests : List BitRequest}

theorem run_turnAll_cons (request : BitRequest) (rest : List BitRequest) (state : σ) :
    (turnAll (request :: rest)).run k state =
      let first := request.perform.run k state
      let others := (turnAll rest).run k first.kernel
      ⟨(request, first.result) :: others.result, others.kernel, first.events ++ others.events⟩ := by
  show (request.perform.bind fun r => (turnAll rest).bind fun told =>
    .done ((request, r) :: told)).run k state = _
  simp only [Program.run_bind, Program.run, List.append_nil]

theorem run_turnAll_append (first second : List BitRequest) (state : σ) :
    (turnAll (first ++ second)).run k state =
      let before := (turnAll first).run k state
      let after := (turnAll second).run k before.kernel
      ⟨before.result ++ after.result, after.kernel, before.events ++ after.events⟩ := by
  induction first generalizing state with
  | nil => rfl
  | cons request rest ih =>
    simp only [List.cons_append, run_turnAll_cons, ih, List.append_assoc]

/-- **The word of a descriptor after a sequence** is the one from before with the bit as the last
switch asked for that worked. -/
theorem turnAll_words (hw : writable.isNonBlocking = true)
    (hf : (flagWords writable).Follows t ((turnAll requests).run k state).events)
    (fd : Descriptor) :
    (flagWords writable).after t ((turnAll requests).run k state).events fd =
      settled (t fd).withNonBlocking (t fd)
        (((turnAll requests).run k state).result.filterMap (workedFor? fd)) := by
  induction requests generalizing state t with
  | nil => rfl
  | cons request rest ih =>
    rw [run_turnAll_cons] at hf ⊢
    obtain ⟨hfirst, hrest⟩ := KernelModel.follows_append.mp hf
    have hmeets := (request.perform_runs.run k state).settles hw hfirst fd
    rw [KernelModel.after_append, ih hrest, hmeets, StatusFlags.withNonBlocking_settled]
    exact (settled_filterMap_cons (workedFor? fd) (request, _) _).symm

theorem length_turnAll (requests : List BitRequest) (state : σ) :
    ((turnAll requests).run k state).result.length = requests.length := by
  induction requests generalizing state with
  | nil => rfl
  | cons request rest ih =>
    rw [run_turnAll_cons, List.length_cons, List.length_cons, ih]

end Sequence

section Register

variable {σ : Type} (k : Kernel σ) (state : σ) (writable : StatusFlags) (t : FlagTable)

/-- One more switch after some others. -/
def BitRequest.runAfter (past : List BitRequest) (r : BitRequest) : Run (Except Errno Unit) σ :=
  r.perform.run k ((turnAll past).run k state).kernel

/-- The words that a kernel keeps after some switches. -/
def wordsAfter (past : List BitRequest) : FlagTable :=
  (flagWords writable).after t ((turnAll past).run k state).events

/-- The non-blocking bits of a kernel's words are registers, one for each descriptor, and the
switches write to nothing else.

* `each` — every switch of the sequence turns one bit or leaves all words alone (`TurnsBit`), and is
  told so in its place.
* `last` — after the sequence the word of a descriptor is the one from before with the bit as the
  last switch of the descriptor asked for that worked, or just the one from before.
* `kept` — every other bit is as it was before the sequence.
* `again` — a switch that worked and is made again makes no write and changes nothing.
* `restored` — turning the bit on and then off restores all words, if the bit was clear. -/
structure BitRegisters (requests : List BitRequest) : Prop where
  each : ∀ past r future, requests = past ++ r :: future →
    let run := r.runAfter k state past
    TurnsBit r.descriptor r.on (wordsAfter k state writable t past)
      (wordsAfter k state writable t (past ++ [r])) run.events run.result ∧
      ((turnAll requests).run k state).result[past.length]? = some (r, run.result)
  last : ∀ fd, wordsAfter k state writable t requests fd =
    match (((turnAll requests).run k state).result.filterMap (workedFor? fd)).getLast? with
    | some on => (t fd).withNonBlocking on
    | none => t fd
  kept : ∀ fd i, i ≠ 11 → (wordsAfter k state writable t requests fd).bit i = (t fd).bit i
  again : ∀ past r future, requests = past ++ r :: r :: future →
    (r.runAfter k state past).result = .ok () →
    calls (r.runAfter k state (past ++ [r])).events = [.getFlags r.descriptor] ∧
      wordsAfter k state writable t (past ++ [r, r]) = wordsAfter k state writable t (past ++ [r])
  restored : ∀ past fd future, requests = past ++ ⟨fd, true⟩ :: ⟨fd, false⟩ :: future →
    (wordsAfter k state writable t past fd).isNonBlocking = false →
    ((⟨fd, true⟩ : BitRequest).runAfter k state past).result = .ok () →
    ((⟨fd, false⟩ : BitRequest).runAfter k state (past ++ [⟨fd, true⟩])).result = .ok () →
    wordsAfter k state writable t (past ++ [⟨fd, true⟩, ⟨fd, false⟩]) =
      wordsAfter k state writable t past

variable {k state writable t}

theorem wordsAfter_concat (past : List BitRequest) (r : BitRequest) :
    wordsAfter k state writable t (past ++ [r]) =
      (flagWords writable).after (wordsAfter k state writable t past)
        (r.runAfter k state past).events := by
  rw [wordsAfter, run_turnAll_append, KernelModel.after_append, run_turnAll_cons]
  exact congrArg _ (List.append_nil _)

/-- A switch in a sequence is answered by the words that those before it left. -/
theorem follows_runAfter {past future : List BitRequest} {r : BitRequest}
    (h : (flagWords writable).Follows t ((turnAll (past ++ r :: future)).run k state).events) :
    (flagWords writable).Follows (wordsAfter k state writable t past)
      (r.runAfter k state past).events := by
  simp only [run_turnAll_append, run_turnAll_cons] at h
  exact (KernelModel.follows_append.mp (KernelModel.follows_append.mp h).2).1

theorem turnsBit_after (hw : writable.isNonBlocking = true) {past future : List BitRequest}
    {r : BitRequest}
    (h : (flagWords writable).Follows t ((turnAll (past ++ r :: future)).run k state).events) :
    TurnsBit r.descriptor r.on (wordsAfter k state writable t past)
      (wordsAfter k state writable t (past ++ [r])) (r.runAfter k state past).events
      (r.runAfter k state past).result := by
  rw [wordsAfter_concat]
  exact (r.perform_runs.run k _).turnsBit hw (follows_runAfter h)

/-- The second of two switches in a row starts where the first one ended. -/
theorem turnsBit_second (hw : writable.isNonBlocking = true) {past future : List BitRequest}
    {r r' : BitRequest}
    (h : (flagWords writable).Follows t
      ((turnAll (past ++ r :: r' :: future)).run k state).events) :
    TurnsBit r'.descriptor r'.on (wordsAfter k state writable t (past ++ [r]))
      (wordsAfter k state writable t (past ++ [r, r']))
      (r'.runAfter k state (past ++ [r])).events (r'.runAfter k state (past ++ [r])).result := by
  have hsplit : past ++ r :: r' :: future = (past ++ [r]) ++ r' :: future := by simp
  rw [hsplit] at h
  have hsecond := turnsBit_after hw h
  rwa [List.append_assoc] at hsecond

/-- **Switching the blocking mode touches one bit**: any words, any sequence of switches, and
whichever of their calls fail. -/
theorem switches_touch_one_bit {requests : List BitRequest} (hw : writable.isNonBlocking = true)
    (h : (flagWords writable).Follows t ((turnAll requests).run k state).events) :
    BitRegisters k state writable t requests := by
  refine ⟨?each, ?last, ?kept, ?again, ?restored⟩
  case each =>
    rintro past r future rfl
    refine ⟨turnsBit_after hw h, ?_⟩
    have hplace : ((turnAll past).run k state).result.length = past.length := length_turnAll _ _
    simp only [run_turnAll_append, run_turnAll_cons]
    rw [← hplace, List.getElem?_append_right (Nat.le_refl _), Nat.sub_self]
    rfl
  case last =>
    intro fd
    rw [wordsAfter, turnAll_words hw h, settled]
    cases (((turnAll requests).run k state).result.filterMap (workedFor? fd)).getLast? <;> rfl
  case kept =>
    intro fd i hi
    rw [wordsAfter, turnAll_words hw h, settled]
    cases (((turnAll requests).run k state).result.filterMap (workedFor? fd)).getLast? with
    | none => rfl
    | some on => exact ((t fd).bit_withNonBlocking on i).trans (if_neg hi)
  case again =>
    rintro past r future rfl hworked
    have hfirst := turnsBit_after hw h
    rw [hworked] at hfirst
    exact (turnsBit_second hw h).of_same hfirst.isNonBlocking
  case restored =>
    rintro past fd future rfl hclear hon hoff
    have hfirst := turnsBit_after hw h
    have hsecond := turnsBit_second hw h
    rw [hon] at hfirst
    rw [hoff] at hsecond
    exact hfirst.restores hsecond hclear

end Register

/-! ## A kernel that is nothing but the words -/

/-- The words, and which of the next calls fail. -/
structure FlagKeeper where
  words : FlagTable
  failing : List (Option Errno)

namespace FlagKeeper

/-- The replies of a kernel that knows of nothing but status flags. -/
def reply (x : FlagKeeper) (c : SystemCall) : Reply c :=
  match x.failing.head?.join with
  | some e => .error e
  | none =>
    match c with
    | .getFlags fd => .ok (x.words fd)
    | .setFlags .. => .ok ()
    | _ => .error .badDescriptor

def kernel (writable : StatusFlags) : Kernel FlagKeeper where
  answer x c :=
    (x.reply c, ⟨(flagWords writable).next x.words (.called c (x.reply c)), x.failing.tail⟩)

end FlagKeeper

/-- A descriptor that also has two other flags set is switched to non-blocking mode. Then a write
and a read fail, a switch has nothing to do, and the last one takes the bit back. -/
theorem switches_touch_one_bit_of_keeper :
    let writable : StatusFlags := ⟨0x46c00⟩
    let words : FlagTable := fun _ => ⟨0x2402⟩
    let keeper : FlagKeeper := ⟨words, [none, none, none, some ⟨1⟩, some ⟨4⟩, none]⟩
    let switch (on : Bool) : BitRequest := ⟨⟨3⟩, on⟩
    let requests := [true, false, false, true, false].map switch
    let run := (turnAll requests).run (FlagKeeper.kernel writable) keeper
    BitRegisters (FlagKeeper.kernel writable) keeper writable words requests ∧
      run.result.map Prod.snd = [.ok (), .error ⟨1⟩, .error ⟨4⟩, .ok (), .ok ()] ∧
      calls run.events = [.getFlags ⟨3⟩, .setFlags ⟨3⟩ ⟨0x2c02⟩, .getFlags ⟨3⟩,
        .setFlags ⟨3⟩ ⟨0x2402⟩, .getFlags ⟨3⟩, .getFlags ⟨3⟩, .getFlags ⟨3⟩,
        .setFlags ⟨3⟩ ⟨0x2402⟩] ∧
      run.kernel.words ⟨3⟩ = ⟨0x2402⟩ :=
  ⟨switches_touch_one_bit (by decide) (by decide), by decide, by decide, by decide⟩

end SocketLayer
