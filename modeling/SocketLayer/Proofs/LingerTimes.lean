import SocketLayer.Host.Settings
import SocketLayer.Proofs.OptionRegisters

/-!
# Linger times through the kernel

A linger time is handed over as two words, one for on or off and one for the seconds, and read back
from whatever two words the kernel keeps. Whole seconds survive up to the largest word, no time is
not confused with a time of zero, and what was read once is not changed by writing it back.

* `Duration.span`, `Duration.Proper` — the length of a time, and times with less than a second
  beyond the whole seconds.
* `LingerWords.Encodes` — what is handed over for a time; `encodes_ofDuration`.
* `LingerWords.Means` — words that a kernel may tell for others.
* `KeepsLinger` — a kernel that tells what was stored last, or words that mean it.
* `Socket.rewriteLinger` — reading the time and writing it back; `kept_rewriteLingers`: that any
  number of times.
* `Socket.linger_survives` — both directions, for every time and every two words.
-/

set_option autoImplicit false

namespace SocketLayer

/-! ## Spans of time -/

namespace Duration

/-- How many nanoseconds make a second. -/
def second : Nat := 1000000000

/-- Beyond the whole seconds there is less than a second. -/
def Proper (d : Duration) : Prop := d.nanos < second

instance : DecidablePred Proper := fun d => inferInstanceAs (Decidable (d.nanos < second))

/-- The whole span in nanoseconds. -/
def span (d : Duration) : Nat := d.seconds * second + d.nanos

theorem seconds_le_of_span_le {d d' : Duration} (hproper : d'.Proper) (h : d.span ≤ d'.span) :
    d.seconds ≤ d'.seconds := by
  unfold Proper span second at *
  omega

theorem seconds_eq_zero_iff {d : Duration} (hproper : d.Proper) :
    d.seconds = 0 ↔ d.span < second := by
  unfold Proper span second at *
  omega

theorem span_ofSeconds_le {d : Duration} {n : Nat} (h : n ≤ d.seconds) :
    (Duration.ofSeconds n).span ≤ d.span := by
  show n * second + 0 ≤ d.seconds * second + d.nanos
  unfold second
  omega

end Duration

/-! ## The two words -/

namespace LingerWords

/-- What is handed over for a time.

* `off` — only no time is handed over as off.
* `nonneg` — the seconds are never negative.
* `seconds` — they are the whole seconds of the time, up to the largest word.
* `zero` — they are zero exactly for a time below a second. -/
structure Encodes (words : LingerWords) (time : Option Duration) : Prop where
  off : words.onOff = 0 ↔ time = none
  nonneg : 0 ≤ words.seconds
  seconds : ∀ d ∈ time, words.seconds.toInt = min d.seconds 0x7FFFFFFF
  zero : ∀ d ∈ time, d.Proper → (words.seconds = 0 ↔ d.span < Duration.second)

theorem encodes_ofDuration (time : Option Duration) : (ofDuration? time).Encodes time := by
  cases time with
  | none => exact ⟨by decide, by decide, nofun, nofun⟩
  | some d =>
    have hseconds : (sizeWord d.seconds).toInt = min d.seconds 0x7FFFFFFF :=
      StatusCode.toInt_ofCount d.seconds
    refine ⟨⟨nofun, nofun⟩, StatusCode.ofCount_nonneg d.seconds, ?seconds, ?zero⟩
    case seconds =>
      rintro d ⟨⟩
      exact hseconds
    case zero =>
      rintro d ⟨⟩ hproper
      show sizeWord d.seconds = 0 ↔ d.span < Duration.second
      rw [← Duration.seconds_eq_zero_iff hproper, ← Int32.toInt_inj, hseconds]
      show ((min d.seconds 0x7FFFFFFF : Nat) : Int) = 0 ↔ d.seconds = 0
      omega

/-- A longer time is never handed over as fewer seconds. -/
theorem seconds_mono {d d' : Duration} (hproper : d'.Proper) (h : d.span ≤ d'.span) :
    (ofDuration? (some d)).seconds ≤ (ofDuration? (some d')).seconds :=
  StatusCode.ofCount_mono (Duration.seconds_le_of_span_le hproper h)

/-- The time of any two words: none if they are off, and no time left if the seconds are
negative. -/
theorem toDuration_eq (words : LingerWords) :
    words.toDuration? =
      if words.onOff = 0 then none else some (.ofSeconds (max 0 words.seconds.toInt).toNat) := by
  have h : (max 0 words.seconds.toInt).toNat = words.seconds.toInt.toNat := by omega
  rw [h]
  rfl

/-- What is read from any words is handed over and read back as it is. -/
theorem toDuration_ofDuration_toDuration (words : LingerWords) :
    (ofDuration? words.toDuration?).toDuration? = words.toDuration? := by
  have hlargest := words.seconds.toInt_lt
  have hseconds : min words.seconds.toInt.toNat 0x7FFFFFFF = words.seconds.toInt.toNat := by
    omega
  rw [Tunable.toDuration_ofDuration, toDuration?]
  split
  · rfl
  · exact congrArg (fun n => some (Duration.ofSeconds n)) hseconds

/-- Words that a kernel may tell for those it was given: both are on or both are off, and if they
are on the time is the same. -/
structure Means (told given : LingerWords) : Prop where
  onOff : told.onOff = 0 ↔ given.onOff = 0
  seconds : given.onOff ≠ 0 → told.seconds = given.seconds

theorem Means.toDuration_eq {told given : LingerWords} (h : told.Means given) :
    told.toDuration? = given.toDuration? := by
  unfold toDuration?
  by_cases hoff : given.onOff = 0
  · rw [if_pos hoff, if_pos (h.onOff.mpr hoff)]
  · rw [if_neg hoff, if_neg (mt h.onOff.mp hoff), h.seconds hoff]

end LingerWords

/-! ## A kernel that keeps them -/

/-- A kernel that keeps two words for each descriptor.

* `told` — it tells what it keeps; `unmoved`: which does not change by being told.
* `taken` — what it takes is kept, or words that mean it.
* `refused` — what it does not take changes nothing. -/
structure KeepsLinger {σ : Type} (k : Kernel σ) (kept : σ → Descriptor → LingerWords) : Prop where
  told : ∀ state fd, (k.answer state (.getLinger fd)).1 = .ok (kept state fd)
  unmoved : ∀ state fd, kept (k.answer state (.getLinger fd)).2 fd = kept state fd
  taken : ∀ state fd words, (k.answer state (.setLinger fd words)).1 = .ok () →
    (kept (k.answer state (.setLinger fd words)).2 fd).Means words
  refused : ∀ state fd words e, (k.answer state (.setLinger fd words)).1 = .error e →
    kept (k.answer state (.setLinger fd words)).2 fd = kept state fd

namespace Socket

/-- Reads the linger time and writes it back. -/
def rewriteLinger (s : Socket) : Program (Except NetError Unit) := do
  match ← s.linger with
  | .error error => return .error error
  | .ok time => s.setLinger time

/-- Reads the linger time and writes it back, so many times, each whatever became of it before. -/
def rewriteLingers (s : Socket) : Nat → Program Unit
  | 0 => return ()
  | n + 1 => do
    let _ ← s.rewriteLinger
    s.rewriteLingers n

section Runs

variable {σ : Type} {k : Kernel σ} {kept : σ → Descriptor → LingerWords}

/-- Reading succeeds, whatever the words, and changes nothing. -/
theorem run_linger (h : KeepsLinger k kept) (s : Socket) (state : σ) :
    s.linger.run k state =
      ⟨.ok (kept state s.descriptor).toDuration?, (k.answer state (.getLinger s.descriptor)).2,
        [.called _ (k.answer state (.getLinger s.descriptor)).1]⟩ := by
  show ((ask "linger" (.getLinger s.descriptor)).bind fun r =>
    .done (r.map LingerWords.toDuration?)).run k state = _
  rw [Program.run_bind, run_ask, h.told]
  rfl

/-- Writing makes one call and tells its reply. -/
theorem run_setLinger (k : Kernel σ) (s : Socket) (time : Option Duration) (state : σ) :
    let call : SystemCall := .setLinger s.descriptor (.ofDuration? time)
    (s.setLinger time).run k state =
      ⟨(k.answer state call).1.mapError (.ofErrno "set_linger"), (k.answer state call).2,
        [.called call (k.answer state call).1]⟩ :=
  run_ask k "set_linger" (.setLinger s.descriptor (.ofDuration? time)) state

/-- After a write the words mean the time that was written if the kernel took it, and else what they
meant before. -/
theorem kept_setLinger (h : KeepsLinger k kept) (s : Socket) (time : Option Duration) (state : σ) :
    (kept ((s.setLinger time).run k state).kernel s.descriptor).toDuration? =
      if ((s.setLinger time).run k state).result.toBool = true then
        (LingerWords.ofDuration? time).toDuration?
      else (kept state s.descriptor).toDuration? := by
  rw [run_setLinger]
  cases hreply : (k.answer state (.setLinger s.descriptor (.ofDuration? time))).1 with
  | error e =>
    show _ = (kept state s.descriptor).toDuration?
    rw [h.refused state _ _ e hreply]
  | ok done => exact (h.taken state _ _ hreply).toDuration_eq

/-- Writing back what was read changes nothing that is read. -/
theorem kept_rewriteLinger (h : KeepsLinger k kept) (s : Socket) (state : σ) :
    (kept ((s.rewriteLinger).run k state).kernel s.descriptor).toDuration? =
      (kept state s.descriptor).toDuration? := by
  let read := (k.answer state (.getLinger s.descriptor)).2
  let time := (kept state s.descriptor).toDuration?
  have hsame : kept read s.descriptor = kept state s.descriptor := h.unmoved state s.descriptor
  have hrun : (s.rewriteLinger.run k state).kernel = ((s.setLinger time).run k read).kernel := by
    rw [rewriteLinger, Program.bind_eq, Program.run_bind, run_linger h]
  rw [hrun, kept_setLinger h s time read, hsame]
  split
  · exact LingerWords.toDuration_ofDuration_toDuration _
  · rfl

/-- **Reading and writing back, any number of times, changes nothing that is read.** -/
theorem kept_rewriteLingers (h : KeepsLinger k kept) (s : Socket) (n : Nat) (state : σ) :
    (kept ((s.rewriteLingers n).run k state).kernel s.descriptor).toDuration? =
      (kept state s.descriptor).toDuration? := by
  induction n generalizing state with
  | zero => rfl
  | succ n ih =>
    have hrun : ((s.rewriteLingers (n + 1)).run k state).kernel =
        ((s.rewriteLingers n).run k (s.rewriteLinger.run k state).kernel).kernel := by
      rw [rewriteLingers, Program.bind_eq, Program.run_bind]
    rw [hrun, ih, kept_rewriteLinger h]

/-- A time is set, and then another one is read. -/
def ReadsBack (k : Kernel σ) (state : σ) (s : Socket) (time read : Option Duration) : Prop :=
  let set := (s.setLinger time).run k state
  set.result = .ok () ∧ (s.linger.run k set.kernel).result = .ok read

/-- A linger time on its way to the kernel and back.

* `handed` — a time is handed over once, in words that are right for it (`LingerWords.Encodes`), and
  setting it works exactly if the kernel takes them.
* `read` — a time that was set is read back in whole seconds, up to the largest word, and no time as
  no time.
* `rounded` — it is never read as longer than it was.
* `ordered` — a longer time is neither handed over nor read back as a shorter one.
* `told` — reading works whatever the kernel keeps: any word but zero is on, and negative seconds
  are no time left.
* `rewritten` — what was read, is set and read again, is the same.
* `stable` — so it is when it is read and written back any number of times, also if the kernel does
  not take it every time. -/
structure LingerSurvives (k : Kernel σ) (kept : σ → Descriptor → LingerWords) : Prop where
  handed : ∀ state (s : Socket) time, ∃ words : LingerWords, words.Encodes time ∧
    let reply := (k.answer state (.setLinger s.descriptor words)).1
    ((s.setLinger time).run k state).events = [.called (.setLinger s.descriptor words) reply] ∧
      ((s.setLinger time).run k state).result = reply.mapError (.ofErrno "set_linger")
  read : ∀ state (s : Socket) time, ((s.setLinger time).run k state).result = .ok () →
    ReadsBack k state s time (time.map fun d => .ofSeconds (min d.seconds 0x7FFFFFFF))
  rounded : ∀ state s d r, ReadsBack k state s (some d) (some r) → r.span ≤ d.span
  ordered : ∀ d d' : Duration, d'.Proper → d.span ≤ d'.span →
    (LingerWords.ofDuration? (some d)).seconds ≤ (LingerWords.ofDuration? (some d')).seconds ∧
      ∀ state state' s s' r r', ReadsBack k state s (some d) (some r) →
        ReadsBack k state' s' (some d') (some r') → r.span ≤ r'.span
  told : ∀ state (s : Socket), (s.linger.run k state).result =
    .ok (if (kept state s.descriptor).onOff = 0 then none
      else some (.ofSeconds (max 0 (kept state s.descriptor).seconds.toInt).toNat))
  rewritten : ∀ state (s : Socket) time, (s.linger.run k state).result = .ok time →
    ((s.setLinger time).run k (s.linger.run k state).kernel).result = .ok () →
    ReadsBack k (s.linger.run k state).kernel s time time
  stable : ∀ state (s : Socket) n,
    (s.linger.run k ((s.rewriteLingers n).run k state).kernel).result =
      (s.linger.run k state).result

theorem readsBack_of_set (h : KeepsLinger k kept) {s : Socket} {time : Option Duration} {state : σ}
    (hset : ((s.setLinger time).run k state).result = .ok ()) :
    ReadsBack k state s time (LingerWords.ofDuration? time).toDuration? := by
  refine ⟨hset, ?_⟩
  rw [run_linger h, kept_setLinger h, hset]
  rfl

/-- What is read of a time that was set is known. -/
theorem ReadsBack.eq (h : KeepsLinger k kept) {s : Socket} {time read : Option Duration} {state : σ}
    (hread : ReadsBack k state s time read) :
    read = time.map fun d => .ofSeconds (min d.seconds 0x7FFFFFFF) := by
  have hknown := (readsBack_of_set h hread.1).2
  rw [hread.2, Tunable.toDuration_ofDuration] at hknown
  exact Except.ok.inj hknown

/-- **Linger times survive the way to the kernel and back**, on every kernel that keeps two words
for each descriptor, whatever they are. -/
theorem linger_survives (h : KeepsLinger k kept) : LingerSurvives k kept := by
  refine ⟨?handed, ?read, ?rounded, ?ordered, ?told, ?rewritten, ?stable⟩
  case handed =>
    intro state s time
    refine ⟨.ofDuration? time, LingerWords.encodes_ofDuration time, ?_⟩
    rw [run_setLinger]
    exact ⟨rfl, rfl⟩
  case read =>
    intro state s time hset
    have hread := readsBack_of_set h hset
    rwa [Tunable.toDuration_ofDuration] at hread
  case rounded =>
    intro state s d r hread
    obtain rfl := Option.some.inj (hread.eq h)
    exact Duration.span_ofSeconds_le (Nat.min_le_left _ _)
  case ordered =>
    intro d d' hproper hspan
    refine ⟨LingerWords.seconds_mono hproper hspan, ?_⟩
    intro state state' s s' r r' hread hread'
    have hseconds := Duration.seconds_le_of_span_le hproper hspan
    obtain rfl := Option.some.inj (hread.eq h)
    obtain rfl := Option.some.inj (hread'.eq h)
    refine Duration.span_ofSeconds_le ?_
    show min d.seconds _ ≤ min d'.seconds _
    omega
  case told =>
    intro state s
    rw [run_linger h, LingerWords.toDuration_eq]
  case rewritten =>
    intro state s time hread hset
    have hknown : (kept state s.descriptor).toDuration? = time := by
      rw [run_linger h] at hread
      exact Except.ok.inj hread
    have hback := readsBack_of_set h hset
    rwa [← hknown, LingerWords.toDuration_ofDuration_toDuration, hknown] at hback
  case stable =>
    intro state s n
    rw [run_linger h, run_linger h, kept_rewriteLingers h]

end Runs

end Socket

/-! ## A kernel of this kind -/

namespace Host.Settings

/-- A host tells a word of its own for on, and keeps the time while it is off. -/
theorem linger_setLinger (settings : Settings) (words : LingerWords) :
    (settings.setLinger words).linger.Means words := by
  unfold setLinger
  by_cases hoff : words.onOff = 0
  · rw [if_pos hoff]
    exact ⟨iff_of_true rfl hoff, fun h => (h hoff).elim⟩
  · rw [if_neg hoff]
    exact ⟨iff_of_false nofun hoff, fun _ => rfl⟩

/-- A kernel that keeps the settings of each descriptor as a host does, and knows no other call. -/
def kernel : Kernel (Descriptor → Settings) where
  answer t
    | .setLinger fd words => (.ok (), Function.update t fd ((t fd).setLinger words))
    | .getLinger fd => (.ok (t fd).linger, t)
    | _ => (.error .badDescriptor, t)

theorem keepsLinger : KeepsLinger kernel fun t fd => (t fd).linger where
  told _ _ := rfl
  unmoved _ _ := rfl
  taken t fd words _ := by
    show (Function.update t fd ((t fd).setLinger words) fd).linger.Means words
    rw [Function.update_self]
    exact linger_setLinger _ _
  refused _ _ _ _ h := by cases h

end Host.Settings

namespace Socket

/-- On such a kernel a negative time with an odd word for on is read as zero, and still after it was
written back; the longest time comes back as the largest word, and a time below a second as zero. -/
theorem linger_survives_on_settings :
    let k := Host.Settings.kernel
    let s : Socket := ⟨⟨3⟩, .tcp, .created, false⟩
    let state : Descriptor → Host.Settings := fun _ =>
      { Host.Settings.fresh 0 0 with linger := ⟨-7, -5⟩ }
    LingerSurvives k (fun t fd => (t fd).linger) ∧
      (s.linger.run k state).result = .ok (some .zero) ∧
      (s.linger.run k ((s.rewriteLingers 2).run k state).kernel).result = .ok (some .zero) ∧
      ReadsBack k state s (some ⟨0xFFFFFFFFFFFFFFFF, 999999999⟩) (some ⟨0x7FFFFFFF, 0⟩) ∧
      ReadsBack k state s (some ⟨0, 999999999⟩) (some .zero) ∧
      ReadsBack k state s none none :=
  ⟨linger_survives Host.Settings.keepsLinger, rfl, rfl, ⟨rfl, rfl⟩, ⟨rfl, rfl⟩, ⟨rfl, rfl⟩⟩

end Socket

end SocketLayer
