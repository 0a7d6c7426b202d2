import Mathlib.Data.List.DropRight
import Mathlib.Data.List.Induction
import SocketLayer.SocketAddress
import SocketLayer.Text.Layout

/-!
# The text of an address

Every address has one text and every text is that of one address at most: four numerals with dots
between them, a colon, and one more numeral, none of them with a zero to spare. So the text can
stand for the address, also under the name of its type, and in a field it is shown as far as the
precision goes, with nothing but fill around it.

* `Decimal.Numeral` — what a numeral is; it is what is read (`read?_eq_some_iff`) and what is
  written (`numeral_iff`).
* `Ipv4.IsDotted`, `Endpoint.IsAddressText` — what the text of an address is. The readers accept
  it and nothing else (`Ipv4.read?_eq_some_iff`, `Endpoint.read?_eq_some_iff`), and it is written
  (`isDotted_iff`, `isAddressText_iff`).
* `Layout.Shows` — what a field shows of a text; `Layout.shows_render`.
* `SocketAddress.text_canonical` — the text of every two addresses, in every field.
-/

set_option autoImplicit false

namespace SocketLayer

/-! ## Numerals -/

namespace Decimal

/-- The decimal numeral of a number.

* `nonempty`, `onlyDigits` — it is made of digits, at least one.
* `lead` — it starts with a zero only if it is nothing but a zero.
* `value` — its value is the number. -/
structure Numeral (text : List Char) (n : Nat) : Prop where
  nonempty : text ≠ []
  onlyDigits : ∀ c ∈ text, c.isDigit = true
  lead : text.head? = some '0' → text = ['0']
  value : text.foldl (fun n c => 10 * n + (c.toNat - '0'.toNat)) 0 = n

theorem isNumeral_iff (text : List Char) :
    isNumeral text = true ↔
      text ≠ [] ∧ (∀ c ∈ text, c.isDigit = true) ∧ (text.head? = some '0' → text = ['0']) := by
  match text with
  | [] => simp [isNumeral]
  | [c] => simp [isNumeral]
  | c :: d :: rest =>
    simp only [isNumeral, List.head?_cons, Option.some.injEq, List.all_eq_true,
      List.forall_mem_cons, Bool.and_eq_true, bne_iff_ne, ne_eq, reduceCtorEq, not_false_eq_true,
      true_and, List.cons.injEq, and_false, imp_false]
    tauto

theorem read?_eq_some_iff {text : List Char} {n : Nat} : read? text = some n ↔ Numeral text n := by
  rw [read?, Option.ite_none_right_eq_some, isNumeral_iff, Option.some.injEq,
    Nat.ofDigitChars_eq_foldl]
  constructor
  · rintro ⟨⟨hne, hdigits, hlead⟩, hvalue⟩
    exact ⟨hne, hdigits, hlead, hvalue⟩
  · rintro ⟨hne, hdigits, hlead, hvalue⟩
    exact ⟨⟨hne, hdigits, hlead⟩, hvalue⟩

theorem not_mem_digits {c : Char} (h : c.isDigit = false) (n : Nat) : c ∉ digits n := by
  intro hmem
  rw [isDigit_of_mem_digits hmem] at h
  cases h

theorem numeral_digits (n : Nat) : Numeral (digits n) n :=
  read?_eq_some_iff.mp (read?_digits n)

/-- A digit is the one written for its value. -/
theorem digitChar_value {c : Char} (h : c.isDigit = true) :
    c.toNat - '0'.toNat < 10 ∧ (c.toNat - '0'.toNat).digitChar = c := by
  have hzero : '0'.toNat = 48 := rfl
  have hnine : '9'.toNat = 57 := rfl
  have hrange := Char.isDigit_iff_toNat.mp h
  have hlt : c.toNat - '0'.toNat < 10 := by omega
  refine ⟨hlt, Char.toNat_inj.mp ?_⟩
  rw [Nat.toNat_digitChar_of_lt_ten hlt]
  omega

/-- A numeral is what is written for its value. -/
theorem Numeral.eq_digits {text : List Char} {n : Nat} (h : Numeral text n) : text = digits n := by
  -- The value is folded from the left, so the last digit is the one to take off.
  induction text using List.reverseRecOn generalizing n with
  | nil => exact absurd rfl h.nonempty
  | append_singleton front c ih =>
    obtain ⟨-, hdigits, hlead, hvalue⟩ := h
    obtain ⟨hlt, hchar⟩ := digitChar_value (hdigits c (by simp))
    rw [List.foldl_append, List.foldl_cons, List.foldl_nil] at hvalue
    generalize hm : front.foldl (fun n c => 10 * n + (c.toNat - '0'.toNat)) 0 = m at hvalue
    by_cases hfront : front = []
    · subst hfront hm
      have hn : n = c.toNat - '0'.toNat := by simpa using hvalue.symm
      rw [hn, digits_of_lt hlt, hchar, List.nil_append]
    · -- More than one digit, so none of them is a zero in front.
      have hnonzero : front.head? ≠ some '0' := by
        intro hhead
        have hlong := hlead (by rw [List.head?_append_of_ne_nil _ hfront, hhead])
        have := congrArg List.length hlong
        have := List.length_pos_iff.mpr hfront
        simp only [List.length_append, List.length_singleton] at *
        omega
      have hwritten : front = digits m :=
        ih ⟨hfront, fun d hd => hdigits d (by simp [hd]), fun hhead => absurd hhead hnonzero, hm⟩
      have hpos : m ≠ 0 := by
        rintro rfl
        exact hnonzero (by rw [hwritten]; rfl)
      have hdiv : n / 10 = m := by omega
      have hmod : n % 10 = c.toNat - '0'.toNat := by omega
      rw [digits_step (by omega), hdiv, hmod, hchar, hwritten]

theorem numeral_iff {text : List Char} {n : Nat} : Numeral text n ↔ text = digits n := by
  constructor
  · exact Numeral.eq_digits
  · rintro rfl
    exact numeral_digits n

/-- Reading a numeral below a limit into a type of just so many values. -/
theorem readBelow_eq_some_iff {α : Type} {limit : Nat} {toNat : α → Nat} {ofNat : Nat → α}
    (hlt : ∀ a, toNat a < limit) (hofNat : ∀ a, ofNat (toNat a) = a)
    (htoNat : ∀ n, n < limit → toNat (ofNat n) = n) {numeral : List Char} {a : α} :
    (match read? numeral with
      | some n => if n < limit then some (ofNat n) else none
      | none => none) = some a ↔ Numeral numeral (toNat a) := by
  rw [← read?_eq_some_iff]
  cases read? numeral with
  | none => simp
  | some n =>
    simp only [Option.ite_none_right_eq_some, Option.some.injEq]
    constructor
    · rintro ⟨hn, rfl⟩
      exact (htoNat n hn).symm
    · rintro rfl
      exact ⟨hlt a, hofNat a⟩

end Decimal

open Decimal (Numeral digits numeral_iff numeral_digits isDigit_of_mem_digits not_mem_digits)

/-! ## Dotted addresses -/

namespace Ipv4

theorem split_eq_splitOn (separator : Char) (text : List Char) :
    split separator text = text.splitOn separator := by
  induction text with
  | nil => rfl
  | cons c rest ih =>
    rw [split, ih, List.splitOn_cons_eq_if_modifyHead]
    cases hparts : rest.splitOn separator with
    | nil => exact absurd hparts (List.splitOn_ne_nil separator rest)
    | cons part parts => simp

/-- The parts of a text are put together again by the separator. -/
theorem intercalate_split (separator : Char) (text : List Char) :
    [separator].intercalate (split separator text) = text := by
  rw [split_eq_splitOn, List.intercalate_splitOn]

theorem split_intercalate (separator : Char) (parts : List (List Char))
    (hfree : ∀ part ∈ parts, separator ∉ part) (hne : parts ≠ []) :
    split separator ([separator].intercalate parts) = parts := by
  rw [split_eq_splitOn, List.splitOn_intercalate separator hfree hne]

theorem readOctet?_eq_some_iff {numeral : List Char} {b : UInt8} :
    readOctet? numeral = some b ↔ Numeral numeral b.toNat :=
  Decimal.readBelow_eq_some_iff UInt8.toNat_lt (fun _ => UInt8.ofNat_toNat)
    (fun _ h => UInt8.toNat_ofNat_of_lt' h)

/-- The dotted text of an address: the numerals of its four octets with dots between them. -/
def IsDotted (text : List Char) (ip : Ipv4) : Prop :=
  ∃ a b c d : List Char,
    Numeral a ip.octets.first.toNat ∧ Numeral b ip.octets.second.toNat ∧
      Numeral c ip.octets.third.toNat ∧ Numeral d ip.octets.fourth.toNat ∧
        text = a ++ '.' :: b ++ '.' :: c ++ '.' :: d

theorem isDotted_iff {text : List Char} {ip : Ipv4} : IsDotted text ip ↔ text = ip.chars := by
  constructor
  · rintro ⟨a, b, c, d, ha, hb, hc, hd, rfl⟩
    rw [numeral_iff] at ha hb hc hd
    subst ha hb hc hd
    rfl
  · rintro rfl
    exact ⟨_, _, _, _, numeral_digits _, numeral_digits _, numeral_digits _, numeral_digits _, rfl⟩

theorem mem_chars {ip : Ipv4} {c : Char} (h : c ∈ ip.chars) : c.isDigit = true ∨ c = '.' := by
  simp only [chars, List.mem_append, List.mem_cons] at h
  grind [isDigit_of_mem_digits]

theorem split_chars (ip : Ipv4) :
    split '.' ip.chars =
      [digits ip.octets.first.toNat, digits ip.octets.second.toNat, digits ip.octets.third.toNat,
        digits ip.octets.fourth.toNat] := by
  rw [← split_intercalate '.' [_, _, _, _] ?free (by simp)]
  case free =>
    simp only [List.forall_mem_cons]
    exact ⟨not_mem_digits rfl _, not_mem_digits rfl _, not_mem_digits rfl _, not_mem_digits rfl _,
      nofun⟩
  simp [chars, List.intercalate]

theorem read?_chars (ip : Ipv4) : read? ip.chars = some ip := by
  have hread (b : UInt8) : readOctet? (digits b.toNat) = some b :=
    readOctet?_eq_some_iff.mpr (numeral_digits b.toNat)
  rw [read?, split_chars]
  simp only [hread, Option.bind_eq_bind, Option.bind_some, Option.pure_def]
  rw [ofOctets_octets]

theorem isDotted_of_read? {text : List Char} {ip : Ipv4} (h : read? text = some ip) :
    IsDotted text ip := by
  unfold read? at h
  split at h
  case h_1 a b c d hparts =>
    simp only [Option.bind_eq_bind, Option.bind_eq_some_iff, Option.pure_def, Option.some.injEq,
      readOctet?_eq_some_iff] at h
    obtain ⟨w, ha, x, hb, y, hc, z, hd, rfl⟩ := h
    have htext := intercalate_split '.' text
    rw [hparts] at htext
    rw [IsDotted, octets_ofOctets]
    exact ⟨a, b, c, d, ha, hb, hc, hd, by simpa [List.intercalate] using htext.symm⟩
  case h_2 => cases h

theorem read?_eq_some_iff {text : List Char} {ip : Ipv4} :
    read? text = some ip ↔ IsDotted text ip := by
  constructor
  · exact isDotted_of_read?
  · intro h
    rw [isDotted_iff.mp h, read?_chars]

end Ipv4

/-! ## Addresses with a port -/

namespace Endpoint

theorem readPort?_eq_some_iff {numeral : List Char} {port : UInt16} :
    readPort? numeral = some port ↔ Numeral numeral port.toNat :=
  Decimal.readBelow_eq_some_iff UInt16.toNat_lt (fun _ => UInt16.ofNat_toNat)
    (fun _ h => UInt16.toNat_ofNat_of_lt' h)

/-- The text of an endpoint: the dotted address, a colon and the numeral of the port. -/
def IsAddressText (text : List Char) (e : Endpoint) : Prop :=
  ∃ ip port : List Char, Ipv4.IsDotted ip e.ip ∧ Numeral port e.port.toNat ∧
    text = ip ++ ':' :: port

theorem isAddressText_iff {text : List Char} {e : Endpoint} :
    IsAddressText text e ↔ text = e.chars := by
  constructor
  · rintro ⟨ip, port, hip, hport, rfl⟩
    rw [Ipv4.isDotted_iff] at hip
    rw [numeral_iff] at hport
    rw [hip, hport, chars]
  · rintro rfl
    exact ⟨_, _, Ipv4.isDotted_iff.mpr rfl, numeral_digits _, rfl⟩

/-- The text is written with digits, dots and colons. -/
theorem mem_chars {e : Endpoint} {c : Char} (h : c ∈ e.chars) :
    c.isDigit = true ∨ c = '.' ∨ c = ':' := by
  simp only [chars, List.mem_append, List.mem_cons] at h
  rcases h with hip | rfl | hport
  · rcases Ipv4.mem_chars hip with hdigit | hdot
    · exact .inl hdigit
    · exact .inr (.inl hdot)
  · exact .inr (.inr rfl)
  · exact .inl (isDigit_of_mem_digits hport)

theorem split_chars (e : Endpoint) :
    Ipv4.split ':' e.chars = [e.ip.chars, digits e.port.toNat] := by
  rw [← Ipv4.split_intercalate ':' [_, _] ?free (by simp)]
  case free =>
    have hip : ':' ∉ e.ip.chars := by
      intro hmem
      rcases Ipv4.mem_chars hmem with h | h <;> cases h
    simp only [List.forall_mem_cons]
    exact ⟨hip, not_mem_digits rfl _, nofun⟩
  simp [chars, List.intercalate]

theorem read?_chars (e : Endpoint) : read? e.chars = some e := by
  have hport : readPort? (digits e.port.toNat) = some e.port :=
    readPort?_eq_some_iff.mpr (numeral_digits e.port.toNat)
  rw [read?, split_chars]
  simp only [Ipv4.read?_chars, hport, Option.bind_eq_bind, Option.bind_some, Option.pure_def]

theorem isAddressText_of_read? {text : List Char} {e : Endpoint} (h : read? text = some e) :
    IsAddressText text e := by
  unfold read? at h
  split at h
  case h_1 ip port hparts =>
    simp only [Option.bind_eq_bind, Option.bind_eq_some_iff, Option.pure_def, Option.some.injEq,
      Ipv4.read?_eq_some_iff, readPort?_eq_some_iff] at h
    obtain ⟨a, hip, p, hport, rfl⟩ := h
    have htext := Ipv4.intercalate_split ':' text
    rw [hparts] at htext
    exact ⟨ip, port, hip, hport, by simpa [List.intercalate] using htext.symm⟩
  case h_2 => cases h

theorem read?_eq_some_iff {text : List Char} {e : Endpoint} :
    read? text = some e ↔ IsAddressText text e := by
  constructor
  · exact isAddressText_of_read?
  · intro h
    rw [isAddressText_iff.mp h, read?_chars]

/-- One zero to spare and the text is refused. -/
example : read? "192.168.1.2:80".toList = some ⟨⟨0xc0a80102⟩, 80⟩ ∧
    read? "192.168.1.2:080".toList = none := by decide

theorem chars_inj {e e' : Endpoint} : e.chars = e'.chars ↔ e = e' := by
  constructor
  · intro h
    have hread := read?_chars e
    rw [h, read?_chars] at hread
    exact (Option.some.inj hread).symm
  · exact congrArg chars

theorem text_inj {e e' : Endpoint} : e.text = e'.text ↔ e = e' := by
  rw [text, text, String.ofList_inj, chars_inj]

theorem debugText_inj {e e' : Endpoint} : e.debugText = e'.debugText ↔ e = e' := by
  rw [debugText, debugText, String.append_left_inj, String.append_right_inj, text_inj]

end Endpoint

/-! ## A text in a field -/

namespace Layout

/-- A text without the fill in front of it and behind it. -/
def strip (fill : Char) (text : List Char) : List Char :=
  (text.dropWhile (· == fill)).rdropWhile (· == fill)

/-- What a field shows of a text.

* `length` — it is as wide as asked for, or as the text it has room for if that is longer.
* `around` — the text up to the precision, with nothing but the fill before it and after it:
  nothing before it on the left, nothing after it on the right, and in the centre half of the fill
  before it, rounded down.
* `recovers` — the whole text is found again under a fill that does not occur in it. -/
structure Shows (width : Nat) (precision : Option Nat) (alignment : Option Alignment) (fill : Char)
    (text shown : List Char) : Prop where
  length : shown.length = max width (min (precision.getD text.length) text.length)
  around : ∃ before after : Nat,
    shown = List.replicate before fill ++ text.take (precision.getD text.length) ++
        List.replicate after fill ∧
      match alignment with
      | none | some .left => before = 0
      | some .right => after = 0
      | some .centre => before = (before + after) / 2
  recovers : precision = none → fill ∉ text → strip fill shown = text

theorem strip_padded {fill : Char} {text : List Char} (h : fill ∉ text) (before after : Nat) :
    strip fill (List.replicate before fill ++ text ++ List.replicate after fill) = text := by
  have hfill (n : Nat) : ∀ c ∈ List.replicate n fill, (c == fill) = true := by
    intro c hc
    rw [List.eq_of_mem_replicate hc, BEq.rfl]
  have hforeign {c : Char} (hc : c ∈ text) : ¬ (c == fill) = true := by
    intro heq
    exact h (eq_of_beq heq ▸ hc)
  unfold strip
  rw [List.append_assoc, List.dropWhile_append_of_pos (hfill before)]
  cases text with
  | nil => rw [List.nil_append, List.dropWhile_eq_nil_iff.mpr (hfill after), List.rdropWhile_nil]
  | cons c rest =>
    have hrest : (c :: rest).rdropWhile (· == fill) = c :: rest :=
      List.rdropWhile_eq_self_iff.mpr fun hne => hforeign (List.getLast_mem hne)
    rw [List.cons_append,
      List.dropWhile_cons_of_neg (p := (· == fill)) (hforeign List.mem_cons_self),
      ← List.cons_append, List.rdropWhile, List.reverse_append, List.reverse_replicate,
      List.dropWhile_append_of_pos (hfill after)]
    exact hrest

theorem cut_eq_take (layout : Layout) (text : List Char) :
    layout.cut text = text.take (layout.precision.getD text.length) := by
  unfold cut
  cases layout.precision with
  | none => exact List.take_length.symm
  | some limit => rfl

theorem shows_render (width : Nat) (precision : Option Nat) (alignment : Option Alignment)
    (fill : Char) (text : List Char) :
    Shows width precision alignment fill text
      (render ⟨width, precision, alignment.getD .left, fill⟩ text) := by
  refine ⟨?length, ?around, ?recovers⟩
  case length => rw [length_render, cut_eq_take, List.length_take]
  case around =>
    refine ⟨_, _, by rw [render, cut_eq_take], ?_⟩
    cases alignment with
    | none => rfl
    | some side =>
      cases side with
      | left => rfl
      | right => exact Nat.sub_self _
      | centre =>
        simp only [lead, Option.getD_some]
        omega
  case recovers =>
    rintro rfl hforeign
    exact strip_padded hforeign _ _

/-- An odd character of fill goes behind the text. -/
example : render ⟨8, some 3, .centre, '*'⟩ "192.168.1.2:80".toList = "**192***".toList := by decide

end Layout

/-! ## Every address in every field -/

namespace SocketAddress

/-- What the texts of two addresses and a field say of them.

* `equal`, `equalDebug` — the addresses are equal exactly when their texts are, also under the
  name of the type.
* `strict` — the reader accepts the texts of endpoints and nothing else.
* `read` — from the text of an address it reads the address and the port.
* `shown` — the text is shown in a field as the width, the precision, the alignment and the fill
  ask for it.
* `recovered` — between spaces or asterisks the whole text is read back. -/
structure CanonicalText (a b : SocketAddress) : Prop where
  equal : (a == b) = true ↔ a.endpoint.text = b.endpoint.text
  equalDebug : (a == b) = true ↔ a.endpoint.debugText = b.endpoint.debugText
  strict : ∀ text e, Endpoint.read? text = some e ↔ Endpoint.IsAddressText text e
  read : Endpoint.read? a.endpoint.text.toList = some ⟨a.ip, a.port⟩
  shown : ∀ width precision alignment fill,
    Layout.Shows width precision alignment fill a.endpoint.text.toList
      (Layout.render ⟨width, precision, alignment.getD .left, fill⟩ a.endpoint.text.toList)
  recovered : ∀ width (alignment : Option Alignment), ∀ fill ∈ [' ', '*'],
    Endpoint.read? (Layout.strip fill
      (Layout.render ⟨width, none, alignment.getD .left, fill⟩ a.endpoint.text.toList)) =
        some ⟨a.ip, a.port⟩

/-- The text of an address is its own, is read back strictly, and survives every field. -/
theorem text_canonical (a b : SocketAddress) : CanonicalText a b := by
  have hread : Endpoint.read? a.endpoint.text.toList = some ⟨a.ip, a.port⟩ := by
    rw [Endpoint.text, String.toList_ofList, Endpoint.read?_chars, endpoint]
  refine ⟨?equal, ?equalDebug, ?strict, hread, ?shown, ?recovered⟩
  case equal => rw [beq_iff_endpoint_eq, Endpoint.text_inj]
  case equalDebug => rw [beq_iff_endpoint_eq, Endpoint.debugText_inj]
  case strict =>
    intro text e
    exact Endpoint.read?_eq_some_iff
  case shown =>
    intro width precision alignment fill
    exact Layout.shows_render width precision alignment fill _
  case recovered =>
    intro width alignment fill hfill
    have hforeign : fill ∉ a.endpoint.text.toList := by
      rw [Endpoint.text, String.toList_ofList]
      intro hmem
      have halphabet := Endpoint.mem_chars hmem
      simp only [List.mem_cons, List.not_mem_nil, or_false] at hfill
      rcases hfill with rfl | rfl <;> rcases halphabet with h | h | h <;> cases h
    rw [(Layout.shows_render width none alignment fill _).recovers rfl hforeign, hread]

end SocketAddress
end SocketLayer
