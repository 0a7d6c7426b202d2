/-!
# Laying text out in a field

A `Layout` says how a text is shown in a field: it is first cut to the precision, then filled
up to the width on the sides the alignment names.

* `Layout.render` lays a text out.
* `length_render` — the shown text is as long as the width or the cut text, whichever is longer.
-/

set_option autoImplicit false

namespace SocketLayer

/-- Where the text stands in a field that is wider than it. -/
inductive Alignment where
  | left
  | right
  | centre
  deriving DecidableEq, Repr

/-- A field: its least width, the longest text it shows, the alignment and the fill character. -/
structure Layout where
  width : Nat
  precision : Option Nat
  alignment : Alignment
  fill : Char
  deriving DecidableEq, Repr

namespace Layout

/-- The text cut to the precision. -/
def cut (layout : Layout) (text : List Char) : List Char :=
  match layout.precision with
  | none => text
  | some limit => text.take limit

/-- How many fill characters a text of the given length still needs. -/
def padding (layout : Layout) (length : Nat) : Nat := layout.width - length

/-- How much of the padding stands before the text; an odd character goes after a centred text. -/
def lead (layout : Layout) (length : Nat) : Nat :=
  match layout.alignment with
  | .left => 0
  | .right => layout.padding length
  | .centre => layout.padding length / 2

/-- The text as shown in the field. -/
def render (layout : Layout) (text : List Char) : List Char :=
  let shown := layout.cut text
  let before := layout.lead shown.length
  List.replicate before layout.fill ++ shown ++
    List.replicate (layout.padding shown.length - before) layout.fill

theorem lead_le (layout : Layout) (length : Nat) : layout.lead length ≤ layout.padding length := by
  unfold lead
  split <;> omega

theorem length_render (layout : Layout) (text : List Char) :
    (layout.render text).length = max layout.width (layout.cut text).length := by
  have := layout.lead_le (layout.cut text).length
  simp only [render, List.length_append, List.length_replicate]
  unfold padding at *
  omega

end Layout
end SocketLayer
