/-!
# Tables keyed by number

A `Table` keeps one value per number, as an association list with the latest entry first. Its
whole content is what `get?` shows: `get?_set` and `get?_erase` say how it changes.
-/

set_option autoImplicit false

namespace SocketLayer.Host

/-- An association list from numbers to values. -/
structure Table (α : Type) where
  entries : List (Nat × α)

namespace Table

variable {α : Type}

/-- The table without entries. -/
def empty : Table α := ⟨[]⟩

/-- The value kept under a number. -/
def get? (t : Table α) (key : Nat) : Option α := t.entries.lookup key

/-- The table without the number. -/
def erase (t : Table α) (key : Nat) : Table α := ⟨t.entries.filter fun entry => entry.1 != key⟩

/-- The table with the value kept under the number. -/
def set (t : Table α) (key : Nat) (value : α) : Table α := ⟨(key, value) :: (t.erase key).entries⟩

/-- The numbers in use, latest first. -/
def keys (t : Table α) : List Nat := t.entries.map Prod.fst

/-- Whether a number is in use. -/
def contains (t : Table α) (key : Nat) : Bool := (t.get? key).isSome

/-- The smallest number from `start` on that is not in use. -/
def firstFree (t : Table α) (start : Nat) : Nat :=
  let candidates := List.range' start (t.entries.length + 1)
  (candidates.find? fun key => !t.contains key).getD (start + t.entries.length + 1)

private theorem lookup_filter (entries : List (Nat × α)) (key other : Nat) :
    (entries.filter fun entry => entry.1 != key).lookup other =
      if other = key then none else entries.lookup other := by
  induction entries with
  | nil => simp
  | cons entry rest ih =>
    obtain ⟨k, v⟩ := entry
    by_cases hk : k = key <;> by_cases ho : other = k <;> by_cases hok : other = key <;>
      simp_all [List.lookup_cons] <;> grind

@[simp] theorem get?_erase (t : Table α) (key other : Nat) :
    (t.erase key).get? other = if other = key then none else t.get? other :=
  lookup_filter t.entries key other

@[simp] theorem get?_set (t : Table α) (key other : Nat) (value : α) :
    (t.set key value).get? other = if other = key then some value else t.get? other := by
  by_cases h : other = key
  · simp [set, get?, h]
  · have hb : (other == key) = false := by simpa using h
    have := get?_erase t key other
    simp only [get?, h, if_false] at this
    simp [set, get?, List.lookup_cons, hb, h, this]

end Table
end SocketLayer.Host
