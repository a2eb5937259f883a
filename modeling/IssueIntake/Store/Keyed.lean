/-!
# Keyed collections

Values under keys, in ascending order of key. A collection is determined by what it holds under
which key: there is only one way to write it down.
-/

namespace IssueIntake

/-- Values under keys. Entries are kept in ascending order of key. -/
structure Keyed (α : Type) where
  entries : List (String × α)
  deriving DecidableEq, Repr

namespace Keyed

variable {α : Type}

/-- Nothing. -/
def empty : Keyed α := ⟨[]⟩

/-- The value under a key. -/
def get? (c : Keyed α) (key : String) : Option α :=
  (c.entries.find? (·.1 == key)).map (·.2)

/-- Whether there is a value under a key. -/
def contains (c : Keyed α) (key : String) : Bool :=
  c.entries.any (·.1 == key)

/-- Puts an entry in its place; it replaces one with the same key. -/
def place (key : String) (value : α) : List (String × α) → List (String × α)
  | [] => [(key, value)]
  | (k, v) :: rest =>
    if key < k then (key, value) :: (k, v) :: rest
    else if key = k then (key, value) :: rest
    else (k, v) :: place key value rest

/-- With a value under a key, instead of one that was there. -/
def insert (c : Keyed α) (key : String) (value : α) : Keyed α :=
  ⟨place key value c.entries⟩

/-- The collection of some entries; of entries with the same key the last one counts. -/
def ofList (entries : List (String × α)) : Keyed α :=
  entries.foldl (fun c (key, value) => c.insert key value) empty

/-- Without the value under a key. -/
def erase (c : Keyed α) (key : String) : Keyed α :=
  ⟨c.entries.filter (·.1 != key)⟩

/-- The keys, ascending. -/
def keys (c : Keyed α) : List String :=
  c.entries.map (·.1)

/-- The values, in the order of their keys. -/
def values (c : Keyed α) : List α :=
  c.entries.map (·.2)

/-- How many entries there are. -/
def size (c : Keyed α) : Nat :=
  c.entries.length

/-! ## What a change does -/

@[simp] theorem get?_empty (key : String) : (empty : Keyed α).get? key = none := rfl

private theorem find?_place_self (key : String) (value : α) (entries : List (String × α)) :
    (place key value entries).find? (·.1 == key) = some (key, value) := by
  induction entries with
  | nil => simp [place]
  | cons e rest ih =>
    obtain ⟨l, v⟩ := e
    rw [place]
    split
    · simp
    · split
      · simp
      · next h => simpa [List.find?_cons, Ne.symm h] using ih

private theorem find?_place_other {key k : String} (h : key ≠ k) (value : α)
    (entries : List (String × α)) :
    (place key value entries).find? (·.1 == k) = entries.find? (·.1 == k) := by
  induction entries with
  | nil => simp [place, h]
  | cons e rest ih =>
    obtain ⟨l, v⟩ := e
    rw [place]
    split
    · simp [h]
    · split
      · next heq => simp [h, ← heq]
      · simp [List.find?_cons, ih]

/-- A change of one key leaves all others alone. -/
theorem get?_insert (c : Keyed α) (key k : String) (value : α) :
    (c.insert key value).get? k = if k = key then some value else c.get? k := by
  unfold get? insert
  split
  · next h => simp [h, find?_place_self]
  · next h => rw [find?_place_other (Ne.symm h)]

theorem contains_eq_isSome (c : Keyed α) (key : String) : c.contains key = (c.get? key).isSome := by
  simp only [contains, get?, Option.isSome_map]
  induction c.entries with
  | nil => rfl
  | cons e rest ih => by_cases h : e.1 = key <;> simp_all

end Keyed

end IssueIntake
