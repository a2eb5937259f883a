import IssueIntake.Json.Value
/-!
# The shape of values

`Json.induction` is induction over values by their items and members. `Json.levels` is how deep
the arrays and objects of a value nest, and `Json.Numbers p` says that all its numbers meet `p`.
-/

namespace IssueIntake.Json

/-- Induction over values: arrays by their items, objects by the values of their members. -/
@[elab_as_elim]
theorem induction {motive : Json → Prop} (null : motive .null) (bool : ∀ b, motive (.bool b))
    (number : ∀ n, motive (.number n)) (string : ∀ s, motive (.string s))
    (array : ∀ items, (∀ v ∈ items, motive v) → motive (.array items))
    (object : ∀ members, (∀ m ∈ members, motive m.2) → motive (.object members)) (v : Json) :
    motive v := by
  refine @Json.rec motive (fun items => ∀ v ∈ items, motive v) (fun members => ∀ m ∈ members,
    motive m.2) (fun m => motive m.2) null bool number string array object (by simp) ?_ (by simp)
    ?_ (fun _ _ h => h) v
  · intro v vs hv hvs w hw
    rcases List.mem_cons.1 hw with rfl | hw
    · exact hv
    · exact hvs w hw
  · intro m ms hm hms k hk
    rcases List.mem_cons.1 hk with rfl | hk
    · exact hm
    · exact hms k hk

/-! ## Levels -/

mutual

/-- How deep arrays and objects nest in a value. -/
def levels : Json → Nat
  | array items => itemLevels items + 1
  | object members => memberLevels members + 1
  | _ => 0

/-- How deep arrays and objects nest in items. -/
def itemLevels : List Json → Nat
  | [] => 0
  | v :: vs => max (levels v) (itemLevels vs)

/-- How deep arrays and objects nest in the values of members. -/
def memberLevels : List (String × Json) → Nat
  | [] => 0
  | (_, v) :: rest => max (levels v) (memberLevels rest)

end

theorem itemLevels_le_iff {items : List Json} {n : Nat} :
    itemLevels items ≤ n ↔ ∀ v ∈ items, v.levels ≤ n := by
  induction items with
  | nil => simp [itemLevels]
  | cons v vs ih => rw [itemLevels, Nat.max_le, ih, List.forall_mem_cons]

theorem memberLevels_le_iff {members : List (String × Json)} {n : Nat} :
    memberLevels members ≤ n ↔ ∀ m ∈ members, m.2.levels ≤ n := by
  induction members with
  | nil => simp [memberLevels]
  | cons m ms ih =>
    obtain ⟨k, v⟩ := m
    rw [memberLevels, Nat.max_le, ih, List.forall_mem_cons]

/-! ## Numbers -/

mutual

/-- All numbers of a value meet a condition. -/
def Numbers (p : Number → Prop) : Json → Prop
  | number n => p n
  | array items => ItemNumbers p items
  | object members => MemberNumbers p members
  | _ => True

/-- All numbers of items meet a condition. -/
def ItemNumbers (p : Number → Prop) : List Json → Prop
  | [] => True
  | v :: vs => Numbers p v ∧ ItemNumbers p vs

/-- All numbers in the values of members meet a condition. -/
def MemberNumbers (p : Number → Prop) : List (String × Json) → Prop
  | [] => True
  | (_, v) :: rest => Numbers p v ∧ MemberNumbers p rest

end

variable {p q : Number → Prop}

theorem numbers_array {items : List Json} :
    (array items).Numbers p ↔ ∀ v ∈ items, v.Numbers p := by
  rw [Numbers]
  induction items with
  | nil => simp [ItemNumbers]
  | cons v vs ih => simp [ItemNumbers, ih]

theorem numbers_object {members : List (String × Json)} :
    (object members).Numbers p ↔ ∀ m ∈ members, m.2.Numbers p := by
  rw [Numbers]
  induction members with
  | nil => simp [MemberNumbers]
  | cons m ms ih =>
    obtain ⟨k, v⟩ := m
    simp [MemberNumbers, ih]

theorem Numbers.mono_and {v : Json} (h : v.Numbers p) (h' : v.Numbers q)
    {r : Number → Prop} (imp : ∀ n, p n → q n → r n) : v.Numbers r := by
  induction v using induction with
  | null => trivial
  | bool b => trivial
  | string s => trivial
  | number n => exact imp n h h'
  | array items ih =>
    rw [numbers_array] at *
    exact fun v hv => ih v hv (h v hv) (h' v hv)
  | object members ih =>
    rw [numbers_object] at *
    exact fun m hm => ih m hm (h m hm) (h' m hm)

/-- A whole number. -/
def Number.IsWhole (n : Number) : Prop :=
  ∃ value, n = .whole value

/-- A number that is read from a text, if it is a whole one, fits 64 bits. -/
def Number.Fits : Number → Prop
  | .whole n => -9223372036854775808 ≤ n ∧ n ≤ 18446744073709551615
  | .double _ => True

/-- A whole number that fits 64 bits. -/
def Number.Exact : Number → Prop
  | .whole n => -9223372036854775808 ≤ n ∧ n ≤ 18446744073709551615
  | .double _ => False

/-- A value with exact numbers only. -/
abbrev Exact (v : Json) : Prop :=
  v.Numbers Number.Exact

theorem Numbers.mono {v : Json} (h : v.Numbers p) (imp : ∀ n, p n → q n) : v.Numbers q :=
  h.mono_and h fun n hn _ => imp n hn

theorem exact_of_isWhole {v : Json} (whole : v.Numbers Number.IsWhole)
    (fits : v.Numbers Number.Fits) : v.Exact := by
  refine whole.mono_and fits ?_
  rintro _ ⟨value, rfl⟩ h
  exact h

theorem Numbers.isWhole {v : Json} (exact : v.Exact) : v.Numbers Number.IsWhole := by
  refine exact.mono ?_
  rintro (value | value) h
  · exact ⟨value, rfl⟩
  · exact absurd h id

theorem Numbers.fits {v : Json} (exact : v.Exact) : v.Numbers Number.Fits := by
  refine exact.mono ?_
  rintro (value | value) h
  · exact h
  · trivial

end IssueIntake.Json
