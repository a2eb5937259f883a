import Mathlib.Data.String.Basic
import IssueIntake.Store.Keyed
/-!
# Keys and values of keyed collections

What a change does to the keys, and `Keyed.map`, which changes all values and no key. The keys
after a change depend on the keys before it alone (`keys_insert_congr`), so collections that have
the same keys keep them in common under the same changes.
-/

namespace IssueIntake.Keyed

variable {α β : Type}

/-! ## Keys -/

theorem contains_iff_mem_keys {c : Keyed α} {key : String} :
    c.contains key = true ↔ key ∈ c.keys := by
  simp [contains, keys]

theorem get?_eq_none {c : Keyed α} {key : String} (h : c.contains key = false) :
    c.get? key = none := by
  rwa [contains_eq_isSome, Option.isSome_eq_false_iff, Option.isNone_iff_eq_none] at h

theorem contains_insert (c : Keyed α) (key k : String) (value : α) :
    (c.insert key value).contains k = (k == key || c.contains k) := by
  simp only [contains_eq_isSome, get?_insert]
  by_cases h : k = key <;> simp [h]

theorem keys_insert_congr {c : Keyed α} {d : Keyed β} (h : c.keys = d.keys) (key : String)
    (a : α) (b : β) : (c.insert key a).keys = (d.insert key b).keys := by
  obtain ⟨entries⟩ := c
  obtain ⟨others⟩ := d
  simp only [keys, insert] at h ⊢
  induction entries generalizing others with
  | nil =>
    obtain rfl : others = [] := by simpa using h.symm
    rfl
  | cons e entries ih =>
    match others with
    | [] => simp at h
    | (k, v) :: others =>
      obtain ⟨l, w⟩ := e
      simp only [List.map_cons, List.cons.injEq] at h
      obtain ⟨rfl, h⟩ := h
      simp only [place]
      split
      · simp [h]
      · split
        · simp [h]
        · simpa using ih others h

/-- A new key comes in addition to those that are there. -/
theorem keys_insert_perm {c : Keyed α} {key : String} (h : c.contains key = false) (value : α) :
    (c.insert key value).keys.Perm (key :: c.keys) := by
  obtain ⟨entries⟩ := c
  simp only [keys, insert, contains] at h ⊢
  induction entries with
  | nil => simp [place]
  | cons e entries ih =>
    obtain ⟨l, w⟩ := e
    simp only [List.any_cons, Bool.or_eq_false_iff, beq_eq_false_iff_ne] at h
    simp only [place]
    split
    · simp
    · rw [if_neg (Ne.symm h.1)]
      exact ((ih h.2).cons l).trans (List.Perm.swap key l _)

theorem keys_insert_nodup {c : Keyed α} (distinct : c.keys.Nodup) {key : String}
    (h : c.contains key = false) (value : α) : (c.insert key value).keys.Nodup := by
  refine (keys_insert_perm h value).nodup_iff.2 (List.nodup_cons.2 ⟨?_, distinct⟩)
  rw [← contains_iff_mem_keys, h]
  exact Bool.false_ne_true

/-! ## Entries under different keys -/

theorem place_comm {key k : String} (less : key < k) (a b : α) (entries : List (String × α)) :
    place key a (place k b entries) = place k b (place key a entries) := by
  have other : key ≠ k := ne_of_lt less
  have notLess : ¬ k < key := lt_asymm less
  induction entries with
  | nil => simp [place, less, other.symm, notLess]
  | cons e entries ih =>
    obtain ⟨l, v⟩ := e
    rcases lt_trichotomy k l with before | rfl | after
    · have := less.trans before
      simp [place, *, other.symm]
    · simp [place, *, other.symm]
    · rcases lt_trichotomy key l with before | rfl | later
      · simp [place, *, other.symm, lt_asymm after, after.ne']
      · simp [place, *, other.symm]
      · simp [place, *, lt_asymm later, later.ne', lt_asymm after, after.ne']

/-- Entries under different keys can be made in any order. -/
theorem insert_comm (c : Keyed α) {key k : String} (different : key ≠ k) (a b : α) :
    (c.insert key a).insert k b = (c.insert k b).insert key a := by
  obtain ⟨entries⟩ := c
  rcases lt_or_gt_of_ne different with less | less
  · exact congrArg _ (place_comm less a b entries).symm
  · exact congrArg _ (place_comm less b a entries)

/-! ## Changing all values -/

/-- The collection with every value changed. -/
def map (f : α → β) (c : Keyed α) : Keyed β :=
  ⟨c.entries.map fun e => (e.1, f e.2)⟩

@[simp] theorem keys_map (f : α → β) (c : Keyed α) : (c.map f).keys = c.keys := by
  simp [keys, map]

@[simp] theorem contains_map (f : α → β) (c : Keyed α) (key : String) :
    (c.map f).contains key = c.contains key := by
  rw [Bool.eq_iff_iff, contains_iff_mem_keys, contains_iff_mem_keys, keys_map]

theorem map_insert (f : α → β) (c : Keyed α) (key : String) (value : α) :
    (c.insert key value).map f = (c.map f).insert key (f value) := by
  obtain ⟨entries⟩ := c
  simp only [map, insert, Keyed.mk.injEq]
  induction entries with
  | nil => rfl
  | cons e entries ih =>
    obtain ⟨l, w⟩ := e
    simp only [place, List.map_cons]
    split
    · rfl
    · split
      · rfl
      · simp [ih]

end IssueIntake.Keyed
