import IssueIntake.Proofs.Json.Shape
/-!
# Normal forms

Bringing a value into normal form a second time changes nothing (`normalize_normalize`): the keys
of every object ascend then, and sorting ascending members leaves them as they are. The normal
form has no numbers that the value has not, and nests no deeper.
-/

namespace IssueIntake.Json

/-! ## Sorting members -/

/-- Members whose keys ascend, each key once. -/
def Ascending (ms : List (String × Json)) : Prop :=
  ms.Pairwise fun m n => m.1 < n.1

theorem mem_of_mem_insertMember {key : String} {value : Json} {ms : List (String × Json)}
    {m : String × Json} (h : m ∈ insertMember key value ms) : m = (key, value) ∨ m ∈ ms := by
  induction ms with
  | nil => exact .inl (List.mem_singleton.1 h)
  | cons n ms ih =>
    obtain ⟨k, v⟩ := n
    simp only [insertMember] at h
    split at h
    · exact List.mem_cons.1 h
    · split at h
      · rcases List.mem_cons.1 h with rfl | h
        · exact .inl rfl
        · exact .inr (List.mem_cons_of_mem _ h)
      · rcases List.mem_cons.1 h with rfl | h
        · exact .inr List.mem_cons_self
        · exact (ih h).imp id (List.mem_cons_of_mem _)

theorem Ascending.insertMember {ms : List (String × Json)} (h : Ascending ms) (key : String)
    (value : Json) : Ascending (insertMember key value ms) := by
  induction ms with
  | nil => exact List.pairwise_singleton _ _
  | cons n ms ih =>
    obtain ⟨k, v⟩ := n
    obtain ⟨below, rest⟩ := List.pairwise_cons.1 h
    simp only [Json.insertMember]
    split
    · next less =>
      refine List.pairwise_cons.2 ⟨fun m hm => ?_, h⟩
      rcases List.mem_cons.1 hm with rfl | hm
      · exact less
      · exact String.lt_trans less (below m hm)
    · next notLess =>
      split
      · next same =>
        subst same
        exact List.pairwise_cons.2 ⟨below, rest⟩
      · next other =>
        refine List.pairwise_cons.2 ⟨fun m hm => ?_, ih rest⟩
        rcases mem_of_mem_insertMember hm with rfl | hm
        · have le : k ≤ key := String.not_lt.1 notLess
          exact String.not_le.1 fun ge => other (String.le_antisymm ge le)
        · exact below m hm

theorem sortMembers_ascending (ms : List (String × Json)) : Ascending (sortMembers ms) := by
  have fold : ∀ sorted, Ascending sorted → Ascending (ms.foldl
      (fun sorted (m : String × Json) => insertMember m.1 m.2 sorted) sorted) := by
    induction ms with
    | nil => exact fun _ h => h
    | cons m ms ih => exact fun sorted h => ih _ (h.insertMember m.1 m.2)
  exact fold [] List.Pairwise.nil

theorem mem_of_mem_sortMembers {ms : List (String × Json)} {m : String × Json}
    (h : m ∈ sortMembers ms) : m ∈ ms := by
  have fold : ∀ sorted, m ∈ ms.foldl
      (fun sorted (m : String × Json) => insertMember m.1 m.2 sorted) sorted →
      m ∈ sorted ∨ m ∈ ms := by
    clear h
    induction ms with
    | nil => exact fun _ h => .inl h
    | cons n ms ih =>
      intro sorted h
      rcases ih _ h with h | h
      · rcases mem_of_mem_insertMember h with rfl | h
        · exact .inr List.mem_cons_self
        · exact .inl h
      · exact .inr (List.mem_cons_of_mem _ h)
  exact (fold [] h).resolve_left List.not_mem_nil

/-- A member whose key comes after all others is put at the end. -/
theorem insertMember_of_last {key : String} {value : Json} {ms : List (String × Json)}
    (last : ∀ m ∈ ms, m.1 < key) : insertMember key value ms = ms ++ [(key, value)] := by
  induction ms with
  | nil => rfl
  | cons n ms ih =>
    obtain ⟨k, v⟩ := n
    have less : k < key := last (k, v) List.mem_cons_self
    have notLess : ¬ key < k := String.lt_asymm less
    have other : key ≠ k := by
      rintro rfl
      exact String.lt_irrefl _ less
    rw [insertMember, if_neg notLess, if_neg other,
      ih fun m hm => last m (List.mem_cons_of_mem _ hm), List.cons_append]

/-- Ascending members are sorted already. -/
theorem sortMembers_of_ascending {ms : List (String × Json)} (h : Ascending ms) :
    sortMembers ms = ms := by
  have fold : ∀ sorted, Ascending (sorted ++ ms) → ms.foldl
      (fun sorted (m : String × Json) => insertMember m.1 m.2 sorted) sorted = sorted ++ ms := by
    clear h
    induction ms with
    | nil => simp
    | cons m ms ih =>
      intro sorted h
      have last : ∀ n ∈ sorted, n.1 < m.1 := fun n hn =>
        (List.pairwise_append.1 h).2.2 n hn m List.mem_cons_self
      have whole : sorted ++ m :: ms = (sorted ++ [m]) ++ ms := by simp
      rw [List.foldl_cons, insertMember_of_last last, whole]
      rw [whole] at h
      exact ih _ h
  exact fold [] h

/-! ## Normal forms of values -/

theorem normalizeItems_eq_map (vs : List Json) : normalizeItems vs = vs.map normalize := by
  induction vs with
  | nil => rfl
  | cons v vs ih => rw [normalizeItems, ih, List.map_cons]

theorem normalizeMembers_eq_map (ms : List (String × Json)) :
    normalizeMembers ms = ms.map fun m => (m.1, normalize m.2) := by
  induction ms with
  | nil => rfl
  | cons m ms ih =>
    obtain ⟨k, v⟩ := m
    rw [normalizeMembers, ih, List.map_cons]

/-- A member of an object in normal form is the normal form of a member of the object. -/
theorem exists_of_mem_sortMembers_normalizeMembers {ms : List (String × Json)}
    {m : String × Json} (h : m ∈ sortMembers (normalizeMembers ms)) :
    ∃ n ∈ ms, m = (n.1, normalize n.2) := by
  have h := mem_of_mem_sortMembers h
  rw [normalizeMembers_eq_map, List.mem_map] at h
  obtain ⟨n, hn, rfl⟩ := h
  exact ⟨n, hn, rfl⟩

/-- A value in normal form is its own normal form. -/
theorem normalize_normalize (v : Json) : v.normalize.normalize = v.normalize := by
  induction v using induction with
  | null => rfl
  | bool b => rfl
  | number n => rfl
  | string s => rfl
  | array items ih =>
    have same : ∀ w ∈ items.map normalize, w.normalize = w := by
      intro w hw
      obtain ⟨v, hv, rfl⟩ := List.mem_map.1 hw
      exact ih v hv
    simp only [normalize, normalizeItems_eq_map, Json.array.injEq]
    exact (List.map_congr_left same).trans (List.map_id _)
  | object members ih =>
    have same : normalizeMembers (sortMembers (normalizeMembers members)) =
        sortMembers (normalizeMembers members) := by
      rw [normalizeMembers_eq_map]
      refine (List.map_congr_left fun m hm => ?_).trans (List.map_id _)
      obtain ⟨n, hn, rfl⟩ := exists_of_mem_sortMembers_normalizeMembers hm
      simp only [ih n hn, id]
    simp only [normalize, same]
    rw [sortMembers_of_ascending (sortMembers_ascending _)]

theorem normalize_ne_null {v : Json} (h : v ≠ .null) : v.normalize ≠ .null := by
  cases v <;> simp_all [normalize]

theorem Numbers.normalize {p : Number → Prop} {v : Json} (h : v.Numbers p) :
    v.normalize.Numbers p := by
  induction v using induction with
  | null => exact h
  | bool b => exact h
  | number n => exact h
  | string s => exact h
  | array items ih =>
    rw [Json.normalize, normalizeItems_eq_map, numbers_array]
    intro w hw
    obtain ⟨v, hv, rfl⟩ := List.mem_map.1 hw
    exact ih v hv (numbers_array.1 h v hv)
  | object members ih =>
    rw [Json.normalize, numbers_object]
    intro m hm
    obtain ⟨n, hn, rfl⟩ := exists_of_mem_sortMembers_normalizeMembers hm
    exact ih n hn (numbers_object.1 h n hn)

theorem levels_normalize_le (v : Json) : v.normalize.levels ≤ v.levels := by
  induction v using induction with
  | null => exact Nat.le_refl _
  | bool b => exact Nat.le_refl _
  | number n => exact Nat.le_refl _
  | string s => exact Nat.le_refl _
  | array items ih =>
    rw [normalize, normalizeItems_eq_map, levels, levels, Nat.add_le_add_iff_right,
      itemLevels_le_iff]
    intro w hw
    obtain ⟨v, hv, rfl⟩ := List.mem_map.1 hw
    exact Nat.le_trans (ih v hv) (itemLevels_le_iff.1 (Nat.le_refl _) v hv)
  | object members ih =>
    rw [normalize, levels, levels, Nat.add_le_add_iff_right, memberLevels_le_iff]
    intro m hm
    obtain ⟨n, hn, rfl⟩ := exists_of_mem_sortMembers_normalizeMembers hm
    exact Nat.le_trans (ih n hn) (memberLevels_le_iff.1 (Nat.le_refl _) n hn)

end IssueIntake.Json
