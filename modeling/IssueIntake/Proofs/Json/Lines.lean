import IssueIntake.Proofs.Json.RoundTrip
/-!
# Values in lines are read back

The form with one item a line differs from the compact form only in its blanks, and readers pass
over blanks. So a value with exact numbers is read back from its lines as it is from the compact
form (`readValue_linesAt`, `readAll_lines`).
-/

namespace IssueIntake.Json

open Layout

/-! ## Layouts -/

theorem isGap_of_mem_newLine {level : Nat} {c : Char} (h : c ∈ newLine level) : isGap c = true := by
  obtain rfl | blank := List.mem_cons.1 h
  · rfl
  · rw [List.eq_of_mem_replicate blank]
    rfl

/-- The items of an array, each on its lines. -/
def itemLayout (level : Nat) : Layout where
  write := linesAt (level + 1)
  inner := newLine (level + 1)
  outer := newLine level
  inner_blank _ := isGap_of_mem_newLine
  outer_blank _ := isGap_of_mem_newLine

/-- The members of an object, each on its lines, with a blank behind the colon. -/
def memberLayout (level : Nat) : Layout :=
  { itemLayout level with write := fun v => ' ' :: linesAt (level + 1) v }

theorem linesAt_array (level : Nat) (items : List Json) :
    linesAt level (array items) = '[' :: (itemLayout level).items items := by
  cases items with
  | nil => rfl
  | cons v vs =>
    have tail : ∀ v, itemLines (level + 1) (v :: vs) ++ (newLine level ++ [']']) =
        linesAt (level + 1) v ++ (itemLayout level).itemTail vs := by
      induction vs with
      | nil => exact fun v => rfl
      | cons w vs ih =>
        intro v
        simp only [itemLines, itemTail, List.append_assoc, List.cons_append, ih]
        rfl
    simp only [linesAt, items, List.append_assoc, List.cons_append, tail]
    rfl

theorem linesAt_object (level : Nat) (members : List (String × Json)) :
    linesAt level (object members) = '\x7b' :: (memberLayout level).members members := by
  cases members with
  | nil => rfl
  | cons m ms =>
    obtain ⟨k, v⟩ := m
    have tail : ∀ k v, memberLines (level + 1) ((k, v) :: ms) ++ (newLine level ++ ['\x7d']) =
        quote k ++ ':' :: ' ' :: linesAt (level + 1) v ++ (memberLayout level).memberTail ms := by
      induction ms with
      | nil => exact fun k v => rfl
      | cons n ms ih =>
        intro k v
        simp only [memberLines, memberTail, List.append_assoc, List.cons_append, ih]
        rfl
    simp only [linesAt, Layout.members, List.append_assoc, List.cons_append, tail]
    rfl

/-- No value begins with a blank or a closing bracket. -/
theorem linesAt_eq_cons {v : Json} (exact : v.Exact) (level : Nat) :
    ∃ c cs, linesAt level v = c :: cs ∧ isGap c = false ∧ c ≠ ']' := by
  cases v with
  | array items => exact ⟨'[', _, linesAt_array level items, rfl, by decide⟩
  | object members => exact ⟨'\x7b', _, linesAt_object level members, rfl, by decide⟩
  | _ => exact chars_eq_cons exact

/-! ## Values -/

/-- A value in lines is read back, unless it nests too deep. -/
theorem readValue_linesAt {v : Json} (exact : v.Exact) (level levels : Nat) {rest : List Char}
    (ends : EndsNumber rest) :
    readValue levels (linesAt level v ++ rest) = keepWithin levels v (v, rest) := by
  induction v using induction generalizing level levels rest with
  | array items ih =>
    have exact := numbers_array.1 exact
    rw [linesAt_array]
    cases levels with
    | zero => rfl
    | succ levels =>
      have starts : ∀ v ∈ items, (itemLayout level).Starts v := fun v hv =>
        linesAt_eq_cons (exact v hv) (level + 1)
      refine finish_items starts (fun v hv rest ends => ?_) rest
      exact ih v hv (exact v hv) (level + 1) levels ends
  | object members ih =>
    have exact := numbers_object.1 exact
    rw [linesAt_object]
    cases levels with
    | zero => rfl
    | succ levels =>
      refine finish_members (fun m hm rest ends => ?_) rest
      exact ih m hm (exact m hm) (level + 1) levels ends
  | _ => exact readValue_chars exact levels ends

/-- A value is read back from its lines and a line feed, unless it nests too deep. -/
theorem readAll_lines {v : Json} (exact : v.Exact) (levels : Nat) :
    readAll (readValue levels) (v.lines ++ "\n").toList = keepWithin levels v v := by
  have read := readValue_linesAt exact 0 levels (EndsNumber.of_cons (c := '\n') [] (by decide))
  rw [lines, String.toList_append, String.toList_ofList, readAll]
  change (readValue levels (linesAt 0 v ++ ['\n']) >>= _) = _
  rw [read, keepWithin_bind]
  rfl

end IssueIntake.Json
