import IssueIntake.Text.Pieces
/-!
# Cutting undoes joining

Lists without the separator are the pieces of what they are joined to (`pieces_join`), and a list is
cut at its last separator in one way only (`splitLast_eq_some_iff`).
-/

namespace IssueIntake.Text

variable {α : Type} [DecidableEq α] {sep : α}

/-! ## All pieces -/

theorem pieces_of_not_mem {cs : List α} (h : sep ∉ cs) : pieces sep cs = [cs] := by
  induction cs with
  | nil => rfl
  | cons c cs ih =>
    have other : c ≠ sep := Ne.symm (List.ne_of_not_mem_cons h)
    rw [pieces_cons, ih (List.not_mem_of_not_mem_cons h), addFront, if_neg other]

theorem pieces_append {p : List α} (h : sep ∉ p) (cs : List α) :
    pieces sep (p ++ sep :: cs) = p :: pieces sep cs := by
  induction p with
  | nil => simp [pieces_cons, addFront]
  | cons c p ih =>
    have other : c ≠ sep := Ne.symm (List.ne_of_not_mem_cons h)
    rw [List.cons_append, pieces_cons, ih (List.not_mem_of_not_mem_cons h), addFront,
      if_neg other]

/-- No piece holds the separator. -/
theorem not_mem_of_mem_pieces {cs p : List α} (h : p ∈ pieces sep cs) : sep ∉ p := by
  induction cs generalizing p with
  | nil =>
    obtain rfl := List.mem_singleton.1 h
    exact List.not_mem_nil
  | cons c cs ih =>
    rw [pieces_cons] at h
    unfold addFront at h
    split at h
    · rcases List.mem_cons.1 h with rfl | later
      · exact List.not_mem_nil
      · exact ih later
    · next other =>
      cases hp : pieces sep cs with
      | nil => exact absurd hp (pieces_ne_nil sep cs)
      | cons q qs =>
        rw [hp] at h ih
        rcases List.mem_cons.1 h with rfl | later
        · exact List.not_mem_cons_of_ne_of_not_mem (Ne.symm other) (ih List.mem_cons_self)
        · exact ih (List.mem_cons_of_mem q later)

/-- What stands before the first separator is determined, and so is what follows it. -/
theorem eq_of_append_cons {p q cs ds : List α} (hp : sep ∉ p) (hq : sep ∉ q)
    (same : p ++ sep :: cs = q ++ sep :: ds) : p = q ∧ cs = ds := by
  have cut : p :: pieces sep cs = q :: pieces sep ds := by
    rw [← pieces_append hp, ← pieces_append hq, same]
  obtain rfl : p = q := List.head_eq_of_cons_eq cut
  exact ⟨rfl, List.tail_eq_of_cons_eq (List.append_cancel_left same)⟩

/-- Lists without the separator are the pieces of what they are joined to. -/
theorem pieces_join {ps : List (List α)} (some : ps ≠ []) (h : ∀ p ∈ ps, sep ∉ p) :
    pieces sep (join sep ps) = ps := by
  induction ps with
  | nil => exact absurd rfl some
  | cons p ps ih =>
    cases ps with
    | nil => exact pieces_of_not_mem (h p List.mem_cons_self)
    | cons q qs =>
      rw [join, pieces_append (h p List.mem_cons_self),
        ih (List.cons_ne_nil q qs) fun r hr => h r (List.mem_cons_of_mem p hr)]
      exact List.cons_ne_nil q qs

omit [DecidableEq α] in
/-- What is joined is the first part, and every other one with the separator before it. -/
theorem join_cons (p : List α) (ps : List (List α)) :
    join sep (p :: ps) = p ++ ps.flatMap (sep :: ·) := by
  induction ps generalizing p with
  | nil => exact (List.append_nil p).symm
  | cons q qs ih =>
    rw [join, ih q, List.flatMap_cons, List.cons_append]
    exact List.cons_ne_nil q qs

omit [DecidableEq α] in
/-- What is joined is every part but the last one with the separator behind it, and the last. -/
theorem join_concat (ps : List (List α)) (last : List α) :
    join sep (ps ++ [last]) = ps.flatMap (· ++ [sep]) ++ last := by
  induction ps with
  | nil => rfl
  | cons p ps ih =>
    have more : ps ++ [last] ≠ [] := List.concat_ne_nil last ps
    rw [List.cons_append, join, ih, List.flatMap_cons]
    · simp only [List.append_assoc, List.cons_append, List.nil_append]
    · exact more

omit [DecidableEq α] in
/-- What is joined holds the separator and what the parts hold. -/
theorem mem_join {c : α} {ps : List (List α)} (h : c ∈ join sep ps) :
    c = sep ∨ ∃ p ∈ ps, c ∈ p := by
  induction ps with
  | nil => cases h
  | cons p ps ih =>
    cases ps with
    | nil => exact .inr ⟨p, List.mem_cons_self, h⟩
    | cons q qs =>
      rcases List.mem_append.1 h with here | there
      · exact .inr ⟨p, List.mem_cons_self, here⟩
      · rcases List.mem_cons.1 there with rfl | later
        · exact .inl rfl
        · obtain rfl | ⟨r, hr, hc⟩ := ih later
          · exact .inl rfl
          · exact .inr ⟨r, List.mem_cons_of_mem p hr, hc⟩

/-! ## The last separator -/

theorem splitLast_eq_none_iff {cs : List α} : splitLast sep cs = none ↔ sep ∉ cs := by
  induction cs with
  | nil => simp [splitLast]
  | cons c cs ih =>
    rw [splitLast]
    cases hs : splitLast sep cs with
    | some p =>
      have later : sep ∈ cs := by
        rw [← Decidable.not_not (p := sep ∈ cs), ← ih, hs]
        exact Option.some_ne_none p
      simp [later]
    | none =>
      have later := ih.1 hs
      by_cases here : c = sep
      · simp [here]
      · simp [here, later, Ne.symm here]

/-- A list is cut at its last separator: behind it there is none. -/
theorem splitLast_eq_some_iff {cs before after : List α} :
    splitLast sep cs = some (before, after) ↔ cs = before ++ sep :: after ∧ sep ∉ after := by
  constructor
  · intro h
    refine ⟨eq_of_splitLast h, ?_⟩
    induction cs generalizing before with
    | nil => cases h
    | cons c cs ih =>
      rw [splitLast] at h
      cases hs : splitLast sep cs with
      | some p =>
        obtain ⟨b, a⟩ := p
        simp only [hs, Option.some.injEq, Prod.mk.injEq] at h
        obtain ⟨rfl, rfl⟩ := h
        exact ih hs
      | none =>
        simp only [hs] at h
        split at h
        · cases h
          exact splitLast_eq_none_iff.1 hs
        · cases h
  · rintro ⟨rfl, last⟩
    induction before with
    | nil => rw [List.nil_append, splitLast, splitLast_eq_none_iff.2 last, if_pos rfl]
    | cons b before ih => rw [List.cons_append, splitLast, ih]

end IssueIntake.Text
