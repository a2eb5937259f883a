/-!
# Cutting a list at a separator

`pieces` cuts at every occurrence of an item, `splitLast` at the last one only. Neither loses
anything: `join_pieces` and `eq_of_splitLast` give the list back. Texts are cut as lists of
characters, files as lists of bytes.
-/

namespace IssueIntake.Text

variable {α : Type} [DecidableEq α]

/-- Puts an item in front of the first of some pieces, or begins a piece before them if it is the
separator. -/
def addFront (sep c : α) (ps : List (List α)) : List (List α) :=
  if c = sep then [] :: ps
  else
    match ps with
    | [] => [[c]]
    | p :: ps => (c :: p) :: ps

/-- The parts between the occurrences of `sep`; there is always at least one. -/
def pieces (sep : α) (cs : List α) : List (List α) :=
  cs.foldr (addFront sep) [[]]

/-- The parts with `sep` between each two of them. -/
def join (sep : α) : List (List α) → List α
  | [] => []
  | [p] => p
  | p :: ps => p ++ sep :: join sep ps

/-- What stands before and after the last occurrence of `sep`, when it occurs at all. -/
def splitLast (sep : α) : List α → Option (List α × List α)
  | [] => none
  | c :: cs =>
    match splitLast sep cs with
    | some (before, after) => some (c :: before, after)
    | none => if c = sep then some ([], cs) else none

@[simp] theorem pieces_nil (sep : α) : pieces sep [] = [[]] := rfl

theorem pieces_cons (sep c : α) (cs : List α) :
    pieces sep (c :: cs) = addFront sep c (pieces sep cs) := rfl

theorem addFront_ne_nil (sep c : α) (ps : List (List α)) : addFront sep c ps ≠ [] := by
  unfold addFront
  split
  · simp
  · split <;> simp

theorem pieces_ne_nil (sep : α) (cs : List α) : pieces sep cs ≠ [] := by
  cases cs with
  | nil => simp
  | cons c cs => exact addFront_ne_nil sep c _

theorem join_addFront (sep c : α) {ps : List (List α)} (h : ps ≠ []) :
    join sep (addFront sep c ps) = c :: join sep ps := by
  cases ps with
  | nil => exact absurd rfl h
  | cons p ps =>
    unfold addFront
    split
    · next hc => simp [join, hc]
    · cases ps <;> simp [join]

theorem join_pieces (sep : α) (cs : List α) : join sep (pieces sep cs) = cs := by
  induction cs with
  | nil => rfl
  | cons c cs ih => rw [pieces_cons, join_addFront sep c (pieces_ne_nil sep cs), ih]

theorem eq_of_splitLast {sep : α} {cs before after : List α}
    (h : splitLast sep cs = some (before, after)) : cs = before ++ sep :: after := by
  induction cs generalizing before with
  | nil => simp [splitLast] at h
  | cons c cs ih =>
    rw [splitLast] at h
    cases hs : splitLast sep cs with
    | some p =>
      obtain ⟨b, a⟩ := p
      simp only [hs, Option.some.injEq, Prod.mk.injEq] at h
      obtain ⟨rfl, rfl⟩ := h
      rw [ih hs]
      rfl
    | none =>
      simp only [hs] at h
      split at h
      · next hc =>
        simp only [Option.some.injEq, Prod.mk.injEq] at h
        obtain ⟨rfl, rfl⟩ := h
        simp [hc]
      · simp at h

end IssueIntake.Text
