import Mathlib.Data.List.DropRight
import IssueIntake.Text.Blank
/-!
# Trimmed texts

Trimming takes away the blanks around a text that neither begins nor ends with one
(`trimList_surrounded`), and a trimmed text is such a text (`trim_trim`).
-/

namespace IssueIntake.Text

variable {cs before after : List Char} {c d : Char}

theorem dropBlank_of_head? (first : cs.head? = some c) (visible : isBlank c = false) :
    dropBlank cs = cs := by
  obtain ⟨rest, rfl⟩ := List.head?_eq_some_iff.1 first
  exact List.dropWhile_cons_of_neg (by simp [visible])

theorem dropBlank_append (blank : ∀ c ∈ before, isBlank c = true) (cs : List Char) :
    dropBlank (before ++ cs) = dropBlank cs :=
  List.dropWhile_append_of_pos blank

/-- Trimming takes away blanks around what is left. -/
theorem trimList_surrounded (blankBefore : ∀ c ∈ before, isBlank c = true)
    (blankAfter : ∀ c ∈ after, isBlank c = true) (first : cs.head? = some c)
    (firstVisible : isBlank c = false) (last : cs.getLast? = some d)
    (lastVisible : isBlank d = false) : trimList (before ++ cs ++ after) = cs := by
  have front : (cs ++ after).head? = some c := by rw [List.head?_append, first, Option.some_or]
  have back : cs.reverse.head? = some d := by rw [List.head?_reverse, last]
  have blank : ∀ c ∈ after.reverse, isBlank c = true := fun c hc =>
    blankAfter c (List.mem_reverse.1 hc)
  rw [trimList, List.append_assoc, dropBlank_append blankBefore,
    dropBlank_of_head? front firstVisible, List.reverse_append, dropBlank_append blank,
    dropBlank_of_head? back lastVisible, List.reverse_reverse]

/-- Blanks at the end make no difference. -/
theorem trimList_append (cs : List Char) (blank : ∀ c ∈ after, isBlank c = true) :
    trimList (cs ++ after) = trimList cs := by
  have behind : ∀ c ∈ after.reverse, isBlank c = true := fun c hc =>
    blank c (List.mem_reverse.1 hc)
  have front : dropBlank (cs ++ after) = if (dropBlank cs).isEmpty then dropBlank after
      else dropBlank cs ++ after := List.dropWhile_append
  rw [trimList, trimList, front]
  split
  · next nothing =>
    have none : dropBlank after = [] := List.dropWhile_eq_nil_iff.2 blank
    rw [none, List.isEmpty_iff.1 nothing]
  · rw [List.reverse_append, dropBlank_append behind]

/-- What begins like a text without leading blanks has none. -/
theorem dropBlank_of_prefix (h : before <+: dropBlank cs) : dropBlank before = before := by
  cases before with
  | nil => rfl
  | cons c rest =>
    obtain ⟨more, whole⟩ := h
    have visible := List.head?_dropWhile_not isBlank cs
    rw [show cs.dropWhile isBlank = dropBlank cs from rfl, ← whole] at visible
    exact dropBlank_of_head? rfl visible

/-- Trimming again changes nothing. -/
theorem trimList_trimList (cs : List Char) : trimList (trimList cs) = trimList cs := by
  have kept : trimList cs <+: dropBlank cs := List.rdropWhile_prefix isBlank _
  rw [trimList, dropBlank_of_prefix kept]
  exact List.rdropWhile_idempotent isBlank _

/-- Trimming adds nothing. -/
theorem trimList_sublist (cs : List Char) : (trimList cs).Sublist cs :=
  (List.rdropWhile_prefix isBlank _).sublist.trans (List.dropWhile_sublist isBlank)

theorem trim_trim (s : String) : trim (trim s) = trim s := by
  rw [trim, trim, String.toList_ofList, trimList_trimList]

end IssueIntake.Text
