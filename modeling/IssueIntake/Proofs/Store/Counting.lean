import IssueIntake.Proofs.Identifier.Split
import IssueIntake.Proofs.Store.Books
/-!
# Counting the identifiers of a namespace

Both stores count the identifiers that split into a namespace and a key without ordinals. The tables
first narrow the rows to those whose identifier begins with the namespace and a dash. For a
namespace without U+0000 the narrowing loses nothing (`Tables.countTopLevel_eq`). The database sees
no text past the first U+0000, so for a namespace with that character it loses everything
(`Tables.countTopLevel_eq_zero`). `stores_count` puts the two stores side by side.
-/

namespace IssueIntake

open Identifier IssueRow

/-- U+0000 itself is never seen. -/
theorem IssueRow.not_mem_visible (s : String) : '\x00' ∉ visible s := by
  intro seen
  have other := List.all_eq_true.1 List.all_takeWhile _ seen
  exact absurd other (by decide)

namespace Tables

/-- The narrowing of the rows loses no identifier that lies in a namespace without U+0000. -/
theorem countTopLevel_eq (t : Tables) {space : String} (h : Unbroken space) :
    t.countTopLevel space = t.issues.keys.countP (isTopLevelIn space) := by
  simp only [countTopLevel, List.countP_filter]
  apply List.countP_congr
  intro id _
  simp only [Bool.and_eq_true, beq_iff_eq, and_iff_left_iff_imp]
  intro top
  obtain ⟨key, parts, -⟩ := isTopLevelIn_iff.1 top
  obtain ⟨rfl, -, -⟩ := split_eq_some_iff.1 parts
  have seen : visible (space ++ "-" ++ key) =
      space.toList ++ '-' :: key.toList.takeWhile (· != '\x00') := by
    rw [visible, String.append_assoc, String.toList_append, takeWhile_unbroken_append h,
      String.toList_append]
    rfl
  simp [seen, visible_eq h, List.take_append, List.take_of_length_le]

/-- No row is left for a namespace with U+0000: that character is in no text that is seen. -/
theorem countTopLevel_eq_zero (t : Tables) {space : String} (h : ¬ Unbroken space) :
    t.countTopLevel space = 0 := by
  have broken : '\x00' ∈ space.toList := Decidable.not_not.1 h
  simp only [countTopLevel, List.countP_filter]
  apply List.countP_eq_zero.2
  intro id _ counted
  obtain ⟨-, begins⟩ := Bool.and_eq_true_iff.1 counted
  have inSeen : '\x00' ∈ (visible id).take ((visible space).length + 1) := by
    rw [eq_of_beq begins]
    exact List.mem_append_left _ broken
  exact not_mem_visible id (List.mem_of_mem_take inSeen)

end Tables

/-- The store in memory counts the identifiers that split into exactly the namespace and a key
without ordinals, whatever characters they are made of. Tables with the same identifiers count
alike, unless there is a U+0000 in the namespace: then they count none. -/
theorem stores_count {m : Memory} {t : Tables} (same : t.issues.keys = m.issues.keys)
    (space : String) :
    m.countTopLevel space = m.issues.keys.countP (TopLevelIn space ·) ∧
      t.countTopLevel space =
        if Unbroken space then m.issues.keys.countP (TopLevelIn space ·) else 0 := by
  have counted : m.issues.keys.countP (isTopLevelIn space) =
      m.issues.keys.countP (TopLevelIn space ·) := by
    apply List.countP_congr
    intro id _
    rw [isTopLevelIn_iff, decide_eq_true_iff]
  refine ⟨counted, ?_⟩
  by_cases unbroken : Unbroken space
  · rw [if_pos unbroken, t.countTopLevel_eq unbroken, same, counted]
  · rw [if_neg unbroken, t.countTopLevel_eq_zero unbroken]

/-- Two issues in a namespace with U+0000, one of them a child, and one in a namespace with a letter
of two bytes. -/
theorem stores_count_broken_namespace :
    let issues := ["a\x00b-x", "a\x00b-x.1", "é-x"].foldl
      (fun issues id => issues.insert id (Issue.new id "T")) Keyed.empty
    let m : Memory := { Memory.empty with issues }
    let t : Tables := { Tables.empty with issues := issues.map .encode }
    t.issues.keys = m.issues.keys ∧
      (m.countTopLevel "é" = 1 ∧ t.countTopLevel "é" = 1) ∧
      (m.countTopLevel "a\x00b" = 1 ∧ t.countTopLevel "a\x00b" = 0) := by
  intro issues m t
  have same : t.issues.keys = m.issues.keys := Keyed.keys_map _ _
  obtain ⟨inMemory, inTables⟩ := stores_count same "é"
  obtain ⟨inMemory', inTables'⟩ := stores_count same "a\x00b"
  exact ⟨same, ⟨inMemory.trans (by decide), inTables.trans (by decide)⟩,
    ⟨inMemory'.trans (by decide), inTables'.trans (if_neg (by decide))⟩⟩

end IssueIntake
