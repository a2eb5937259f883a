import IssueIntake.Proofs.Text.Blank
import IssueIntake.Proofs.Text.Pieces
import IssueIntake.Text.NameList
/-!
# Lists of names are read as they were written

Names without commas are read back from the text that lists them, trimmed and without the blank ones
(`clean_pieces_join`), and names that were read are read back as they are (`parse_format_parse`). So
the text is a faithful form of the names (`names_read_back`).
-/

namespace IssueIntake.NameList

open Text

/-- The names that are left are the trimmed ones that are not blank. -/
theorem mem_clean_iff {name : List Char} {names : List (List Char)} :
    name ∈ clean names ↔ name ≠ [] ∧ ∃ given ∈ names, trimList given = name := by
  simp [clean, and_comm]

/-- Trimmed names that are not blank stay as they are. -/
theorem clean_eq_self {names : List (List Char)}
    (h : ∀ name ∈ names, name ≠ [] ∧ trimList name = name) : clean names = names := by
  have trimmed : names.map trimList = names := by
    rw [List.map_congr_left fun name hn => (h name hn).2, List.map_id']
  rw [clean, trimmed, List.filter_eq_self]
  exact fun name hn => by simpa using (h name hn).1

theorem clean_clean (names : List (List Char)) : clean (clean names) = clean names := by
  refine clean_eq_self fun name hn => ?_
  obtain ⟨some, given, -, rfl⟩ := mem_clean_iff.1 hn
  exact ⟨some, trimList_trimList given⟩

/-- Names without commas are what is left of the text that lists them. -/
theorem clean_pieces_join {names : List (List Char)} (h : ∀ name ∈ names, ',' ∉ name) :
    clean (pieces ',' (join ',' (clean names))) = clean names := by
  by_cases some : clean names = []
  · rw [some]
    rfl
  · rw [pieces_join some, clean_clean]
    intro name hn comma
    obtain ⟨-, given, there, rfl⟩ := mem_clean_iff.1 hn
    exact h given there ((trimList_sublist given).subset comma)

theorem parse_format {names : List String} (h : ∀ name ∈ names, ',' ∉ name.toList) :
    parse (format names) = (clean (names.map String.toList)).map String.ofList := by
  rw [parse, format, String.toList_ofList, clean_pieces_join]
  exact List.forall_mem_map.2 h

/-- What was read from a text is read again when it has been written. -/
theorem parse_format_parse (raw : String) : parse (format (parse raw)) = parse raw := by
  have names : (parse raw).map String.toList = clean (pieces ',' raw.toList) := by
    simp [parse, Function.comp_def]
  rw [parse_format, names, clean_clean, parse]
  intro name hn comma
  have there : name.toList ∈ clean (pieces ',' raw.toList) := names ▸ List.mem_map_of_mem hn
  obtain ⟨-, given, hg, same⟩ := mem_clean_iff.1 there
  exact not_mem_of_mem_pieces hg ((trimList_sublist given).subset (same ▸ comma))

/-- The names that are left, as texts. -/
theorem map_clean (names : List String) :
    (clean (names.map String.toList)).map String.ofList = (names.map trim).filter (· ≠ "") := by
  have trimmed : (names.map String.toList).map trimList = (names.map trim).map String.toList := by
    rw [List.map_map, List.map_map]
    exact List.map_congr_left fun name _ => String.toList_ofList.symm
  have back : String.ofList ∘ String.toList = id := funext fun _ => String.ofList_toList
  rw [clean, trimmed, List.filter_map, List.map_map, back, List.map_id]
  refine List.filter_congr fun name _ => ?_
  rw [Bool.eq_iff_iff]
  simp

/-- Names without commas are read back from their text in order, each as often as it occurs, trimmed
and without the blank ones. What is read from any text is read back as it is when it is written
again, and different lists that were read are written differently. -/
theorem names_read_back :
    (∀ names : List String, (∀ name ∈ names, ',' ∉ name.toList) →
      parse (format names) = (names.map trim).filter (· ≠ "")) ∧
    (∀ raw, parse (format (parse raw)) = parse raw) ∧
    ∀ raw other, format (parse raw) = format (parse other) → parse raw = parse other := by
  refine ⟨fun names plain => (parse_format plain).trans (map_clean names), parse_format_parse,
    fun raw other same => ?_⟩
  calc parse raw
    _ = parse (format (parse raw)) := (parse_format_parse raw).symm
    _ = parse (format (parse other)) := by rw [same]
    _ = parse other := parse_format_parse other

/-- Names with blanks around them, one that occurs twice, and two that are blank; and two texts that
list the same names. -/
theorem names_read_back_twice :
    let names := [" review", "", "\u3000", "code\nreview\t", "review"]
    let untidy := " , qa,\u2028,qa ,"
    ((∀ name ∈ names, ',' ∉ name.toList) ∧
        parse (format names) = ["review", "code\nreview", "review"]) ∧
      parse (format (parse untidy)) = parse untidy ∧
      (format (parse untidy) = format (parse "qa,qa") ∧ parse untidy = parse "qa,qa") := by
  intro names untidy
  have plain : ∀ name ∈ names, ',' ∉ name.toList := by decide
  have same : format (parse untidy) = format (parse "qa,qa") := by decide +kernel
  obtain ⟨read, again, injective⟩ := names_read_back
  exact ⟨⟨plain, (read names plain).trans (by decide +kernel)⟩, again untidy, same,
    injective untidy "qa,qa" same⟩

end IssueIntake.NameList
