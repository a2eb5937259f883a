import IssueIntake.Command.Report
import IssueIntake.Proofs.Json.Lines
import IssueIntake.Proofs.Json.Normal
/-!
# What is printed of a report

A report that is printed in JSON is read back as the object that it stands for, whatever texts it
holds, if its numbers fit 64 bits (`readJson_text`). So the names of a vocabulary are found in the
output, and so are the identifiers of what has been taken in (`reportedIds`).
-/

namespace IssueIntake.Command

/-- What a reader of JSON finds in an output. -/
def readJson (output : String) : Except Json.ReadError Json :=
  Json.readAll (Json.readValue Json.maxLevels) output.toList

/-! ## Values that are read back -/

/-- The numbers of a value fit 64 bits, and it nests at most so deep. -/
def Within (levels : Nat) (v : Json) : Prop :=
  v.Exact ∧ v.levels ≤ levels

namespace Within

variable {levels : Nat}

theorem string (levels : Nat) (s : String) : Within levels (.string s) :=
  ⟨trivial, Nat.zero_le _⟩

theorem whole {n : Int} (fits : -9223372036854775808 ≤ n ∧ n ≤ 18446744073709551615) :
    Within levels (.number (.whole n)) :=
  ⟨fits, Nat.zero_le _⟩

theorem array {items : List Json} (h : ∀ v ∈ items, Within levels v) :
    Within (levels + 1) (.array items) :=
  ⟨Json.numbers_array.2 fun v hv => (h v hv).1,
    Nat.succ_le_succ (Json.itemLevels_le_iff.2 fun v hv => (h v hv).2)⟩

theorem object {members : List (String × Json)} (h : ∀ m ∈ members, Within levels m.2) :
    Within (levels + 1) (.object members) :=
  ⟨Json.numbers_object.2 fun m hm => (h m hm).1,
    Nat.succ_le_succ (Json.memberLevels_le_iff.2 fun m hm => (h m hm).2)⟩

theorem normalize {v : Json} (h : Within levels v) : Within levels v.normalize :=
  ⟨h.1.normalize, Nat.le_trans (Json.levels_normalize_le v) h.2⟩

theorem names (levels : Nat) (l : List String) : Within (levels + 1) (Report.names l) := by
  refine array fun v hv => ?_
  obtain ⟨s, -, rfl⟩ := List.mem_map.1 hv
  exact string levels s

theorem stampJson (levels : Nat) (t : Option Instant) : Within levels (Report.stampJson t) := by
  cases t with
  | none => exact ⟨trivial, Nat.zero_le _⟩
  | some t => exact string levels _

/-- The summary of an issue with a priority that a row can have. -/
theorem summary {i : Issue} (priority : 0 ≤ i.priority ∧ i.priority ≤ 4) :
    Within (levels + 1) (Report.summary i) := by
  have number : Within levels (.number (.whole i.priority)) := whole (by omega)
  refine object ?_
  simp [string, stampJson, number]

end Within

/-- A report is read back from what is printed of it in JSON. -/
theorem readJson_text {r : Report} (h : ∀ m ∈ r.members, Within 126 m.2) :
    readJson (r.text true) = .ok r.toJson := by
  have within : Within 127 r.toJson := by
    refine (Within.object (List.forall_mem_cons.2 ⟨?_, h⟩)).normalize
    exact .string _ _
  rw [readJson, Report.text, if_pos rfl, Json.readAll_lines within.1, Json.keepWithin]
  exact if_pos within.2

theorem normalize_names (l : List String) : (Report.names l).normalize = Report.names l := by
  simp [Report.names, Json.normalize, Json.normalizeItems_eq_map]

/-! ## Identifiers -/

/-- The text of a value. -/
def textOf? : Json → Option String
  | .string s => some s
  | _ => none

/-- The identifiers that a report in JSON gives of what has been taken in: those of its list, or the
one of its issue. -/
def reportedIds (json : Json) : List String :=
  match json.member? "ids", json.member? "issue" with
  | some (.array items), _ => items.filterMap textOf?
  | _, some issue => ((issue.member? "id").bind textOf?).toList
  | _, _ => []

theorem reportedIds_created (actor : String) (mode : Mode) (i : Issue) :
    reportedIds (Report.created actor mode i).toJson = [i.id] :=
  rfl

theorem reportedIds_imported (source : String) (mode : Mode) (ids : List String) :
    reportedIds (Report.imported source mode ids).toJson = ids := by
  have listed : (Report.imported source mode ids).toJson.member? "ids" =
      some (.array (ids.map .string)) := by
    rw [← Report.names, ← normalize_names]
    rfl
  have texts : (ids.map Json.string).filterMap textOf? = ids := by
    rw [List.filterMap_map]
    exact List.filterMap_some
  simp only [reportedIds, listed, texts]

theorem readJson_created {actor : String} {mode : Mode} {i : Issue}
    (priority : 0 ≤ i.priority ∧ i.priority ≤ 4) :
    readJson ((Report.created actor mode i).text true) =
      .ok (Report.created actor mode i).toJson := by
  refine readJson_text ?_
  simp [Report.members, Within.string, Within.summary priority]

/-- The count of a list is a number of 64 bits. -/
theorem readJson_imported {source : String} {mode : Mode} {ids : List String}
    (few : ids.length < 2 ^ 64) :
    readJson ((Report.imported source mode ids).text true) =
      .ok (Report.imported source mode ids).toJson := by
  have counted : Within 126 (Report.count ids.length) := .whole (by omega)
  refine readJson_text ?_
  simp [Report.members, Within.string, Within.names, counted]

end IssueIntake.Command
