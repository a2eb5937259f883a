import IssueIntake.Proofs.Issue.Json
import IssueIntake.Proofs.Issue.Prepared
import IssueIntake.Proofs.Text.Order
/-!
# The names that are listed are the names that are accepted

A list of names shows the built-in ones in their order and then the custom ones in the order of
their bytes (`Lists`, `lists_listing`). A status with a name is accepted if and only if the name is
listed, whether the name is built in or custom (`allowsStatus_ofName`), and where nothing else is
wrong with an issue that decides its validation (`validate_of_status`). The same holds of types.
-/

namespace IssueIntake

/-! ## Sorted names -/

theorem mem_insertName_iff {name other : String} {names : List String} :
    other ∈ insertName name names ↔ other = name ∨ other ∈ names := by
  induction names with
  | nil => simp [insertName]
  | cons n rest ih =>
    unfold insertName
    split
    · exact List.mem_cons
    · split
      · next same => simp [same]
      · rw [List.mem_cons, ih, List.mem_cons, or_left_comm]

theorem insertName_pairwise {names : List String} (h : names.Pairwise (· < ·)) (name : String) :
    (insertName name names).Pairwise (· < ·) := by
  induction names with
  | nil => exact List.pairwise_singleton _ _
  | cons n rest ih =>
    obtain ⟨below, sorted⟩ := List.pairwise_cons.1 h
    unfold insertName
    split
    · next less =>
      refine List.pairwise_cons.2 ⟨List.forall_mem_cons.2 ⟨less, fun other ho => ?_⟩, h⟩
      exact String.lt_trans less (below other ho)
    · next notLess =>
      split
      · exact h
      · next different =>
        refine List.pairwise_cons.2 ⟨fun other ho => ?_, ih sorted⟩
        rcases mem_insertName_iff.1 ho with rfl | ho
        · exact String.not_le.1 fun le =>
            different (String.le_antisymm le (String.not_lt.1 notLess))
        · exact below other ho

theorem mem_sortNames_iff {name : String} {names : List String} :
    name ∈ sortNames names ↔ name ∈ names := by
  induction names with
  | nil => exact Iff.rfl
  | cons n rest ih =>
    rw [sortNames, List.foldr_cons, ← sortNames, mem_insertName_iff, ih, List.mem_cons]

theorem sortNames_pairwise (names : List String) : (sortNames names).Pairwise (· < ·) := by
  induction names with
  | nil => exact .nil
  | cons n rest ih => exact insertName_pairwise ih n

namespace Vocabulary

/-- A list shows names that are built in, in their order, and behind them those that are custom, in
the order of their bytes, and each name once. -/
structure Lists (builtin custom shown : List String) : Prop where
  mem : ∀ name, name ∈ shown ↔ name ∈ builtin ∨ name ∈ custom
  distinct : shown.Nodup
  order : ∃ others, shown = builtin ++ others ∧
    others.Pairwise fun a b => Text.utf8 a < Text.utf8 b

theorem lists_listing {builtin : List String} (distinct : builtin.Nodup) (custom : List String) :
    Lists builtin custom (listing builtin custom) where
  mem name := by
    simp only [listing, List.mem_append, List.mem_filter, mem_sortNames_iff]
    by_cases own : name ∈ builtin <;> simp [own]
  distinct := by
    have once : (sortNames custom).Nodup := by
      refine (sortNames_pairwise custom).imp fun less same => ?_
      exact String.lt_irrefl _ (same ▸ less)
    refine List.nodup_append.2 ⟨distinct, once.filter _, fun a ha b hb same => ?_⟩
    have other := (List.mem_filter.1 hb).2
    simp [← same, ha] at other
  order := by
    refine ⟨_, rfl, ?_⟩
    exact ((sortNames_pairwise custom).imp Text.utf8_lt_utf8).filter _

/-! ## Accepted names -/

end Vocabulary

namespace Status

theorem isBuiltin_iff {x : Status} : x.isBuiltin = true ↔ x ∈ builtin := by
  cases x <;> simp [isBuiltin, builtin]

theorem isBuiltin_ofName {name : String} :
    (ofName name).isBuiltin = true ↔ name ∈ builtin.map Status.name := by
  constructor
  · intro own
    have there := List.mem_map_of_mem (f := Status.name) (isBuiltin_iff.1 own)
    rwa [name_ofName] at there
  · intro there
    obtain ⟨x, own, rfl⟩ := List.mem_map.1 there
    have known : ∀ x ∈ builtin, ofName x.name = x := by decide
    rw [known x own]
    exact isBuiltin_iff.2 own

end Status

namespace IssueType

theorem isBuiltin_iff {x : IssueType} : x.isBuiltin = true ↔ x ∈ builtin := by
  cases x <;> simp [isBuiltin, builtin]

theorem isBuiltin_ofName {name : String} :
    (ofName name).isBuiltin = true ↔ name ∈ builtin.map IssueType.name := by
  constructor
  · intro own
    have there := List.mem_map_of_mem (f := IssueType.name) (isBuiltin_iff.1 own)
    rwa [name_ofName] at there
  · intro there
    obtain ⟨x, own, rfl⟩ := List.mem_map.1 there
    have known : ∀ x ∈ builtin, ofName x.name = x := by decide
    rw [known x own]
    exact isBuiltin_iff.2 own

end IssueType

namespace Vocabulary

variable {v : Vocabulary} {name : String}

theorem lists_statusNames (v : Vocabulary) :
    Lists (Status.builtin.map Status.name) v.statuses v.statusNames :=
  lists_listing (by decide) v.statuses

theorem lists_typeNames (v : Vocabulary) :
    Lists (IssueType.builtin.map IssueType.name) v.types v.typeNames :=
  lists_listing (by decide) v.types

/-- The status with a name is accepted if the name is listed. -/
theorem allowsStatus_ofName : v.allowsStatus (.ofName name) = true ↔ name ∈ v.statusNames := by
  rw [allowsStatus, Bool.or_eq_true, Status.isBuiltin_ofName, Status.name_ofName,
    List.contains_iff_mem, v.lists_statusNames.mem]

/-- The type with a name is accepted if the name is listed. -/
theorem allowsType_ofName : v.allowsType (.ofName name) = true ↔ name ∈ v.typeNames := by
  rw [allowsType, Bool.or_eq_true, IssueType.isBuiltin_ofName, IssueType.name_ofName,
    List.contains_iff_mem, v.lists_typeNames.mem]

/-- A vocabulary with one more status. -/
def withStatus (v : Vocabulary) (name : String) : Vocabulary :=
  { v with statuses := name :: v.statuses }

/-- A vocabulary with one more type. -/
def withType (v : Vocabulary) (name : String) : Vocabulary :=
  { v with types := name :: v.types }

end Vocabulary

namespace Issue

variable {i : Issue} {v : Vocabulary} {name : String}

/-! ## Issues with which nothing else is wrong -/

/-- An issue that is valid in some vocabulary is valid in another one that has the names of its
status and its type, in this order. -/
theorem validate_of_validate {w : Vocabulary} (valid : i.validate w = .ok ()) :
    i.validate v = (do
      require (v.allowsStatus i.status) (.unknownStatus i.status.name)
      require (v.allowsType i.issueType) (.unknownType i.issueType.name)) := by
  simp only [validate, except_then_eq_ok_iff] at valid
  obtain ⟨titled, short, priority, -, -, created, updated, closed, deleted, closing, deletion⟩ :=
    valid
  simp only [validate, titled, short, priority, created, updated, closed, deleted, closing,
    deletion]
  cases require (v.allowsStatus i.status) (.unknownStatus i.status.name) with
  | error e => rfl
  | ok => cases require (v.allowsType i.issueType) (.unknownType i.issueType.name) <;> rfl

/-- Where only the status may be unknown, it decides. -/
theorem validate_of_status (valid : i.validate (v.withStatus name) = .ok ()) :
    i.validate v = require (v.allowsStatus i.status) (.unknownStatus i.status.name) := by
  obtain ⟨-, -, -, type, -⟩ := validate_eq_ok_iff.1 valid
  have type : v.allowsType i.issueType = true := type
  rw [validate_of_validate valid, require_eq_ok_iff.2 type]
  cases require (v.allowsStatus i.status) (.unknownStatus i.status.name) <;> rfl

/-- Where only the type may be unknown, it decides. -/
theorem validate_of_type (valid : i.validate (v.withType name) = .ok ()) :
    i.validate v = require (v.allowsType i.issueType) (.unknownType i.issueType.name) := by
  obtain ⟨-, -, status, -⟩ := validate_eq_ok_iff.1 valid
  have status : v.allowsStatus i.status = true := status
  rw [validate_of_validate valid, require_eq_ok_iff.2 status]
  rfl

/-- Where a rule decides the validation of an issue, it decides its preparation: repair changes
neither the status nor the type. -/
theorem prepare_of_require {w : Vocabulary} {now : Instant} {prepared : Issue} {known : Bool}
    {violation : Violation} (ready : i.prepare w now = (.ok (), prepared))
    (decides : ∀ k : Issue, k.status = i.status → k.issueType = i.issueType →
      k.validate w = .ok () → k.validate v = require known violation) :
    i.prepare v now =
      if known then (.ok (), prepared) else (.error violation, (i.repair now).2) := by
  obtain ⟨repairs, repaired, repair, valid, rfl⟩ := prepare_eq_ok_iff.1 ready
  obtain ⟨_, _, _, _, frame⟩ := i.repair_frame now
  rw [repair] at frame
  have decided := decides repaired (by rw [show repaired = _ from frame])
    (by rw [show repaired = _ from frame]) valid
  cases known with
  | true => exact prepare_eq_ok_iff.2 ⟨repairs, repaired, repair, decided, rfl⟩
  | false =>
    have broken : repaired.validate v = .error violation := decided
    simp only [prepare, repair, broken]
    rfl

theorem prepare_of_status {now : Instant} {prepared : Issue} (named : i.status = .ofName name)
    (ready : i.prepare (v.withStatus name) now = (.ok (), prepared)) :
    i.prepare v now = if v.allowsStatus (.ofName name) then (.ok (), prepared)
      else (.error (.unknownStatus name), (i.repair now).2) := by
  refine prepare_of_require ready fun k status _ valid => ?_
  rw [validate_of_status valid, status, named, Status.name_ofName]

theorem prepare_of_type {now : Instant} {prepared : Issue} (named : i.issueType = .ofName name)
    (ready : i.prepare (v.withType name) now = (.ok (), prepared)) :
    i.prepare v now = if v.allowsType (.ofName name) then (.ok (), prepared)
      else (.error (.unknownType name), (i.repair now).2) := by
  refine prepare_of_require ready fun k _ type valid => ?_
  rw [validate_of_type valid, type, named, IssueType.name_ofName]

end Issue

end IssueIntake
