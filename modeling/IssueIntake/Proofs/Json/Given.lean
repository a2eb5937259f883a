import Mathlib.Data.List.Nodup
import Mathlib.Logic.Function.Basic
import IssueIntake.Proofs.Json.Kind
/-!
# Fields of a record

What holds of the fields that are given of any record: which value a field has after another one has
been set, and that the values fit their kinds (`Given.Fit`).
-/

namespace IssueIntake.Json

variable {φ : Type} {kind : φ → Kind}

/-- Where no two fields have the same name, a field has its own. -/
theorem fieldNamed?_name {fields : List φ} {name : φ → String} (differ : (fields.map name).Nodup)
    {f : φ} (there : f ∈ fields) : fieldNamed? fields name (name f) = some f := by
  unfold fieldNamed?
  cases found : fields.find? (name · == name f) with
  | none => exact absurd (beq_self_eq_true _) (List.find?_eq_none.1 found f there)
  | some g =>
    have same := List.find?_some found
    rw [beq_iff_eq] at same
    exact congrArg some
      (List.inj_on_of_nodup_map differ (List.mem_of_find?_eq_some found) there same)

theorem name_of_fieldNamed? {fields : List φ} {name : φ → String} {s : String} {f : φ}
    (h : fieldNamed? fields name s = some f) : name f = s := by
  have named := List.find?_some h
  exact eq_of_beq named

namespace Given

section Set

variable [DecidableEq φ]

theorem set_self (given : Given kind) (f : φ) (value : (kind f).Value) :
    given.set f value f = some value :=
  dif_pos rfl

theorem set_of_ne (given : Given kind) {f g : φ} (other : f ≠ g) (value : (kind f).Value) :
    given.set f value g = given g :=
  dif_neg other

theorem set_eq_update (given : Given kind) (f : φ) (value : (kind f).Value) :
    given.set f value = Function.update given f (some value) := by
  funext g
  by_cases same : f = g
  · subst same
    rw [set_self, Function.update_self]
  · rw [set_of_ne given same, Function.update_of_ne (Ne.symm same)]

end Set

/-- Fields that fit. -/
def Fit (levels : Nat) (given : Given kind) : Prop :=
  ∀ f value, given f = some value → (kind f).Fits levels value

theorem none_fit (levels : Nat) : (none : Given kind).Fit levels := by
  rintro f value ⟨⟩

theorem Fit.set [DecidableEq φ] {levels : Nat} {given : Given kind} (h : given.Fit levels) {f : φ}
    {value : (kind f).Value} (fits : (kind f).Fits levels value) :
    (given.set f value).Fit levels := by
  intro g w hw
  by_cases same : f = g
  · subst same
    rw [set_self] at hw
    cases hw
    exact fits
  · rw [set_of_ne given same] at hw
    exact h g w hw

end Given

end IssueIntake.Json
