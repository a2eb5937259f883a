import Mathlib.Algebra.Group.Nat.Defs
import IssueIntake.Decimal.Digits
/-!
# Digits spell the number that they are made from

`Decimal.value` is the way back from the digits of a number, be they as many as it needs
(`value_toDigits`), at least so many (`value_padded`) or a fixed count of them (`value_fixed`).
-/

namespace IssueIntake.Decimal

theorem digitValue_digitChar {d : Nat} (h : d < 10) : digitValue (Nat.digitChar d) = d := by
  have all : ∀ d < 10, digitValue (Nat.digitChar d) = d := by decide
  exact all d h

theorem toNat_of_isDigit {c : Char} (h : c.isDigit = true) : 48 ≤ c.toNat ∧ c.toNat ≤ 57 := by
  simp only [Char.isDigit, Bool.and_eq_true, decide_eq_true_eq, ge_iff_le,
    UInt32.le_iff_toNat_le] at h
  exact h

theorem digitValue_le {c : Char} (h : c.isDigit = true) : digitValue c ≤ 9 := by
  have := toNat_of_isDigit h
  unfold digitValue
  omega

theorem value_append (ds es : List Char) : value (ds ++ es) = es.foldl
    (fun n c => 10 * n + digitValue c) (value ds) := by
  simp [value]

theorem value_concat (ds : List Char) (c : Char) :
    value (ds ++ [c]) = 10 * value ds + digitValue c := by
  rw [value_append]
  rfl

/-! ## As many digits as the number needs -/

theorem isDigit_of_mem_toDigits {n : Nat} {c : Char} (h : c ∈ Nat.toDigits 10 n) :
    c.isDigit = true :=
  Nat.isDigit_of_mem_toDigits (by omega) (by omega) h

theorem value_toDigits (n : Nat) : value (Nat.toDigits 10 n) = n := by
  have h := Nat.ofDigitChars_ten_toDigits (n := n)
  rwa [Nat.ofDigitChars_eq_foldl] at h

/-- Nothing but digits is in the text of a number. -/
theorem not_mem_toString {c : Char} (other : c.isDigit = false) (n : Nat) :
    c ∉ (toString n).toList := by
  rw [Nat.toString_eq_ofList_toDigits, String.toList_ofList]
  intro there
  rw [isDigit_of_mem_toDigits there] at other
  cases other

/-- Different numbers have different texts. -/
theorem toString_injective : Function.Injective (toString : Nat → String) := by
  intro m n same
  rw [Nat.toString_eq_ofList_toDigits, Nat.toString_eq_ofList_toDigits] at same
  rw [← value_toDigits m, String.ofList_injective same, value_toDigits]

/-- Different integers have different texts: only those below zero have a dash. -/
theorem toString_int_injective : Function.Injective (toString : Int → String) := by
  have dash : ∀ m n : Nat, toString m ≠ "-" ++ toString n := by
    intro m n same
    refine not_mem_toString (by decide : ('-' : Char).isDigit = false) m ?_
    rw [same, String.toList_append]
    exact List.mem_append_left _ (by decide)
  intro a b same
  cases a with
  | ofNat m =>
    cases b with
    | ofNat n => exact congrArg Int.ofNat (toString_injective same)
    | negSucc n => exact absurd same (dash m n.succ)
  | negSucc m =>
    cases b with
    | ofNat n => exact absurd same.symm (dash n m.succ)
    | negSucc n =>
      have whole : "-" ++ toString m.succ = "-" ++ toString n.succ := same
      have digits := congrArg String.toList whole
      rw [String.toList_append, String.toList_append] at digits
      have numbers := toString_injective (String.toList_injective (List.append_cancel_left digits))
      exact congrArg Int.negSucc (Nat.succ.inj numbers)

/-- The digits of a number other than zero do not begin with one. -/
theorem toDigits_eq_cons {n : Nat} (h : 0 < n) :
    ∃ c ds, Nat.toDigits 10 n = c :: ds ∧ c ≠ '0' := by
  induction n using Nat.strongRecOn with
  | ind n ih =>
    by_cases small : n < 10
    · refine ⟨Nat.digitChar n, [], Nat.toDigits_of_lt_base small, ?_⟩
      rw [ne_eq, Nat.digitChar_eq_zero]
      omega
    · obtain ⟨c, ds, hd, hc⟩ := ih (n / 10) (by omega) (by omega)
      rw [Nat.toDigits_of_base_le (by omega) (by omega), hd]
      exact ⟨c, ds ++ [Nat.digitChar (n % 10)], rfl, hc⟩

/-! ## At least so many digits -/

theorem isDigit_of_mem_padded {width n : Nat} {c : Char} (h : c ∈ padded width n) :
    c.isDigit = true := by
  simp only [padded, List.mem_append, List.mem_replicate] at h
  rcases h with ⟨-, rfl⟩ | h
  · decide
  · exact isDigit_of_mem_toDigits h

theorem padded_ne_nil (width n : Nat) : padded width n ≠ [] := by
  simp [padded, Nat.toDigits_ne_nil]

theorem value_padded (width n : Nat) : value (padded width n) = n := by
  have zeros : ∀ k, value (List.replicate k '0') = 0 := by
    intro k
    induction k with
    | zero => rfl
    | succ k ih =>
      rw [List.replicate_succ', value_concat, ih]
      rfl
  rw [padded, value_append, zeros]
  exact value_toDigits n

/-! ## A fixed count of digits -/

theorem length_fixed (width n : Nat) : (fixed width n).length = width := by
  induction width generalizing n with
  | zero => rfl
  | succ width ih => simp [fixed, ih]

theorem isDigit_of_mem_fixed {width n : Nat} {c : Char} (h : c ∈ fixed width n) :
    c.isDigit = true := by
  induction width generalizing n with
  | zero => simp [fixed] at h
  | succ width ih =>
    simp only [fixed, List.mem_append, List.mem_singleton] at h
    rcases h with h | rfl
    · exact ih h
    · rw [Nat.isDigit_digitChar]
      exact decide_eq_true (Nat.mod_lt n (by omega))

theorem value_fixed (width n : Nat) : value (fixed width n) = n % 10 ^ width := by
  induction width generalizing n with
  | zero =>
    rw [Nat.pow_zero, Nat.mod_one]
    rfl
  | succ width ih =>
    rw [fixed, value_concat, ih, digitValue_digitChar (Nat.mod_lt n (by omega)), Nat.pow_succ,
      Nat.mul_comm (10 ^ width), Nat.mod_mul]
    omega

/-- Digits that are as many as the number has spell the number. -/
theorem value_fixed_of_lt {width n : Nat} (h : n < 10 ^ width) : value (fixed width n) = n := by
  rw [value_fixed, Nat.mod_eq_of_lt h]

end IssueIntake.Decimal
