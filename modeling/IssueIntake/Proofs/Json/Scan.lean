import IssueIntake.Json.Printer
import IssueIntake.Json.Scan
import IssueIntake.Proofs.Decimal.Digits
/-!
# The scanners read what is written

A text in quotes is read back whatever it contains (`readText_quote`), and so is a whole number
that fits 64 bits, if what follows it does not carry it on (`readNumber_toDigits`).
-/

namespace IssueIntake.Json

/-! ## Texts -/

theorem hexValue?_digitChar {d : Nat} (h : d < 16) : hexValue? (Nat.digitChar d) = some d := by
  have all : ∀ d < 16, hexValue? (Nat.digitChar d) = some d := by decide
  exact all d h

/-- The escape of a control character by its number. -/
theorem numberedEscape_control {c : Char} (h : c.toNat < 32) (rest : List Char) :
    numberedEscape ('0' :: '0' :: Nat.digitChar (c.toNat / 16) ::
      Nat.digitChar (c.toNat % 16) :: rest) = .ok (c, rest) := by
  have zero : hexValue? '0' = some 0 := hexValue?_digitChar (d := 0) (by omega)
  have whole : ((0 * 16 + 0) * 16 + c.toNat / 16) * 16 + c.toNat % 16 = c.toNat := by omega
  have four : hexFour ('0' :: '0' :: Nat.digitChar (c.toNat / 16) ::
      Nat.digitChar (c.toNat % 16) :: rest) = .ok (c.toNat, rest) := by
    simp only [hexFour, zero, hexValue?_digitChar (show c.toNat / 16 < 16 by omega),
      hexValue?_digitChar (show c.toNat % 16 < 16 by omega), whole]
  have low : isLow c.toNat = false := by
    simp only [isLow, Bool.and_eq_false_iff, decide_eq_false_iff_not]
    omega
  have high : isHigh c.toNat = false := by
    simp only [isHigh, Bool.and_eq_false_iff, decide_eq_false_iff_not]
    omega
  simp only [numberedEscape, four, bind, Except.bind, low, high, Bool.false_eq_true, if_false,
    Bool.not_false, if_true, Char.ofNat_toNat]
  rfl

/-- The loop takes one written character in one step. -/
theorem textLoop_escape (fuel : Nat) (before : List Char) (c : Char) (rest : List Char) :
    textLoop (fuel + 1) before (escape c ++ rest) = textLoop fuel (c :: before) rest := by
  unfold escape
  split
  · next h => subst h; rfl
  split
  · next h => subst h; rfl
  split
  · next h => subst h; rfl
  split
  · next h => subst h; rfl
  split
  · next h => subst h; rfl
  split
  · next h => subst h; rfl
  split
  · next h => subst h; rfl
  split
  · next h =>
    have step : escaped ('u' :: '0' :: '0' :: Nat.digitChar (c.toNat / 16) ::
        Nat.digitChar (c.toNat % 16) :: rest) = .ok (c, rest) := by
      simp only [escaped, if_true]
      exact numberedEscape_control h rest
    simp only [List.cons_append, List.nil_append, textLoop, step, bind, Except.bind]
    rfl
  · next quote backslash _ _ _ _ _ control =>
    simp only [List.cons_append, List.nil_append, textLoop, if_neg quote, if_neg backslash,
      if_neg control]

theorem escape_ne_nil (c : Char) : escape c ≠ [] := by
  unfold escape
  repeat' split
  all_goals simp

theorem textLoop_flatMap {fuel : Nat} (before cs rest : List Char) (h : cs.length < fuel) :
    textLoop fuel before (cs.flatMap escape ++ '\x22' :: rest) =
      .ok (String.ofList (before.reverse ++ cs), rest) := by
  induction cs generalizing fuel before with
  | nil =>
    obtain ⟨fuel, rfl⟩ := Nat.exists_eq_add_one.2 h
    simp [textLoop]
  | cons c cs ih =>
    obtain ⟨fuel, rfl⟩ := Nat.exists_eq_add_one.2 (Nat.zero_lt_of_lt h)
    rw [List.flatMap_cons, List.append_assoc, textLoop_escape,
      ih (c :: before) (by simpa using h)]
    simp

theorem length_le_flatMap_escape (cs : List Char) : cs.length ≤ (cs.flatMap escape).length := by
  induction cs with
  | nil => simp
  | cons c cs ih =>
    have := List.length_pos_iff.2 (escape_ne_nil c)
    simp only [List.flatMap_cons, List.length_append, List.length_cons]
    omega

/-- A text that is written in quotes is read, from behind the first quote on. -/
theorem readText_quote (s : String) (rest : List Char) :
    readText (s.toList.flatMap escape ++ '\x22' :: rest) = .ok (s, rest) := by
  have fuel : s.toList.length <
      (s.toList.flatMap escape ++ '\x22' :: rest).length + 1 := by
    have := length_le_flatMap_escape s.toList
    simp only [List.length_append, List.length_cons]
    omega
  rw [readText, textLoop_flatMap [] s.toList rest fuel]
  simp

/-! ## Whole numbers -/

theorem ne_of_isDigit {c d : Char} (h : c.isDigit = true) (hd : d.isDigit = false) : c ≠ d := by
  rintro rfl
  rw [h] at hd
  cases hd

theorem isGap_of_isDigit {c : Char} (h : c.isDigit = true) : isGap c = false := by
  simp [isGap, ne_of_isDigit h]

/-- What does not carry a number on. -/
def EndsNumber (cs : List Char) : Prop :=
  ∀ c ∈ cs.head?, c.isDigit = false ∧ c ≠ '.' ∧ c ≠ 'e' ∧ c ≠ 'E'

theorem endsNumber_nil : EndsNumber [] := by
  intro c h
  cases h

theorem EndsNumber.of_cons {c : Char} (cs : List Char)
    (h : c.isDigit = false ∧ c ≠ '.' ∧ c ≠ 'e' ∧ c ≠ 'E') : EndsNumber (c :: cs) := by
  intro d hd
  cases hd
  exact h

theorem takeDigits_append {n : Nat} {ds rest : List Char} (digits : ∀ c ∈ ds, c.isDigit = true)
    (fits : ds.foldl (fun n c => 10 * n + Decimal.digitValue c) n ≤ maxSignificand)
    (ends : EndsNumber rest) :
    takeDigits n (ds ++ rest) =
      (ds.foldl (fun n c => 10 * n + Decimal.digitValue c) n, rest) := by
  have grows : ∀ (ds : List Char) (n : Nat),
      n ≤ ds.foldl (fun n c => 10 * n + Decimal.digitValue c) n := by
    intro ds
    induction ds with
    | nil => simp
    | cons c ds ih =>
      intro n
      have := ih (10 * n + Decimal.digitValue c)
      simp only [List.foldl_cons]
      omega
  induction ds generalizing n with
  | nil =>
    cases rest with
    | nil => rfl
    | cons c rest => simp [takeDigits, (ends c rfl).1]
  | cons c ds ih =>
    simp only [List.foldl_cons] at fits
    have here : 10 * n + Decimal.digitValue c ≤ maxSignificand := Nat.le_trans (grows ds _) fits
    simp only [List.cons_append, takeDigits, digits c List.mem_cons_self, Bool.true_and,
      decide_eq_true here, if_true, List.foldl_cons]
    exact ih (fun d hd => digits d (List.mem_cons_of_mem _ hd)) fits

theorem afterWhole_of_ends {negative : Bool} {n : Nat} {rest : List Char}
    (ends : EndsNumber rest) :
    afterWhole negative n rest = .ok (wholeNumber negative n, rest) := by
  cases rest with
  | nil => rfl
  | cons c rest =>
    obtain ⟨-, dot, small, large⟩ := ends c rfl
    unfold afterWhole
    split <;> simp_all

/-- The digits of a number that fits 64 bits are read as that number. -/
theorem readNumber_toDigits {negative : Bool} {n : Nat} (fits : n ≤ maxSignificand)
    {rest : List Char} (ends : EndsNumber rest) :
    readNumber negative (Nat.toDigits 10 n ++ rest) = .ok (wholeNumber negative n, rest) := by
  rcases Nat.eq_zero_or_pos n with rfl | positive
  · rw [Nat.toDigits_zero]
    cases rest with
    | nil => rfl
    | cons c rest =>
      simp only [List.cons_append, List.nil_append, readNumber]
      rw [if_neg (by decide), if_pos trivial, (ends c rfl).1, if_neg Bool.false_ne_true]
      exact afterWhole_of_ends ends
  · obtain ⟨c, ds, hd, nonzero⟩ := Decimal.toDigits_eq_cons positive
    have digits : ∀ d ∈ c :: ds, d.isDigit = true := by
      intro d h
      exact Decimal.isDigit_of_mem_toDigits (n := n) (hd ▸ h)
    have spelled : ds.foldl (fun n c => 10 * n + Decimal.digitValue c) (Decimal.digitValue c) =
        n := by
      have := Decimal.value_toDigits n
      rw [hd] at this
      simpa [Decimal.value] using this
    have taken : takeDigits (Decimal.digitValue c) (ds ++ rest) = _ :=
      takeDigits_append (fun d h => digits d (List.mem_cons_of_mem _ h)) (by rwa [spelled]) ends
    rw [spelled] at taken
    simp only [hd, List.cons_append, readNumber, digits c List.mem_cons_self, Bool.not_true,
      if_neg Bool.false_ne_true, if_neg nonzero, taken]
    cases rest with
    | nil => rfl
    | cons d rest =>
      simp only [(ends d rfl).1, if_neg Bool.false_ne_true]
      exact afterWhole_of_ends ends

end IssueIntake.Json
