import IssueIntake.Calendar.Printer
import IssueIntake.Calendar.Scan
import IssueIntake.Proofs.Decimal.Digits
/-!
# Scanning what is written of an instant

The parts that both readers of instants share read back what the printer writes: numbers
(`number_append`), fractions of a second (`optionalFraction_fractionText`), the time of day with
its leap seconds (`local?_written`) and the zone, which is UTC (`toUtc_zero`).
-/

namespace IssueIntake.Instant

/-- What does not carry digits on. -/
def EndsDigits (cs : List Char) : Prop :=
  ∀ c ∈ cs.head?, c.isDigit = false

theorem EndsDigits.of_cons {c : Char} (cs : List Char) (h : c.isDigit = false) :
    EndsDigits (c :: cs) := by
  intro d hd
  cases hd
  exact h

theorem takeWhile_digits {ds rest : List Char} (digits : ∀ c ∈ ds, c.isDigit = true)
    (ends : EndsDigits rest) : (ds ++ rest).takeWhile Char.isDigit = ds := by
  rw [List.takeWhile_append_of_pos digits]
  cases rest with
  | nil => simp
  | cons c rest => simp [ends c rfl]

theorem dropWhile_digits {cs : List Char} (ends : EndsDigits cs) :
    cs.dropWhile Char.isDigit = cs := by
  cases cs with
  | nil => rfl
  | cons c rest => simp [ends c rfl]

namespace Scan

/-- Digits are read as the number that they spell, if they end there or are as many as are looked
at. -/
theorem number_append {limit : Nat} {ds rest : List Char} (digits : ∀ c ∈ ds, c.isDigit = true)
    (some : ds ≠ []) (fits : Decimal.value ds ≤ 9223372036854775807)
    (ends : ds.length = limit ∨ ds.length ≤ limit ∧ EndsDigits rest) :
    number limit (ds ++ rest) = .ok (Decimal.value ds, rest) := by
  have taken : ((ds ++ rest).take limit).takeWhile Char.isDigit = ds := by
    rcases ends with rfl | ⟨short, ends⟩
    · rw [List.take_left]
      have nothing : EndsDigits [] := fun c h => by cases h
      simpa using takeWhile_digits digits nothing
    · rw [List.take_append, List.take_of_length_le short]
      refine takeWhile_digits digits ?_
      intro c hc
      cases rest with
      | nil => simp at hc
      | cons d rest =>
        rcases hn : limit - ds.length with _ | n <;> rw [hn] at hc
        · simp at hc
        · exact ends c hc
  have nonempty : (ds ++ rest).isEmpty = false := by simp [some]
  simp only [number, taken, nonempty, Bool.false_eq_true, if_false, List.isEmpty_iff, some,
    if_pos fits, List.drop_left]

/-- A fixed count of digits is read, if that many are looked at or they end there. -/
theorem number_fixed {limit width n : Nat} {rest : List Char} (small : n < 10 ^ width)
    (wide : 0 < width ∧ width ≤ 9) (ends : width = limit ∨ width ≤ limit ∧ EndsDigits rest) :
    number limit (Decimal.fixed width n ++ rest) = .ok (n, rest) := by
  have value := Decimal.value_fixed_of_lt small
  have length := Decimal.length_fixed width n
  have nine : 10 ^ width ≤ 10 ^ 9 := Nat.pow_le_pow_right (by omega) wide.2
  have nonempty : Decimal.fixed width n ≠ [] := by
    intro h
    rw [h, List.length_nil] at length
    omega
  rw [number_append (fun c h => Decimal.isDigit_of_mem_fixed h) nonempty (by omega)
    (by rwa [length]), value]

/-- A fraction of a second is read back. -/
theorem optionalFraction_fractionText (allNano : Bool) {nano : Nat} (h : nano < 1000000000)
    (rest : List Char) :
    optionalFraction (fractionText allNano nano ++ 'Z' :: rest) = .ok (nano, 'Z' :: rest) := by
  have ends : EndsDigits ('Z' :: rest) := .of_cons rest (by decide)
  have digits : ∀ width n, 0 < width ∧ width ≤ 9 → n < 10 ^ width → n * 10 ^ (9 - width) = nano →
      optionalFraction (('.' :: Decimal.fixed width n) ++ 'Z' :: rest) =
        .ok (nano, 'Z' :: rest) := by
    intro width n wide small whole
    have count : (Decimal.fixed width n ++ 'Z' :: rest).length - ('Z' :: rest).length = width := by
      rw [List.length_append, Decimal.length_fixed]
      omega
    have read : number 9 (Decimal.fixed width n ++ 'Z' :: rest) = .ok (n, 'Z' :: rest) :=
      number_fixed small wide (.inr ⟨wide.2, ends⟩)
    simp only [List.cons_append, optionalFraction, fraction, read, bind, Except.bind, count,
      dropWhile_digits ends]
    rw [show Nat.pow 10 (9 - width) = 10 ^ (9 - width) from rfl, whole]
    rfl
  unfold fractionText
  split
  · exact digits 9 nano (by omega) (by omega) (by omega)
  split
  · next zero => subst zero; rfl
  split
  · exact digits 3 (nano / 1000000) (by omega) (by omega) (by omega)
  split
  · exact digits 6 (nano / 1000) (by omega) (by omega) (by omega)
  · exact digits 9 nano (by omega) (by omega) (by omega)

/-! ## Instants from their parts -/

theorem ofParts?_parts (t : Instant) :
    Instant.ofParts? t.date t.hour t.minute t.second t.nano = some t := by
  obtain ⟨date, hour, minute, second, nano, h₁, h₂, h₃, h₄, h₅⟩ := t
  exact dif_pos ⟨h₁, h₂, h₃, h₄, h₅⟩

/-- The second that is written of an instant. -/
def writtenSecond (t : Instant) : Nat :=
  if 1000000000 ≤ t.nano then t.second + 1 else t.second

/-- The nanoseconds that are written of an instant. -/
def writtenNano (t : Instant) : Nat :=
  if 1000000000 ≤ t.nano then t.nano - 1000000000 else t.nano

theorem writtenSecond_le (t : Instant) : writtenSecond t ≤ 60 := by
  have := t.second_lt
  unfold writtenSecond
  split <;> omega

theorem writtenNano_lt (t : Instant) : writtenNano t < 1000000000 := by
  have := t.nano_lt
  unfold writtenNano
  split <;> omega

/-- The time of day that is written, leap seconds among them, is that of the instant. -/
theorem local?_written (t : Instant) :
    local? t.date t.hour t.minute (writtenSecond t) (writtenNano t) = some t := by
  have second := t.second_lt
  by_cases leap : 1000000000 ≤ t.nano
  · have last := t.leap_last leap
    have whole : t.nano - 1000000000 + 1000000000 = t.nano := by omega
    simp only [local?, writtenSecond, writtenNano, if_pos leap, last, if_true, whole]
    rw [← last]
    exact ofParts?_parts t
  · have notSixty : t.second ≠ 60 := by omega
    simp only [local?, writtenSecond, writtenNano, if_neg leap, if_neg notSixty]
    exact ofParts?_parts t

/-- An offset of zero changes nothing. -/
theorem toUtc_zero (t : Instant) : toUtc t 0 = .ok t := by
  have hour := t.hour_lt
  have minute := t.minute_lt
  have ofDay : ((t.hour * 60 + t.minute + -0 : Int) % 1440).toNat = t.hour * 60 + t.minute := by
    omega
  have later : t.minutesLater? (-0) = some t := by
    have notBefore : ¬ ((t.hour : Int) * 60 + t.minute + -0 < 0) := by omega
    have today : (t.hour : Int) * 60 + t.minute + -0 < 1440 := by omega
    simp only [minutesLater?, if_neg notBefore, if_pos today, Option.bind_some]
    rw [ofDay, show (t.hour * 60 + t.minute) / 60 = t.hour by omega,
      show (t.hour * 60 + t.minute) % 60 = t.minute by omega]
    exact ofParts?_parts t
  simp only [toUtc, later]
  rfl

end Scan

end IssueIntake.Instant
