import IssueIntake.Calendar.Relaxed
import IssueIntake.Calendar.Strict
import IssueIntake.Proofs.Calendar.Order
import IssueIntake.Proofs.Calendar.Scan
/-!
# Instants are read back as they are written

The short form, in which issues and events are written, is read back by the relaxed reader for
every instant (`parseRelaxed_short`). The stored form is read back by the strict reader for the
years that have four digits (`parseStrict_stored`), and for no others
(`parseStrict_stored_of_signed`).
-/

namespace IssueIntake.Instant

open Scan Text

theorem isBlank_of_isDigit {c : Char} (h : c.isDigit = true) : isBlank c = false := by
  have := Decimal.toNat_of_isDigit h
  unfold isBlank
  simp
  omega

/-- What is written of an instant after its date. -/
def timeChars (f : Format) (t : Instant) : List Char :=
  'T' :: (Decimal.fixed 2 t.hour ++ ':' :: (Decimal.fixed 2 t.minute ++
    ':' :: (Decimal.fixed 2 (writtenSecond t) ++
      (fractionText f.allNano (writtenNano t) ++ f.zone.toList))))

theorem chars_eq (f : Format) (t : Instant) :
    t.chars f = yearText t.date.year ++ '-' :: (Decimal.fixed 2 t.date.month ++
      '-' :: (Decimal.fixed 2 t.date.day ++ timeChars f t)) := by
  simp only [chars, timeChars, writtenSecond, writtenNano]
  by_cases leap : 1000000000 ≤ t.nano <;> simp [leap]

/-! ## The short form -/

theorem dropBlank_fixed {width n : Nat} (h : 0 < width) (rest : List Char) :
    dropBlank (Decimal.fixed width n ++ rest) = Decimal.fixed width n ++ rest := by
  have length := Decimal.length_fixed width n
  cases hd : Decimal.fixed width n with
  | nil =>
    rw [hd, List.length_nil] at length
    omega
  | cons c cs =>
    have first : c ∈ Decimal.fixed width n := by
      rw [hd]
      exact List.mem_cons_self
    simp [dropBlank, isBlank_of_isDigit (Decimal.isDigit_of_mem_fixed first)]

theorem part_fixed {low high n : Nat} (h : low ≤ n ∧ n ≤ high) (small : n < 100)
    (rest : List Char) : part low high (Decimal.fixed 2 n ++ rest) = .ok (n, rest) := by
  have read : number 2 (Decimal.fixed 2 n ++ rest) = .ok (n, rest) :=
    number_fixed small (by omega) (.inl rfl)
  simp only [part, dropBlank_fixed (show 0 < 2 by omega), read, bind, Except.bind, if_pos h]
  rfl

theorem spaced_cons {c : Char} (h : isBlank c = false) (rest : List Char) :
    spaced c (c :: rest) = .ok rest := by
  simp [spaced, literal, dropBlank, h]

theorem literal_cons (c : Char) (rest : List Char) : literal c (c :: rest) = .ok rest := by
  simp [literal]

theorem separator_cons (rest : List Char) : separator ('T' :: rest) = .ok rest :=
  rfl

/-- A year with a sign is read from behind the sign on. -/
theorem number_padded {year : Int} (small : -262143 ≤ year ∧ year ≤ 262142) (rest : List Char) :
    number (Decimal.padded 4 year.natAbs ++ '-' :: rest).length
      (Decimal.padded 4 year.natAbs ++ '-' :: rest) = .ok (year.natAbs, '-' :: rest) := by
  have value := Decimal.value_padded 4 year.natAbs
  have short : (Decimal.padded 4 year.natAbs).length ≤
      (Decimal.padded 4 year.natAbs ++ '-' :: rest).length := by simp
  rw [number_append (fun c h => Decimal.isDigit_of_mem_padded h) (Decimal.padded_ne_nil _ _)
    (by omega) (.inr ⟨short, .of_cons rest (by decide)⟩), value]

/-- A year that instants reach is read back, with a sign or without one. -/
theorem year_yearText {year : Int} (small : -262143 ≤ year ∧ year ≤ 262142) (rest : List Char) :
    Scan.year (yearText year ++ '-' :: rest) = .ok (year, '-' :: rest) := by
  have range : -2147483648 ≤ year ∧ year ≤ 2147483647 := by omega
  unfold yearText
  split
  · next four =>
    have read : number 4 (Decimal.fixed 4 year.toNat ++ '-' :: rest) =
        .ok (year.toNat, '-' :: rest) := number_fixed (by omega) (by omega) (.inl rfl)
    have first : ∀ c cs, Decimal.fixed 4 year.toNat ++ '-' :: rest = c :: cs →
        c.isDigit = true := by
      intro c cs h
      have length := Decimal.length_fixed 4 year.toNat
      cases hd : Decimal.fixed 4 year.toNat with
      | nil => simp [hd] at length
      | cons d ds =>
        rw [hd] at h
        cases h
        exact Decimal.isDigit_of_mem_fixed (hd ▸ List.mem_cons_self)
    unfold Scan.year
    rw [dropBlank_fixed (by omega)]
    split
    · next h => exact absurd (first _ _ h) (by decide)
    · next h => exact absurd (first _ _ h) (by decide)
    · have back : (year.toNat : Int) = year := by omega
      simp only [read, Except.map, bind, Except.bind, back, if_pos range]
      rfl
  · by_cases negative : year < 0
    · have back : -(year.natAbs : Int) = year := by omega
      have drop : dropBlank ('-' :: (Decimal.padded 4 year.natAbs ++ '-' :: rest)) =
          '-' :: (Decimal.padded 4 year.natAbs ++ '-' :: rest) := rfl
      rw [if_pos negative, List.cons_append, Scan.year, drop]
      simp only [number_padded small, Except.map, bind, Except.bind, back, if_pos range]
      rfl
    · have back : (year.natAbs : Int) = year := by omega
      have drop : dropBlank ('+' :: (Decimal.padded 4 year.natAbs ++ '-' :: rest)) =
          '+' :: (Decimal.padded 4 year.natAbs ++ '-' :: rest) := rfl
      rw [if_neg negative, List.cons_append, Scan.year, drop]
      simp only [number_padded small, Except.map, bind, Except.bind, back, if_pos range]
      rfl

/-- The relaxed reader reads every instant back from its short form. -/
theorem parseRelaxed_short (t : Instant) : parseRelaxed (t.text .short) = .ok t := by
  have month := t.date.month_mem
  have day : 1 ≤ t.date.day ∧ t.date.day ≤ 31 :=
    ⟨t.date.day_mem.1, Nat.le_trans t.date.day_mem.2 (Calendar.daysIn_le _ _)⟩
  have hour := t.hour_lt
  have minute := t.minute_lt
  have second := writtenSecond_le t
  have dash : isBlank '-' = false := by decide
  have colon : isBlank ':' = false := by decide
  have fraction := optionalFraction_fractionText Format.short.allNano (writtenNano_lt t) []
  rw [parseRelaxed, text, String.toList_ofList, chars_eq, readRelaxed]
  simp only [bind, Except.bind, year_yearText t.date.year_mem, spaced_cons dash, spaced_cons colon,
    timeChars, separator_cons, part_fixed month (by omega), part_fixed day (by omega),
    part_fixed (show 0 ≤ t.hour ∧ t.hour ≤ 23 by omega) (by omega),
    part_fixed (show 0 ≤ t.minute ∧ t.minute ≤ 59 by omega) (by omega),
    part_fixed (show 0 ≤ writtenSecond t ∧ writtenSecond t ≤ 60 by omega) (by omega),
    show Format.short.zone.toList = ['Z'] from rfl, fraction,
    show looseZone (dropBlank ['Z']) = .ok (0, []) from rfl, show dropBlank [] = [] from rfl,
    ne_eq, not_true_eq_false, if_false, Date.ofParts?_self, Option.bind_some, local?_written,
    toUtc_zero]

/-! ## The stored form -/

theorem digit_digitChar {d : Nat} (h : d < 10) (rest : List Char) :
    digit (Nat.digitChar d :: rest) = .ok (d, rest) := by
  have isDigit : (Nat.digitChar d).isDigit = true := by
    rw [Nat.isDigit_digitChar]
    exact decide_eq_true h
  rw [digit, if_pos isDigit, Decimal.digitValue_digitChar h]

/-- Two digits are those of the number below a hundred, whatever stands above. -/
theorem twoDigits_fixed (n : Nat) (rest : List Char) :
    twoDigits (Decimal.fixed 2 n ++ rest) = .ok (n % 100, rest) := by
  have digits : Decimal.fixed 2 n ++ rest =
      Nat.digitChar (n / 10 % 10) :: Nat.digitChar (n % 10) :: rest := rfl
  have whole : 10 * (n / 10 % 10) + n % 10 = n % 100 := by omega
  simp only [digits, twoDigits, bind, Except.bind, digit_digitChar (Nat.mod_lt _ (by omega)),
    whole]
  rfl

theorem fourDigits_fixed {n : Nat} (small : n < 10000) (rest : List Char) :
    fourDigits (Decimal.fixed 4 n ++ rest) = .ok (n, rest) := by
  have digits : Decimal.fixed 4 n ++ rest =
      Decimal.fixed 2 (n / 10 / 10) ++ (Decimal.fixed 2 n ++ rest) := rfl
  have whole : 100 * (n / 10 / 10 % 100) + n % 100 = n := by omega
  simp only [digits, fourDigits, bind, Except.bind, twoDigits_fixed, whole]
  rfl

theorem length_le_utf8ByteSize (cs : List Char) : cs.length ≤ (String.ofList cs).utf8ByteSize := by
  induction cs with
  | nil => exact Nat.zero_le _
  | cons c cs ih =>
    have some := Char.utf8Size_pos c
    rw [String.ofList_cons, String.utf8ByteSize_append, String.utf8ByteSize_singleton]
    rw [List.length_cons]
    omega

/-- The stored form is never too short for the strict reader. -/
theorem not_short_stored (t : Instant) :
    ¬ (String.ofList (t.chars .stored)).utf8ByteSize < 19 := by
  have long : 19 ≤ (t.chars .stored).length := by
    simp [chars_eq, timeChars, Format.stored, fractionText, Decimal.length_fixed]
  exact Nat.not_lt.2 (Nat.le_trans long (length_le_utf8ByteSize _))

/-- The strict reader reads an instant back from its stored form, if its year has four digits. -/
theorem parseStrict_stored {t : Instant} (four : 0 ≤ t.date.year ∧ t.date.year ≤ 9999) :
    parseStrict (t.text .stored) = .ok t := by
  have month := t.date.month_mem
  have day := Nat.le_trans t.date.day_mem.2 (Calendar.daysIn_le _ _)
  have hour := t.hour_lt
  have minute := t.minute_lt
  have second := writtenSecond_le t
  have fraction := optionalFraction_fractionText Format.stored.allNano (writtenNano_lt t) []
  have year : (t.date.year.toNat : Int) = t.date.year := by omega
  rw [parseStrict, text, String.toList_ofList, readStrict, if_neg t.not_short_stored, chars_eq,
    yearText, if_pos four]
  simp only [bind, Except.bind, fourDigits_fixed (show t.date.year.toNat < 10000 by omega),
    literal_cons, separator_cons, twoDigits_fixed, timeChars, year,
    Nat.mod_eq_of_lt (show t.date.month < 100 by omega),
    Nat.mod_eq_of_lt (show t.date.day < 100 by omega),
    Nat.mod_eq_of_lt (show t.hour < 100 by omega),
    Nat.mod_eq_of_lt (show t.minute < 100 by omega),
    Nat.mod_eq_of_lt (show writtenSecond t < 100 by omega), Date.ofParts?_self,
    show Format.stored.zone.toList = ['Z'] from rfl, fraction, local?_written,
    show zone (literal ':') ['Z'] = .ok (0, []) from rfl, ne_eq, not_true_eq_false, if_false,
    toUtc_zero]

/-- The strict reader does not read an instant back whose year has a sign: it wants a digit
there. -/
theorem parseStrict_stored_of_signed {t : Instant}
    (signed : ¬ (0 ≤ t.date.year ∧ t.date.year ≤ 9999)) :
    parseStrict (t.text .stored) = .error .invalid := by
  rw [parseStrict, text, String.toList_ofList, readStrict, if_neg t.not_short_stored, chars_eq,
    yearText, if_neg signed]
  by_cases negative : t.date.year < 0
  · rw [if_pos negative]
    rfl
  · rw [if_neg negative]
    rfl

end IssueIntake.Instant
