import IssueIntake.Proofs.Calendar.Order
/-!
# One second later

`Instant.secondLater?` is the same fraction of the second after. Over the ends of minutes, hours,
days, months and years, leap years and leap seconds among them, one second more has then passed
since 1970 (`Instant.isSecondAfter_of_secondLater?`), so it comes after the instant. It exists
unless the instant lies in the last second of the last year (`Instant.secondLater?_eq_none_iff`).
-/

namespace IssueIntake

open Calendar

/-! ## The next date -/

namespace Date

theorem ofParts?_eq_some_iff {year : Int} {month day : Nat} {d : Date} :
    ofParts? year month day = some d ↔ d.year = year ∧ d.month = month ∧ d.day = day := by
  constructor
  · intro h
    unfold ofParts? at h
    split at h
    · cases h
      exact ⟨rfl, rfl, rfl⟩
    · cases h
  · rintro ⟨rfl, rfl, rfl⟩
    exact ofParts?_self d

theorem ofParts?_eq_none_iff (year : Int) (month day : Nat) :
    ofParts? year month day = none ↔ ¬ ((minYear ≤ year ∧ year ≤ maxYear) ∧
      (1 ≤ month ∧ month ≤ 12) ∧ (1 ≤ day ∧ day ≤ daysIn year month)) := by
  unfold ofParts?
  split <;> simp_all

theorem one_le_daysIn (year : Int) (month : Nat) : 1 ≤ daysIn year month := by
  unfold daysIn
  split
  · split <;> omega
  all_goals omega

/-- The next date is the next day of the month, or else the first day of the next month, or else
the first day of the next year. -/
theorem next?_eq (d : Date) : d.next? =
    if d.day < daysIn d.year d.month then ofParts? d.year d.month (d.day + 1)
    else if d.month < 12 then ofParts? d.year (d.month + 1) 1
    else ofParts? (d.year + 1) 1 1 := by
  have day := ofParts?_eq_none_iff d.year d.month (d.day + 1)
  have month := ofParts?_eq_none_iff d.year (d.month + 1) 1
  have orElse_of_ne : ∀ {a b : Option Date}, a ≠ none → (a.orElse fun _ => b) = a := by
    intro a b h
    cases a with
    | none => exact absurd rfl h
    | some d => rfl
  have first := one_le_daysIn d.year (d.month + 1)
  have := d.year_mem
  have := d.month_mem
  unfold next?
  split
  · refine orElse_of_ne fun none => day.1 none ?_
    omega
  · rw [day.2 (by omega)]
    split
    · refine orElse_of_ne fun none => month.1 none ?_
      omega
    · rw [month.2 (by omega)]
      rfl

/-- The next date is one day later. -/
theorem dayNumber_next? {d e : Date} (h : d.next? = some e) : e.dayNumber = d.dayNumber + 1 := by
  have months := daysBefore_succ d.year d.month_mem.1
  have inMonth := d.day_mem.2
  rw [next?_eq] at h
  rw [dayNumber_eq, dayNumber_eq]
  split at h
  · obtain ⟨year, month, day⟩ := ofParts?_eq_some_iff.1 h
    rw [year, month]
    omega
  next notInside =>
  have last : d.day = daysIn d.year d.month := by omega
  split at h
  · obtain ⟨year, month, day⟩ := ofParts?_eq_some_iff.1 h
    rw [year, month]
    omega
  next notEarlier =>
  obtain ⟨year, month, day⟩ := ofParts?_eq_some_iff.1 h
  have december : d.month = 12 := by
    have := d.month_mem
    omega
  have wholeYear : daysBefore d.year (d.month + 1) = daysOfYear d.year := by
    rw [december, daysBefore_next_year]
  have nothing : daysBefore (d.year + 1) 1 = 0 := rfl
  rw [year, month, nothing, daysBeforeYear_succ]
  omega

/-- The last date of all. -/
def IsLast (d : Date) : Prop :=
  d.year = maxYear ∧ d.month = 12 ∧ d.day = 31

/-- Only the last date has no next one. -/
theorem next?_eq_none_iff {d : Date} : d.next? = none ↔ d.IsLast := by
  have := d.year_mem
  have := d.month_mem
  have := d.day_mem
  have first := one_le_daysIn d.year (d.month + 1)
  rw [next?_eq]
  unfold IsLast
  split
  · rw [ofParts?_eq_none_iff]
    have := daysIn_le d.year d.month
    omega
  split
  · rw [ofParts?_eq_none_iff]
    omega
  · rw [ofParts?_eq_none_iff]
    have december : d.month = 12 := by omega
    have days : daysIn d.year d.month = 31 := by rw [december]; rfl
    have january : daysIn (d.year + 1) 1 = 31 := rfl
    unfold minYear maxYear at *
    omega

end Date

/-! ## The next second -/

namespace Instant

/-- An instant is one second after another one, at the same fraction of the second. -/
structure IsSecondAfter (u t : Instant) : Prop where
  seconds : u.unixSeconds = t.unixSeconds + 1
  fraction : u.nano = t.nano % 1000000000

/-- An instant lies in the last second that there is, or in the leap second after it. -/
def InLastSecond (t : Instant) : Prop :=
  t.date.IsLast ∧ t.secondOfDay = 86399

/-- The parts of a time of day are those of an instant on any date, if it is in no leap second. -/
theorem exists_ofParts? (date : Date) {hour minute second nano : Nat}
    (time : hour < 24 ∧ minute < 60 ∧ second < 60) (noLeap : nano < 1000000000) :
    ∃ u, ofParts? date hour minute second nano = some u ∧
      u.date = date ∧ u.secondOfDay = hour * 3600 + minute * 60 + second ∧ u.nano = nano := by
  obtain ⟨hours, minutes, seconds⟩ := time
  exact ⟨⟨date, hour, minute, second, nano, hours, minutes, seconds, by omega, by omega⟩,
    dif_pos ⟨hours, minutes, seconds, by omega, by omega⟩, rfl, rfl, rfl⟩

/-- The next second is one of the same date or the first of the next one. There is none if there is
no next date. -/
theorem secondLater?_cases (t : Instant) :
    (∃ u, t.secondLater? = some u ∧ u.nano = t.nano % 1000000000 ∧
      (u.date = t.date ∧ u.secondOfDay = t.secondOfDay + 1 ∨
        t.date.next? = some u.date ∧ t.secondOfDay = 86399 ∧ u.secondOfDay = 0)) ∨
    t.secondLater? = none ∧ t.date.next? = none ∧ t.secondOfDay = 86399 := by
  have hour := t.hour_lt
  have minute := t.minute_lt
  have second := t.second_lt
  have nano : (if 1000000000 ≤ t.nano then t.nano - 1000000000 else t.nano) =
      t.nano % 1000000000 := by
    have := t.nano_lt
    split <;> omega
  have fraction := Nat.mod_lt t.nano (show 0 < 1000000000 by omega)
  have whole : t.secondOfDay = t.hour * 3600 + t.minute * 60 + t.second := rfl
  unfold secondLater?
  rw [nano]
  dsimp only
  split
  · next inMinute =>
    obtain ⟨u, made, date, same, rest⟩ := exists_ofParts? t.date ⟨hour, minute, inMinute⟩ fraction
    exact .inl ⟨u, made, rest, .inl ⟨date, by omega⟩⟩
  split
  · next inHour =>
    obtain ⟨u, made, date, same, rest⟩ :=
      exists_ofParts? t.date ⟨hour, inHour, show 0 < 60 by omega⟩ fraction
    exact .inl ⟨u, made, rest, .inl ⟨date, by omega⟩⟩
  split
  · next inDay =>
    obtain ⟨u, made, date, same, rest⟩ :=
      exists_ofParts? t.date ⟨inDay, show 0 < 60 by omega, show 0 < 60 by omega⟩ fraction
    exact .inl ⟨u, made, rest, .inl ⟨date, by omega⟩⟩
  · cases next : t.date.next? with
    | none => exact .inr ⟨rfl, rfl, by omega⟩
    | some tomorrow =>
      obtain ⟨u, made, rfl, same, rest⟩ := exists_ofParts? tomorrow
        ⟨show 0 < 24 by omega, show 0 < 60 by omega, show 0 < 60 by omega⟩ fraction
      exact .inl ⟨u, made, rest, .inr ⟨rfl, by omega, same⟩⟩

/-- The next second is the next one that is counted since 1970. -/
theorem isSecondAfter_of_secondLater? {t u : Instant} (h : t.secondLater? = some u) :
    u.IsSecondAfter t := by
  rcases t.secondLater?_cases with ⟨v, some, fraction, later⟩ | ⟨none, -⟩
  · obtain rfl : v = u := Option.some.inj (some.symm.trans h)
    refine ⟨?_, fraction⟩
    rw [unixSeconds_eq, unixSeconds_eq]
    rcases later with ⟨date, second⟩ | ⟨next, last, first⟩
    · rw [date]
      omega
    · rw [Date.dayNumber_next? next]
      omega
  · rw [none] at h
    cases h

/-- Only the last second has no next one. -/
theorem secondLater?_eq_none_iff {t : Instant} : t.secondLater? = none ↔ t.InLastSecond := by
  unfold InLastSecond
  rw [← Date.next?_eq_none_iff]
  rcases t.secondLater?_cases with ⟨u, some, -, later⟩ | ⟨none, last⟩
  · rw [some]
    rcases later with ⟨-, second⟩ | ⟨next, -⟩
    · have := u.secondOfDay_lt
      constructor
      · rintro ⟨⟩
      · omega
    · rw [next]
      simp
  · exact ⟨fun _ => last, fun _ => none⟩

/-- One second later comes after the instant, and after all that does not come after that. -/
theorem IsSecondAfter.before {t u a : Instant} (h : u.IsSecondAfter t) (notAfter : ¬ t.Before a) :
    a.Before u := by
  have := h.seconds
  rw [before_iff] at notAfter ⊢
  omega

end Instant

end IssueIntake
