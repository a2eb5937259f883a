import IssueIntake.Json.Kind
import IssueIntake.Proofs.Calendar.RoundTrip
import IssueIntake.Proofs.Json.Normal
import IssueIntake.Proofs.Json.RoundTrip
import IssueIntake.Proofs.Json.Yields
/-!
# Fields are read back as they are written

`Kind.Fits` is what holds of every value of a field that is read (`readField_yields`). A value that
fits is the one that is read from its JSON (`ofJson_toJson?`), and from the text of it
(`readField_chars`).
-/

namespace IssueIntake.Json

theorem Readable.normalize {levels : Nat} {v : Json} (h : v.Readable levels) :
    v.normalize.Readable levels :=
  ⟨Nat.le_trans (levels_normalize_le v) h.shallow, h.fits.normalize⟩

namespace Kind

/-- A value that can be read: a whole number fits its 32 bits, and a value of any form is there, in
normal form and readable. -/
def Fits (levels : Nat) : (k : Kind) → k.Value → Prop
  | int32, n => -2147483648 ≤ n ∧ n ≤ 2147483647
  | optionalAny, v => ∀ w, v = some w → w ≠ .null ∧ w.normalize = w ∧ w.Readable levels
  | _, _ => True

theorem int32Of_yields (h : Head) : Yields (Kind.int32.Fits 0) (int32Of h) := by
  unfold int32Of
  split
  · split
    · next fits => exact .ok fits
    · exact .error _
  · exact .error _

theorem finishField_yields {levels : Nat} (k : Kind) {h : Head} (fits : h.Fits) (cs : List Char) :
    Yields (fun r => k.Fits levels r.1) (k.finishField levels h cs) := by
  cases k with
  | int32 => exact .map (int32Of_yields h)
  | optionalAny =>
    have whole : ∀ {h : Head}, h ≠ .null → h.Fits → Yields
        (fun r : Option Json × List Char => Kind.optionalAny.Fits levels r.1)
        ((finish levels h cs).map fun r => (some r.1.normalize, r.2)) := by
      intro h some fits
      refine .map (((finish_yields fits cs).and (finish_head levels h cs)).mono ?_)
      rintro ⟨v, rest⟩ ⟨readable, front⟩ _ ⟨⟩
      have there : v ≠ .null := by
        rintro rfl
        exact some front.symm
      exact ⟨normalize_ne_null there, normalize_normalize v, readable.normalize⟩
    cases h with
    | null => exact .ok (by rintro _ ⟨⟩)
    | _ => exact whole (by rintro ⟨⟩) fits
  | _ => exact .map fun _ _ => trivial

theorem readField_yields (levels : Nat) (k : Kind) (cs : List Char) :
    Yields (fun r => k.Fits levels r.1) (k.readField levels cs) :=
  (readHead_yields cs).bind fun h hh => finishField_yields k hh h.2

/-- The value of a field that is taken from JSON fits, if the JSON can be read. -/
theorem ofJson_yields {levels : Nat} (k : Kind) {v : Json} (readable : v.Readable levels) :
    Yields (k.Fits levels) (k.ofJson v) := by
  cases k with
  | int32 => exact int32Of_yields v.head
  | optionalAny =>
    have some : ∀ {v : Json}, v ≠ .null → v.Readable levels →
        Yields (Kind.optionalAny.Fits levels) (.ok (some v.normalize) : Except ReadError _) := by
      intro v there readable
      refine .ok ?_
      rintro _ ⟨⟩
      exact ⟨normalize_ne_null there, normalize_normalize v, readable.normalize⟩
    cases v with
    | null => exact .ok (by rintro _ ⟨⟩)
    | _ => exact some (by rintro ⟨⟩) readable
  | _ => exact fun _ _ => trivial

/-! ## Reading what is written -/

theorem momentOf_momentJson (t : Instant) : momentOf (momentJson t).head = .ok t := by
  simp only [momentJson, head, momentOf, Instant.parseRelaxed_short]

/-- A value that can be read is read from what is written of it. -/
theorem ofJson_toJson? {levels : Nat} {k : Kind} {value : k.Value} (fits : k.Fits levels value)
    {v : Json} (written : k.toJson? value = some v) : k.ofJson v = .ok value := by
  cases k with
  | text | flag =>
    cases written
    rfl
  | optionalText =>
    obtain ⟨s, rfl, rfl⟩ := Option.map_eq_some_iff.1 written
    rfl
  | int32 =>
    cases written
    exact if_pos fits
  | moment =>
    cases written
    exact momentOf_momentJson value
  | optionalMoment =>
    obtain ⟨t, rfl, rfl⟩ := Option.map_eq_some_iff.1 written
    have read := momentOf_momentJson t
    rw [ofJson]
    rw [momentJson, head] at read ⊢
    rw [optionalOf, read]
    · rfl
    · rintro ⟨⟩
  | optionalAny =>
    obtain ⟨there, normal, -⟩ := fits v written
    rw [ofJson, normal, show value = some v from written]
    exact there

/-- A value with whole numbers only, if it is of any form. -/
def Whole : (k : Kind) → k.Value → Prop
  | optionalAny, v => ∀ w, v = some w → w.Numbers Number.IsWhole
  | _, _ => True

/-- What is written of a value has exact numbers only. -/
theorem exact_of_toJson? {levels : Nat} {k : Kind} {value : k.Value} (fits : k.Fits levels value)
    (whole : k.Whole value) {v : Json} (written : k.toJson? value = some v) : v.Exact := by
  cases k with
  | text | flag | moment =>
    cases written
    trivial
  | optionalText | optionalMoment =>
    obtain ⟨s, rfl, rfl⟩ := Option.map_eq_some_iff.1 written
    trivial
  | int32 =>
    cases written
    exact ⟨Int.le_trans (by decide) fits.1, Int.le_trans fits.2 (by decide)⟩
  | optionalAny => exact exact_of_isWhole (whole v written) (fits v written).2.2.fits

/-- Only a value of any form nests. -/
theorem levels_toJson? {k : Kind} (plain : k ≠ .optionalAny) {value : k.Value} {v : Json}
    (written : k.toJson? value = some v) : v.levels = 0 := by
  cases k with
  | text | flag | moment | int32 =>
    cases written
    rfl
  | optionalText | optionalMoment =>
    obtain ⟨s, rfl, rfl⟩ := Option.map_eq_some_iff.1 written
    rfl
  | optionalAny => exact absurd rfl plain

/-! ## Reading the text of what is written -/

/-- Fields of all kinds but one are read from the head of a value alone. -/
theorem finishField_head {k : Kind} (plain : k ≠ .optionalAny) (levels : Nat) (v : Json)
    (cs : List Char) : k.finishField levels v.head cs = (k.ofJson v).map (·, cs) := by
  cases k with
  | optionalAny => exact absurd rfl plain
  | _ => rfl

/-- A value that can be read is read from the text of what is written of it. -/
theorem readField_chars {levels : Nat} {k : Kind} {value : k.Value} (fits : k.Fits levels value)
    {v : Json} (written : k.toJson? value = some v) (exact : v.Exact) {rest : List Char}
    (ends : EndsNumber rest) : k.readField levels (v.chars ++ rest) = .ok (value, rest) := by
  have front := readHead_chars exact ends
  by_cases plain : k = .optionalAny
  · subst plain
    have some : value = some v := written
    obtain ⟨there, normal, readable⟩ := fits v some
    have finished := finish_body exact levels rest
    rw [keepWithin, if_pos readable.shallow] at finished
    have whole : Kind.optionalAny.finishField levels v.head (v.body ++ rest) =
        (finish levels v.head (v.body ++ rest)).map fun r =>
          (Option.some r.1.normalize, r.2) := by
      cases v with
      | null => exact absurd rfl there
      | _ => rfl
    simp only [readField, front, bind, Except.bind, whole, finished, Except.map, normal, some]
  · have scalar : v.body = [] := by
      have flat := levels_toJson? plain written
      cases v <;> simp_all [body, Json.levels]
    simp only [readField, front, bind, Except.bind, finishField_head plain, scalar,
      List.nil_append, ofJson_toJson? fits written]
    rfl

end Kind

end IssueIntake.Json
