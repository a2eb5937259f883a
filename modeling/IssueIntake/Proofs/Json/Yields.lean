import IssueIntake.Json.Reader
import IssueIntake.Proofs.Decimal.Digits
import IssueIntake.Proofs.Json.Shape
/-!
# What the reader yields

`Yields p r` says that whatever a reader gives meets `p`, if it gives anything. A value that is read
nests no deeper than it may, and its whole numbers fit 64 bits (`readValue_yields`).
-/

namespace IssueIntake

/-- What a result holds, if it is not an error, meets a condition. -/
def Yields {ε α : Type} (p : α → Prop) (r : Except ε α) : Prop :=
  ∀ a, r = .ok a → p a

namespace Yields

variable {ε α β : Type} {p : α → Prop} {q : β → Prop}

theorem ok {a : α} (h : p a) : Yields p (.ok a : Except ε α) := by
  rintro _ ⟨⟩
  exact h

theorem error (e : ε) : Yields p (.error e) := by
  rintro _ ⟨⟩

theorem bind {r : Except ε α} {f : α → Except ε β} (h : Yields p r)
    (next : ∀ a, p a → Yields q (f a)) : Yields q (r >>= f) := by
  cases r with
  | error e => exact error e
  | ok a => exact next a (h a rfl)

/-- Where nothing needs to be known of what is read first. -/
theorem bind_any {r : Except ε α} {f : α → Except ε β} (next : ∀ a, Yields q (f a)) :
    Yields q (r >>= f) :=
  bind (p := fun _ => True) (fun _ _ => trivial) fun a _ => next a

theorem throw_bind (e : ε) (f : α → Except ε β) : Yields q ((throw e : Except ε α) >>= f) :=
  error e

theorem map {r : Except ε α} {f : α → β} (h : Yields (q ∘ f) r) : Yields q (r.map f) := by
  cases r with
  | error e => exact error e
  | ok a => exact ok (h a rfl)

theorem and {r : Except ε α} {p' : α → Prop} (h : Yields p r) (h' : Yields p' r) :
    Yields (fun a => p a ∧ p' a) r :=
  fun a ha => ⟨h a ha, h' a ha⟩

theorem mono {r : Except ε α} {p' : α → Prop} (h : Yields p r) (imp : ∀ a, p a → p' a) :
    Yields p' r :=
  fun a ha => imp a (h a ha)

/-- What every step of a fold keeps, the fold keeps. -/
theorem foldlM {step : β → α → Except ε β} {as : List α}
    (keeps : ∀ b, ∀ a ∈ as, q b → Yields q (step b a)) {b : β} (h : q b) :
    Yields q (as.foldlM step b) := by
  induction as generalizing b with
  | nil => exact ok h
  | cons a as ih =>
    rw [List.foldlM_cons]
    exact (keeps b a List.mem_cons_self h).bind fun c hc =>
      ih (fun c a' ha' => keeps c a' (List.mem_cons_of_mem _ ha')) hc

end Yields

namespace Json

/-! ## Numbers -/

theorem takeDigits_le {n : Nat} (h : n ≤ maxSignificand) (cs : List Char) :
    (takeDigits n cs).1 ≤ maxSignificand := by
  induction cs generalizing n with
  | nil => exact h
  | cons c cs ih =>
    rw [takeDigits]
    split
    · next more => exact ih (of_decide_eq_true (Bool.and_eq_true_iff.1 more).2)
    · exact h

theorem wholeNumber_fits (negative : Bool) {n : Nat} (h : n ≤ maxSignificand) :
    (wholeNumber negative n).Fits := by
  unfold maxSignificand at h
  unfold wholeNumber
  split
  · exact ⟨by omega, by omega⟩
  · split
    · trivial
    · next small =>
      simp only [Bool.or_eq_true, decide_eq_true_eq, not_or] at small
      exact ⟨by omega, by omega⟩

/-- What is read of a number with a fraction or an exponent, and what is left. -/
def IsDouble (r : Number × List Char) : Prop :=
  ∃ x, r.1 = .double x

theorem doubleOf_yields (negative : Bool) (significand : Nat) (e : Int) :
    Yields (fun n => ∃ x, n = .double x) (doubleOf negative significand e) := by
  unfold doubleOf
  split
  · exact .ok ⟨_, rfl⟩
  · exact .error _

theorem withExponent_yields (negative : Bool) (significand : Nat) (e : Int) (cs : List Char) :
    Yields IsDouble (withExponent negative significand e cs) := by
  unfold withExponent
  split
  all_goals
    dsimp only
    split
    · exact .throw_bind _ _
    split
    · exact (doubleOf_yields _ _ _).bind fun _ h => .ok h
    split
    · exact .error _
    · exact .ok ⟨_, rfl⟩

theorem afterDigits_yields (negative : Bool) (significand : Nat) (e : Int) (cs : List Char) :
    Yields IsDouble (afterDigits negative significand e cs) := by
  unfold afterDigits
  split
  · exact withExponent_yields _ _ _ _
  · exact withExponent_yields _ _ _ _
  · exact (doubleOf_yields _ _ _).bind fun _ h => .ok h

theorem withFraction_yields (negative : Bool) (significand : Nat) (e : Int) (cs : List Char) :
    Yields IsDouble (withFraction negative significand e cs) := by
  unfold withFraction
  split
  · exact .error _
  · exact afterDigits_yields _ _ _ _

theorem longNumber_yields (negative : Bool) (significand : Nat) (cs : List Char) :
    Yields IsDouble (longNumber negative significand cs) := by
  unfold longNumber
  dsimp only
  split
  · exact withFraction_yields _ _ _ _
  · exact afterDigits_yields _ _ _ _

theorem IsDouble.fits {r : Number × List Char} (h : IsDouble r) : r.1.Fits := by
  obtain ⟨x, hx⟩ := h
  rw [hx]
  trivial

theorem afterWhole_yields (negative : Bool) {n : Nat} (h : n ≤ maxSignificand) (cs : List Char) :
    Yields (fun r => r.1.Fits) (afterWhole negative n cs) := by
  unfold afterWhole
  split
  · exact (withFraction_yields _ _ _ _).mono fun _ => IsDouble.fits
  · exact (withExponent_yields _ _ _ _).mono fun _ => IsDouble.fits
  · exact (withExponent_yields _ _ _ _).mono fun _ => IsDouble.fits
  · exact .ok (wholeNumber_fits negative h)

/-- A whole number that is read fits 64 bits. -/
theorem readNumber_yields (negative : Bool) (cs : List Char) :
    Yields (fun r => r.1.Fits) (readNumber negative cs) := by
  have zero : 0 ≤ maxSignificand := Nat.zero_le _
  unfold readNumber
  split
  · exact .error _
  · next c rest =>
    split
    · exact .error _
    · next digit =>
      have first : Decimal.digitValue c ≤ maxSignificand :=
        Nat.le_trans (Decimal.digitValue_le (by simpa using digit)) (by decide)
      have all := takeDigits_le first rest
      split
      · split
        · split
          · exact .error _
          · exact afterWhole_yields _ zero _
        · exact afterWhole_yields _ zero _
      · dsimp only
        split
        · split
          · exact (longNumber_yields _ _ _).mono fun _ => IsDouble.fits
          · exact afterWhole_yields _ all _
        · exact afterWhole_yields _ all _

/-! ## Heads -/

/-- A head that is a whole number fits 64 bits. -/
def Head.Fits (h : Head) : Prop :=
  ∀ n, h = .number n → n.Fits

theorem readHead_yields (cs : List Char) : Yields (fun r => r.1.Fits) (readHead cs) := by
  have number : ∀ negative cs, Yields (fun r : Head × List Char => r.1.Fits)
      ((readNumber negative cs).map fun r => (Head.number r.1, r.2)) := by
    intro negative cs
    refine .map ((readNumber_yields negative cs).mono ?_)
    rintro _ h n ⟨⟩
    exact h
  have other : ∀ {α : Type} (h : α → Head × List Char) (r : Except ReadError α),
      (∀ a n, (h a).1 ≠ .number n) → Yields (fun r : Head × List Char => r.1.Fits) (r.map h) :=
    fun h r none => .map fun a _ n hn => absurd hn (none a n)
  unfold readHead
  split
  · exact .error _
  repeat' split
  · exact other _ _ (by rintro _ _ ⟨⟩)
  · exact other _ _ (by rintro _ _ ⟨⟩)
  · exact other _ _ (by rintro _ _ ⟨⟩)
  · exact number _ _
  · exact number _ _
  · exact other _ _ (by rintro _ _ ⟨⟩)
  · exact .ok (by rintro _ ⟨⟩)
  · exact .ok (by rintro _ ⟨⟩)
  · exact .error _

/-! ## Items and members -/

variable {σ : Type} {p : σ → Prop}

/-- What every item keeps, reading the items of an array keeps. -/
theorem foldItems_yields {item : σ → List Char → Except ReadError (σ × List Char)}
    (keeps : ∀ s cs, p s → Yields (fun r => p r.1) (item s cs)) (fuel : Nat) (first : Bool) {s : σ}
    (h : p s) (cs : List Char) : Yields (fun r => p r.1) (foldItems item fuel first s cs) := by
  induction fuel generalizing first s cs with
  | zero => exact .error _
  | succ fuel ih =>
    refine .bind_any fun next => ?_
    cases next with
    | done rest => exact .ok h
    | more cs => exact (keeps s cs h).bind fun r hr => ih false hr r.2

/-- What every member keeps, reading the members of an object keeps. -/
theorem foldMembers_yields
    {member : σ → String → List Char → Except ReadError (σ × List Char)}
    (keeps : ∀ s key cs, p s → Yields (fun r => p r.1) (member s key cs)) (fuel : Nat)
    (first : Bool) {s : σ} (h : p s) (cs : List Char) :
    Yields (fun r => p r.1) (foldMembers member fuel first s cs) := by
  induction fuel generalizing first s cs with
  | zero => exact .error _
  | succ fuel ih =>
    refine .bind_any fun next => ?_
    cases next with
    | done rest => exact .ok h
    | more cs =>
      exact .bind_any fun key => (keeps s key.1 key.2 h).bind fun r hr => ih false hr r.2

/-! ## Values -/

/-- A value that can be read: it nests no deeper than it may, and its whole numbers fit 64 bits. -/
structure Readable (levels : Nat) (v : Json) : Prop where
  shallow : v.levels ≤ levels
  fits : v.Numbers Number.Fits

theorem readable_array {levels : Nat} {items : List Json} :
    Readable (levels + 1) (array items) ↔ ∀ v ∈ items, Readable levels v := by
  constructor
  · intro ⟨shallow, fits⟩ v hv
    rw [Json.levels, Nat.add_le_add_iff_right] at shallow
    exact ⟨itemLevels_le_iff.1 shallow v hv, numbers_array.1 fits v hv⟩
  · intro h
    refine ⟨?_, numbers_array.2 fun v hv => (h v hv).fits⟩
    rw [Json.levels, Nat.add_le_add_iff_right]
    exact itemLevels_le_iff.2 fun v hv => (h v hv).shallow

theorem readable_object {levels : Nat} {members : List (String × Json)} :
    Readable (levels + 1) (object members) ↔ ∀ m ∈ members, Readable levels m.2 := by
  constructor
  · intro ⟨shallow, fits⟩ m hm
    rw [Json.levels, Nat.add_le_add_iff_right] at shallow
    exact ⟨memberLevels_le_iff.1 shallow m hm, numbers_object.1 fits m hm⟩
  · intro h
    refine ⟨?_, numbers_object.2 fun m hm => (h m hm).fits⟩
    rw [Json.levels, Nat.add_le_add_iff_right]
    exact memberLevels_le_iff.2 fun m hm => (h m hm).shallow

theorem finish_yields {levels : Nat} {h : Head} (fits : h.Fits) (cs : List Char) :
    Yields (fun r => r.1.Readable levels) (finish levels h cs) := by
  induction levels generalizing h cs with
  | zero =>
    cases h with
    | number n => exact .ok ⟨Nat.le_refl _, fits n rfl⟩
    | openArray => exact .error _
    | openObject => exact .error _
    | _ => exact .ok ⟨Nat.le_refl _, trivial⟩
  | succ levels ih =>
    cases h with
    | number n => exact .ok ⟨Nat.zero_le _, fits n rfl⟩
    | openArray =>
      refine .bind (p := fun r : List Json × List Char => ∀ v ∈ r.1, v.Readable levels)
        ?_ fun r hr => .ok ?_
      · -- What has been read so far is readable, one level further in.
        refine foldItems_yields
          (p := fun before : List Json => ∀ v ∈ before, v.Readable levels) ?_ _ _ ?_ _
        · intro before cs hb
          refine (readHead_yields cs).bind fun h hh => (ih hh h.2).bind fun v hv => .ok ?_
          exact List.forall_mem_cons.2 ⟨hv, hb⟩
        · simp
      · exact readable_array.2 fun v hv => hr v (List.mem_reverse.1 hv)
    | openObject =>
      refine .bind
        (p := fun r : List (String × Json) × List Char => ∀ m ∈ r.1, m.2.Readable levels)
        ?_ fun r hr => .ok ?_
      · refine foldMembers_yields
          (p := fun before : List (String × Json) => ∀ m ∈ before, m.2.Readable levels) ?_ _ _ ?_ _
        · intro before key cs hb
          refine .bind_any fun cs => (readHead_yields cs).bind fun h hh =>
            (ih hh h.2).bind fun v hv => .ok ?_
          exact List.forall_mem_cons.2 ⟨hv, hb⟩
        · simp
      · exact readable_object.2 fun m hm => hr m (List.mem_reverse.1 hm)
    | _ => exact .ok ⟨Nat.zero_le _, trivial⟩

/-- A value that is read has the head that was read first. -/
theorem finish_head (levels : Nat) (h : Head) (cs : List Char) :
    Yields (fun r => r.1.head = h) (finish levels h cs) := by
  cases levels with
  | zero =>
    cases h with
    | openArray => exact .error _
    | openObject => exact .error _
    | _ => exact .ok rfl
  | succ levels =>
    cases h with
    | openArray => exact .bind_any fun _ => .ok rfl
    | openObject => exact .bind_any fun _ => .ok rfl
    | _ => exact .ok rfl

/-- A value that is read nests no deeper than it may, and its whole numbers fit 64 bits. -/
theorem readValue_yields (levels : Nat) (cs : List Char) :
    Yields (fun r => r.1.Readable levels) (readValue levels cs) :=
  (readHead_yields cs).bind fun h hh => finish_yields hh h.2

end Json

end IssueIntake
