import Mathlib.Logic.Function.Basic
import IssueIntake.Proofs.Json.Kind
/-!
# Reading the members of an object one by one

A reader may look at each member of an object as it comes, or the members may be taken in after the
whole object has been read. Where both come to the same for every member (`TakesMember`), they come
to the same for the object: what is read as the members come is what is taken in later
(`exists_of_foldMembers`), and the other way round (`foldMembers_of_collect`). Fields of every kind
are such members (`Kind.readField_eq_ok_iff`).
-/

namespace IssueIntake

variable {ε α β : Type}

theorem except_bind_eq_ok_iff {r : Except ε α} {f : α → Except ε β} {b : β} :
    r >>= f = .ok b ↔ ∃ a, r = .ok a ∧ f a = .ok b := by
  cases r <;> simp [bind, Except.bind]

theorem except_map_eq_ok_iff {r : Except ε α} {f : α → β} {b : β} :
    r.map f = .ok b ↔ ∃ a, r = .ok a ∧ f a = b := by
  cases r <;> simp [Except.map]

theorem except_eq_ok_of_toOption {r : Except ε α} {a : α} (h : r.toOption = some a) :
    r = .ok a := by
  cases r <;> simp_all [Except.toOption]

namespace Json

variable {levels : Nat} {cs rest : List Char}

theorem readAll_eq_ok_iff {read : List Char → Except ReadError (α × List Char)} {a : α} :
    readAll read cs = .ok a ↔ ∃ rest, read cs = .ok (a, rest) ∧ skipGap rest = [] := by
  simp only [readAll, except_bind_eq_ok_iff]
  constructor
  · rintro ⟨⟨b, rest⟩, some, last⟩
    dsimp only at last
    split at last
    · next done =>
      cases last
      exact ⟨rest, some, done⟩
    · cases last
  · rintro ⟨rest, some, done⟩
    exact ⟨(a, rest), some, if_pos done⟩

/-! ## Fields -/

/-- The head of a scalar is all there is of it. -/
theorem finish_scalar {v : Json} (scalar : v.levels = 0) :
    finish levels v.head cs = .ok (v, cs) := by
  cases v with
  | array items => simp [Json.levels] at scalar
  | object members => simp [Json.levels] at scalar
  | _ => cases levels <;> rfl

theorem exists_head (h : Head) : ∃ v : Json, v.head = h := by
  cases h with
  | null => exact ⟨.null, rfl⟩
  | bool b => exact ⟨.bool b, rfl⟩
  | number n => exact ⟨.number n, rfl⟩
  | string s => exact ⟨.string s, rfl⟩
  | openArray => exact ⟨.array [], rfl⟩
  | openObject => exact ⟨.object [], rfl⟩

namespace Kind

variable {k : Kind} {value : k.Value}

/-- A value of any form is there unless its head is `null`. -/
theorem ofJson_of_head {h : Head} {v : Json} (head : v.head = h) (there : h ≠ .null) :
    Kind.optionalAny.ofJson v = .ok (some v.normalize) := by
  cases v with
  | null => exact absurd head.symm there
  | _ => rfl

/-- Fields of all kinds but one are scalars. -/
theorem levels_eq_zero_of_ofJson (plain : k ≠ .optionalAny) {v : Json}
    (taken : k.ofJson v = .ok value) : v.levels = 0 := by
  cases v with
  | array items => cases k <;> first | exact absurd rfl plain | cases taken
  | object members => cases k <;> first | exact absurd rfl plain | cases taken
  | _ => rfl

theorem finishField_eq_ok_iff_of_plain {h : Head} (plain : k ≠ .optionalAny) :
    k.finishField levels h cs = .ok (value, rest) ↔
      ∃ v, finish levels h cs = .ok (v, rest) ∧ k.ofJson v = .ok value := by
  constructor
  · intro read
    obtain ⟨v, rfl⟩ := exists_head h
    rw [finishField_head plain, except_map_eq_ok_iff] at read
    obtain ⟨_, taken, same⟩ := read
    cases same
    exact ⟨v, finish_scalar (levels_eq_zero_of_ofJson plain taken), taken⟩
  · rintro ⟨v, finished, taken⟩
    have head : v.head = h := finish_head levels h cs _ finished
    subst head
    rw [finish_scalar (levels_eq_zero_of_ofJson plain taken)] at finished
    cases finished
    rw [finishField_head plain, taken]
    rfl

theorem finishField_eq_ok_iff {h : Head} : k.finishField levels h cs = .ok (value, rest) ↔
    ∃ v, finish levels h cs = .ok (v, rest) ∧ k.ofJson v = .ok value := by
  by_cases plain : k = .optionalAny
  · subst plain
    -- The head decides whether there is a value at all.
    cases h with
    | null =>
      have finished : finish levels .null cs = .ok (.null, cs) := finish_scalar (v := .null) rfl
      constructor
      · rintro ⟨⟩
        exact ⟨.null, finished, rfl⟩
      · rintro ⟨v, read, taken⟩
        rw [finished] at read
        cases read
        cases taken
        rfl
    | _ =>
      refine except_map_eq_ok_iff.trans ?_
      constructor
      · rintro ⟨⟨v, r⟩, finished, same⟩
        cases same
        exact ⟨v, finished, ofJson_of_head (finish_head _ _ _ _ finished) nofun⟩
      · rintro ⟨v, finished, taken⟩
        rw [ofJson_of_head (finish_head _ _ _ _ finished) nofun] at taken
        cases taken
        exact ⟨(v, rest), finished, rfl⟩
  · exact finishField_eq_ok_iff_of_plain plain

/-- To read a field is to read a value and to take the field from it. -/
theorem readField_eq_ok_iff : k.readField levels cs = .ok (value, rest) ↔
    ∃ v, readValue levels cs = .ok (v, rest) ∧ k.ofJson v = .ok value := by
  simp only [readField, readValue, except_bind_eq_ok_iff, finishField_eq_ok_iff]
  constructor
  · rintro ⟨h, front, v, finished, taken⟩
    exact ⟨v, ⟨h, front, finished⟩, taken⟩
  · rintro ⟨v, ⟨h, front, finished⟩, taken⟩
    exact ⟨h, front, v, finished, taken⟩

end Kind

/-! ## Members -/

/-- Reads a member, from the colon on, and keeps it. -/
def collect (levels : Nat) (before : List (String × Json)) (key : String) (cs : List Char) :
    Except ReadError (List (String × Json) × List Char) := do
  let (v, cs) ← readValue levels (← colon cs)
  return ((key, v) :: before, cs)

/-- Reading a member with a state is reading its value and taking that in. -/
def TakesMember {σ : Type} (levels : Nat)
    (member : σ → String → List Char → Except ReadError (σ × List Char))
    (take : σ → String × Json → Except ReadError σ) : Prop :=
  ∀ s key cs s' rest, member s key cs = .ok (s', rest) ↔
    ∃ v, colon cs >>= readValue levels = .ok (v, rest) ∧ take s (key, v) = .ok s'

theorem collect_takes (levels : Nat) :
    TakesMember levels (collect levels) fun before m => .ok (m :: before) := by
  intro before key cs all rest
  simp only [collect, except_bind_eq_ok_iff]
  constructor
  · rintro ⟨cs', passed, ⟨v, r⟩, read, kept⟩
    cases kept
    exact ⟨v, ⟨cs', passed, read⟩, rfl⟩
  · rintro ⟨v, ⟨cs', passed, read⟩, kept⟩
    cases kept
    exact ⟨cs', passed, (v, rest), read, rfl⟩

section Folding

variable {σ : Type} {first : Bool} {fuel : Nat}
  {member : σ → String → List Char → Except ReadError (σ × List Char)}
  {take : σ → String × Json → Except ReadError σ}

/-- What is read of the members up to the end of an object: their values, which are taken in one
after the other. The members do not depend on how they are taken in. -/
theorem exists_of_foldMembers (takes : TakesMember levels member take) {s s' : σ}
    (read : foldMembers member fuel first s cs = .ok (s', rest)) :
    ∃ ms : List (String × Json), ms.foldlM take s = .ok s' ∧
      ∀ before, foldMembers (collect levels) fuel first before cs =
        .ok (ms.reverse ++ before, rest) := by
  induction fuel generalizing first s cs with
  | zero => cases read
  | succ fuel ih =>
    rw [foldMembers, except_bind_eq_ok_iff] at read
    obtain ⟨next, found, read⟩ := read
    cases next with
    | done after =>
      cases read
      refine ⟨[], rfl, fun before => ?_⟩
      simp only [foldMembers, found]
      rfl
    | more cs =>
      simp only [except_bind_eq_ok_iff] at read
      obtain ⟨⟨key, cs₁⟩, named, ⟨s₁, cs₂⟩, one, read⟩ := read
      obtain ⟨v, value, taken⟩ := (takes ..).1 one
      obtain ⟨ms, folded, all⟩ := ih read
      refine ⟨(key, v) :: ms, ?_, fun before => ?_⟩
      · rw [List.foldlM_cons, taken]
        exact folded
      · have kept := (collect_takes levels before key cs₁ _ cs₂).2 ⟨v, value, rfl⟩
        simp only [foldMembers, found, named, kept, bind, Except.bind, all, List.reverse_cons,
          List.append_assoc, List.singleton_append]

/-- Members that can be taken in after the object has been read are read with the state. -/
theorem foldMembers_of_collect (takes : TakesMember levels member take)
    {before all : List (String × Json)}
    (read : foldMembers (collect levels) fuel first before cs = .ok (all, rest)) :
    ∃ ms : List (String × Json), all = ms.reverse ++ before ∧ ∀ s s', ms.foldlM take s = .ok s' →
      foldMembers member fuel first s cs = .ok (s', rest) := by
  induction fuel generalizing first before cs with
  | zero => cases read
  | succ fuel ih =>
    rw [foldMembers, except_bind_eq_ok_iff] at read
    obtain ⟨next, found, read⟩ := read
    cases next with
    | done after =>
      cases read
      refine ⟨[], rfl, fun s s' folded => ?_⟩
      cases folded
      simp only [foldMembers, found]
      rfl
    | more cs =>
      simp only [except_bind_eq_ok_iff] at read
      obtain ⟨⟨key, cs₁⟩, named, ⟨before₁, cs₂⟩, one, read⟩ := read
      obtain ⟨v, value, kept⟩ := (collect_takes levels ..).1 one
      cases kept
      obtain ⟨ms, rfl, later⟩ := ih read
      refine ⟨(key, v) :: ms, by simp, fun s s' folded => ?_⟩
      rw [List.foldlM_cons, except_bind_eq_ok_iff] at folded
      obtain ⟨s₁, taken, folded⟩ := folded
      have one := (takes s key cs₁ s₁ cs₂).2 ⟨v, value, taken⟩
      simp only [foldMembers, found, named, one, bind, Except.bind, later s₁ s' folded]

end Folding

/-- Taking in the members of different fields, each of which gives its field the value that is
there, if any, gives all these fields their values. -/
theorem foldlM_fields {F M σ : Type} [DecidableEq F] {V : F → Type}
    (state : ((f : F) → Option (V f)) → σ) (values : (f : F) → Option (V f))
    {step : σ → M → Except ε σ} {member? : F → Option M}
    (skips : ∀ f, member? f = none → values f = none)
    (sets : ∀ f m given, member? f = some m → given f = none →
      step (state given) m = .ok (state (Function.update given f (values f))))
    {fs : List F} (distinct : fs.Nodup) {given : (f : F) → Option (V f)}
    (absent : ∀ f ∈ fs, given f = none) :
    (fs.filterMap member?).foldlM step (state given) =
      .ok (state fun f => if f ∈ fs then values f else given f) := by
  induction fs generalizing given with
  | nil => simp [pure, Except.pure]
  | cons f fs ih =>
    obtain ⟨new, distinct⟩ := List.nodup_cons.1 distinct
    obtain ⟨here, later⟩ := List.forall_mem_cons.1 absent
    cases written : member? f with
    | none =>
      rw [List.filterMap_cons_none written, ih distinct later]
      congr 2
      funext g
      by_cases hg : g = f
      · subst hg
        simp [skips g written, here]
      · simp [hg]
    | some m =>
      have others : ∀ g ∈ fs, Function.update given f (values f) g = none := by
        intro g hg
        have other : g ≠ f := fun same => new (same ▸ hg)
        rw [Function.update_of_ne other, later g hg]
      rw [List.filterMap_cons_some written, List.foldlM_cons, sets f m given written here]
      refine (ih distinct others).trans ?_
      congr 2
      funext g
      by_cases hg : g = f
      · subst hg
        simp [new]
      · simp [hg]

/-- The members of an object are kept one by one. -/
theorem finish_openObject : finish (levels + 1) .openObject cs =
    (foldMembers (collect levels) (cs.length + 1) true [] cs).map
      fun r => (.object r.1.reverse, r.2) := by
  have same : (fun before key cs => colon cs >>= fun cs => readHead cs >>= fun front =>
      finish levels front.1 front.2 >>= fun r => .ok ((key, r.1) :: before, r.2)) =
        collect levels := by
    funext before key cs
    cases passed : colon cs with
    | error e => simp only [collect, passed, bind, Except.bind]
    | ok cs =>
      cases front : readHead cs with
      | error e => simp only [collect, passed, readValue, front, bind, Except.bind]
      | ok r =>
        simp only [collect, passed, readValue, front, bind, Except.bind]
        rfl
  refine (congrArg (fun member => foldMembers member (cs.length + 1) true [] cs >>=
    fun r => .ok (object r.1.reverse, r.2)) same).trans ?_
  cases foldMembers _ (cs.length + 1) true [] cs <;> rfl

end Json

end IssueIntake
