import IssueIntake.Proofs.Store.Keyed
/-!
# Ledgers

What a store holds besides its settings, whatever the form in which it is kept: rows under
identifiers, events that each belong to an identifier, and marks under identifiers. A ledger is
consistent if every row has exactly one event and one mark, which fit it, and nothing else is
there; it extends another one if nothing that was in that one has changed. An entry under a new
identifier keeps both (`Consistent.enter`, `extends_enter`).
-/

namespace IssueIntake

/-- Rows, events and marks. -/
structure Ledger (ρ η μ : Type) where
  rows : Keyed ρ
  events : List η
  marks : Keyed μ

namespace Ledger

variable {ρ η μ : Type}

/-- The ledger with a row, its event and its mark. -/
def enter (l : Ledger ρ η μ) (id : String) (row : ρ) (event : η) (mark : μ) : Ledger ρ η μ where
  rows := l.rows.insert id row
  events := l.events ++ [event]
  marks := l.marks.insert id mark

/-- Rows have different identifiers and are marked, every event belongs to a row, and every row
has one event and one mark, which fit it. -/
structure Consistent (owner : η → String) (fits : String → ρ → η → μ → Prop)
    (l : Ledger ρ η μ) : Prop where
  distinct : l.rows.keys.Nodup
  marked : l.marks.keys = l.rows.keys
  owned : ∀ event ∈ l.events, l.rows.contains (owner event) = true
  entry : ∀ id row, l.rows.get? id = some row → ∃ event mark,
    l.events.filter (owner · == id) = [event] ∧ l.marks.get? id = some mark ∧
      fits id row event mark

/-- Whatever was in the first ledger is in the second one, as it was: rows under their
identifiers, and events before all others. -/
structure Extends (l k : Ledger ρ η μ) : Prop where
  rows : ∀ id row, l.rows.get? id = some row → k.rows.get? id = some row
  events : l.events <+: k.events

theorem Extends.refl (l : Ledger ρ η μ) : l.Extends l :=
  ⟨fun _ _ h => h, List.prefix_refl _⟩

theorem Extends.trans {l k j : Ledger ρ η μ} (h : l.Extends k) (h' : k.Extends j) : l.Extends j :=
  ⟨fun id row hr => h'.rows id row (h.rows id row hr), h.events.trans h'.events⟩

variable {l : Ledger ρ η μ} {owner : η → String} {fits : String → ρ → η → μ → Prop}
  {id : String} {row : ρ} {event : η} {mark : μ}

theorem extends_enter (fresh : l.rows.contains id = false) :
    l.Extends (l.enter id row event mark) where
  rows key old h := by
    have other : key ≠ id := by
      rintro rfl
      rw [Keyed.get?_eq_none fresh] at h
      cases h
    simpa only [enter, Keyed.get?_insert, if_neg other] using h
  events := List.prefix_append _ _

theorem Consistent.enter (h : l.Consistent owner fits) (fresh : l.rows.contains id = false)
    (own : owner event = id) (fit : fits id row event mark) :
    (l.enter id row event mark).Consistent owner fits where
  distinct := Keyed.keys_insert_nodup h.distinct fresh row
  marked := Keyed.keys_insert_congr h.marked id mark row
  owned e he := by
    simp only [Ledger.enter, Keyed.contains_insert, Bool.or_eq_true, beq_iff_eq]
    rcases List.mem_append.1 he with old | new
    · exact .inr (h.owned e old)
    · exact .inl (by rw [List.mem_singleton.1 new, own])
  entry key r hr := by
    simp only [Ledger.enter, Keyed.get?_insert, List.filter_append] at hr ⊢
    by_cases hk : key = id
    · -- No event of a new identifier can have been there, since events belong to rows.
      have none : l.events.filter (owner · == id) = [] := by
        rw [List.filter_eq_nil_iff]
        intro e he same
        have := h.owned e he
        rw [beq_iff_eq.1 same, fresh] at this
        cases this
      rw [if_pos hk, Option.some.injEq] at hr
      subst hk hr
      exact ⟨event, mark, by simp [none, own], by simp, fit⟩
    · rw [if_neg hk] at hr
      obtain ⟨e, m, one, marked, fit'⟩ := h.entry key r hr
      refine ⟨e, m, ?_, by rw [if_neg hk, marked], fit'⟩
      have other : (owner event == key) = false := by
        rw [own]
        exact beq_false_of_ne (Ne.symm hk)
      simp [one, other]

end Ledger

end IssueIntake
