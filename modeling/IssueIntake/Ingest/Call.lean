/-!
# Calls to a store

A call reads or changes a state and either answers or fails. What a failing call has done to the
state stays done, unless the call is made `atomically`.
-/

namespace IssueIntake

/-- A call on states `σ`, which fails with `ε` or answers with `α`. -/
def Call (σ ε α : Type) : Type :=
  σ → Except ε α × σ

namespace Call

variable {σ ε δ α β : Type}

/-- Makes a call: its answer and the state after it. -/
def run (c : Call σ ε α) (s : σ) : Except ε α × σ :=
  c s

/-- Answers without looking at the state. -/
def answer (a : α) : Call σ ε α := fun s => (.ok a, s)

/-- Fails and leaves the state as it is. -/
def fail (e : ε) : Call σ ε α := fun s => (.error e, s)

/-- A call, then another that depends on its answer. The first to fail is the last one made. -/
def andThen (c : Call σ ε α) (next : α → Call σ ε β) : Call σ ε β := fun s =>
  match c s with
  | (.ok a, s) => next a s
  | (.error e, s) => (.error e, s)

instance : Monad (Call σ ε) where
  pure := answer
  bind := andThen

/-- The same call with its failures put in other words. -/
def mapError (f : ε → δ) (c : Call σ ε α) : Call σ δ α := fun s =>
  match c s with
  | (.ok a, s) => (.ok a, s)
  | (.error e, s) => (.error (f e), s)

/-- The state as an answer. -/
def look (f : σ → α) : Call σ ε α := fun s => (.ok (f s), s)

/-- A change of the state. -/
def change (f : σ → σ) : Call σ ε Unit := fun s => (.ok (), f s)

/-- The same call, which changes nothing when it fails. -/
def atomically (c : Call σ ε α) : Call σ ε α := fun s =>
  match c s with
  | (.ok a, t) => (.ok a, t)
  | (.error e, _) => (.error e, s)

@[simp] theorem run_pure (a : α) (s : σ) : (pure a : Call σ ε α).run s = (.ok a, s) := rfl

@[simp] theorem run_fail (e : ε) (s : σ) : (fail e : Call σ ε α).run s = (.error e, s) := rfl

@[simp] theorem run_look (f : σ → α) (s : σ) : (look f : Call σ ε α).run s = (.ok (f s), s) := rfl

@[simp] theorem run_change (f : σ → σ) (s : σ) : (change f : Call σ ε Unit).run s = (.ok (), f s) :=
  rfl

theorem run_bind (c : Call σ ε α) (next : α → Call σ ε β) (s : σ) :
    (c >>= next).run s =
      match c.run s with
      | (.ok a, t) => (next a).run t
      | (.error e, t) => (.error e, t) := rfl

/-- A call and another that depends on its answer succeed if both do. -/
theorem run_bind_eq_ok_iff {c : Call σ ε α} {next : α → Call σ ε β} {s u : σ} {b : β} :
    (c >>= next).run s = (.ok b, u) ↔
      ∃ a t, c.run s = (.ok a, t) ∧ (next a).run t = (.ok b, u) := by
  rw [run_bind]
  rcases c.run s with ⟨_ | a, t⟩ <;> simp [and_assoc]

theorem run_mapError (f : ε → δ) (c : Call σ ε α) (s : σ) :
    (c.mapError f).run s =
      match c.run s with
      | (.ok a, t) => (.ok a, t)
      | (.error e, t) => (.error (f e), t) := rfl

@[simp] theorem mapError_pure (f : ε → δ) (a : α) :
    (pure a : Call σ ε α).mapError f = pure a := rfl

@[simp] theorem mapError_fail (f : ε → δ) (e : ε) :
    (fail e : Call σ ε α).mapError f = fail (f e) := rfl

/-- A call made atomically succeeds as the call does. -/
theorem atomically_eq_ok_iff {c : Call σ ε α} {s t : σ} {a : α} :
    c.atomically.run s = (.ok a, t) ↔ c.run s = (.ok a, t) := by
  unfold run atomically
  rcases c s with ⟨e | b, u⟩ <;> simp

/-- A call made atomically fails as the call does, and leaves the state as it was. -/
theorem atomically_eq_error_iff {c : Call σ ε α} {s t : σ} {e : ε} :
    c.atomically.run s = (.error e, t) ↔ (∃ u, c.run s = (.error e, u)) ∧ t = s := by
  unfold run atomically
  rcases c s with ⟨d | a, u⟩ <;> simp [eq_comm]

/-- A call made atomically that fails leaves the state as it was. -/
theorem atomically_state_of_error {c : Call σ ε α} {s : σ} {e : ε}
    (h : (c.atomically.run s).1 = .error e) : (c.atomically.run s).2 = s := by
  unfold run atomically at *
  split at h <;> simp_all

end Call

end IssueIntake
