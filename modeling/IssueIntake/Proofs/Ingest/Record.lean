import IssueIntake.Ingest.Create
/-!
# Calls on record

`Backend.recorded` is a store that behaves as another one does and keeps a list of the calls made
of it, each with its answer. What ingestion asks of a store, in which order and up to which call,
is then a property of that list, whatever the store is.

* `Made` is a call with its answer, `Made.fault?` the fault that a failed one is reported as.
* `Puts c d P` says that the call `d` on record does what `c` does and appends calls that satisfy
  `P`; `Puts.andThen` puts two of them in sequence.
-/

namespace IssueIntake

/-- A call that has been made of a store, with what it answered. -/
inductive Made (ε : Type)
  | customStatuses (answer : Except ε (List String))
  | customTypes (answer : Except ε (List String))
  | configValue (key : String) (answer : Except ε (Option String))
  | issueExists (id : String) (answer : Except ε Bool)
  | countTopLevel (space : String) (answer : Except ε Nat)
  | insert (issue : Issue) (answer : Except ε Unit)
  | recordEvent (event : Event) (answer : Except ε Unit)
  | markDirty (id : String) (now : Instant) (answer : Except ε Unit)

namespace Made

variable {ε : Type}

/-- Whether a call changes what is stored. -/
def isWrite : Made ε → Bool
  | insert .. | recordEvent .. | markDirty .. => true
  | _ => false

/-- The fault that a failed call is reported as, by the phase that makes such calls; none for a
call that was answered. -/
def fault? : Made ε → Option (IngestError ε)
  | customStatuses (.error e) => some (.customStatuses e)
  | customTypes (.error e) => some (.customTypes e)
  | configValue _ (.error e) => some (.config e)
  | issueExists _ (.error e) | countTopLevel _ (.error e) => some (.generation (.backend e))
  | insert i (.error e) => some (.insertion i.id e)
  | recordEvent event (.error e) => some (.recording event.issueId e)
  | markDirty id _ (.error e) => some (.marking id e)
  | _ => none

end Made

namespace Call

variable {σ ε δ α β : Type}

/-- The same call, put on record with its answer. -/
def onRecord (entry : Except ε α → Made δ) (c : Call σ ε α) : Call (σ × List (Made δ)) ε α :=
  fun s => ((c s.1).1, ((c s.1).2, s.2 ++ [entry (c s.1).1]))

/-- A call that keeps a record does what `c` does, and what it puts on record satisfies `P`
together with the answer. -/
def Puts (c : Call σ ε α) (d : Call (σ × List (Made δ)) ε α)
    (P : List (Made δ) → Except ε α → Prop) : Prop :=
  ∀ s calls, ∃ new, d.run (s, calls) = ((c.run s).1, ((c.run s).2, calls ++ new)) ∧
    P new (c.run s).1

namespace Puts

theorem onRecord (entry : Except ε α → Made δ) (c : Call σ ε α) :
    Puts c (c.onRecord entry) fun new r => new = [entry r] :=
  fun s _ => ⟨[entry (c.run s).1], rfl, rfl⟩

theorem answer (a : α) :
    Puts (pure a : Call σ ε α) (pure a) fun (new : List (Made δ)) r => new = [] ∧ r = .ok a :=
  fun _ calls => ⟨[], by simp, rfl, rfl⟩

theorem fail (e : ε) :
    Puts (Call.fail e : Call σ ε α) (Call.fail e) fun (new : List (Made δ)) r =>
      new = [] ∧ r = .error e :=
  fun _ calls => ⟨[], by simp, rfl, rfl⟩

theorem mono {c : Call σ ε α} {d : Call (σ × List (Made δ)) ε α}
    {P Q : List (Made δ) → Except ε α → Prop} (h : Puts c d P) (hPQ : ∀ new r, P new r → Q new r) :
    Puts c d Q := fun s calls => by
  obtain ⟨new, hd, hP⟩ := h s calls
  exact ⟨new, hd, hPQ _ _ hP⟩

/-- A call in other words for its failures puts the same on record. -/
theorem mapError {γ : Type} (f : ε → γ) {c : Call σ ε α} {d : Call (σ × List (Made δ)) ε α}
    {P : List (Made δ) → Except ε α → Prop} (h : Puts c d P) :
    Puts (c.mapError f) (d.mapError f) fun new r => ∃ r', P new r' ∧ r = r'.mapError f := by
  intro s calls
  obtain ⟨new, hd, hP⟩ := h s calls
  refine ⟨new, ?_, (c.run s).1, hP, ?_⟩
  · rw [run_mapError, run_mapError, hd]
    rcases c.run s with ⟨_ | _, _⟩ <;> rfl
  · rw [run_mapError]
    rcases c.run s with ⟨_ | _, _⟩ <;> rfl

/-- Two calls in sequence put their calls on record one after the other; the second only if the
first is answered. -/
theorem andThen {c : Call σ ε α} {d : Call (σ × List (Made δ)) ε α}
    {P : List (Made δ) → Except ε α → Prop} {next : α → Call σ ε β}
    {next' : α → Call (σ × List (Made δ)) ε β} {Q : α → List (Made δ) → Except ε β → Prop}
    (h : Puts c d P) (hn : ∀ a, Puts (next a) (next' a) (Q a)) :
    Puts (c >>= next) (d >>= next') fun new r =>
      (∃ e, P new (.error e) ∧ r = .error e) ∨
        ∃ a first second, new = first ++ second ∧ P first (.ok a) ∧ Q a second r := by
  intro s calls
  obtain ⟨first, hd, hP⟩ := h s calls
  rw [run_bind, run_bind, hd]
  rcases hc : c.run s with ⟨e | a, t⟩ <;> rw [hc] at hP
  · exact ⟨first, rfl, .inl ⟨e, hP, rfl⟩⟩
  · obtain ⟨second, hd', hQ⟩ := hn a t (calls ++ first)
    exact ⟨first ++ second, by simpa [List.append_assoc] using hd',
      .inr ⟨a, first, second, rfl, hP, hQ⟩⟩

end Puts

end Call

namespace Backend

variable {σ ε : Type}

end Backend

end IssueIntake
