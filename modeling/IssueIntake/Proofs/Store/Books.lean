import IssueIntake.Proofs.Ingest.Booking
import IssueIntake.Proofs.Store.Keyed
import IssueIntake.Store.Memory
import IssueIntake.Store.Tables
/-!
# Both stores keep books

What the store in memory and the tables show, which issues they refuse and what they enter
(`Memory.backend_books`, `Tables.backend_books`). The tables refuse a row that breaks one of their
rules before they look whether its identifier is new; `brokenRule?_encode` says which of the issues
that are ready to be stored break one.
-/

namespace IssueIntake

open Call

/-! ## The store in memory -/

namespace Memory

/-- What the store shows to ingestion. -/
def view (m : Memory) : View :=
  ⟨m.config.get?, m.issues.contains, m.countTopLevel⟩

/-- Why the store refuses to store an issue, if it does. -/
def refusal? (i : Issue) (m : Memory) : Option MemoryError :=
  if m.issues.contains i.id then some (.alreadyExists i.id) else none

/-- Only a new identifier is not refused. -/
theorem contains_eq_false_of_refusal {m : Memory} {i : Issue} (h : refusal? i m = none) :
    m.issues.contains i.id = false := by
  unfold refusal? at h
  split at h
  · cases h
  · next free => simpa using free

/-- An issue is refused only because its identifier is taken. -/
theorem refusal?_eq_some_iff {m : Memory} {i : Issue} {cause : MemoryError} :
    refusal? i m = some cause ↔
      m.issues.contains i.id = true ∧ cause = .alreadyExists i.id := by
  unfold refusal?
  split
  · next taken => simp [taken, eq_comm]
  · next free => simp [free]

/-- Only the identifier of the issue is said to be taken, and it is. -/
theorem contains_of_refusal {m : Memory} {i : Issue} {id : String}
    (h : refusal? i m = some (.alreadyExists id)) : m.issues.contains i.id = true ∧ id = i.id := by
  obtain ⟨taken, said⟩ := refusal?_eq_some_iff.1 h
  exact ⟨taken, MemoryError.alreadyExists.inj said⟩

/-- The store with the entry of an issue: the issue, its event and its mark. -/
def book (terms : Terms) (i : Issue) (m : Memory) : Memory where
  issues := m.issues.insert i.id i
  config := m.config
  events := m.events ++ [.created i terms.actor terms.now]
  dirty := m.dirty.insert i.id terms.now

theorem backend_looks : backend.Looks view where
  configValue _ := rfl
  customStatuses := rfl
  customTypes := rfl
  issueExists _ := rfl
  countTopLevel _ := rfl

theorem backend_books : backend.Books view refusal? fun terms i m => m.book terms i where
  toLooks := backend_looks
  store terms i m := by
    simp only [Ingest.store, run_bind, run_mapError]
    simp only [run, backend, refusal?, ifStored, upsert]
    by_cases taken : m.issues.contains i.id = true
    · simp [taken]
    · simp [taken, Event.created, Keyed.contains_insert, book]

end Memory

/-! ## The tables -/

namespace Tables

/-- What the tables show to ingestion. -/
def view (t : Tables) : View :=
  ⟨t.config.get?, t.issues.contains, t.countTopLevel⟩

/-- Why the tables refuse the row of an issue, if they do. -/
def refusal? (i : Issue) (t : Tables) : Option StoreError :=
  match (IssueRow.encode i).brokenRule? with
  | some rule => some (.database (.check rule))
  | none => if t.issues.contains i.id then some (.alreadyExists i.id) else none

/-- Only a new identifier is not refused. -/
theorem contains_eq_false_of_refusal {t : Tables} {i : Issue} (h : refusal? i t = none) :
    t.issues.contains i.id = false := by
  unfold refusal? at h
  split at h
  · cases h
  · split at h
    · cases h
    · next free => simpa using free

/-- Only a row that meets every rule is not refused. -/
theorem brokenRule?_eq_none_of_refusal {t : Tables} {i : Issue} (h : refusal? i t = none) :
    (IssueRow.encode i).brokenRule? = none := by
  unfold refusal? at h
  split at h
  · cases h
  · next unbroken => exact unbroken

/-- Only the identifier of the issue is said to be taken, and it is. -/
theorem contains_of_refusal {t : Tables} {i : Issue} {id : String}
    (h : refusal? i t = some (.alreadyExists id)) : t.issues.contains i.id = true ∧ id = i.id := by
  unfold refusal? at h
  split at h
  · cases h
  · split at h
    · next taken =>
      cases h
      exact ⟨taken, rfl⟩
    · cases h

/-- The tables with the entry of an issue: a row in each of the three. -/
def book (terms : Terms) (i : Issue) (t : Tables) : Tables :=
  { t with
    issues := t.issues.insert i.id (.encode i)
    events := t.events ++ [.encode (.created i terms.actor terms.now)]
    dirty := t.dirty.insert i.id (terms.now.text .stored) }

theorem backend_looks : backend.Looks view where
  configValue _ := rfl
  customStatuses := rfl
  customTypes := rfl
  issueExists _ := rfl
  countTopLevel _ := rfl

/-- The identifier of a new event is drawn at random, so it clashes with none. -/
theorem any_clashes_fresh (events : List EventRow) : events.any (·.id.clashes .fresh) = false := by
  rw [List.any_eq_false]
  intro e _
  cases e.id <;> simp [EventId.clashes]

theorem backend_books : backend.Books view refusal? fun terms i t => t.book terms i where
  toLooks := backend_looks
  store terms i t := by
    simp only [Ingest.store, run_bind, run_mapError]
    simp only [run, backend, refusal?, insert, recordEvent, markDirty]
    cases (IssueRow.encode i).brokenRule? with
    | some rule => rfl
    | none =>
      by_cases taken : t.issues.contains i.id = true
      · simp [taken]
      · simp [taken, Event.created, any_clashes_fresh, Keyed.contains_insert, book]

end Tables

/-! ## The rules of the tables -/

/-- A text without U+0000, which the database measures as a whole. -/
def Unbroken (s : String) : Prop :=
  '\x00' ∉ s.toList

instance (s : String) : Decidable (Unbroken s) := by
  unfold Unbroken
  infer_instance

/-- A text that begins with U+0000: the database takes it for empty. -/
def Unseen (s : String) : Prop :=
  s.toList.head? = some '\x00'

instance (s : String) : Decidable (Unseen s) := by
  unfold Unseen
  infer_instance

theorem Unbroken.not_unseen {s : String} (h : Unbroken s) : ¬ Unseen s :=
  fun begins => h (List.mem_of_mem_head? begins)

namespace IssueRow

theorem takeWhile_unbroken_append {s : String} (h : Unbroken s) (cs : List Char) :
    (s.toList ++ cs).takeWhile (· != '\x00') = s.toList ++ cs.takeWhile (· != '\x00') := by
  apply List.takeWhile_append_of_pos
  intro c hc
  rw [bne_iff_ne]
  rintro rfl
  exact h hc

theorem visible_eq {s : String} (h : Unbroken s) : visible s = s.toList := by
  simpa [visible] using takeWhile_unbroken_append h []

/-- No more of a text is seen than there is. -/
theorem length_visible_le (s : String) : (visible s).length ≤ s.length := by
  rw [← String.length_toList]
  exact (List.takeWhile_prefix _).length_le

/-- Something is seen of every text that has characters, unless it begins with U+0000. -/
theorem visible_eq_nil_iff {s : String} (some : s ≠ "") : visible s = [] ↔ Unseen s := by
  unfold visible Unseen
  cases hs : s.toList with
  | nil => exact absurd (String.toList_eq_nil_iff.1 hs) some
  | cons c cs => by_cases ends : c = '\x00' <;> simp [ends]

variable {i : Issue}

/-- The one title of a sound issue that is too short for the database is one that it takes for
empty: what it sees of a title is never longer than the title. -/
theorem meets_titleLength (sound : i.Sound) :
    (encode i).meets .titleLength = !decide (Unseen i.title) := by
  obtain ⟨least, most⟩ := sound.title
  have some : i.title ≠ "" := by
    intro none
    simp [none] at least
  have short : (visible i.title).length ≤ 500 := (length_visible_le i.title).trans most
  have seen : 1 ≤ (visible i.title).length ↔ ¬ Unseen i.title := by
    rw [← visible_eq_nil_iff some, Nat.one_le_iff_ne_zero, Ne, List.length_eq_zero_iff]
  simp only [meets, encode, short, seen, decide_true, Bool.and_true, decide_not]

theorem meets_priorityRange (sound : i.Sound) : (encode i).meets .priorityRange = true :=
  Bool.and_eq_true_iff.2 ⟨decide_eq_true sound.priority.1, decide_eq_true sound.priority.2⟩

/-- The one status whose spelling can break the rule on closing is that of closed issues. -/
theorem meets_closing (sound : i.Sound) :
    (encode i).meets .closing = !decide (i.status = .custom "closed") := by
  have closed := sound.closed
  have notClosed := sound.notClosed
  simp only [meets, encode, Option.isSome_map]
  cases hs : i.status with
  | custom name =>
    by_cases spelled : name = "closed" <;> by_cases dead : name = "tombstone" <;>
      cases hc : i.closedAt <;> simp_all [Status.name]
  | _ => cases hc : i.closedAt <;> simp_all [Status.name]

/-- The row of a sound issue meets every rule, but for a title that the database takes for empty and
a status that is spelled like that of closed issues without being it. -/
theorem brokenRule?_encode (sound : i.Sound) :
    (encode i).brokenRule? = if Unseen i.title then some .titleLength
      else if i.status = .custom "closed" then some .closing else none := by
  by_cases unseen : Unseen i.title <;> by_cases spelled : i.status = .custom "closed" <;>
    simp [brokenRule?, meets_titleLength sound, meets_priorityRange sound, meets_closing sound,
      unseen, spelled]

end IssueRow

end IssueIntake
