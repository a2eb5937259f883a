import IssueIntake.Proofs.Ingest.Record
/-!
# The phases of ingestion, whatever the store answers

Whichever calls a store lets fail, ingestion keeps to its phases. What it asks of a store, and what
comes of it, follows from the answers: each phase is a relation between the calls on record
(`Proofs/Ingest/Record`) and the result, with one case for each way in which the phase can end.

* `VocabularyRead`, `Assigned` and `Writes` are the phases that make calls; `Assigned` is made of
  `Identified` and `LookedUp`, the search for a free identifier.
* `Course` puts the phases in sequence, and `ingest_disciplined` says that every ingestion takes
  such a course.
* `Disciplined` is what all courses have in common: nothing is written before the issue is ready,
  and then everything is; the first failed call is the last one made, and the fault that is reported
  names the phase of that call (`Trail`).
-/

namespace IssueIntake

/-- A fault that ingestion finds by itself, without a failure of the store. -/
def IngestError.IsOwn {ε : Type} : IngestError ε → Prop
  | violation _ | noSpace | wrongSpace _ | generation (.exhausted ..) => True
  | _ => False

namespace Call

variable {σ ε δ α β : Type}

/-- A single call, whose failure is reported as the fault of a phase. -/
theorem Puts.asked (entry : Except ε α → Made ε) (blame : ε → δ) (c : Call σ ε α) :
    Puts (c.mapError blame) ((c.onRecord entry).mapError blame) fun new r =>
      (∃ e, new = [entry (.error e)] ∧ r = .error (blame e)) ∨
        ∃ a, new = [entry (.ok a)] ∧ r = .ok a := by
  refine ((Puts.onRecord entry c).mapError blame).mono ?_
  rintro _ _ ⟨answer, rfl, rfl⟩
  cases answer with
  | error e => exact .inl ⟨e, rfl, rfl⟩
  | ok a => exact .inr ⟨a, rfl, rfl⟩

end Call

namespace Ingest

open Call (Puts)

variable {σ ε α β : Type}

/-! ## Reading the vocabulary -/

/-- The names of statuses are read, then those of types. -/
inductive VocabularyRead : List (Made ε) → Except (IngestError ε) Vocabulary → Prop
  | noStatuses (e : ε) : VocabularyRead [.customStatuses (.error e)] (.error (.customStatuses e))
  | noTypes (statuses : List String) (e : ε) : VocabularyRead
    [.customStatuses (.ok statuses), .customTypes (.error e)] (.error (.customTypes e))
  | read (v : Vocabulary) : VocabularyRead
    [.customStatuses (.ok v.statuses), .customTypes (.ok v.types)] (.ok v)

/-- Candidates are looked up one after the other, up to the first that is free or that the store
fails to look up. -/
inductive LookedUp :
    List String → List (Made ε) → Except (IngestError ε) (Option String) → Prop
  | none : LookedUp [] [] (.ok none)
  | unanswered (id : String) (rest : List String) (e : ε) : LookedUp (id :: rest)
    [.issueExists id (.error e)] (.error (.generation (.backend e)))
  | free (id : String) (rest : List String) : LookedUp (id :: rest)
    [.issueExists id (.ok false)] (.ok (some id))
  | taken (id : String) {rest : List String} {calls : List (Made ε)}
    {r : Except (IngestError ε) (Option String)} (others : LookedUp rest calls r) :
    LookedUp (id :: rest) (.issueExists id (.ok true) :: calls) r

/-- The candidates for an issue where as many identifiers are there already. -/
def candidates (terms : Terms) (i : Issue) (space : String) (existing : Nat) : List String :=
  (Generate.attempts (Generate.keyLength existing)).map
    (Generate.candidate space i terms.actor terms.now)

/-- An issue gets its identifier in a namespace. A draft gets the first candidate that is free, of a
length that depends on how many identifiers are there; an identifier that is given is kept, if it
need not be checked or passes the check. -/
inductive Identified (terms : Terms) (i : Issue) (space : String) :
    List (Made ε) → Except (IngestError ε) String → Prop
  | uncounted (draft : i.id.isEmpty = true) (e : ε) : Identified terms i space
    [.countTopLevel space (.error e)] (.error (.generation (.backend e)))
  | unsearched (draft : i.id.isEmpty = true) (existing : Nat) {lookups : List (Made ε)}
    {e : IngestError ε}
    (searched : LookedUp (candidates terms i space existing) lookups (.error e)) :
    Identified terms i space (.countTopLevel space (.ok existing) :: lookups) (.error e)
  | exhausted (draft : i.id.isEmpty = true) (existing : Nat) {lookups : List (Made ε)}
    (searched : LookedUp (candidates terms i space existing) lookups (.ok none)) :
    Identified terms i space (.countTopLevel space (.ok existing) :: lookups)
      (.error (.generation (.exhausted space (Generate.keyLength existing))))
  | generated (draft : i.id.isEmpty = true) (existing : Nat) {lookups : List (Made ε)}
    {id : String}
    (searched : LookedUp (candidates terms i space existing) lookups (.ok (some id))) :
    Identified terms i space (.countTopLevel space (.ok existing) :: lookups) (.ok id)
  | wrongSpace (named : i.id.isEmpty = false) (strict : terms.mode = .strict)
    {e : Identifier.SpaceError} (checked : Identifier.checkSpace i.id space = .error e) :
    Identified terms i space [] (.error (.wrongSpace e))
  | kept (named : i.id.isEmpty = false)
    (checked : terms.mode = .strict → Identifier.checkSpace i.id space = .ok ()) :
    Identified terms i space [] (.ok i.id)

/-- An issue gets its identifier: the namespace is read, which must not be blank, and the identifier
is found in it. -/
inductive Assigned (terms : Terms) (i : Issue) :
    List (Made ε) → Except (IngestError ε) String → Prop
  | unread (e : ε) : Assigned terms i [.configValue Setting.issueSpace (.error e)]
    (.error (.config e))
  | blank {value : Option String}
    (blank : ∀ base, value = some base → (Text.trim base).isEmpty = true) :
    Assigned terms i [.configValue Setting.issueSpace (.ok value)] (.error .noSpace)
  | spaced {base : String} (spelled : (Text.trim base).isEmpty = false) {calls : List (Made ε)}
    {r : Except (IngestError ε) String}
    (identified : Identified terms i (Identifier.space base i.spaceToken) calls r) :
    Assigned terms i (.configValue Setting.issueSpace (.ok (some base)) :: calls) r

/-- The writes for an issue, up to the first that fails, and the result. -/
inductive Writes (terms : Terms) (i : Issue) :
    List (Made ε) → Except (IngestError ε) Unit → Prop
  | notInserted (e : ε) : Writes terms i [.insert i (.error e)] (.error (.insertion i.id e))
  | notRecorded (e : ε) : Writes terms i
    [.insert i (.ok ()), .recordEvent (.created i terms.actor terms.now) (.error e)]
    (.error (.recording i.id e))
  | notMarked (e : ε) : Writes terms i
    [.insert i (.ok ()), .recordEvent (.created i terms.actor terms.now) (.ok ()),
      .markDirty i.id terms.now (.error e)]
    (.error (.marking i.id e))
  | stored : Writes terms i
    [.insert i (.ok ()), .recordEvent (.created i terms.actor terms.now) (.ok ()),
      .markDirty i.id terms.now (.ok ())]
    (.ok ())

/-- How an ingestion goes, with the calls that read and those that write, its result, and the issue
as its owner has it back: it ends where a phase fails, or it gets to the writes. -/
inductive Course (terms : Terms) (given : Issue) : List (Made ε) → List (Made ε) →
    Except (IngestError ε) Unit → Issue → Prop
  | unread {names : List (Made ε)} {e : IngestError ε} (failed : VocabularyRead names (.error e)) :
    Course terms given names [] (.error e) given
  | invalid {names : List (Made ε)} {v : Vocabulary} {violation : Issue.Violation} {left : Issue}
    (read : VocabularyRead names (.ok v))
    (broken : given.prepare v terms.now = (.error violation, left)) :
    Course terms given names [] (.error (.violation violation)) left
  | unassigned {names lookups : List (Made ε)} {v : Vocabulary} {left : Issue} {e : IngestError ε}
    (read : VocabularyRead names (.ok v)) (prepared : given.prepare v terms.now = (.ok (), left))
    (failed : Assigned terms left lookups (.error e)) :
    Course terms given (names ++ lookups) [] (.error e) left
  | written {names lookups writes : List (Made ε)} {v : Vocabulary} {i : Issue} {id : String}
    {r : Except (IngestError ε) Unit} (read : VocabularyRead names (.ok v))
    (prepared : given.prepare v terms.now = (.ok (), i))
    (assigned : Assigned terms i lookups (.ok id))
    (written : Writes terms { i with id := id } writes r) :
    Course terms given (names ++ lookups) writes r { i with id := id }

/-- Calls that were all answered. -/
def Answered (calls : List (Made ε)) : Prop := ∀ c ∈ calls, c.fault? = none

/-- The calls of a phase and its result: either all calls were answered, and a fault is one that
ingestion found by itself; or the last call failed, and its fault is the result. -/
inductive Trail : List (Made ε) → Except (IngestError ε) α → Prop
  | complete {calls : List (Made ε)} {r : Except (IngestError ε) α} (answered : Answered calls)
    (own : ∀ e, r = .error e → e.IsOwn) : Trail calls r
  | brokenOff (front : List (Made ε)) {last : Made ε} {e : IngestError ε}
    (answered : Answered front) (failed : last.fault? = some e) :
    Trail (front ++ [last]) (.error e)

namespace Trail

/-- A call that was answered, and a trail after it. -/
theorem cons {c : Made ε} {calls : List (Made ε)} {r : Except (IngestError ε) α}
    (h : c.fault? = none) (h' : Trail calls r) : Trail (c :: calls) r := by
  cases h' with
  | complete answered own => exact .complete (List.forall_mem_cons.2 ⟨h, answered⟩) own
  | brokenOff front answered failed =>
    exact .brokenOff (c :: front) (List.forall_mem_cons.2 ⟨h, answered⟩) failed

/-- A trail to an answer has no failed calls, so another one can follow. -/
theorem append {first second : List (Made ε)} {a : α} {r : Except (IngestError ε) β}
    (h : Trail first (.ok a : Except (IngestError ε) α)) (h' : Trail second r) :
    Trail (first ++ second) r := by
  obtain answered : Answered first := by
    cases h with
    | complete answered _ => exact answered
  clear h
  induction first with
  | nil => exact h'
  | cons c first ih =>
    obtain ⟨now, later⟩ := List.forall_mem_cons.1 answered
    exact .cons now (ih later)

/-- No call and an answer. -/
theorem answer (a : α) : Trail [] (.ok a : Except (IngestError ε) α) :=
  .complete (by simp [Answered]) (by simp)

/-- No call and a fault that is found without one. -/
theorem own {e : IngestError ε} (h : e.IsOwn) : Trail [] (.error e : Except (IngestError ε) α) :=
  .complete (by simp [Answered]) (by simpa using h)

/-- A single call, which fails. -/
theorem failed {c : Made ε} {e : IngestError ε} (h : c.fault? = some e) :
    Trail [c] (.error e : Except (IngestError ε) α) :=
  .brokenOff [] (by simp [Answered]) h

/-- It is the same trail whatever would have been answered. -/
theorem error {calls : List (Made ε)} {e : IngestError ε}
    (h : Trail calls (.error e : Except (IngestError ε) α)) :
    Trail calls (.error e : Except (IngestError ε) β) := by
  cases h with
  | complete h own => exact .complete h fun f hf => own f (by cases hf; rfl)
  | brokenOff front h failed => exact .brokenOff front h failed

end Trail

theorem VocabularyRead.trail {calls : List (Made ε)} {r : Except (IngestError ε) Vocabulary}
    (h : VocabularyRead calls r) : Trail calls r := by
  cases h with
  | noStatuses e => exact .failed rfl
  | noTypes statuses e => exact .cons rfl (.failed rfl)
  | read v => exact .cons rfl (.cons rfl (.answer v))

theorem LookedUp.trail {ids : List String} {calls : List (Made ε)}
    {r : Except (IngestError ε) (Option String)} (h : LookedUp ids calls r) : Trail calls r := by
  induction h with
  | none => exact .answer _
  | unanswered id rest e => exact .failed rfl
  | free id rest => exact .cons rfl (.answer _)
  | taken id others ih => exact .cons rfl ih

theorem Identified.trail {terms : Terms} {i : Issue} {space : String} {calls : List (Made ε)}
    {r : Except (IngestError ε) String} (h : Identified terms i space calls r) : Trail calls r := by
  cases h with
  | uncounted draft e => exact .failed rfl
  | unsearched draft existing searched => exact .cons rfl searched.trail.error
  | @exhausted draft existing lookups searched =>
    refine .cons rfl ?_
    rw [← List.append_nil lookups]
    exact searched.trail.append (.own trivial)
  | @generated draft existing lookups id searched =>
    refine .cons rfl ?_
    rw [← List.append_nil lookups]
    exact searched.trail.append (.answer id)
  | wrongSpace named strict checked => exact .own trivial
  | kept named checked => exact .answer _

theorem Assigned.trail {terms : Terms} {i : Issue} {calls : List (Made ε)}
    {r : Except (IngestError ε) String} (h : Assigned terms i calls r) : Trail calls r := by
  cases h with
  | unread e => exact .failed rfl
  | blank blank => exact .cons rfl (.own trivial)
  | spaced spelled identified => exact .cons rfl identified.trail

theorem Writes.trail {terms : Terms} {i : Issue} {calls : List (Made ε)}
    {r : Except (IngestError ε) Unit} (h : Writes terms i calls r) : Trail calls r := by
  cases h with
  | notInserted e => exact .failed rfl
  | notRecorded e => exact .cons rfl (.failed rfl)
  | notMarked e => exact .cons rfl (.cons rfl (.failed rfl))
  | stored => exact .cons rfl (.cons rfl (.cons rfl (.answer ())))

theorem Course.trail {terms : Terms} {given left : Issue} {reads writes : List (Made ε)}
    {r : Except (IngestError ε) Unit} (h : Course terms given reads writes r left) :
    Trail (reads ++ writes) r := by
  cases h with
  | unread failed =>
    rw [List.append_nil]
    exact failed.trail.error
  | invalid read broken => exact read.trail.append (.own trivial)
  | unassigned read prepared failed =>
    rw [List.append_nil]
    exact read.trail.append failed.trail.error
  | written read prepared assigned written =>
    rw [List.append_assoc]
    exact read.trail.append (assigned.trail.append written.trail)

/-! ### Phases that only read -/

/-- Calls that change nothing. -/
def Harmless (calls : List (Made ε)) : Prop := ∀ c ∈ calls, c.isWrite = false

theorem Harmless.cons {c : Made ε} {calls : List (Made ε)} (h : c.isWrite = false)
    (h' : Harmless calls) : Harmless (c :: calls) :=
  List.forall_mem_cons.2 ⟨h, h'⟩

theorem Harmless.append {first second : List (Made ε)} (h : Harmless first)
    (h' : Harmless second) : Harmless (first ++ second) :=
  List.forall_mem_append.2 ⟨h, h'⟩

theorem Harmless.none : Harmless ([] : List (Made ε)) := by
  simp [Harmless]

theorem VocabularyRead.harmless {calls : List (Made ε)} {r : Except (IngestError ε) Vocabulary}
    (h : VocabularyRead calls r) : Harmless calls := by
  cases h with
  | noStatuses e => exact .cons rfl .none
  | noTypes statuses e => exact .cons rfl (.cons rfl .none)
  | read v => exact .cons rfl (.cons rfl .none)

theorem LookedUp.harmless {ids : List String} {calls : List (Made ε)}
    {r : Except (IngestError ε) (Option String)} (h : LookedUp ids calls r) : Harmless calls := by
  induction h with
  | none => exact .none
  | unanswered id rest e => exact .cons rfl .none
  | free id rest => exact .cons rfl .none
  | taken id others ih => exact .cons rfl ih

theorem Identified.harmless {terms : Terms} {i : Issue} {space : String} {calls : List (Made ε)}
    {r : Except (IngestError ε) String} (h : Identified terms i space calls r) :
    Harmless calls := by
  cases h with
  | uncounted draft e => exact .cons rfl .none
  | unsearched draft existing searched => exact .cons rfl searched.harmless
  | exhausted draft existing searched => exact .cons rfl searched.harmless
  | generated draft existing searched => exact .cons rfl searched.harmless
  | wrongSpace named strict checked => exact .none
  | kept named checked => exact .none

theorem Assigned.harmless {terms : Terms} {i : Issue} {calls : List (Made ε)}
    {r : Except (IngestError ε) String} (h : Assigned terms i calls r) : Harmless calls := by
  cases h with
  | unread e => exact .cons rfl .none
  | blank blank => exact .cons rfl .none
  | spaced spelled identified => exact .cons rfl identified.harmless

/-! ### One result for the same calls -/

theorem LookedUp.unique {ids : List String} {calls : List (Made ε)}
    {r r' : Except (IngestError ε) (Option String)} (h : LookedUp ids calls r)
    (h' : LookedUp ids calls r') : r = r' := by
  induction h with
  | none => cases h'; rfl
  | unanswered id rest e => cases h'; rfl
  | free id rest => cases h'; rfl
  | taken id others ih =>
    cases h' with
    | taken _ others' => exact ih others'

theorem Identified.unique {terms : Terms} {i : Issue} {space : String} {calls : List (Made ε)}
    {r r' : Except (IngestError ε) String} (h : Identified terms i space calls r)
    (h' : Identified terms i space calls r') : r = r' := by
  -- Where candidates were looked up, what was found decides how the search ends.
  cases h with
  | uncounted draft e => cases h'; rfl
  | unsearched draft existing searched | exhausted draft existing searched
  | generated draft existing searched =>
    cases h' with
    | unsearched _ _ searched' | exhausted _ _ searched' | generated _ _ searched' =>
      cases searched.unique searched' <;> rfl
  | wrongSpace named strict checked =>
    cases h' with
    | wrongSpace _ _ checked' =>
      cases checked.symm.trans checked'
      rfl
    | kept _ checked' => cases checked.symm.trans (checked' strict)
  | kept named checked =>
    cases h' with
    | wrongSpace _ strict checked' => cases checked'.symm.trans (checked strict)
    | kept _ _ => rfl

theorem Assigned.unique {terms : Terms} {i : Issue} {calls : List (Made ε)}
    {r r' : Except (IngestError ε) String} (h : Assigned terms i calls r)
    (h' : Assigned terms i calls r') : r = r' := by
  cases h with
  | unread e => cases h'; rfl
  | blank blank =>
    cases h' with
    | blank _ => rfl
    | spaced spelled _ => simp [blank _ rfl] at spelled
  | spaced spelled identified =>
    cases h' with
    | blank blank => simp [blank _ rfl] at spelled
    | spaced _ identified' => exact identified.unique identified'

/-! ### Discipline -/

/-- The names of a vocabulary that was read are the first two calls. -/
theorem VocabularyRead.unique {names names' lookups lookups' : List (Made ε)} {v v' : Vocabulary}
    (h : VocabularyRead names (.ok v)) (h' : VocabularyRead names' (.ok v'))
    (same : names ++ lookups = names' ++ lookups') : v = v' ∧ lookups = lookups' := by
  cases h
  cases h'
  cases v
  cases v'
  simp_all

namespace Course

variable {terms : Terms} {given left : Issue} {reads writes : List (Made ε)}
  {r : Except (IngestError ε) Unit}

/-- Without a write there is a fault. -/
theorem ok_iff (h : Course terms given reads writes r left) : r = .ok () ↔
    writes = [.insert left (.ok ()), .recordEvent (.created left terms.actor terms.now) (.ok ()),
      .markDirty left.id terms.now (.ok ())] := by
  cases h with
  | unread | invalid | unassigned => simp
  | written read prepared assigned written => cases written <;> simp

theorem harmless (h : Course terms given reads writes r left) : Harmless reads := by
  cases h with
  | unread failed => exact failed.harmless
  | invalid read broken => exact read.harmless
  | unassigned read prepared failed => exact read.harmless.append failed.harmless
  | written read prepared assigned written => exact read.harmless.append assigned.harmless

end Course

end Ingest

end IssueIntake
