import IssueIntake.Issue.Validate
/-!
# Repair

Timestamps that an issue lacks are filled in before it is validated. The times of creation and of
the last change default to the present; the time of closing of a closed issue, and of deletion of
a tombstone, to one second after the later of these two. Timestamps that are there stay as they
are.
-/

namespace IssueIntake.Issue

/-- Which timestamps have been filled in. -/
structure Repairs where
  createdAt : Bool
  updatedAt : Bool
  closedAt : Bool
  deletedAt : Bool
  deriving DecidableEq, Repr

namespace Repairs

/-- Whether anything has been filled in. -/
def any (r : Repairs) : Bool :=
  r.createdAt || r.updatedAt || r.closedAt || r.deletedAt

end Repairs

/-- The issue with its times of creation and of the last change, which default to `now`. -/
def withTimes (i : Issue) (now : Instant) : Issue :=
  { i with createdAt := some (i.createdAt.getD now), updatedAt := some (i.updatedAt.getD now) }

/-- The later of the times of creation and of the last change, where absent ones count as
`now`. -/
def latest (i : Issue) (now : Instant) : Instant :=
  (i.createdAt.getD now).later (i.updatedAt.getD now)

/-- What repair fills in for a final timestamp: nothing if it is not due or already there; else one
second after `latest`, which has to exist. -/
def finalStamp (stamp : Stamp) (due : Bool) (present : Option Instant) (latest : Instant) :
    Except Violation (Option Instant) :=
  if due && present.isNone then
    match latest.secondLater? with
    | some t => .ok (some t)
    | none => .error (.timestampOutOfRange stamp latest)
  else .ok none

/-- Fills in the timestamps that are missing. The issue is given back also when a final timestamp
would lie past the last year: then with what had been filled in before. -/
def repair (i : Issue) (now : Instant) : Except Violation Repairs × Issue :=
  let timed := i.withTimes now
  let latest := i.latest now
  match finalStamp .closedAt (i.status == .closed) i.closedAt latest with
  | .error e => (.error e, timed)
  | .ok closing =>
    let closed := { timed with closedAt := i.closedAt.or closing }
    match finalStamp .deletedAt (i.status == .tombstone) i.deletedAt latest with
    | .error e => (.error e, closed)
    | .ok deletion =>
      (.ok ⟨i.createdAt.isNone, i.updatedAt.isNone, closing.isSome, deletion.isSome⟩,
       { closed with deletedAt := i.deletedAt.or deletion })

end IssueIntake.Issue
