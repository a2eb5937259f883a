import IssueIntake.Identifier.Base36
import IssueIntake.Ingest.Backend
/-!
# Generated identifiers

An issue without an identifier gets one whose key is a short hash of its title, its description,
the actor, the time and a counter. Keys get longer as a namespace fills, and every candidate is
looked up first: the first one that is free is taken.
-/

namespace IssueIntake.Generate

/-- The shortest keys. -/
def minLength : Nat := 3

/-- The longest keys. -/
def maxLength : Nat := 8

/-- How many candidates there are of each length. -/
def candidatesPerLength : Nat := 10

/-- Whether keys of a length are long enough for a number of identifiers: whether the probability
`1 - exp (-n ^ 2 / (2 * 36 ^ len))` of a collision is at most one quarter, that is, whether `n ^ 2`
is at most `2 * 36 ^ len * log (4 / 3)`. The logarithm is `0.28768207245178…`; none of the bounds
is close enough to a square for the digits left out to matter. -/
def isRoomy (existing len : Nat) : Bool :=
  Nat.pow 10 14 * (existing * existing) ≤ 2 * Nat.pow 36 len * 28768207245178

/-- The shortest key length that is roomy for a number of identifiers, or else the longest. -/
def keyLength (existing : Nat) : Nat :=
  ((List.range' minLength (maxLength + 1 - minLength)).find? (isRoomy existing)).getD maxLength

/-- The lengths and counters of all candidates whose keys have at least a given length, in the
order in which they are tried. -/
def attempts (base : Nat) : List (Nat × Nat) :=
  (List.range' base (maxLength + 1 - base)).flatMap fun len =>
    (List.range candidatesPerLength).map (len, ·)

/-- The text that a candidate's key is the hash of. -/
def material (i : Issue) (actor : String) (now : Instant) (counter : Nat) : String :=
  i.title ++ "|" ++ i.description ++ "|" ++ actor ++ "|" ++ toString now.stamp ++ "|" ++
    toString counter

/-- The candidate with a key of a length and a counter. -/
def candidate (space : String) (i : Issue) (actor : String) (now : Instant)
    (attempt : Nat × Nat) : String :=
  space ++ "-" ++ Base36.hashKey (material i actor now attempt.2) attempt.1

/-- Why no identifier is generated. -/
inductive Error (ε : Type)
  /-- The store failed. -/
  | backend (cause : ε)
  /-- All candidates are taken. -/
  | exhausted (space : String) (base : Nat)
  deriving DecidableEq, Repr

/-- How the error is said, with the words for a failure of the store. -/
def Error.message {ε : Type} (showCause : ε → String) : Error ε → String
  | backend cause => "failed to inspect existing issue IDs: " ++ showCause cause
  | exhausted space base =>
    "failed to generate unique ID under prefix '" ++ space ++ "' after trying lengths " ++
      toString base ++ "-" ++ toString maxLength ++ " with " ++ toString candidatesPerLength ++
      " nonces each"

variable {σ ε : Type}

/-- The first of the attempts whose identifier is not stored. -/
def firstFree (b : Backend σ ε) (idOf : Nat × Nat → String) :
    List (Nat × Nat) → Call σ ε (Option String)
  | [] => pure none
  | attempt :: rest => do
    let id := idOf attempt
    if ← b.issueExists id then firstFree b idOf rest else pure (some id)

/-- A fresh identifier in a namespace for an issue. -/
def generate (b : Backend σ ε) (space : String) (i : Issue) (actor : String) (now : Instant) :
    Call σ (Error ε) String := do
  let base := keyLength (← (b.countTopLevel space).mapError .backend)
  match ← (firstFree b (candidate space i actor now) (attempts base)).mapError .backend with
  | some id => pure id
  | none => .fail (.exhausted space base)

end IssueIntake.Generate
