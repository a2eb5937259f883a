import IssueIntake.Proofs.Digest.FieldStream
/-!
# What a digest is fed

A fingerprint is made by calls one after the other, each of which feeds a value under a name to the
digest: a text, a whole number, a truth value, or a value that may be absent, for which nothing is
fed. The bytes that have been fed are the stream of the fields to which the calls contribute
(`fed_eq`), so they can be taken apart again in one way only (`fed_decodable`).
-/

namespace IssueIntake

namespace NamedField

variable {fs gs : List NamedField}

theorem stream_append (fs gs : List NamedField) : stream (fs ++ gs) = stream fs ++ stream gs := by
  rw [stream, List.flatMap_append, stream, stream]

/-- A stream begins with another one if and only if its fields begin with those of the other. -/
theorem stream_prefix_iff (hf : ∀ f ∈ fs, f.Plain) (hg : ∀ g ∈ gs, g.Plain) :
    stream fs <+: stream gs ↔ fs <+: gs := by
  constructor
  · -- The fields end at the same place, whatever the bytes after them are.
    rintro ⟨rest, same⟩
    obtain ⟨hs, rfl, -⟩ := stream_append_inj hf hg same
    exact List.prefix_append fs hs
  · rintro ⟨hs, rfl⟩
    rw [stream_append]
    exact List.prefix_append _ _

end NamedField

/-- A call that adds a value to a fingerprint. -/
inductive FieldCall
  | text (name value : String)
  | whole (name : String) (value : Int)
  | truth (name : String) (value : Bool)
  | optional (name : String) (value : Option String)
  deriving DecidableEq

namespace FieldCall

open NamedField (stream)

/-- The name under which the value is added. -/
def name : FieldCall → String
  | text name _ | whole name _ | truth name _ | optional name _ => name

/-- What has been fed to the digest after a call, if `before` had been fed to it before. -/
def feed (before : List UInt8) : FieldCall → List UInt8
  | text name value => before ++ NamedField.bytes ⟨name, value⟩
  | whole name value => before ++ (NamedField.ofInt name value).bytes
  | truth name value => before ++ (NamedField.ofBool name value).bytes
  | optional name value => before ++ stream (NamedField.ofOption name value)

/-- What calls feed to a digest. -/
def fed (calls : List FieldCall) : List UInt8 :=
  calls.foldl feed []

/-- The name and the text of the value that a call contributes. An absent value contributes
nothing. -/
def field? : FieldCall → Option NamedField
  | text name value => some ⟨name, value⟩
  | whole name value => some ⟨name, toString value⟩
  | truth name true => some ⟨name, "true"⟩
  | truth name false => some ⟨name, "false"⟩
  | optional name (some value) => some ⟨name, value⟩
  | optional _ none => none

/-- The names and texts that calls contribute, in order. -/
def contributed (calls : List FieldCall) : List NamedField :=
  calls.filterMap field?

/-- A call feeds the field to which it contributes. -/
theorem feed_eq (before : List UInt8) (call : FieldCall) :
    call.feed before = before ++ stream call.field?.toList := by
  have one (f : NamedField) : f.bytes = stream [f] := (List.append_nil _).symm
  cases call with
  | text name value => rw [feed, one]; rfl
  | whole name value => rw [feed, one]; rfl
  | truth name value =>
    rw [feed, one]
    cases value <;> rfl
  | optional name value => cases value <;> rfl

theorem foldl_feed (before : List UInt8) (calls : List FieldCall) :
    calls.foldl feed before = before ++ stream (contributed calls) := by
  induction calls generalizing before with
  | nil => exact (List.append_nil before).symm
  | cons call calls ih =>
    have fields : contributed (call :: calls) = call.field?.toList ++ contributed calls := by
      rw [contributed, List.filterMap_cons]
      cases call.field? <;> rfl
    rw [List.foldl_cons, ih, feed_eq, fields, NamedField.stream_append, List.append_assoc]

theorem fed_eq (calls : List FieldCall) : fed calls = stream (contributed calls) :=
  foldl_feed [] calls

theorem name_of_field? {call : FieldCall} {f : NamedField} (h : call.field? = some f) :
    f.name = call.name := by
  cases call with
  | text name value | whole name value =>
    cases h
    rfl
  | truth name value | optional name value =>
    cases value <;> cases h
    all_goals rfl

theorem plain_of_mem_contributed {calls : List FieldCall}
    (plain : ∀ call ∈ calls, ':' ∉ call.name.toList) : ∀ f ∈ contributed calls, f.Plain := by
  intro f hf
  obtain ⟨call, there, given⟩ := List.mem_filterMap.1 hf
  rw [NamedField.Plain, name_of_field? given]
  exact plain call there

/-- Calls feed the same bytes as others if and only if they contribute the same names and texts, and
what they feed is the beginning of what the others feed if and only if their names and texts are the
first ones of the others. The values may hold anything, the names no colon. -/
theorem fed_decodable {calls others : List FieldCall}
    (plain : ∀ call ∈ calls, ':' ∉ call.name.toList)
    (plainOthers : ∀ call ∈ others, ':' ∉ call.name.toList) :
    (fed calls = fed others ↔ contributed calls = contributed others) ∧
      (fed calls <+: fed others ↔ contributed calls <+: contributed others) := by
  have fields := plain_of_mem_contributed plain
  have otherFields := plain_of_mem_contributed plainOthers
  rw [fed_eq, fed_eq]
  exact ⟨NamedField.stream_inj fields otherFields,
    NamedField.stream_prefix_iff fields otherFields⟩

/-- A title that holds the text of the next field feeds other bytes than the two fields, and not
their beginning either. A number feeds the bytes of its text, and an absent value none. -/
theorem fed_decodable_smuggled :
    let smuggled := [text "title" "x\ndescription:1:y"]
    let spread := [text "title" "x", text "description" "y", truth "pinned" false]
    let counted := [whole "priority" (-1), optional "external_ref" none]
    let spelled := [text "priority" "-1", optional "external_ref" (some "")]
    (∀ call ∈ smuggled ++ spread ++ counted ++ spelled, ':' ∉ call.name.toList) ∧
      ¬ fed smuggled <+: fed spread ∧ fed counted <+: fed spelled ∧ fed counted ≠ fed spelled := by
  intro smuggled spread counted spelled
  have plain : ∀ call ∈ smuggled ++ spread ++ counted ++ spelled, ':' ∉ call.name.toList := by
    decide
  obtain ⟨-, begins⟩ := @fed_decodable smuggled spread (by decide) (by decide)
  obtain ⟨same, starts⟩ := @fed_decodable counted spelled (by decide) (by decide)
  exact ⟨plain, mt begins.1 (by decide), starts.2 (by decide), mt same.1 (by decide)⟩

end FieldCall

end IssueIntake
