import IssueIntake.Event.Json
import IssueIntake.Proofs.Issue.Json
import IssueIntake.Proofs.Json.RoundTrip
/-!
# Payloads of stored events

The payload of an event wraps the object of its issue into another object, so the issue's metadata
lies one level deeper in it than in the issue's own text. `parse_payload` says when the payload is
read back: the reader allows as many levels there as it does in the issue's own text.
-/

namespace IssueIntake.Action

open Json (ReadError keepWithin)

variable {levels : Nat}

/-- What the reader of payloads does with a member: it checks a tag, and keeps everything else. -/
def keepMember (levels : Nat) (state : Bool × List (String × Json)) (m : String × Json) :
    Except ReadError (Bool × List (String × Json)) :=
  if m.1 = "action" then
    if state.1 then .error (.duplicateField "action")
    else (checkTag m.2.head).map fun _ => (true, state.2)
  else keepWithin levels m.2 (state.1, m :: state.2)

theorem readMember_reads {m : String × Json} (exact : m.2.Exact) :
    Json.Layout.compact.ReadsMember (readMember levels) (keepMember levels) m := by
  obtain ⟨key, v⟩ := m
  intro state rest ends
  rw [Json.Layout.compact_write]
  have passed : Json.colon (':' :: (v.chars ++ rest)) = .ok (v.chars ++ rest) := rfl
  unfold readMember keepMember
  by_cases tag : key = "action"
  · by_cases seen : state.1 = true
    · simp only [if_pos tag, if_pos seen, Except.map]
    · simp only [if_pos tag, if_neg seen, passed, Json.readHead_chars exact ends, bind,
        Except.bind]
      -- Only a text is accepted as a tag, and behind the head of a text nothing is left over.
      cases v with
      | string s =>
        simp only [Json.head, checkTag, Json.body, List.nil_append]
        cases checkName s <;> rfl
      | _ => rfl
  · simp only [if_neg tag, passed, Json.readValue_chars exact levels ends, bind, Except.bind]
    by_cases shallow : v.levels ≤ levels <;>
      simp [keepWithin, shallow, Except.map, pure, Except.pure]

/-- The payload of an event is read back, unless the metadata of its issue nests too deep in it. -/
theorem parse_payload {i : Issue} (h : i.Readable levels) (whole : i.WholeMetadata) :
    parse (created i).payload =
      if i.metadataLevels ≤ 125 then .ok (created i.written) else .error .tooDeep := by
  have exact := Issue.exact_toJson h whole
  have reads : ∀ m ∈ (created i).members,
      Json.Layout.compact.ReadsMember (readMember 126) (keepMember 126) m := by
    intro m hm
    apply readMember_reads
    simp only [members, List.mem_cons, List.not_mem_nil, or_false] at hm
    rcases hm with rfl | rfl
    · trivial
    · exact exact
  have folded := Json.foldMembers_memberChars reads (false, []) []
  rw [List.append_nil] at folded
  have kept : (created i).members.foldlM (keepMember 126) (false, []) =
      keepWithin 126 i.toJson (true, [("issue", i.toJson)]) := by
    simp only [members, List.foldlM_cons, List.foldlM_nil, keepMember, Json.head, checkTag,
      checkName, Except.map, bind, Except.bind, if_true, Bool.false_eq_true, if_false,
      show ("issue" = "action") = False by decide]
    cases keepWithin 126 i.toJson (true, [("issue", i.toJson)]) <;> rfl
  have front : Json.readHead (Json.object (created i).members).text.toList =
      .ok (.openObject, Json.memberChars (created i).members) := by
    rw [Json.text, String.toList_ofList]
    rfl
  have issue : issueOf none [("issue", i.toJson)] = .ok (created i.written) := by
    simp [issueOf, Issue.ofJson_toJson h, bind, Except.bind]
  have deeper := i.levels_toJson
  simp only [parse, Json.readAll, readPart, payload, front, Json.maxLevels, finish, folded, kept,
    keepWithin, bind, Except.bind]
  by_cases shallow : i.metadataLevels ≤ 125
  · have fits : i.toJson.levels ≤ 126 := by omega
    simp only [if_pos shallow, if_pos fits, Except.map, Bool.not_true, Bool.false_eq_true, if_false,
      List.reverse_singleton, issue]
    rfl
  · have deep : ¬ i.toJson.levels ≤ 126 := by omega
    simp only [if_neg shallow, if_neg deep, Except.map]

end IssueIntake.Action
