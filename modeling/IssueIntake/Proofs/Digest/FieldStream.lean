import IssueIntake.Digest.FieldStream
import IssueIntake.Proofs.Decimal.Digits
import IssueIntake.Proofs.Text.Bytes
import IssueIntake.Proofs.Text.Pieces
/-!
# Streams of named fields can be taken apart

A field at the front of a stream is told from what follows it: its name ends at the first colon,
the length of its value at the second, and the length says where the value ends, whatever is in it
(`bytes_append_inj`). So a stream determines its fields, as long as no name holds a colon
(`stream_inj`), and two of them have the same hash only where SHA-256 has a collision
(`hash_eq_iff`).
-/

namespace IssueIntake

/-! ## Hexadecimal digits -/

namespace Sha256

theorem hexByte_injective : Function.Injective hexByte := by
  have digits : ∀ a < 16, ∀ b < 16, Nat.digitChar a = Nat.digitChar b → a = b := by decide
  intro a b same
  have below (c : UInt8) : c.toNat < 256 := c.toNat_lt
  simp only [hexByte, List.cons.injEq, and_true] at same
  have high := digits _ (by have := below a; omega) _ (by have := below b; omega) same.1
  have low := digits _ (Nat.mod_lt _ (by decide)) _ (Nat.mod_lt _ (by decide)) same.2
  exact UInt8.toNat_inj.1 (by omega)

/-- Bytes are determined by their digits. -/
theorem flatMap_hexByte_injective : Function.Injective (List.flatMap hexByte) := by
  intro bytes others same
  induction bytes generalizing others with
  | nil =>
    cases others with
    | nil => rfl
    | cons c others => simp [hexByte] at same
  | cons b bytes ih =>
    cases others with
    | nil => simp [hexByte] at same
    | cons c others =>
      rw [List.flatMap_cons, List.flatMap_cons] at same
      obtain ⟨first, later⟩ := List.append_inj same rfl
      rw [hexByte_injective first, ih later]

theorem hexDigest_eq_iff {message other : List UInt8} :
    hexDigest message = hexDigest other ↔ digest message = digest other :=
  ⟨fun same => flatMap_hexByte_injective (String.ofList_injective same),
    congrArg fun bytes : List UInt8 => String.ofList (bytes.flatMap hexByte)⟩

end Sha256

/-! ## Streams -/

namespace NamedField

open Text

variable {f g : NamedField} {fs gs : List NamedField}

/-- A colon ends the name of the field. -/
def Plain (f : NamedField) : Prop :=
  ':' ∉ f.name.toList

instance (f : NamedField) : Decidable f.Plain := by
  unfold Plain
  infer_instance

theorem bytes_append (f : NamedField) (rest : List UInt8) : f.bytes ++ rest =
    utf8 f.name ++ 58 :: (utf8 (toString (utf8 f.value).length) ++ 58 ::
      (utf8 f.value ++ 10 :: rest)) := by
  have colon : utf8 ":" = [58] := by decide
  have lineFeed : utf8 "\n" = [10] := by decide
  simp only [bytes, colon, lineFeed, List.append_assoc, List.cons_append, List.nil_append]

theorem colon_not_mem_name (plain : f.Plain) : 58 ∉ utf8 f.name := by
  rw [← String.ofList_toList (s := f.name)]
  exact fun colon => plain ((ascii_mem_utf8_iff (a := ':') (by decide)).1 colon)

theorem colon_not_mem_length (n : Nat) : 58 ∉ utf8 (toString n) := by
  rw [← String.ofList_toList (s := toString n)]
  intro colon
  exact Decimal.not_mem_toString (by decide) n ((ascii_mem_utf8_iff (a := ':') (by decide)).1 colon)

/-- A field at the front of a stream and what follows it are determined. -/
theorem bytes_append_inj {rest others : List UInt8} (hf : f.Plain) (hg : g.Plain)
    (same : f.bytes ++ rest = g.bytes ++ others) : f = g ∧ rest = others := by
  rw [bytes_append, bytes_append] at same
  obtain ⟨names, afterName⟩ :=
    eq_of_append_cons (colon_not_mem_name hf) (colon_not_mem_name hg) same
  obtain ⟨lengths, afterLength⟩ :=
    eq_of_append_cons (colon_not_mem_length _) (colon_not_mem_length _) afterName
  -- The values are equally long, so they end at the same place, line feeds in them or not.
  have measured : (utf8 f.value).length = (utf8 g.value).length :=
    Decimal.toString_injective (utf8_injective lengths)
  obtain ⟨values, afterValue⟩ := List.append_inj afterLength measured
  have fields : f = g := by
    obtain ⟨name, value⟩ := f
    obtain ⟨otherName, otherValue⟩ := g
    rw [NamedField.mk.injEq]
    exact ⟨utf8_injective names, utf8_injective values⟩
  exact ⟨fields, List.tail_eq_of_cons_eq afterValue⟩

/-- A stream at the front of another one holds the first fields of the other. -/
theorem stream_append_inj {rest : List UInt8} (hf : ∀ f ∈ fs, f.Plain) (hg : ∀ g ∈ gs, g.Plain)
    (same : stream fs ++ rest = stream gs) : ∃ hs, gs = fs ++ hs ∧ rest = stream hs := by
  induction fs generalizing gs with
  | nil => exact ⟨gs, rfl, same⟩
  | cons f fs ih =>
    obtain ⟨plain, plainRest⟩ := List.forall_mem_cons.1 hf
    cases gs with
    | nil => simp [stream, bytes_append] at same
    | cons g gs =>
      obtain ⟨plainOther, plainOthers⟩ := List.forall_mem_cons.1 hg
      rw [stream, stream, List.flatMap_cons, List.flatMap_cons, List.append_assoc] at same
      obtain ⟨rfl, later⟩ := bytes_append_inj plain plainOther same
      obtain ⟨hs, rfl, left⟩ := ih plainRest plainOthers later
      exact ⟨hs, rfl, left⟩

theorem stream_eq_nil_iff : stream fs = [] ↔ fs = [] := by
  cases fs with
  | nil => simp [stream]
  | cons f fs => simp [stream, bytes_append]

/-- A stream determines its fields. -/
theorem stream_inj (hf : ∀ f ∈ fs, f.Plain) (hg : ∀ g ∈ gs, g.Plain) :
    stream fs = stream gs ↔ fs = gs := by
  refine ⟨fun same => ?_, congrArg stream⟩
  obtain ⟨hs, rfl, nothing⟩ := stream_append_inj hf hg ((List.append_nil _).trans same)
  rw [stream_eq_nil_iff.1 nothing.symm, List.append_nil]

/-- Whether an optional field is there shows in the name of the field that comes next. -/
theorem ofOption_append_inj {name : String} {value other : Option String} (hf : f.name ≠ name)
    (hg : g.name ≠ name)
    (same : ofOption name value ++ f :: fs = ofOption name other ++ g :: gs) :
    value = other ∧ f :: fs = g :: gs := by
  cases value with
  | none =>
    cases other with
    | none => exact ⟨rfl, same⟩
    | some w => exact absurd (congrArg NamedField.name (List.head_eq_of_cons_eq same)) hf
  | some v =>
    cases other with
    | none =>
      exact absurd (congrArg NamedField.name (List.head_eq_of_cons_eq same)).symm hg
    | some w =>
      have values := congrArg NamedField.value (List.head_eq_of_cons_eq same)
      exact ⟨congrArg some values, List.tail_eq_of_cons_eq same⟩

theorem ofInt_inj {name : String} {n m : Int} : ofInt name n = ofInt name m ↔ n = m := by
  simp only [ofInt, NamedField.mk.injEq, true_and, Decimal.toString_int_injective.eq_iff]

theorem ofBool_inj {name : String} {b c : Bool} : ofBool name b = ofBool name c ↔ b = c := by
  cases b <;> cases c <;> simp [ofBool]

/-- Hashes are the same if and only if the digests of the streams are. -/
theorem hash_eq_iff : hash fs = hash gs ↔ Sha256.digest (stream fs) = Sha256.digest (stream gs) :=
  Sha256.hexDigest_eq_iff

end NamedField

end IssueIntake
