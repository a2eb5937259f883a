import Mathlib.Tactic.SplitIfs
import IssueIntake.Proofs.Text.Bytes
/-!
# Texts are in the order of their bytes

Characters are in the order of their encodings, whatever follows these
(`utf8EncodeChar_append_lt`), so a text comes before another one if its bytes do (`utf8_lt_utf8`).
-/

namespace IssueIntake.Text

/-- Lists of bytes are in the order of their first bytes, or else of what follows. -/
theorem cons_lt_cons_of_le {n m : Nat} {xs ys : List UInt8} (le : n ≤ m) (byte : m < 256)
    (rest : n = m → xs < ys) : UInt8.ofNat n :: xs < UInt8.ofNat m :: ys := by
  rw [List.cons_lt_cons_iff]
  rcases Nat.lt_or_eq_of_le le with less | same
  · left
    rwa [UInt8.lt_iff_toNat_lt, UInt8.toNat_ofNat_of_lt' (Nat.lt_trans less byte),
      UInt8.toNat_ofNat_of_lt' byte]
  · exact .inr ⟨congrArg UInt8.ofNat same, rest same⟩

/-- Encodings of characters are in the order of the characters. -/
theorem utf8EncodeChar_append_lt {c d : Char} (less : c < d) (xs ys : List UInt8) :
    String.utf8EncodeChar c ++ xs < String.utf8EncodeChar d ++ ys := by
  have valid : d.val.toNat < 1114112 := by
    rcases d.valid with low | ⟨-, high⟩
    · exact Nat.lt_trans low (by decide)
    · exact high
  have less : c.val.toNat < d.val.toNat := less
  unfold String.utf8EncodeChar
  generalize c.val.toNat = v at less
  generalize d.val.toNat = w at less valid
  dsimp only
  split_ifs
  -- The encoding of the smaller character is not the longer one.
  all_goals try omega
  -- Where the other one is longer, the first byte tells.
  all_goals refine cons_lt_cons_of_le (by omega) (by omega) fun first => ?_
  all_goals try omega
  -- Where they are equally long, so does the first byte in which they differ.
  all_goals refine cons_lt_cons_of_le (by omega) (by omega) fun second => ?_
  all_goals try omega
  all_goals refine cons_lt_cons_of_le (by omega) (by omega) fun third => ?_
  all_goals try omega
  exact cons_lt_cons_of_le (by omega) (by omega) fun fourth => by omega

/-- Texts are in the order of their bytes. -/
theorem utf8_lt_utf8 {s t : String} (less : s < t) : utf8 s < utf8 t := by
  rw [← String.ofList_toList (s := s), ← String.ofList_toList (s := t), utf8_ofList, utf8_ofList]
  rw [String.lt_iff] at less
  generalize s.toList = cs at less
  generalize t.toList = ds at less
  induction cs generalizing ds with
  | nil =>
    cases ds with
    | nil => exact absurd less (List.lt_irrefl [])
    | cons d ds =>
      obtain ⟨b, bs, encoded⟩ := List.exists_cons_of_ne_nil (String.utf8EncodeChar_ne_nil (c := d))
      rw [List.flatMap_cons, encoded]
      exact List.nil_lt_cons b _
  | cons c cs ih =>
    cases ds with
    | nil => exact absurd less (List.not_lt_nil _)
    | cons d ds =>
      rw [List.flatMap_cons, List.flatMap_cons]
      rcases List.cons_lt_cons_iff.1 less with first | ⟨rfl, rest⟩
      · exact utf8EncodeChar_append_lt first _ _
      · exact List.append_left_lt (ih ds rest)

end IssueIntake.Text
