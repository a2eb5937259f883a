import IssueIntake.Text.Bytes
/-!
# Texts and their bytes

The bytes of a text are those of its characters one after the other (`utf8_ofList`) and spell the
text and no other (`ofUtf8?_utf8`, `utf8_injective`). A character of ASCII is the one whose bytes
hold its own (`ascii_mem_utf8_iff`), so what is cut at line feeds or colons may be cut before or
after it is written in bytes.
-/

namespace IssueIntake.Text

theorem utf8_ofList (cs : List Char) :
    utf8 (String.ofList cs) = cs.flatMap String.utf8EncodeChar := by
  rw [utf8, String.toUTF8_eq_toByteArray, String.toByteArray_ofList, List.utf8Encode,
    List.data_toByteArray]

theorem utf8_ofList_append (cs ds : List Char) :
    utf8 (String.ofList (cs ++ ds)) = utf8 (String.ofList cs) ++ utf8 (String.ofList ds) := by
  simp only [utf8_ofList, List.flatMap_append]

/-- The bytes of a text spell the text. -/
theorem ofUtf8?_utf8 (s : String) : ofUtf8? (utf8 s) = some s := by
  have same : (⟨(utf8 s).toArray⟩ : ByteArray) = s.toByteArray := rfl
  rw [ofUtf8?, same, String.fromUTF8?, dif_pos s.isValidUTF8]
  rfl

/-- Texts with the same bytes are the same. -/
theorem utf8_injective : Function.Injective utf8 := by
  intro s t same
  have spelled := ofUtf8?_utf8 s
  rw [same, ofUtf8?_utf8] at spelled
  exact (Option.some.inj spelled).symm

/-! ## Characters of ASCII -/

/-- A byte with the highest bit set is none of ASCII. -/
theorem ascii_not_mem_cons {b : UInt8} (ascii : b.toNat < 128) {n m k : Nat} {bytes : List UInt8}
    (some : 0 < m) (high : 128 ≤ k) (byte : m + k ≤ 256) (rest : b ∉ bytes) :
    b ∉ UInt8.ofNat (n % m + k) :: bytes := by
  refine List.not_mem_cons_of_ne_of_not_mem (fun same => ?_) rest
  have below := Nat.mod_lt n some
  have value := congrArg UInt8.toNat same
  rw [UInt8.toNat_ofNat_of_lt' (show n % m + k < UInt8.size from Nat.lt_of_lt_of_le
    (Nat.add_lt_add_right below k) byte)] at value
  omega

/-- Only a character of ASCII has its byte: those of other characters have the highest bit set. -/
theorem ascii_mem_utf8EncodeChar_iff {a c : Char} (ascii : a.toNat < 128) :
    UInt8.ofNat a.toNat ∈ String.utf8EncodeChar c ↔ c = a := by
  have byteOf : (UInt8.ofNat a.toNat).toNat = a.toNat :=
    UInt8.toNat_ofNat_of_lt' (Nat.lt_of_lt_of_le ascii (by decide))
  have low : (UInt8.ofNat a.toNat).toNat < 128 := by rwa [byteOf]
  constructor
  · intro h
    unfold String.utf8EncodeChar at h
    dsimp only at h
    split at h
    · next short =>
      have byte : c.val.toNat < UInt8.size := Nat.lt_of_le_of_lt short (by decide)
      have value := congrArg UInt8.toNat (List.mem_singleton.1 h)
      rw [byteOf, UInt8.toNat_ofNat_of_lt' byte] at value
      exact Char.toNat_inj.1 value.symm
    · have more (n : Nat) {bytes : List UInt8} (rest : UInt8.ofNat a.toNat ∉ bytes) :
          UInt8.ofNat a.toNat ∉ UInt8.ofNat (n % 64 + 128) :: bytes :=
        ascii_not_mem_cons low (by decide) (by decide) (by decide) rest
      have one (n : Nat) := more n List.not_mem_nil
      have two (n m : Nat) := more n (one m)
      have three (n m k : Nat) := more n (two m k)
      exfalso
      revert h
      split
      · exact ascii_not_mem_cons low (by decide) (by decide) (by decide) (one _)
      split
      · exact ascii_not_mem_cons low (by decide) (by decide) (by decide) (two _ _)
      · exact ascii_not_mem_cons low (by decide) (by decide) (by decide) (three _ _ _)
  · rintro rfl
    have short : c.val.toNat ≤ 127 := Nat.le_of_lt_succ ascii
    unfold String.utf8EncodeChar
    dsimp only
    rw [if_pos short]
    exact List.mem_singleton_self _

theorem ascii_mem_utf8_iff {a : Char} (ascii : a.toNat < 128) {cs : List Char} :
    UInt8.ofNat a.toNat ∈ utf8 (String.ofList cs) ↔ a ∈ cs := by
  simp only [utf8_ofList, List.mem_flatMap, ascii_mem_utf8EncodeChar_iff ascii, exists_eq_right]

theorem lineFeed_mem_utf8_iff {cs : List Char} : 10 ∈ utf8 (String.ofList cs) ↔ '\n' ∈ cs :=
  ascii_mem_utf8_iff (a := '\n') (by decide)

end IssueIntake.Text
