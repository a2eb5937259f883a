import Mathlib.Data.List.Induction
import Mathlib.Data.Nat.ModEq
import IssueIntake.Identifier.Base36
/-!
# Keys in base 36 are numerals

The word into which at most eight bytes are moved is the number that they spell: no bit falls out of
it (`toNat_word`). The digits that are kept of it are its lowest ones (`encode_eq`), so a key is the
numeral of that number modulo a power of 36 (`encode_positional`).
-/

namespace IssueIntake.Base36

/-! ## The word of the bytes -/

/-- The number that bytes spell, the most significant first. -/
def value (bytes : List UInt8) : Nat :=
  bytes.foldl (fun n b => n * 256 + b.toNat) 0

theorem value_concat (bytes : List UInt8) (b : UInt8) :
    value (bytes ++ [b]) = value bytes * 256 + b.toNat := by
  simp only [value, List.foldl_append, List.foldl_cons, List.foldl_nil]

theorem word_concat (bytes : List UInt8) (b : UInt8) :
    word (bytes ++ [b]) = moveIn (word bytes) b := by
  simp only [word, List.foldl_append, List.foldl_cons, List.foldl_nil]

theorem value_lt (bytes : List UInt8) : value bytes < 256 ^ bytes.length := by
  induction bytes using List.reverseRecOn with
  | nil => exact Nat.one_pos
  | append_singleton bytes b ih =>
    have below := b.toNat_lt
    rw [value_concat, List.length_append, List.length_singleton, Nat.pow_succ]
    omega

/-- A byte that is moved into a word whose leftmost eight bits are free becomes its last digit in
base 256. -/
theorem toNat_moveIn {w : UInt64} (free : w.toNat < 256 ^ 7) (b : UInt8) :
    (moveIn w b).toNat = w.toNat * 256 + b.toNat := by
  have below : b.toNat < 2 ^ 8 := b.toNat_lt
  have fits : w.toNat <<< 8 < 2 ^ 64 := by
    rw [Nat.shiftLeft_eq]
    omega
  have shifted : (w <<< 8).toNat = w.toNat <<< 8 := by
    rw [UInt64.toNat_shiftLeft]
    exact Nat.mod_eq_of_lt fits
  rw [moveIn, UInt64.toNat_or, UInt8.toNat_toUInt64, shifted,
    ← Nat.shiftLeft_add_eq_or_of_lt below, Nat.shiftLeft_eq]

/-- A word takes in eight bytes without losing any of their bits. -/
theorem toNat_word {bytes : List UInt8} (few : bytes.length ≤ 8) :
    (word bytes).toNat = value bytes := by
  induction bytes using List.reverseRecOn with
  | nil => rfl
  | append_singleton bytes b ih =>
    -- With at most seven bytes in it, the word has eight bits free for the next.
    rw [List.length_append, List.length_singleton] at few
    have before : (word bytes).toNat = value bytes := ih (by omega)
    have free : (word bytes).toNat < 256 ^ 7 := by
      rw [before]
      exact (value_lt bytes).trans_le (Nat.pow_le_pow_right (by decide) (by omega))
    rw [word_concat, value_concat, toNat_moveIn free, before]

/-! ## The lowest digits -/

/-- The `len` lowest digits of a number, the most significant first. -/
def digits : Nat → Nat → List Char
  | 0, _ => []
  | len + 1, n => digits len (n / 36) ++ [digit (n % 36)]

theorem lastDigits_succ (len n : Nat) :
    lastDigits (len + 1) n = digit (n % 36) :: lastDigits len (n / 36) := by
  by_cases zero : n = 0
  · -- Zero has no digits, so its last digit is one of the zeros that stand for missing ones.
    subst zero
    have none : digitsFromLast 0 = [] := by rw [digitsFromLast, if_pos rfl]
    simp only [lastDigits, none, Nat.zero_div]
    rfl
  · have first : digitsFromLast n = digit (n % 36) :: digitsFromLast (n / 36) := by
      rw [digitsFromLast, if_neg zero]
    simp only [lastDigits, first, List.length_cons, Nat.add_sub_add_right, List.cons_append,
      List.take_succ_cons]

/-- What is kept of the digits, with zeros for those that are missing, are the lowest ones. -/
theorem reverse_lastDigits (len n : Nat) : (lastDigits len n).reverse = digits len n := by
  induction len generalizing n with
  | zero => rw [lastDigits, List.take_zero, List.reverse_nil, digits]
  | succ len ih => rw [lastDigits_succ, List.reverse_cons, ih, digits]

/-- A key has the lowest digits of the number that the first eight bytes spell. -/
theorem encode_eq (bytes : List UInt8) (len : Nat) :
    encode bytes len = String.ofList (digits len (value (bytes.take 8))) := by
  rw [encode, reverse_lastDigits, toNat_word (List.length_take_le 8 bytes)]

@[simp] theorem length_digits (len n : Nat) : (digits len n).length = len := by
  induction len generalizing n with
  | zero => rfl
  | succ len ih => simp [digits, ih]

@[simp] theorem length_hashKey (material : String) (len : Nat) :
    (hashKey material len).length = len := by
  rw [hashKey, encode_eq, String.length_ofList, length_digits]

theorem isLowerAlphanum_digit {n : Nat} (h : n < 36) :
    (digit n).isDigit = true ∨ (digit n).isLower = true := by
  have all : ∀ n < 36, (digit n).isDigit = true ∨ (digit n).isLower = true := by decide
  exact all n h

/-- Every digit of a key is the digit of some value. -/
theorem exists_of_mem_digits {len n : Nat} {c : Char} (h : c ∈ digits len n) :
    ∃ d < 36, digit d = c := by
  induction len generalizing n with
  | zero => cases h
  | succ len ih =>
    rcases List.mem_append.1 h with before | last
    · exact ih before
    · exact ⟨n % 36, Nat.mod_lt n (by decide), (List.mem_singleton.1 last).symm⟩

/-- Keys are made of digits and lower-case letters. -/
theorem isLowerAlphanum_of_mem_digits {len n : Nat} {c : Char} (h : c ∈ digits len n) :
    c.isDigit = true ∨ c.isLower = true := by
  obtain ⟨d, below, rfl⟩ := exists_of_mem_digits h
  exact isLowerAlphanum_digit below

/-! ## Numerals -/

/-- The digits in the order of their values. -/
def alphabet : List Char :=
  "0123456789abcdefghijklmnopqrstuvwxyz".toList

/-- The number that a numeral in base 36 stands for, its most significant digit first. -/
def numeral (cs : List Char) : Nat :=
  cs.foldl (fun n c => n * 36 + alphabet.idxOf c) 0

theorem numeral_concat (cs : List Char) (c : Char) :
    numeral (cs ++ [c]) = numeral cs * 36 + alphabet.idxOf c := by
  simp only [numeral, List.foldl_append, List.foldl_cons, List.foldl_nil]

theorem digit_mem_alphabet {d : Nat} (below : d < 36) : digit d ∈ alphabet := by
  have all : ∀ d < 36, digit d ∈ alphabet := by decide
  exact all d below

theorem idxOf_digit {d : Nat} (below : d < 36) : alphabet.idxOf (digit d) = d := by
  have all : ∀ d < 36, alphabet.idxOf (digit d) = d := by decide
  exact all d below

/-- The lowest digits of a number are the numeral of its remainder. -/
theorem numeral_digits (len n : Nat) : numeral (digits len n) = n % 36 ^ len := by
  induction len generalizing n with
  | zero => rw [digits, Nat.pow_zero, Nat.mod_one]; rfl
  | succ len ih =>
    rw [digits, numeral_concat, ih, idxOf_digit (Nat.mod_lt n (by decide)), Nat.pow_succ',
      Nat.mod_mul, Nat.mul_comm, Nat.add_comm]

/-- The lowest digits of a number are those of its remainder. -/
theorem digits_mod (len n : Nat) : digits len (n % 36 ^ len) = digits len n := by
  induction len generalizing n with
  | zero => rfl
  | succ len ih =>
    have last : n % 36 ^ (len + 1) % 36 = n % 36 := by
      rw [Nat.pow_succ', Nat.mod_mul_right_mod]
    have before : n % 36 ^ (len + 1) / 36 = n / 36 % 36 ^ len := by
      rw [Nat.pow_succ', Nat.mod_mul_right_div_self]
    rw [digits, digits, last, before, ih]

theorem digits_eq_iff {len n m : Nat} : digits len n = digits len m ↔ n ≡ m [MOD 36 ^ len] := by
  refine ⟨fun same => ?_, fun same => ?_⟩
  · have numerals := congrArg numeral same
    rwa [numeral_digits, numeral_digits] at numerals
  · rw [← digits_mod len n, ← digits_mod len m, same]

/-- A key has as many digits as it is to have, each from the alphabet, and is the numeral of the
number that the first eight bytes spell, modulo a power of 36; no bit of that number is lost while
the bytes are moved into a word. So bytes of which none is cut off have the same key as others
if and only if the numbers are congruent. -/
theorem encode_positional (bytes : List UInt8) (len : Nat) :
    let key := (encode bytes len).toList
    key.length = len ∧ (∀ c ∈ key, c ∈ alphabet) ∧
      numeral key = value (bytes.take 8) % 36 ^ len ∧
      (∀ moved ≤ 8, (word (bytes.take moved)).toNat = value (bytes.take moved)) ∧
      ∀ others : List UInt8, bytes.length ≤ 8 → others.length ≤ 8 →
        (encode bytes len = encode others len ↔ value bytes ≡ value others [MOD 36 ^ len]) := by
  intro key
  have kept : key = digits len (value (bytes.take 8)) := by
    simp only [key, encode_eq, String.toList_ofList]
  rw [kept]
  refine ⟨length_digits _ _, fun c hc => ?_, numeral_digits _ _, fun moved few => ?_,
    fun others few fewOthers => ?_⟩
  · obtain ⟨d, below, rfl⟩ := exists_of_mem_digits hc
    exact digit_mem_alphabet below
  · exact toNat_word ((List.length_take_le moved bytes).trans few)
  · rw [encode_eq, encode_eq, List.take_of_length_le few, List.take_of_length_le fewOthers,
      String.ofList_inj, digits_eq_iff]

/-- The word is full with eight bytes, and a ninth one is not read. Numbers that are 36 ^ 3 apart
have the same key of three digits, but not of four. -/
theorem encode_positional_full :
    let full : List UInt8 := List.replicate 8 255
    (encode (full ++ [7]) 13 = "3w5e11264sgsf" ∧
        numeral "3w5e11264sgsf".toList = 2 ^ 64 - 1) ∧
      (([255, 255] : List UInt8).length ≤ 8 ∧ ([73, 191] : List UInt8).length ≤ 8 ∧
        encode [255, 255] 3 = encode [73, 191] 3) ∧
      encode [255, 255] 4 ≠ encode [73, 191] 4 := by
  intro full
  have key : encode (full ++ [7]) 13 = "3w5e11264sgsf" := by decide +kernel
  obtain ⟨-, -, read, -, -⟩ := encode_positional (full ++ [7]) 13
  have spelled : value ((full ++ [7]).take 8) % 36 ^ 13 = 2 ^ 64 - 1 := by decide +kernel
  rw [key, spelled] at read
  have same (len : Nat) := (encode_positional [255, 255] len).2.2.2.2 [73, 191] (by decide)
    (by decide)
  exact ⟨⟨key, read⟩, ⟨by decide, by decide, (same 3).2 (by decide)⟩, mt (same 4).1 (by decide)⟩

end IssueIntake.Base36
