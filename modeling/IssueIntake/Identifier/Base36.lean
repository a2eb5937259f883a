import IssueIntake.Digest.FieldStream
/-!
# Keys in base 36

Short keys of lower-case digits and letters, made from the first bytes of a hash. The bytes are
moved into a word of 64 bits, the digits of the word are taken from the last one on, and as many of
them are kept as the key is long, with zeros in front where there are fewer.
-/

namespace IssueIntake.Base36

/-- The digit for a value below 36: `0` to `9`, then `a` to `z`. -/
def digit (n : Nat) : Char :=
  if n < 10 then Char.ofNat (48 + n) else Char.ofNat (87 + n)

/-- A word with one more byte moved in from the right; its leftmost eight bits fall out. -/
def moveIn (word : UInt64) (b : UInt8) : UInt64 :=
  word <<< 8 ||| b.toUInt64

/-- The word into which bytes are moved one after the other. -/
def word (bytes : List UInt8) : UInt64 :=
  bytes.foldl moveIn 0

/-- The digits of a number from the last one on. Zeros in front of it are not among them, so zero
has none. -/
def digitsFromLast (n : Nat) : List Char :=
  if n = 0 then [] else digit (n % 36) :: digitsFromLast (n / 36)
termination_by n

/-- The `len` last digits of a number from the last one on, with zeros where it has fewer. -/
def lastDigits (len n : Nat) : List Char :=
  let shortest := digitsFromLast n
  (shortest ++ List.replicate (len - shortest.length) '0').take len

/-- The key of `len` digits for the first eight of the bytes. -/
def encode (bytes : List UInt8) (len : Nat) : String :=
  String.ofList (lastDigits len (word (bytes.take 8)).toNat).reverse

/-- How many bytes of a hash a key of `len` digits draws on. -/
def bytesFor : Nat → Nat
  | 3 => 2
  | 4 => 3
  | 5 | 6 => 4
  | 7 | 8 => 5
  | _ => 3

/-- The key of `len` digits from the hash of a text. -/
def hashKey (material : String) (len : Nat) : String :=
  encode ((Sha256.digest (Text.utf8 material)).take (bytesFor len)) len

end IssueIntake.Base36
