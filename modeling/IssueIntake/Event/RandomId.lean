import IssueIntake.Event.Basic
/-!
# Random identifiers

The text of an identifier drawn at random: 32 hexadecimal digits in five groups, of which one digit
says that the identifier is random and two bits say how it is laid out. All other bits come from
sixteen random bytes.
-/

namespace IssueIntake.EventId

/-- The bytes of a random identifier, with the digit and the bits that are fixed. -/
def markRandom : List UInt8 → List UInt8
  | a :: b :: c :: d :: e :: f :: g :: h :: i :: rest =>
    a :: b :: c :: d :: e :: f :: ((g &&& 0x0f) ||| 0x40) :: h :: ((i &&& 0x3f) ||| 0x80) :: rest
  | bytes => bytes

/-- The identifier made of sixteen random bytes. -/
def ofRandom (bytes : List UInt8) : EventId :=
  let digits := (markRandom bytes).flatMap fun b =>
    [Nat.digitChar (b.toNat / 16), Nat.digitChar (b.toNat % 16)]
  let group (start count : Nat) := String.ofList ((digits.drop start).take count)
  given ("-".intercalate [group 0 8, group 8 4, group 12 4, group 16 4, group 20 12])

end IssueIntake.EventId
