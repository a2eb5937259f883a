/-!
# Blank characters

The characters with the Unicode property `White_Space`, and trimming. Configured names, id
namespaces and lines of an import file are all trimmed by this one rule, so a text that is
blank for one of them is blank for all.
-/

namespace IssueIntake.Text

/-- The characters with the Unicode property `White_Space`. -/
def isBlank (c : Char) : Bool :=
  let n := c.toNat
  (0x09 ≤ n && n ≤ 0x0D) || n == 0x20 || n == 0x85 || n == 0xA0 || n == 0x1680 ||
    (0x2000 ≤ n && n ≤ 0x200A) || n == 0x2028 || n == 0x2029 || n == 0x202F || n == 0x205F ||
    n == 0x3000

/-- Without the blank characters it starts with. -/
def dropBlank (cs : List Char) : List Char :=
  cs.dropWhile isBlank

/-- Without the blank characters at either end. -/
def trimList (cs : List Char) : List Char :=
  (dropBlank (dropBlank cs).reverse).reverse

/-- Without the blank characters at either end. -/
def trim (s : String) : String :=
  String.ofList (trimList s.toList)

end IssueIntake.Text
