import IssueIntake.Text.Blank
import IssueIntake.Text.Pieces
/-!
# Lists of names in one text

A list of names is kept as one text with commas between the names. Names are trimmed and blank
ones are left out, both when the text is read and when it is written, so a name never holds a
comma or ends in a blank after it has been read.
-/

namespace IssueIntake.NameList

open Text

/-- The trimmed names, without those that are blank. -/
def clean (names : List (List Char)) : List (List Char) :=
  (names.map trimList).filter (!·.isEmpty)

/-- The names that a text lists. -/
def parse (raw : String) : List String :=
  (clean (pieces ',' raw.toList)).map String.ofList

/-- The text that lists the names. -/
def format (names : List String) : String :=
  String.ofList (join ',' (clean (names.map String.toList)))

end IssueIntake.NameList
