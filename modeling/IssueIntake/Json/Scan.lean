import IssueIntake.Json.Error
import IssueIntake.Decimal.Digits
/-!
# Words, texts and numbers of JSON

The scanners for the parts of a JSON text that hold no other parts. Each takes the characters that
are left, and gives what it has read and what is left after it.
-/

namespace IssueIntake.Json

/-- The blanks of JSON, which are fewer than those of Unicode. -/
def isGap (c : Char) : Bool :=
  c = ' ' || c = '\n' || c = '\t' || c = '\x0d'

/-- Without the blanks at the front. -/
def skipGap (cs : List Char) : List Char :=
  cs.dropWhile isGap

/-- The rest of a word of which the first letter has been read. -/
def word : List Char → List Char → Except ReadError (List Char)
  | [], cs => .ok cs
  | _ :: _, [] => .error .endInValue
  | w :: ws, c :: cs => if c = w then word ws cs else .error .expectedWord

/-! ## Texts -/

/-- The value of a hexadecimal digit. -/
def hexValue? (c : Char) : Option Nat :=
  if '0' ≤ c ∧ c ≤ '9' then some (c.toNat - 48)
  else if 'a' ≤ c ∧ c ≤ 'f' then some (c.toNat - 87)
  else if 'A' ≤ c ∧ c ≤ 'F' then some (c.toNat - 55)
  else none

/-- The number of four hexadecimal digits. Where fewer than four bytes are left the text is too
short, whatever they are. -/
def hexFour (cs : List Char) : Except ReadError (Nat × List Char) :=
  match cs with
  | a :: b :: c :: d :: rest =>
    match hexValue? a, hexValue? b, hexValue? c, hexValue? d with
    | some a, some b, some c, some d => .ok (((a * 16 + b) * 16 + c) * 16 + d, rest)
    | _, _, _, _ => .error .invalidEscape
  | _ => .error (if (String.ofList cs).utf8ByteSize < 4 then .endInString else .invalidEscape)

/-- Whether a 16-bit unit is the first half of a surrogate pair. -/
def isHigh (n : Nat) : Bool := 0xD800 ≤ n && n ≤ 0xDBFF

/-- Whether a 16-bit unit is the second half of a surrogate pair. -/
def isLow (n : Nat) : Bool := 0xDC00 ≤ n && n ≤ 0xDFFF

/-- The character of an escape by number, after `\u`: one unit, or two that are a surrogate
pair. -/
def numberedEscape (cs : List Char) : Except ReadError (Char × List Char) := do
  let (high, rest) ← hexFour cs
  if isLow high then throw .loneSurrogate
  if !isHigh high then return (Char.ofNat high, rest)
  match rest with
  | [] => throw .endInString
  | '\\' :: [] => throw .endInString
  | '\\' :: 'u' :: rest =>
    let (low, rest) ← hexFour rest
    if isLow low then
      return (Char.ofNat (0x10000 + (high - 0xD800) * 0x400 + (low - 0xDC00)), rest)
    else throw .loneSurrogate
  | _ => throw .brokenPair

/-- The character that a letter after a backslash stands for. -/
def letterEscape? (c : Char) : Option Char :=
  if c = '\x22' || c = '\\' || c = '/' then some c
  else if c = 'b' then some '\x08'
  else if c = 'f' then some '\x0c'
  else if c = 'n' then some '\n'
  else if c = 'r' then some '\x0d'
  else if c = 't' then some '\t'
  else none

/-- The character of an escape, after the backslash. -/
def escaped : List Char → Except ReadError (Char × List Char)
  | [] => .error .endInString
  | c :: rest =>
    if c = 'u' then numberedEscape rest
    else
      match letterEscape? c with
      | some d => .ok (d, rest)
      | none => .error .invalidEscape

/-- The characters of a text up to its closing quote, with those before them in reverse. -/
def textLoop : Nat → List Char → List Char → Except ReadError (String × List Char)
  | 0, _, _ => .error .endInString
  | _ + 1, _, [] => .error .endInString
  | fuel + 1, before, c :: rest =>
    if c = '\x22' then .ok (String.ofList before.reverse, rest)
    else if c = '\\' then do
      let (d, rest) ← escaped rest
      textLoop fuel (d :: before) rest
    else if c.toNat < 32 then .error .controlCharacter
    else textLoop fuel (c :: before) rest

/-- A text, after its opening quote. -/
def readText (cs : List Char) : Except ReadError (String × List Char) :=
  textLoop (cs.length + 1) [] cs

/-- Passes over a text that nobody asks for, after its opening quote: of an escape by number only
the digits are checked. -/
def skipTextLoop : Nat → List Char → Except ReadError (List Char)
  | 0, _ => .error .endInString
  | _ + 1, [] => .error .endInString
  | fuel + 1, c :: rest =>
    if c = '\x22' then .ok rest
    else if c = '\\' then
      match rest with
      | [] => .error .endInString
      | d :: rest =>
        if d = 'u' then
          match hexFour rest with
          | .ok (_, rest) => skipTextLoop fuel rest
          | .error e => .error e
        else if (letterEscape? d).isSome then skipTextLoop fuel rest
        else .error .invalidEscape
    else if c.toNat < 32 then .error .controlCharacter
    else skipTextLoop fuel rest

/-- Passes over a text, after its opening quote. -/
def skipText (cs : List Char) : Except ReadError (List Char) :=
  skipTextLoop (cs.length + 1) cs

/-! ## Numbers -/

/-- The largest significand that is kept exactly. -/
def maxSignificand : Nat := 18446744073709551615

/-- Takes in decimal digits as long as the number stays within `maxSignificand`. -/
def takeDigits (n : Nat) : List Char → Nat × List Char
  | [] => (n, [])
  | c :: rest =>
    if c.isDigit && 10 * n + Decimal.digitValue c ≤ maxSignificand then
      takeDigits (10 * n + Decimal.digitValue c) rest
    else (n, c :: rest)

/-- The double `± significand · 10 ^ e`. -/
def doubleOf (negative : Bool) (significand : Nat) (e : Int) : Except ReadError Number :=
  match Double.ofDecimal? significand e with
  | some x => .ok (.double (if negative then x.neg else x))
  | none => .error .numberOutOfRange

/-- The number with the exponent that follows the letter `e`. An exponent beyond 31 bits makes
the number zero, or too large. -/
def withExponent (negative : Bool) (significand : Nat) (e : Int) (cs : List Char) :
    Except ReadError (Number × List Char) := do
  let (below, cs) :=
    match cs with
    | '+' :: rest => (false, rest)
    | '-' :: rest => (true, rest)
    | _ => (false, cs)
  let digits := cs.takeWhile Char.isDigit
  let rest := cs.dropWhile Char.isDigit
  if digits.isEmpty then
    throw (if cs.isEmpty then .endInValue else .invalidNumber)
  let shift := Decimal.value digits
  if shift ≤ 2147483647 then
    return (← doubleOf negative significand (if below then e - shift else e + shift), rest)
  else if significand ≠ 0 && !below then throw .numberOutOfRange
  else return (.double (if negative then Double.zero.neg else Double.zero), rest)

/-- The number with the exponent at the front, if there is one. -/
def afterDigits (negative : Bool) (significand : Nat) (e : Int) (cs : List Char) :
    Except ReadError (Number × List Char) :=
  match cs with
  | 'e' :: rest | 'E' :: rest => withExponent negative significand e rest
  | _ => do return (← doubleOf negative significand e, cs)

/-- The number with the digits after the point. Digits that no longer fit the significand are
passed over. -/
def withFraction (negative : Bool) (significand : Nat) (e : Int) (cs : List Char) :
    Except ReadError (Number × List Char) :=
  if (cs.takeWhile Char.isDigit).isEmpty then
    .error (if cs.isEmpty then .endInValue else .invalidNumber)
  else
    let (n, rest) := takeDigits significand cs
    afterDigits negative n (e - (cs.length - rest.length : Nat)) (rest.dropWhile Char.isDigit)

/-- A number whose digits before the point do not fit the significand: the others count as
powers of ten. -/
def longNumber (negative : Bool) (significand : Nat) (cs : List Char) :
    Except ReadError (Number × List Char) :=
  let e := (cs.takeWhile Char.isDigit).length
  match cs.dropWhile Char.isDigit with
  | '.' :: rest => withFraction negative significand e rest
  | rest => afterDigits negative significand e rest

/-- A number without fraction and exponent: a double where it is negative and does not fit a
signed word of 64 bits, and for minus zero. -/
def wholeNumber (negative : Bool) (n : Nat) : Number :=
  if !negative then .whole n
  else if n = 0 || 9223372036854775808 < n then .double (Double.ofNat n).neg
  else .whole (-n)

/-- What follows the digits before the point. -/
def afterWhole (negative : Bool) (n : Nat) (cs : List Char) :
    Except ReadError (Number × List Char) :=
  match cs with
  | '.' :: rest => withFraction negative n 0 rest
  | 'e' :: rest | 'E' :: rest => withExponent negative n 0 rest
  | _ => .ok (wholeNumber negative n, cs)

/-- A number, after its sign. -/
def readNumber (negative : Bool) : List Char → Except ReadError (Number × List Char)
  | [] => .error .endInValue
  | c :: rest =>
    if !c.isDigit then .error .invalidNumber
    else if c = '0' then
      match rest with
      | d :: _ => if d.isDigit then .error .invalidNumber else afterWhole negative 0 rest
      | [] => afterWhole negative 0 rest
    else
      let (n, rest) := takeDigits (Decimal.digitValue c) rest
      match rest with
      | d :: _ => if d.isDigit then longNumber negative n rest else afterWhole negative n rest
      | [] => afterWhole negative n rest

/-- Passes over the exponent of a number, after the letter. -/
def skipExponent (cs : List Char) : Except ReadError (List Char) :=
  let cs :=
    match cs with
    | '+' :: rest | '-' :: rest => rest
    | _ => cs
  if (cs.takeWhile Char.isDigit).isEmpty then .error .invalidNumber
  else .ok (cs.dropWhile Char.isDigit)

/-- Passes over the exponent of a number, if there is one. -/
def skipOptionalExponent (cs : List Char) : Except ReadError (List Char) :=
  match cs with
  | 'e' :: rest | 'E' :: rest => skipExponent rest
  | _ => .ok cs

/-- Passes over a number that nobody asks for, after its sign. Its size does not matter. -/
def skipNumber (cs : List Char) : Except ReadError (List Char) :=
  match cs.takeWhile Char.isDigit, cs.dropWhile Char.isDigit with
  | [], _ => .error .invalidNumber
  | '0' :: _ :: _, _ => .error .invalidNumber
  | _, '.' :: rest =>
    if (rest.takeWhile Char.isDigit).isEmpty then .error .invalidNumber
    else skipOptionalExponent (rest.dropWhile Char.isDigit)
  | _, rest => skipOptionalExponent rest

end IssueIntake.Json
