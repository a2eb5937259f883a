/-!
# Texts as bytes

The bytes that a text is made of in UTF-8, and what is shown of bytes that need not be a text.
-/

namespace IssueIntake.Text

/-- The bytes of a text in UTF-8. -/
def utf8 (s : String) : List UInt8 :=
  s.toUTF8.data.toList

/-- The text that bytes spell in UTF-8, if they spell one. -/
def ofUtf8? (bytes : List UInt8) : Option String :=
  String.fromUTF8? ⟨bytes.toArray⟩

/-! ## Bytes that are not a text -/

/-- A character of which some bytes have been met: the number that they spell so far, and the least
and the greatest byte that may come next, for each of those that are missing. -/
structure Begun where
  number : Nat
  missing : List (Nat × Nat)

/-- What a byte begins: a character of one or of more bytes, or none. The second byte of some
characters is restricted, so that none is spelled longer than it need be and none is half of a
pair. -/
def begun? (b : UInt8) : Option Begun :=
  let n := b.toNat
  let any := (0x80, 0xbf)
  if n < 0x80 then some ⟨n, []⟩
  else if n < 0xc2 then none
  else if n < 0xe0 then some ⟨n - 0xc0, [any]⟩
  else if n = 0xe0 then some ⟨0, [(0xa0, 0xbf), any]⟩
  else if n = 0xed then some ⟨13, [(0x80, 0x9f), any]⟩
  else if n < 0xf0 then some ⟨n - 0xe0, [any, any]⟩
  else if n = 0xf0 then some ⟨0, [(0x90, 0xbf), any, any]⟩
  else if n < 0xf4 then some ⟨n - 0xf0, [any, any, any]⟩
  else if n = 0xf4 then some ⟨4, [(0x80, 0x8f), any, any]⟩
  else none

/-- What stands for bytes that spell nothing. -/
def replacement : Char := '\ufffd'

/-- What is shown once a byte has been met that begins something, and what it leaves begun. -/
def showBegun : Option Begun → List Char × Option Begun
  | none => ([replacement], none)
  | some ⟨n, []⟩ => ([Char.ofNat n], none)
  | some begun => ([], some begun)

/-- What is shown once a byte has been met. Where it does not go on with what was begun, a
replacement stands for that, and the byte begins anew. -/
def showByte (b : UInt8) : Option Begun → List Char × Option Begun
  | some ⟨n, (least, greatest) :: missing⟩ =>
    if least ≤ b.toNat ∧ b.toNat ≤ greatest then
      showBegun (some ⟨64 * n + (b.toNat - 0x80), missing⟩)
    else
      let (shown, begun) := showBegun (begun? b)
      (replacement :: shown, begun)
  | _ => showBegun (begun? b)

/-- What is shown of bytes after those that began a character. -/
def showFrom (begun : Option Begun) : List UInt8 → List Char
  | [] => if begun.isSome then [replacement] else []
  | b :: bytes =>
    let (shown, begun) := showByte b begun
    shown ++ showFrom begun bytes

/-- What is shown of bytes: the text that they spell, or else its characters as far as there are
any, with a replacement for every longest part that begins none or only the beginning of one. -/
def shown (bytes : List UInt8) : String :=
  (ofUtf8? bytes).getD (String.ofList (showFrom none bytes))

/-- A character among bytes that spell none, and one that is broken off. -/
example : showFrom none [0xff, 0xc3, 0xa9, 0xe2, 0x82, 0x41] =
    [replacement, 'é', replacement, 'A'] := by
  decide

end IssueIntake.Text
