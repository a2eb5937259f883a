import IssueIntake.Proofs.Identifier.Generated
import Mathlib.Data.List.Basic
import Mathlib.Data.Set.List
/-!
# The grammar of identifiers

The grammar is given by its parts: `Parts` is a namespace and a `Key`, and a key is a word with an
`Ordinal` after each of its dots. Every text of parts splits back into them and nothing else splits
at all (`isKey_iff`, `split_eq_some_iff_parts`), different parts have different texts, and another
ordinal leads one level down (`depth_child`). `identifier_grammar` says it for all that reads
identifiers.
-/

namespace IssueIntake.Identifier

open Text

/-! ## Characters of keys -/

def AsciiDigit (c : Char) : Prop :=
  '0' ≤ c ∧ c ≤ '9'

def AsciiAlphanumeric (c : Char) : Prop :=
  AsciiDigit c ∨ ('A' ≤ c ∧ c ≤ 'Z') ∨ ('a' ≤ c ∧ c ≤ 'z')

theorem inRange_iff {c first last : Char} :
    (decide (c.val ≥ first.val) && decide (c.val ≤ last.val)) = true ↔ first ≤ c ∧ c ≤ last := by
  rw [Bool.and_eq_true, decide_eq_true_eq, decide_eq_true_eq, Char.le_def, Char.le_def]

theorem isDigit_iff {c : Char} : c.isDigit = true ↔ AsciiDigit c :=
  inRange_iff

theorem isAlphanum_iff {c : Char} : c.isAlphanum = true ↔ AsciiAlphanumeric c := by
  have upper : c.isUpper = true ↔ 'A' ≤ c ∧ c ≤ 'Z' := decide_eq_true_iff
  have lower : c.isLower = true ↔ 'a' ≤ c ∧ c ≤ 'z' := inRange_iff
  change (c.isUpper || c.isLower || c.isDigit) = true ↔ _
  rw [Bool.or_eq_true, Bool.or_eq_true, upper, lower, isDigit_iff, or_comm, AsciiAlphanumeric]

theorem AsciiDigit.ne_dot {c : Char} (h : AsciiDigit c) : c ≠ '.' := by
  rintro rfl
  exact absurd h.1 (by decide)

theorem AsciiAlphanumeric.ne_dot {c : Char} (h : AsciiAlphanumeric c) : c ≠ '.' := by
  rintro rfl
  exact absurd (isAlphanum_iff.2 h) (by decide)

/-! ## Keys -/

/-- What stands behind a dot of a key. -/
@[ext]
structure Ordinal where
  digits : List Char
  nonempty : digits ≠ []
  ascii : ∀ c ∈ digits, AsciiDigit c

/-- A word and the ordinals below it. -/
@[ext]
structure Key where
  word : List Char
  nonempty : word ≠ []
  ascii : ∀ c ∈ word, AsciiAlphanumeric c
  ordinals : List Ordinal

theorem isOrdinal_iff {cs : List Char} :
    isOrdinal cs = true ↔ cs ∈ Set.range Ordinal.digits := by
  simp only [isOrdinal, Bool.and_eq_true, Bool.not_eq_true', List.isEmpty_eq_false_iff,
    List.all_eq_true, isDigit_iff]
  constructor
  · rintro ⟨nonempty, ascii⟩
    exact ⟨⟨cs, nonempty, ascii⟩, rfl⟩
  · rintro ⟨o, rfl⟩
    exact ⟨o.nonempty, o.ascii⟩

theorem isWord_iff {cs : List Char} :
    isWord cs = true ↔ cs ≠ [] ∧ ∀ c ∈ cs, AsciiAlphanumeric c := by
  simp only [isWord, Bool.and_eq_true, Bool.not_eq_true', List.isEmpty_eq_false_iff,
    List.all_eq_true, isAlphanum_iff]

/-- Ordinals with the dots before them. -/
def dotted (ordinals : List Ordinal) : List Char :=
  ordinals.flatMap fun o => '.' :: o.digits

theorem dotted_concat (ordinals : List Ordinal) (o : Ordinal) :
    dotted (ordinals ++ [o]) = dotted ordinals ++ '.' :: o.digits := by
  simp [dotted]

theorem count_dotted (ordinals : List Ordinal) :
    (dotted ordinals).count '.' = ordinals.length := by
  induction ordinals with
  | nil => rfl
  | cons o ordinals ih =>
    have none : o.digits.count '.' = 0 :=
      List.count_eq_zero.2 fun dot => (o.ascii '.' dot).ne_dot rfl
    rw [dotted, List.flatMap_cons, ← dotted, List.cons_append, List.count_cons_self,
      List.count_append, none, ih, Nat.zero_add, List.length_cons]

namespace Key

def text (key : Key) : String :=
  String.ofList (key.word ++ dotted key.ordinals)

@[simp] theorem toList_text (key : Key) : key.text.toList = key.word ++ dotted key.ordinals :=
  String.toList_ofList

/-- A key falls into its word and the digits of its ordinals. -/
theorem pieces_text (key : Key) :
    pieces '.' key.text.toList = key.word :: key.ordinals.map Ordinal.digits := by
  have joined : key.text.toList = join '.' (key.word :: key.ordinals.map Ordinal.digits) := by
    rw [toList_text, join_cons, List.flatMap_map, dotted]
  rw [joined, pieces_join (List.cons_ne_nil _ _)]
  refine List.forall_mem_cons.2 ⟨fun dot => (key.ascii '.' dot).ne_dot rfl, fun cs hcs dot => ?_⟩
  obtain ⟨o, -, rfl⟩ := List.mem_map.1 hcs
  exact (o.ascii '.' dot).ne_dot rfl

theorem text_injective : Function.Injective text := by
  intro key other same
  have cut : key.word :: key.ordinals.map Ordinal.digits =
      other.word :: other.ordinals.map Ordinal.digits := by
    rw [← pieces_text, ← pieces_text, same]
  obtain ⟨words, ordinals⟩ := List.cons.inj cut
  have digits_injective : Function.Injective Ordinal.digits := fun _ _ => Ordinal.ext
  exact Key.ext words (digits_injective.list_map ordinals)

theorem count_text (key : Key) : key.text.toList.count '.' = key.ordinals.length := by
  have none : key.word.count '.' = 0 :=
    List.count_eq_zero.2 fun dot => (key.ascii '.' dot).ne_dot rfl
  rw [toList_text, List.count_append, none, count_dotted, Nat.zero_add]

/-- The key one level below. -/
def child (key : Key) (o : Ordinal) : Key :=
  { key with ordinals := key.ordinals ++ [o] }

theorem text_child (key : Key) (o : Ordinal) :
    (key.child o).text = key.text ++ "." ++ String.ofList o.digits := by
  apply String.toList_injective
  simp [child, dotted_concat]

end Key

/-- The texts that are accepted as keys are those of keys. -/
theorem isKey_iff {text : String} : isKey text.toList = true ↔ ∃ key : Key, key.text = text := by
  constructor
  · intro h
    have whole := join_pieces '.' text.toList
    unfold isKey at h
    cases hp : pieces '.' text.toList with
    | nil => exact absurd hp (pieces_ne_nil '.' _)
    | cons word rest =>
      simp only [hp, Bool.and_eq_true, List.all_eq_true] at h
      obtain ⟨isWord, areOrdinals⟩ := h
      obtain ⟨nonempty, ascii⟩ := isWord_iff.1 isWord
      have parts : rest ∈ Set.range (List.map Ordinal.digits) := by
        rw [Set.range_list_map]
        exact fun cs hcs => isOrdinal_iff.1 (areOrdinals cs hcs)
      obtain ⟨ordinals, rfl⟩ := parts
      refine ⟨⟨word, nonempty, ascii, ordinals⟩, String.toList_injective ?_⟩
      rw [← whole, hp, join_cons, List.flatMap_map, Key.toList_text, dotted]
  · rintro ⟨key, rfl⟩
    have areOrdinals : ∀ cs ∈ key.ordinals.map Ordinal.digits, isOrdinal cs = true := by
      intro cs hcs
      obtain ⟨o, -, rfl⟩ := List.mem_map.1 hcs
      exact isOrdinal_iff.2 ⟨o, rfl⟩
    simp only [isKey, key.pieces_text, isWord_iff.2 ⟨key.nonempty, key.ascii⟩, Bool.true_and]
    exact List.all_eq_true.2 areOrdinals

/-! ## Identifiers -/

/-- A namespace and a key. -/
@[ext]
structure Parts where
  space : String
  nonempty : space ≠ ""
  key : Key

namespace Parts

def text (parts : Parts) : String :=
  parts.space ++ "-" ++ parts.key.text

/-- The identifier one level below. -/
def child (parts : Parts) (o : Ordinal) : Parts :=
  { parts with key := parts.key.child o }

theorem text_child (parts : Parts) (o : Ordinal) :
    (parts.child o).text = parts.text ++ "." ++ String.ofList o.digits := by
  simp only [text, child, Key.text_child, String.append_assoc]

@[simp] theorem split_text (parts : Parts) :
    split parts.text = some (parts.space, parts.key.text) :=
  split_eq_some_iff.2 ⟨rfl, parts.nonempty, isKey_iff.2 ⟨parts.key, rfl⟩⟩

theorem text_injective : Function.Injective text := by
  intro parts other same
  have cut : some (parts.space, parts.key.text) = some (other.space, other.key.text) := by
    rw [← split_text, ← split_text, same]
  obtain ⟨spaces, keys⟩ := Prod.mk.inj (Option.some.inj cut)
  exact Parts.ext spaces (Key.text_injective keys)

@[simp] theorem depth_text (parts : Parts) : depth parts.text = parts.key.ordinals.length := by
  simp only [depth, split_text, Key.count_text]

theorem depth_child (parts : Parts) (o : Ordinal) :
    depth (parts.child o).text = depth parts.text + 1 := by
  simp [child, Key.child]

/-- Parts lie above others of the same namespace whose key goes on with dotted ordinals. -/
def Above (parts other : Parts) : Prop :=
  parts.space = other.space ∧ ∃ ordinals ≠ [],
    other.key.text = parts.key.text ++ String.ofList (dotted ordinals)

theorem Above.depth_lt {parts other : Parts} (h : parts.Above other) :
    depth parts.text < depth other.text := by
  obtain ⟨-, ordinals, some, longer⟩ := h
  have same : other.key = { parts.key with ordinals := parts.key.ordinals ++ ordinals } := by
    apply Key.text_injective
    apply String.toList_injective
    simp [longer, dotted]
  have more := List.length_pos_iff.2 some
  simp only [depth_text, same, List.length_append]
  omega

end Parts

/-- An identifier splits into the namespace and the key of its parts. -/
theorem split_eq_some_iff_parts {id space key : String} : split id = some (space, key) ↔
    ∃ parts : Parts, parts.text = id ∧ parts.space = space ∧ parts.key.text = key := by
  constructor
  · intro h
    obtain ⟨rfl, some, whole⟩ := split_eq_some_iff.1 h
    obtain ⟨k, rfl⟩ := isKey_iff.1 whole
    exact ⟨⟨space, some, k⟩, rfl, rfl, rfl⟩
  · rintro ⟨parts, rfl, rfl, rfl⟩
    exact parts.split_text

/-- A namespace may hold any characters, and a key only some of ASCII. -/
example : split "web-\n٣-a3f8.1.2" = some ("web-\n٣", "a3f8.1.2") ∧ split "web-a3f8.٣" = none := by
  decide +kernel

/-- An identifier that does not split has no parts. -/
theorem split_eq_none_iff {id : String} : split id = none ↔ ¬ ∃ parts : Parts, parts.text = id := by
  constructor
  · rintro h ⟨parts, rfl⟩
    rw [parts.split_text] at h
    cases h
  · intro h
    cases hs : split id with
    | none => rfl
    | some cut =>
      obtain ⟨parts, whole, -⟩ := split_eq_some_iff_parts.1 hs
      exact absurd ⟨parts, whole⟩ h

theorem depth_of_split_eq_none {id : String} (h : split id = none) : depth id = 0 := by
  rw [depth, h]

/-- What has parts is as deep as its key, and all else lies at the top. -/
theorem depth_eq_iff {id : String} {n : Nat} : depth id = n ↔
    (∃ parts : Parts, parts.text = id ∧ parts.key.ordinals.length = n) ∨
      (n = 0 ∧ ¬ ∃ parts : Parts, parts.text = id) := by
  by_cases well : ∃ parts : Parts, parts.text = id
  · obtain ⟨parts, rfl⟩ := well
    simp only [Parts.depth_text, Parts.text_injective.eq_iff, exists_eq_left, exists_eq,
      not_true_eq_false, and_false, or_false]
  · rw [depth_of_split_eq_none (split_eq_none_iff.2 well)]
    constructor
    · rintro rfl
      exact .inr ⟨rfl, well⟩
    · rintro (⟨parts, whole, -⟩ | ⟨top, -⟩)
      · exact absurd ⟨parts, whole⟩ well
      · exact top.symm

/-- An identifier without parts is malformed. -/
theorem checkSpace_eq_malformed_iff {id expected : String} :
    checkSpace id expected = .error (.malformed id) ↔ ¬ ∃ parts : Parts, parts.text = id := by
  rw [← split_eq_none_iff, checkSpace]
  cases split id with
  | none => simp
  | some cut =>
    obtain ⟨found, key⟩ := cut
    by_cases same : found = expected <;> simp [same]

/-- An identifier is said to lie in another namespace if it does. -/
theorem checkSpace_eq_mismatch_iff {id expected found : String} :
    checkSpace id expected = .error (.mismatch id expected found) ↔
      found ≠ expected ∧ ∃ parts : Parts, parts.text = id ∧ parts.space = found := by
  constructor
  · intro h
    unfold checkSpace at h
    cases hs : split id with
    | none => simp [hs] at h
    | some cut =>
      obtain ⟨actual, key⟩ := cut
      obtain ⟨parts, whole, here, -⟩ := split_eq_some_iff_parts.1 hs
      simp only [hs] at h
      split at h
      · cases h
      · next other =>
        cases h
        exact ⟨other, parts, whole, here⟩
  · rintro ⟨other, parts, rfl, rfl⟩
    simp only [checkSpace, parts.split_text, if_neg other]

/-- Identifiers are exactly the texts of parts, each of one only. An identifier splits into its
namespace and its key. It is accepted in its own namespace; in any other it is said to lie in its
own, and what has no parts is malformed everywhere. An identifier is as deep as it has ordinals, and
with another dot and digits it lies in the same namespace, one level down. -/
theorem identifier_grammar :
    (∀ id space key, split id = some (space, key) ↔
      ∃ parts : Parts, parts.text = id ∧ parts.space = space ∧ parts.key.text = key) ∧
    Function.Injective Parts.text ∧
    (∀ id expected,
      (checkSpace id expected = .ok () ↔
        expected ≠ "" ∧ ∃ key : Key, id = expected ++ "-" ++ key.text) ∧
      (checkSpace id expected = .error (.malformed id) ↔ ¬ ∃ parts : Parts, parts.text = id) ∧
      ∀ found, checkSpace id expected = .error (.mismatch id expected found) ↔
        found ≠ expected ∧ ∃ parts : Parts, parts.text = id ∧ parts.space = found) ∧
    (∀ id n, depth id = n ↔
      (∃ parts : Parts, parts.text = id ∧ parts.key.ordinals.length = n) ∨
        (n = 0 ∧ ¬ ∃ parts : Parts, parts.text = id)) ∧
    ∀ (parts : Parts) (o : Ordinal), ∃ below : Parts,
      below.text = parts.text ++ "." ++ String.ofList o.digits ∧
        below.space = parts.space ∧ below.key.ordinals = parts.key.ordinals ++ [o] ∧
        depth below.text = depth parts.text + 1 := by
  refine ⟨fun _ _ _ => split_eq_some_iff_parts, Parts.text_injective, fun id expected => ?_,
    fun _ _ => depth_eq_iff, fun parts o => ?_⟩
  · refine ⟨?_, checkSpace_eq_malformed_iff, fun _ => checkSpace_eq_mismatch_iff⟩
    rw [checkSpace_eq_ok_iff]
    simp only [isKey_iff]
    refine and_congr_right fun _ => ⟨?_, ?_⟩
    · rintro ⟨_, ⟨key, rfl⟩, whole⟩
      exact ⟨key, whole⟩
    · rintro ⟨key, whole⟩
      exact ⟨key.text, ⟨key, rfl⟩, whole⟩
  · exact ⟨parts.child o, parts.text_child o, rfl, rfl, parts.depth_child o⟩

end IssueIntake.Identifier
