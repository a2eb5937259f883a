import IssueIntake.Proofs.Json.RoundTrip
/-!
# The compact form is one line

No line feed stands in the compact form of a value (`lineFeed_not_mem_chars`): those in texts are
written with a backslash.
-/

namespace IssueIntake.Json

/-! ## Texts and numbers -/

theorem lineFeed_not_mem_escape (c : Char) : '\n' ∉ escape c := by
  have digit : ∀ d < 16, '\n' ≠ Nat.digitChar d := by decide
  unfold escape
  repeat' split
  -- Before control characters that have a number come seven characters that have a letter.
  iterate 7 (next => decide)
  · next control =>
    have high : c.toNat / 16 < 16 := by omega
    have low : c.toNat % 16 < 16 := Nat.mod_lt _ (by decide)
    simp [digit _ high, digit _ low]
  · next feed _ _ _ => simpa using Ne.symm feed

theorem lineFeed_not_mem_quote (s : String) : '\n' ∉ quote s := by
  simp [quote, lineFeed_not_mem_escape]

theorem lineFeed_not_mem_wholeChars (n : Int) : '\n' ∉ wholeChars n := by
  intro h
  rcases List.mem_append.1 h with sign | digit
  · split at sign <;> simp at sign
  · exact absurd (Decimal.isDigit_of_mem_toDigits digit) (by decide)

/-! ## Items and members -/

theorem lineFeed_not_mem_itemChars {vs : List Json} (h : ∀ v ∈ vs, '\n' ∉ v.chars) :
    '\n' ∉ itemChars vs := by
  have tail : ∀ ws : List Json, (∀ v ∈ ws, '\n' ∉ v.chars) → '\n' ∉ Layout.compact.itemTail ws := by
    intro ws
    induction ws with
    | nil => intro _; decide
    | cons w ws ih =>
      intro hw
      rw [List.forall_mem_cons] at hw
      simp [Layout.itemTail, hw.1, ih hw.2]
  cases vs with
  | nil => decide
  | cons v vs =>
    rw [List.forall_mem_cons] at h
    simp [itemChars_eq, Layout.items, h.1, tail vs h.2]

theorem lineFeed_not_mem_memberChars {ms : List (String × Json)}
    (h : ∀ m ∈ ms, '\n' ∉ m.2.chars) : '\n' ∉ memberChars ms := by
  have tail : ∀ ns : List (String × Json), (∀ m ∈ ns, '\n' ∉ m.2.chars) →
      '\n' ∉ Layout.compact.memberTail ns := by
    intro ns
    induction ns with
    | nil => intro _; decide
    | cons n ns ih =>
      intro hn
      rw [List.forall_mem_cons] at hn
      simp [Layout.memberTail, lineFeed_not_mem_quote, hn.1, ih hn.2]
  cases ms with
  | nil => decide
  | cons m ms =>
    obtain ⟨k, v⟩ := m
    rw [List.forall_mem_cons] at h
    simp [memberChars_eq, Layout.members, lineFeed_not_mem_quote, h.1, tail ms h.2]

/-- The members of an object end with its bracket. -/
theorem getLast?_memberChars (ms : List (String × Json)) :
    (memberChars ms).getLast? = some '\x7d' := by
  have tail : ∀ ns : List (String × Json),
      (Layout.compact.memberTail ns).getLast? = some '\x7d' := by
    intro ns
    induction ns with
    | nil => rfl
    | cons n ns ih => rw [Layout.memberTail, List.getLast?_append, ih, Option.some_or]
  cases ms with
  | nil => rfl
  | cons m ms =>
    rw [memberChars_eq, Layout.members, List.getLast?_append, tail, Option.some_or]

/-! ## Values -/

/-- The compact form of a value whose numbers are exact is one line. -/
theorem lineFeed_not_mem_chars {v : Json} (exact : v.Exact) : '\n' ∉ v.chars := by
  induction v using induction with
  | null => decide
  | bool b => cases b <;> decide
  | number n =>
    cases n with
    | whole n => exact lineFeed_not_mem_wholeChars n
    | double x => exact exact.elim
  | string s => exact lineFeed_not_mem_quote s
  | array items ih =>
    have inside := numbers_array.1 exact
    simpa [chars] using lineFeed_not_mem_itemChars fun v hv => ih v hv (inside v hv)
  | object members ih =>
    have inside := numbers_object.1 exact
    simpa [chars] using lineFeed_not_mem_memberChars fun m hm => ih m hm (inside m hm)

end IssueIntake.Json
