import IssueIntake.Json.Reader
import IssueIntake.Proofs.Json.Scan
import IssueIntake.Proofs.Json.Shape
/-!
# Values in compact form are read back

Reading items or members is a fold over them (`Layout.foldItems_items`,
`Layout.foldMembers_members`), whatever is read of each and whatever blanks stand between them. So a
value with exact numbers in compact form is read back as it was written if it nests as deep as the
reader allows, and is too deep if it nests deeper (`readValue_chars`).
-/

namespace IssueIntake.Json

/-! ## Heads -/

/-- What is written of a value after its head. -/
def body : Json → List Char
  | array items => itemChars items
  | object members => memberChars members
  | _ => []

theorem skipGap_cons {c : Char} {cs : List Char} (h : isGap c = false) :
    skipGap (c :: cs) = c :: cs := by
  simp [skipGap, h]

/-- The first digit or sign of a number. -/
theorem wholeChars_eq_cons (n : Int) :
    ∃ c cs, wholeChars n = c :: cs ∧ (c = '-' ∨ c.isDigit = true) := by
  unfold wholeChars
  split
  · exact ⟨'-', _, rfl, .inl rfl⟩
  · obtain ⟨c, cs, h⟩ := List.exists_cons_of_ne_nil (Nat.toDigits_ne_nil (n := n.natAbs) (b := 10))
    refine ⟨c, cs, by rw [h]; rfl, .inr (Decimal.isDigit_of_mem_toDigits (n := n.natAbs) ?_)⟩
    rw [h]
    exact List.mem_cons_self

theorem readHead_string (s : String) (rest : List Char) :
    readHead (quote s ++ rest) = .ok (.string s, rest) := by
  have whole : quote s ++ rest = '\x22' :: (s.toList.flatMap escape ++ '\x22' :: rest) := by
    simp [quote]
  rw [whole, readHead, skipGap_cons (by decide)]
  simp only [readText_quote]
  rfl

theorem readHead_whole {n : Int}
    (fits : -9223372036854775808 ≤ n ∧ n ≤ 18446744073709551615) {rest : List Char}
    (ends : EndsNumber rest) :
    readHead (wholeChars n ++ rest) = .ok (.number (.whole n), rest) := by
  have small : n.natAbs ≤ maxSignificand := by
    unfold maxSignificand
    omega
  unfold wholeChars
  by_cases negative : n < 0
  · have number : wholeNumber true n.natAbs = .whole n := by
      have nonzero : n.natAbs ≠ 0 := by omega
      have large : ¬ 9223372036854775808 < n.natAbs := by omega
      simp only [wholeNumber, Bool.not_true, Bool.false_eq_true, if_false, nonzero, large,
        decide_false, Bool.or_self, Number.whole.injEq]
      omega
    rw [if_pos negative, List.append_assoc, List.singleton_append, readHead,
      skipGap_cons (by decide)]
    simp only [readNumber_toDigits small ends, number]
    rfl
  · have number : wholeNumber false n.natAbs = .whole n := by
      simp only [wholeNumber, Bool.not_false, if_true, Number.whole.injEq]
      omega
    obtain ⟨c, cs, h⟩ := List.exists_cons_of_ne_nil (Nat.toDigits_ne_nil (n := n.natAbs) (b := 10))
    have digit : c.isDigit = true :=
      Decimal.isDigit_of_mem_toDigits (n := n.natAbs) (h ▸ List.mem_cons_self)
    have read : readNumber false (Nat.toDigits 10 n.natAbs ++ rest) = _ :=
      readNumber_toDigits small ends
    rw [h, List.cons_append] at read
    rw [if_neg negative, List.nil_append, h, List.cons_append, readHead,
      skipGap_cons (isGap_of_isDigit digit)]
    simp [ne_of_isDigit digit, digit, read, number, Except.map]

/-- The head of a value is read, and what is left is the rest of the value. -/
theorem readHead_chars {v : Json} (exact : v.Exact) {rest : List Char} (ends : EndsNumber rest) :
    readHead (v.chars ++ rest) = .ok (v.head, v.body ++ rest) := by
  cases v with
  | null => rfl
  | bool b => cases b <;> rfl
  | number n =>
    cases n with
    | whole n => exact readHead_whole exact ends
    | double x => exact exact.elim
  | string s => exact readHead_string s rest
  | array items => rfl
  | object members => rfl

/-- No value begins with a blank or a closing bracket. -/
theorem chars_eq_cons {v : Json} (exact : v.Exact) :
    ∃ c cs, v.chars = c :: cs ∧ isGap c = false ∧ c ≠ ']' := by
  cases v with
  | null => exact ⟨'n', _, rfl, by decide, by decide⟩
  | bool b =>
    cases b with
    | true => exact ⟨'t', _, rfl, by decide, by decide⟩
    | false => exact ⟨'f', _, rfl, by decide, by decide⟩
  | number n =>
    cases n with
    | whole n =>
      obtain ⟨c, cs, h, rfl | digit⟩ := wholeChars_eq_cons n
      · exact ⟨'-', cs, h, by decide, by decide⟩
      · exact ⟨c, cs, h, isGap_of_isDigit digit, ne_of_isDigit digit (by decide)⟩
    | double x => exact exact.elim
  | string s => exact ⟨'\x22', _, rfl, by decide, by decide⟩
  | array items => exact ⟨'[', _, rfl, by decide, by decide⟩
  | object members => exact ⟨'\x7b', _, rfl, by decide, by decide⟩

/-! ## Layouts -/

theorem skipGap_append {gap : List Char} (blank : ∀ c ∈ gap, isGap c = true) (cs : List Char) :
    skipGap (gap ++ cs) = skipGap cs :=
  List.dropWhile_append_of_pos blank

/-- Blanks do not carry a number on. -/
theorem EndsNumber.gap_append {gap cs : List Char} (blank : ∀ c ∈ gap, isGap c = true)
    (ends : EndsNumber cs) : EndsNumber (gap ++ cs) := by
  cases gap with
  | nil => exact ends
  | cons c gap =>
    have here := blank c List.mem_cons_self
    simp only [isGap, Bool.or_eq_true, decide_eq_true_eq] at here
    refine .of_cons _ ?_
    obtain ((rfl | rfl) | rfl) | rfl := here <;> decide

/-- What stands inside an array or object: how a value is written, and the blanks before each item
or member and before the closing bracket. -/
structure Layout where
  write : Json → List Char
  inner : List Char
  outer : List Char
  inner_blank : ∀ c ∈ inner, isGap c = true
  outer_blank : ∀ c ∈ outer, isGap c = true

namespace Layout

/-- The layout of the compact form. -/
def compact : Layout where
  write := chars
  inner := []
  outer := []
  inner_blank := List.forall_mem_nil _
  outer_blank := List.forall_mem_nil _

@[simp] theorem compact_write : compact.write = chars := rfl

@[simp] theorem compact_inner : compact.inner = [] := rfl

@[simp] theorem compact_outer : compact.outer = [] := rfl

variable {σ : Type} {l : Layout}

/-! ## Items -/

/-- The items of an array behind one of them, up to its end. -/
def itemTail (l : Layout) : List Json → List Char
  | [] => l.outer ++ [']']
  | v :: vs => ',' :: l.inner ++ l.write v ++ l.itemTail vs

/-- The items of an array up to its end. -/
def items (l : Layout) : List Json → List Char
  | [] => [']']
  | v :: vs => l.inner ++ l.write v ++ l.itemTail vs

/-- What is written for a value can be told from a blank and from a closing bracket. -/
def Starts (l : Layout) (v : Json) : Prop :=
  ∃ c cs, l.write v = c :: cs ∧ isGap c = false ∧ c ≠ ']'

/-- Reading an item as it is written is a step of the state. -/
def ReadsItem (l : Layout) (item : σ → List Char → Except ReadError (σ × List Char))
    (step : σ → Json → Except ReadError σ) (v : Json) : Prop :=
  ∀ s rest, EndsNumber rest → item s (l.write v ++ rest) = (step s v).map (·, rest)

variable {item : σ → List Char → Except ReadError (σ × List Char)}
  {step : σ → Json → Except ReadError σ}

theorem endsNumber_itemTail (l : Layout) (vs : List Json) (rest : List Char) :
    EndsNumber (l.itemTail vs ++ rest) := by
  cases vs with
  | nil =>
    rw [itemTail, List.append_assoc]
    exact .gap_append l.outer_blank (.of_cons _ (by decide))
  | cons v vs => exact .of_cons _ (by decide)

theorem length_lt_itemTail (l : Layout) (vs : List Json) : vs.length < (l.itemTail vs).length := by
  induction vs with
  | nil => simp [itemTail]
  | cons v vs ih =>
    simp only [itemTail, List.length_append, List.length_cons]
    omega

theorem nextItem_items {v : Json} (starts : l.Starts v) (rest : List Char) :
    nextItem true (l.inner ++ l.write v ++ rest) = .ok (.more (l.write v ++ rest)) := by
  obtain ⟨c, cs, hc, gap, close⟩ := starts
  rw [List.append_assoc, nextItem, skipGap_append l.inner_blank, hc, List.cons_append,
    skipGap_cons gap]
  simp [close]

theorem nextItem_itemTail {v : Json} (starts : l.Starts v) (rest : List Char) :
    nextItem false (',' :: l.inner ++ l.write v ++ rest) = .ok (.more (l.write v ++ rest)) := by
  obtain ⟨c, cs, hc, gap, close⟩ := starts
  rw [List.append_assoc, List.cons_append, nextItem,
    skipGap_cons (show isGap ',' = false by decide)]
  simp only [skipGap_append l.inner_blank, hc, List.cons_append, skipGap_cons gap]
  simp [close]

theorem nextItem_end (l : Layout) (rest : List Char) :
    nextItem false (l.outer ++ [']'] ++ rest) = .ok (.done rest) := by
  rw [List.append_assoc, nextItem, skipGap_append l.outer_blank]
  rfl

theorem foldItems_itemTail {fuel : Nat} {vs : List Json} (enough : vs.length < fuel)
    (starts : ∀ v ∈ vs, l.Starts v) (reads : ∀ v ∈ vs, l.ReadsItem item step v) (s : σ)
    (rest : List Char) :
    foldItems item fuel false s (l.itemTail vs ++ rest) = (vs.foldlM step s).map (·, rest) := by
  induction vs generalizing fuel s with
  | nil =>
    obtain ⟨fuel, rfl⟩ := Nat.exists_eq_add_one.2 enough
    rw [itemTail, foldItems, nextItem_end]
    rfl
  | cons v vs ih =>
    obtain ⟨fuel, rfl⟩ := Nat.exists_eq_add_one.2 (Nat.zero_lt_of_lt enough)
    have first := reads v List.mem_cons_self s _ (l.endsNumber_itemTail vs rest)
    rw [itemTail, List.append_assoc, foldItems, nextItem_itemTail (starts v List.mem_cons_self)]
    simp only [bind, Except.bind, first, List.foldlM_cons]
    cases step s v with
    | error e => rfl
    | ok s =>
      exact ih (by simpa using enough) (fun w hw => starts w (List.mem_cons_of_mem _ hw))
        (fun w hw => reads w (List.mem_cons_of_mem _ hw)) s

/-- Reading the items of an array is a fold over them. -/
theorem foldItems_items {vs : List Json} (starts : ∀ v ∈ vs, l.Starts v)
    (reads : ∀ v ∈ vs, l.ReadsItem item step v) (s : σ) (rest : List Char) :
    foldItems item ((l.items vs ++ rest).length + 1) true s (l.items vs ++ rest) =
      (vs.foldlM step s).map (·, rest) := by
  cases vs with
  | nil => rfl
  | cons v vs =>
    have enough : vs.length < (l.items (v :: vs) ++ rest).length := by
      have := l.length_lt_itemTail vs
      simp only [items, List.length_append]
      omega
    have first := reads v List.mem_cons_self s _ (l.endsNumber_itemTail vs rest)
    generalize (l.items (v :: vs) ++ rest).length = fuel at enough ⊢
    rw [items, List.append_assoc, foldItems, nextItem_items (starts v List.mem_cons_self)]
    simp only [bind, Except.bind, first, List.foldlM_cons]
    cases step s v with
    | error e => rfl
    | ok s =>
      exact foldItems_itemTail enough (fun w hw => starts w (List.mem_cons_of_mem _ hw))
        (fun w hw => reads w (List.mem_cons_of_mem _ hw)) s rest

/-! ## Members -/

/-- The members of an object behind one of them, up to its end. -/
def memberTail (l : Layout) : List (String × Json) → List Char
  | [] => l.outer ++ ['\x7d']
  | (k, v) :: ms => ',' :: l.inner ++ quote k ++ ':' :: l.write v ++ l.memberTail ms

/-- The members of an object up to its end. -/
def members (l : Layout) : List (String × Json) → List Char
  | [] => ['\x7d']
  | (k, v) :: ms => l.inner ++ quote k ++ ':' :: l.write v ++ l.memberTail ms

/-- Reading the value of a member as it is written, from the colon on, is a step of the state. -/
def ReadsMember (l : Layout)
    (member : σ → String → List Char → Except ReadError (σ × List Char))
    (step : σ → String × Json → Except ReadError σ) (m : String × Json) : Prop :=
  ∀ s rest, EndsNumber rest →
    member s m.1 (':' :: (l.write m.2 ++ rest)) = (step s m).map (·, rest)

variable {member : σ → String → List Char → Except ReadError (σ × List Char)}
  {take : σ → String × Json → Except ReadError σ}

theorem endsNumber_memberTail (l : Layout) (ms : List (String × Json)) (rest : List Char) :
    EndsNumber (l.memberTail ms ++ rest) := by
  cases ms with
  | nil =>
    rw [memberTail, List.append_assoc]
    exact .gap_append l.outer_blank (.of_cons _ (by decide))
  | cons m ms => exact .of_cons _ (by decide)

theorem length_lt_memberTail (l : Layout) (ms : List (String × Json)) :
    ms.length < (l.memberTail ms).length := by
  induction ms with
  | nil => simp [memberTail]
  | cons m ms ih =>
    simp only [memberTail, List.length_append, List.length_cons]
    omega

/-- What follows the quote before a key. -/
def afterQuote (l : Layout) (k : String) (v : Json) (rest : List Char) : List Char :=
  k.toList.flatMap escape ++ '\x22' :: ':' :: (l.write v ++ rest)

theorem nextMember_members (l : Layout) (k : String) (v : Json) (rest : List Char) :
    nextMember true (l.inner ++ quote k ++ ':' :: l.write v ++ rest) =
      .ok (.more (l.afterQuote k v rest)) := by
  simp only [List.append_assoc, nextMember, skipGap_append l.inner_blank]
  simp [afterQuote, quote, skipGap_cons (show isGap '\x22' = false by decide), openKey]

theorem nextMember_memberTail (l : Layout) (k : String) (v : Json) (rest : List Char) :
    nextMember false (',' :: l.inner ++ quote k ++ ':' :: l.write v ++ rest) =
      .ok (.more (l.afterQuote k v rest)) := by
  simp only [List.append_assoc, List.cons_append, nextMember,
    skipGap_cons (show isGap ',' = false by decide), skipGap_append l.inner_blank]
  simp [afterQuote, quote, skipGap_cons (show isGap '\x22' = false by decide), openKey]

theorem nextMember_end (l : Layout) (rest : List Char) :
    nextMember false (l.outer ++ ['\x7d'] ++ rest) = .ok (.done rest) := by
  rw [List.append_assoc, nextMember, skipGap_append l.outer_blank]
  rfl

theorem foldMembers_memberTail {fuel : Nat} {ms : List (String × Json)}
    (enough : ms.length < fuel) (reads : ∀ m ∈ ms, l.ReadsMember member take m) (s : σ)
    (rest : List Char) :
    foldMembers member fuel false s (l.memberTail ms ++ rest) =
      (ms.foldlM take s).map (·, rest) := by
  induction ms generalizing fuel s with
  | nil =>
    obtain ⟨fuel, rfl⟩ := Nat.exists_eq_add_one.2 enough
    rw [memberTail, foldMembers, nextMember_end]
    rfl
  | cons m ms ih =>
    obtain ⟨k, v⟩ := m
    obtain ⟨fuel, rfl⟩ := Nat.exists_eq_add_one.2 (Nat.zero_lt_of_lt enough)
    have first := reads (k, v) List.mem_cons_self s _ (l.endsNumber_memberTail ms rest)
    rw [memberTail, List.append_assoc, foldMembers, nextMember_memberTail]
    simp only [bind, Except.bind, afterQuote, readText_quote, first, List.foldlM_cons]
    cases take s (k, v) with
    | error e => rfl
    | ok s =>
      exact ih (by simpa using enough) (fun n hn => reads n (List.mem_cons_of_mem _ hn)) s

/-- Reading the members of an object is a fold over them. -/
theorem foldMembers_members {ms : List (String × Json)}
    (reads : ∀ m ∈ ms, l.ReadsMember member take m) (s : σ) (rest : List Char) :
    foldMembers member ((l.members ms ++ rest).length + 1) true s (l.members ms ++ rest) =
      (ms.foldlM take s).map (·, rest) := by
  cases ms with
  | nil => rfl
  | cons m ms =>
    obtain ⟨k, v⟩ := m
    have enough : ms.length < (l.members ((k, v) :: ms) ++ rest).length := by
      have := l.length_lt_memberTail ms
      simp only [members, List.length_append]
      omega
    have first := reads (k, v) List.mem_cons_self s _ (l.endsNumber_memberTail ms rest)
    generalize (l.members ((k, v) :: ms) ++ rest).length = fuel at enough ⊢
    rw [members, List.append_assoc, foldMembers, nextMember_members]
    simp only [bind, Except.bind, afterQuote, readText_quote, first, List.foldlM_cons]
    cases take s (k, v) with
    | error e => rfl
    | ok s =>
      exact foldMembers_memberTail enough (fun n hn => reads n (List.mem_cons_of_mem _ hn)) s rest

end Layout

/-! ## The compact form -/

open Layout

theorem itemChars_eq (vs : List Json) : itemChars vs = compact.items vs := by
  cases vs with
  | nil => rfl
  | cons v vs =>
    induction vs generalizing v with
    | nil => simp [itemChars, items, itemTail]
    | cons w vs ih => simp [itemChars, items, itemTail, ih]

theorem memberChars_eq (ms : List (String × Json)) : memberChars ms = compact.members ms := by
  cases ms with
  | nil => rfl
  | cons m ms =>
    induction ms generalizing m with
    | nil => simp [memberChars, members, memberTail]
    | cons n ms ih => simp [memberChars, members, memberTail, ih]

/-- Reading the members of an object in compact form is a fold over them. -/
theorem foldMembers_memberChars {σ : Type} {ms : List (String × Json)}
    {member : σ → String → List Char → Except ReadError (σ × List Char)}
    {take : σ → String × Json → Except ReadError σ}
    (reads : ∀ m ∈ ms, compact.ReadsMember member take m) (s : σ) (rest : List Char) :
    foldMembers member ((memberChars ms ++ rest).length + 1) true s (memberChars ms ++ rest) =
      (ms.foldlM take s).map (·, rest) := by
  rw [memberChars_eq]
  exact foldMembers_members reads s rest

/-! ## Values -/

/-- Keeps what is read, unless it nests too deep. -/
def keepWithin (levels : Nat) (v : Json) {α : Type} (kept : α) : Except ReadError α :=
  if v.levels ≤ levels then .ok kept else .error .tooDeep

theorem foldlM_keepWithin_items (levels : Nat) (vs before : List Json) :
    vs.foldlM (fun before v => keepWithin levels v (v :: before)) before =
      if itemLevels vs ≤ levels then .ok (vs.reverse ++ before) else .error .tooDeep := by
  induction vs generalizing before with
  | nil => simp [itemLevels, pure, Except.pure]
  | cons v vs ih =>
    rw [List.foldlM_cons]
    by_cases here : v.levels ≤ levels
    · have kept : keepWithin levels v (v :: before) = .ok (v :: before) := if_pos here
      simp only [kept, bind, Except.bind, ih, itemLevels, Nat.max_le, here, true_and,
        List.reverse_cons, List.append_assoc, List.singleton_append]
    · have deep : keepWithin levels v (v :: before) = .error .tooDeep := if_neg here
      simp only [deep, bind, Except.bind, itemLevels, Nat.max_le, here, false_and, if_false]

theorem foldlM_keepWithin_members (levels : Nat) (ms before : List (String × Json)) :
    ms.foldlM (fun before m => keepWithin levels m.2 (m :: before)) before =
      if memberLevels ms ≤ levels then .ok (ms.reverse ++ before) else .error .tooDeep := by
  induction ms generalizing before with
  | nil => simp [memberLevels, pure, Except.pure]
  | cons m ms ih =>
    obtain ⟨k, v⟩ := m
    rw [List.foldlM_cons]
    by_cases here : v.levels ≤ levels
    · have kept : keepWithin levels v ((k, v) :: before) = .ok ((k, v) :: before) := if_pos here
      simp only [kept, bind, Except.bind, ih, memberLevels, Nat.max_le, here, true_and,
        List.reverse_cons, List.append_assoc, List.singleton_append]
    · have deep : keepWithin levels v ((k, v) :: before) = .error .tooDeep := if_neg here
      simp only [deep, bind, Except.bind, memberLevels, Nat.max_le, here, false_and, if_false]

/-- A value is read by its head and what is left of it, whatever is done with it then. -/
theorem readValue_bind {α : Type} (levels : Nat) (cs : List Char)
    (next : Json × List Char → Except ReadError α) :
    (do let front ← readHead cs
        let read ← finish levels front.1 front.2
        next read) = readValue levels cs >>= next := by
  rw [readValue]
  cases readHead cs <;> rfl

theorem keepWithin_bind {α β : Type} (levels : Nat) (v : Json) (kept : α)
    (next : α → Except ReadError β) :
    keepWithin levels v kept >>= next =
      if v.levels ≤ levels then next kept else .error .tooDeep := by
  unfold keepWithin
  split <;> rfl

theorem keepWithin_map {α β : Type} (levels : Nat) (v : Json) (kept : α) (f : α → β) :
    (keepWithin levels v kept).map f = keepWithin levels v (f kept) := by
  unfold keepWithin
  split <;> rfl

/-- An array is read back from its items if each of these is. -/
theorem finish_items {l : Layout} {levels : Nat} {items : List Json}
    (starts : ∀ v ∈ items, l.Starts v)
    (reads : ∀ v ∈ items, ∀ rest, EndsNumber rest →
      readValue levels (l.write v ++ rest) = keepWithin levels v (v, rest)) (rest : List Char) :
    finish (levels + 1) .openArray (l.items items ++ rest) =
      keepWithin (levels + 1) (array items) (array items, rest) := by
  have steps : ∀ v ∈ items, l.ReadsItem
      (fun before cs => do
        let front ← readHead cs
        let read ← finish levels front.1 front.2
        return (read.1 :: before, read.2))
      (fun before v => keepWithin levels v (v :: before)) v := by
    intro v hv before rest ends
    dsimp only
    rw [readValue_bind levels _ fun read => pure (read.1 :: before, read.2), reads v hv rest ends,
      keepWithin_bind, keepWithin_map]
    rfl
  rw [finish, foldItems_items starts steps, foldlM_keepWithin_items]
  simp only [keepWithin, Json.levels, Nat.add_le_add_iff_right]
  split <;> simp [Except.map, bind, Except.bind, pure, Except.pure]

/-- An object is read back from its members if the value of each is. -/
theorem finish_members {l : Layout} {levels : Nat} {members : List (String × Json)}
    (reads : ∀ m ∈ members, ∀ rest, EndsNumber rest →
      readValue levels (l.write m.2 ++ rest) = keepWithin levels m.2 (m.2, rest))
    (rest : List Char) :
    finish (levels + 1) .openObject (l.members members ++ rest) =
      keepWithin (levels + 1) (object members) (object members, rest) := by
  have steps : ∀ m ∈ members, l.ReadsMember
      (fun before key cs => do
        let front ← readHead (← colon cs)
        let read ← finish levels front.1 front.2
        return ((key, read.1) :: before, read.2))
      (fun before m => keepWithin levels m.2 (m :: before)) m := by
    intro m hm before rest ends
    -- The colon is passed by evaluation.
    have read := readValue_bind levels (l.write m.2 ++ rest) fun read =>
      pure ((m.1, read.1) :: before, read.2)
    rw [reads m hm rest ends, keepWithin_bind] at read
    rw [keepWithin_map]
    exact read
  rw [finish, foldMembers_members steps, foldlM_keepWithin_members]
  simp only [keepWithin, Json.levels, Nat.add_le_add_iff_right]
  split <;> simp [Except.map, bind, Except.bind, pure, Except.pure]

/-- What is written of a value after its head is read back, unless the value nests too deep. -/
theorem finish_body {v : Json} (exact : v.Exact) (levels : Nat) (rest : List Char) :
    finish levels v.head (v.body ++ rest) = keepWithin levels v (v, rest) := by
  induction v using induction generalizing levels rest with
  | null => cases levels <;> rfl
  | bool b => cases levels <;> rfl
  | number n => cases levels <;> rfl
  | string s => cases levels <;> rfl
  | array items ih =>
    cases levels with
    | zero => rfl
    | succ levels =>
      have exact := numbers_array.1 exact
      have starts : ∀ v ∈ items, compact.Starts v := fun v hv => chars_eq_cons (exact v hv)
      rw [head, body, itemChars_eq]
      refine finish_items starts (fun v hv rest ends => ?_) rest
      rw [readValue, compact_write, readHead_chars (exact v hv) ends]
      exact ih v hv (exact v hv) levels rest
  | object members ih =>
    cases levels with
    | zero => rfl
    | succ levels =>
      have exact := numbers_object.1 exact
      rw [head, body, memberChars_eq]
      refine finish_members (fun m hm rest ends => ?_) rest
      rw [readValue, compact_write, readHead_chars (exact m hm) ends]
      exact ih m hm (exact m hm) levels rest

/-- A value in compact form is read back, unless it nests too deep. -/
theorem readValue_chars {v : Json} (exact : v.Exact) (levels : Nat) {rest : List Char}
    (ends : EndsNumber rest) :
    readValue levels (v.chars ++ rest) = keepWithin levels v (v, rest) := by
  rw [readValue, readHead_chars exact ends]
  exact finish_body exact levels rest

/-- A text that holds a value in compact form is read, unless the value nests too deep. -/
theorem readAll_text {v : Json} (exact : v.Exact) (levels : Nat) :
    readAll (readValue levels) v.text.toList = keepWithin levels v v := by
  have read := readValue_chars exact levels endsNumber_nil
  rw [List.append_nil] at read
  rw [text, String.toList_ofList, readAll, read]
  by_cases shallow : v.levels ≤ levels
  · simp only [keepWithin, if_pos shallow]
    rfl
  · simp only [keepWithin, if_neg shallow]
    rfl

end IssueIntake.Json
