import TokenNet.Proofs.Spellings

namespace TokenNet
namespace Json

/-!
# Texts of JSON values

A value whose numbers are decimal and whose strings are spelled texts (`Canonical`) is read back from
what is written for it, be it in one line (`parse?_compact`) or spread over lines (`parse?_pretty`).
So no two of them have the same text.

The argument goes along the value.  Each part is read off the front of what is left of the text,
whatever stands behind it, as long as that cannot be more of a number (`Reads`); items and members
are read up to the closing bracket or brace (`ReadsItems`, `ReadsMembers`).  White space between the
parts does not matter, which is why both ways of writing go through the same lemmas.
-/

/-- The numbers of a value are decimal, its strings and keys are spelled texts. -/
inductive Canonical : Json → Prop where
  /-- The value `null`. -/
  | null : Canonical .null
  /-- A truth value. -/
  | bool (value : Bool) : Canonical (.bool value)
  /-- A decimal number. -/
  | number (n : Nat) : Canonical (.ofNat n)
  /-- The spelling of a text. -/
  | string (text : List Char) : Canonical (.string (escape text))
  /-- A list of such values. -/
  | array {items : List Json} (hItems : ∀ item ∈ items, Canonical item) : Canonical (.array items)
  /-- Members whose keys are spelled texts and whose values are such values. -/
  | object {members : List (List Char × Json)}
      (hKeys : ∀ member ∈ members, ∃ text, member.1 = escape text)
      (hValues : ∀ member ∈ members, Canonical member.2) : Canonical (.object members)

/-- Wherever the text stands, the value is read off it. -/
def Reads (json : Json) (text : List Char) : Prop :=
  ∀ ⦃fuel : Nat⦄ ⦃rest : List Char⦄, text.length < fuel → EndsNumber rest →
    parseValue? fuel (text ++ rest) = some (json, rest)

/-- Wherever the text stands before a closing bracket, the items are read off it. -/
def ReadsItems (items : List Json) (text : List Char) : Prop :=
  ∀ ⦃fuel : Nat⦄ ⦃rest : List Char⦄, text.length + 1 < fuel →
    parseItems? fuel (text ++ ']' :: rest) = some (items, rest)

/-- Wherever the text stands before a closing brace, the members are read off it. -/
def ReadsMembers (members : List (List Char × Json)) (text : List Char) : Prop :=
  ∀ ⦃fuel : Nat⦄ ⦃rest : List Char⦄, text.length + 1 < fuel →
    parseMembers? fuel (text ++ '\x7d' :: rest) = some (members, rest)

/-- Nothing but white space. -/
def Blank (space : List Char) : Prop := ∀ c ∈ space, isSpace c = true

/-! ### White space -/

section Space

variable {space text : List Char}

theorem skipSpace_cons {c : Char} (hSpace : isSpace c = false) (text : List Char) :
    skipSpace (c :: text) = c :: text :=
  List.dropWhile_cons_of_neg (by simp [hSpace])

theorem skipSpace_append (hBlank : Blank space) (text : List Char) :
    skipSpace (space ++ text) = skipSpace text :=
  List.dropWhile_append_of_pos hBlank

theorem isSpace_of_isDigit {c : Char} (hDigit : Text.isDigit c = true) : isSpace c = false := by
  have hNot := ne_of_isDigit hDigit
  simp [isSpace, hNot ' ' rfl, hNot '\n' rfl, hNot '\t' rfl,
    hNot '\r' rfl]

theorem endsNumber_nil : EndsNumber [] := by
  rintro c ⟨⟩

theorem endsNumber_cons {c : Char}
    (hEnds : isSpace c = true ∨ c = ',' ∨ c = ']' ∨ c = '\x7d') (rest : List Char) :
    EndsNumber (c :: rest) := by
  rintro _ ⟨⟩
  rcases hEnds with hSpace | rfl | rfl | rfl
  · simp only [isSpace, Bool.or_eq_true, decide_eq_true_eq] at hSpace
    rcases hSpace with ((rfl | rfl) | rfl) | rfl <;> decide
  all_goals decide

theorem endsNumber_append (hBlank : Blank space) (hEnds : EndsNumber text) :
    EndsNumber (space ++ text) := by
  cases space with
  | nil => exact hEnds
  | cons c others => exact endsNumber_cons (.inl (hBlank c List.mem_cons_self)) _

/-- White space before a value is skipped. -/
theorem parseValue?_congr {other : List Char} (fuel : Nat) (hSame : skipSpace text = skipSpace other) :
    parseValue? fuel text = parseValue? fuel other := by
  cases fuel with
  | zero => rfl
  | succ fuel =>
      unfold parseValue?
      rw [hSame]

theorem skipSpace_skipSpace (text : List Char) : skipSpace (skipSpace text) = skipSpace text := by
  induction text with
  | nil => rfl
  | cons c rest ih =>
      cases hSpace : isSpace c with
      | true =>
          have hSkip : skipSpace (c :: rest) = skipSpace rest := List.dropWhile_cons_of_pos hSpace
          rw [hSkip, ih]
      | false => rw [skipSpace_cons hSpace, skipSpace_cons hSpace]

/-- So it is before the items of a list. -/
theorem parseItems?_skipSpace (fuel : Nat) (text : List Char) :
    parseItems? fuel (skipSpace text) = parseItems? fuel text := by
  cases fuel with
  | zero => rfl
  | succ fuel =>
      unfold parseItems?
      rw [parseValue?_congr fuel (skipSpace_skipSpace text)]

/-- And before the members of an object. -/
theorem parseMembers?_skipSpace (fuel : Nat) (text : List Char) :
    parseMembers? fuel (skipSpace text) = parseMembers? fuel text := by
  cases fuel with
  | zero => rfl
  | succ fuel =>
      unfold parseMembers?
      rw [skipSpace_skipSpace]

theorem Reads.skip {json : Json} (hReads : Reads json text) (hBlank : Blank space) :
    Reads json (space ++ text) := by
  intro fuel rest hFuel hEnds
  rw [List.length_append] at hFuel
  rw [List.append_assoc, parseValue?_congr fuel (skipSpace_append hBlank _)]
  exact hReads (by omega) hEnds

/-- No item begins like the end of a list. -/
theorem parseItems?_bracket (fuel : Nat) (rest : List Char) :
    parseItems? fuel (']' :: rest) = none := by
  have hNumber : cutNumber? (']' :: rest) = none := by
    simp [cutNumber?, cutWhole?, cutDigits?, Text.isDigit]
  cases fuel with
  | zero => rfl
  | succ fuel =>
      have hValue : parseValue? fuel (']' :: rest) = none := by
        cases fuel with
        | zero => rfl
        | succ fuel =>
            unfold parseValue?
            rw [skipSpace_cons (by decide)]
            simp [hNumber]
      unfold parseItems?
      rw [hValue]
      rfl

/-- No member begins like the end of an object. -/
theorem parseMembers?_brace (fuel : Nat) (rest : List Char) :
    parseMembers? fuel ('\x7d' :: rest) = none := by
  cases fuel with
  | zero => rfl
  | succ fuel =>
      unfold parseMembers?
      rw [skipSpace_cons (by decide)]
      rfl

end Space

/-! ### Leaves -/

theorem reads_null : Reads .null "null".toList := by
  intro fuel rest hFuel hEnds
  obtain ⟨fuel, rfl⟩ := Nat.exists_eq_succ_of_ne_zero (Nat.ne_zero_of_lt hFuel)
  rfl

theorem reads_bool (value : Bool) : Reads (.bool value) (boolSpelling value) := by
  intro fuel rest hFuel hEnds
  obtain ⟨fuel, rfl⟩ := Nat.exists_eq_succ_of_ne_zero (Nat.ne_zero_of_lt hFuel)
  cases value <;> rfl

theorem reads_number (n : Nat) : Reads (.ofNat n) (Text.decimalDigits n) := by
  intro fuel rest hFuel hEnds
  obtain ⟨fuel, rfl⟩ := Nat.exists_eq_succ_of_ne_zero (Nat.ne_zero_of_lt hFuel)
  have hCut := cutNumber?_decimalDigits n hEnds
  obtain ⟨first, others, hDigits, -⟩ := exists_decimalDigits_eq_cons n
  have hDigit := Text.isDigit_decimalDigits (hDigits ▸ List.mem_cons_self)
  have hNot := ne_of_isDigit hDigit
  show parseValue? (fuel + 1) (Text.decimalDigits n ++ rest) =
    some (.number (Text.decimalDigits n), rest)
  rw [hDigits, List.cons_append] at hCut ⊢
  unfold parseValue?
  rw [skipSpace_cons (isSpace_of_isDigit hDigit)]
  simp [hNot 'n' rfl, hNot 't' rfl, hNot 'f' rfl, hNot '"' rfl,
    hNot '[' rfl, hNot '\x7b' rfl, hCut]

theorem reads_string (text : List Char) :
    Reads (.string (escape text)) (quoted (escape text)) := by
  intro fuel rest hFuel hEnds
  obtain ⟨fuel, rfl⟩ := Nat.exists_eq_succ_of_ne_zero (Nat.ne_zero_of_lt hFuel)
  have hCut := cutString?_escape text rest
  show parseValue? (fuel + 1) ('"' :: escape text ++ ['"'] ++ rest) = _
  unfold parseValue?
  simp [skipSpace, isSpace, hCut]

/-! ### Lists -/

section Items

variable {item : Json} {items : List Json} {text space others : List Char}

/-- The last item stands before the bracket. -/
theorem readsItems_single (hItem : Reads item text) (hBlank : Blank space) :
    ReadsItems [item] (text ++ space) := by
  intro fuel rest hFuel
  obtain ⟨fuel, rfl⟩ := Nat.exists_eq_succ_of_ne_zero (Nat.ne_zero_of_lt hFuel)
  rw [List.length_append] at hFuel
  have hEnds : EndsNumber (space ++ ']' :: rest) :=
    endsNumber_append hBlank (endsNumber_cons (by simp) rest)
  have hValue : parseValue? fuel (text ++ (space ++ ']' :: rest)) = some (item, space ++ ']' :: rest) :=
    hItem (by omega) hEnds
  have hSkip : skipSpace (space ++ ']' :: rest) = ']' :: rest :=
    (skipSpace_append hBlank _).trans (skipSpace_cons (by decide) rest)
  rw [List.append_assoc]
  unfold parseItems?
  simp [hValue, hSkip]

/-- Any other item stands before a comma. -/
theorem readsItems_cons (hItem : Reads item text) (hItems : ReadsItems items others) :
    ReadsItems (item :: items) (text ++ ',' :: others) := by
  intro fuel rest hFuel
  obtain ⟨fuel, rfl⟩ := Nat.exists_eq_succ_of_ne_zero (Nat.ne_zero_of_lt hFuel)
  rw [List.length_append, List.length_cons] at hFuel
  have hValue : parseValue? fuel (text ++ ',' :: (others ++ ']' :: rest)) =
      some (item, ',' :: (others ++ ']' :: rest)) :=
    hItem (by omega) (endsNumber_cons (by simp) _)
  have hRest : parseItems? fuel (others ++ ']' :: rest) = some (items, rest) := hItems (by omega)
  rw [List.append_assoc, List.cons_append]
  unfold parseItems?
  simp [hValue, skipSpace, isSpace, hRest]

theorem parseValue?_array (fuel : Nat) (rest : List Char) :
    parseValue? (fuel + 1) ('[' :: rest) =
      match skipSpace rest with
      | ']' :: rest => some (.array [], rest)
      | rest => do
          let (items, rest) ← parseItems? fuel rest
          return (.array items, rest) := rfl

theorem reads_array_nil : Reads (.array []) ['[', ']'] := by
  intro fuel rest hFuel hEnds
  obtain ⟨fuel, rfl⟩ := Nat.exists_eq_succ_of_ne_zero (Nat.ne_zero_of_lt hFuel)
  rfl

theorem reads_array (hItems : ReadsItems items text) :
    Reads (.array items) ('[' :: text ++ [']']) := by
  intro fuel rest hFuel hEnds
  obtain ⟨fuel, rfl⟩ := Nat.exists_eq_succ_of_ne_zero (Nat.ne_zero_of_lt hFuel)
  have hText : '[' :: text ++ [']'] ++ rest = '[' :: (text ++ ']' :: rest) := by simp
  have hRead : parseItems? fuel (skipSpace (text ++ ']' :: rest)) = some (items, rest) := by
    rw [parseItems?_skipSpace]
    exact hItems (by simp at hFuel; omega)
  rw [hText, parseValue?_array]
  split
  · next hSkip =>
    -- Items are not read off the end of a list.
    rw [hSkip, parseItems?_bracket] at hRead
    cases hRead
  · rw [hRead]
    rfl

end Items

/-! ### Objects -/

section Members

variable {key : List Char} {value : Json} {members : List (List Char × Json)}
  {text before space others : List Char}

/-- A member is read up to the end of its value. -/
theorem parseMembers?_member (hValue : Reads value text) (hBlank : Blank before) {fuel : Nat}
    {rest : List Char} (hFuel : text.length < fuel) (hEnds : EndsNumber rest) :
    parseMembers? (fuel + 1) (before ++ (quoted (escape key) ++ (':' :: (text ++ rest)))) =
      match skipSpace rest with
      | '\x7d' :: rest => some ([(escape key, value)], rest)
      | ',' :: rest => do
          let (members, rest) ← parseMembers? fuel rest
          return ((escape key, value) :: members, rest)
      | _ => none := by
  have hKey := cutString?_escape key (':' :: (text ++ rest))
  have hRead : parseValue? fuel (text ++ rest) = some (value, rest) := hValue hFuel hEnds
  have hQuoted : quoted (escape key) ++ (':' :: (text ++ rest)) =
      '"' :: (escape key ++ '"' :: ':' :: (text ++ rest)) := by
    simp [quoted]
  conv =>
    lhs
    unfold parseMembers?
  rw [skipSpace_append hBlank, hQuoted, skipSpace_cons (by decide)]
  simp only [hKey, Option.bind_eq_bind, Option.bind_some]
  rw [skipSpace_cons (by decide)]
  refine (congrArg (Option.bind · _) hRead).trans ?_
  rfl

/-- The last member stands before the brace. -/
theorem readsMembers_single (hValue : Reads value text) (hBefore : Blank before)
    (hBlank : Blank space) :
    ReadsMembers [(escape key, value)]
      (before ++ (quoted (escape key) ++ (':' :: (text ++ space)))) := by
  intro fuel rest hFuel
  obtain ⟨fuel, rfl⟩ := Nat.exists_eq_succ_of_ne_zero (Nat.ne_zero_of_lt hFuel)
  have hText : before ++ (quoted (escape key) ++ (':' :: (text ++ space))) ++ '\x7d' :: rest =
      before ++ (quoted (escape key) ++ (':' :: (text ++ (space ++ '\x7d' :: rest)))) := by
    simp
  have hEnds : EndsNumber (space ++ '\x7d' :: rest) :=
    endsNumber_append hBlank (endsNumber_cons (by simp) rest)
  have hShort : text.length < fuel := by
    simp at hFuel
    omega
  rw [hText, parseMembers?_member hValue hBefore hShort hEnds, skipSpace_append hBlank,
    skipSpace_cons (by decide)]
  rfl

/-- Any other member stands before a comma. -/
theorem readsMembers_cons (hValue : Reads value text) (hBefore : Blank before)
    (hMembers : ReadsMembers members others) :
    ReadsMembers ((escape key, value) :: members)
      (before ++ (quoted (escape key) ++ (':' :: (text ++ ',' :: others)))) := by
  intro fuel rest hFuel
  obtain ⟨fuel, rfl⟩ := Nat.exists_eq_succ_of_ne_zero (Nat.ne_zero_of_lt hFuel)
  have hText : before ++ (quoted (escape key) ++ (':' :: (text ++ ',' :: others))) ++ '\x7d' :: rest =
      before ++ (quoted (escape key) ++ (':' :: (text ++ ',' :: (others ++ '\x7d' :: rest)))) := by
    simp
  have hLengths : text.length + others.length + 2 < fuel := by
    simp [quoted] at hFuel
    omega
  have hLater : parseMembers? fuel (others ++ '\x7d' :: rest) = some (members, rest) :=
    hMembers (by omega)
  rw [hText, parseMembers?_member hValue hBefore (by omega) (endsNumber_cons (by simp) _),
    skipSpace_cons (by decide)]
  simp only [hLater, Option.bind_eq_bind, Option.bind_some]
  rfl

theorem parseValue?_object (fuel : Nat) (rest : List Char) :
    parseValue? (fuel + 1) ('\x7b' :: rest) =
      match skipSpace rest with
      | '\x7d' :: rest => some (.object [], rest)
      | rest => do
          let (members, rest) ← parseMembers? fuel rest
          return (.object members, rest) := rfl

theorem reads_object_nil : Reads (.object []) ['\x7b', '\x7d'] := by
  intro fuel rest hFuel hEnds
  obtain ⟨fuel, rfl⟩ := Nat.exists_eq_succ_of_ne_zero (Nat.ne_zero_of_lt hFuel)
  rfl

theorem reads_object (hMembers : ReadsMembers members text) :
    Reads (.object members) ('\x7b' :: text ++ ['\x7d']) := by
  intro fuel rest hFuel hEnds
  obtain ⟨fuel, rfl⟩ := Nat.exists_eq_succ_of_ne_zero (Nat.ne_zero_of_lt hFuel)
  have hText : '\x7b' :: text ++ ['\x7d'] ++ rest = '\x7b' :: (text ++ '\x7d' :: rest) := by simp
  have hRead : parseMembers? fuel (skipSpace (text ++ '\x7d' :: rest)) = some (members, rest) := by
    rw [parseMembers?_skipSpace]
    exact hMembers (by simp at hFuel; omega)
  rw [hText, parseValue?_object]
  split
  · next hSkip =>
    -- Members are not read off the end of an object.
    rw [hSkip, parseMembers?_brace] at hRead
    cases hRead
  · rw [hRead]
    rfl

end Members

/-! ### Values in one line -/

theorem blank_nil : Blank [] := fun _ hNone => absurd hNone List.not_mem_nil

theorem readsItems_compact {first : Json} {items : List Json}
    (hFirst : Reads first (compactChars first))
    (hItems : ∀ item ∈ items, Reads item (compactChars item)) :
    ReadsItems (first :: items) (compactChars first ++ compactItems items) := by
  induction items generalizing first with
  | nil => exact readsItems_single hFirst blank_nil
  | cons second later ih =>
      obtain ⟨hSecond, hLater⟩ := List.forall_mem_cons.mp hItems
      exact readsItems_cons hFirst (ih hSecond hLater)

theorem readsMembers_compact {key : List Char} {value : Json} {members : List (List Char × Json)}
    (hValue : Reads value (compactChars value))
    (hKeys : ∀ member ∈ members, ∃ text, member.1 = escape text)
    (hMembers : ∀ member ∈ members, Reads member.2 (compactChars member.2)) :
    ReadsMembers ((escape key, value) :: members)
      (quoted (escape key) ++ (':' :: (compactChars value ++ compactMembers members))) := by
  induction members generalizing key value with
  | nil => exact readsMembers_single hValue blank_nil blank_nil
  | cons second later ih =>
      obtain ⟨second, secondValue⟩ := second
      obtain ⟨⟨text, hText⟩, hLaterKeys⟩ := List.forall_mem_cons.mp hKeys
      obtain ⟨hSecond, hLater⟩ := List.forall_mem_cons.mp hMembers
      obtain rfl : second = escape text := hText
      have hRest := @readsMembers_cons key _ _ _ _ _ hValue blank_nil
        (@ih text _ hSecond hLaterKeys hLater)
      simpa [compactMembers] using hRest

/-- Every such value is read off its text in one line. -/
theorem Canonical.reads_compact {json : Json} (hCanonical : Canonical json) :
    Reads json (compactChars json) := by
  induction hCanonical with
  | null => exact reads_null
  | bool value => exact reads_bool value
  | number n => exact reads_number n
  | string text => exact reads_string text
  | @array items hItems ih =>
      cases items with
      | nil => exact reads_array_nil
      | cons first later =>
          obtain ⟨hFirst, hLater⟩ := List.forall_mem_cons.mp ih
          have hArray := reads_array (readsItems_compact hFirst hLater)
          simpa [compactChars] using hArray
  | @object members hKeys hValues ih =>
      cases members with
      | nil => exact reads_object_nil
      | cons first later =>
          obtain ⟨key, value⟩ := first
          obtain ⟨⟨text, hText⟩, hLaterKeys⟩ := List.forall_mem_cons.mp hKeys
          obtain ⟨hFirst, hLater⟩ := List.forall_mem_cons.mp ih
          obtain rfl : key = escape text := hText
          have hObject := reads_object (@readsMembers_compact text _ _ hFirst hLaterKeys hLater)
          simpa [compactChars] using hObject

/-! ### Values spread over lines -/

/-- What is read off a text that ends in white space is the whole text. -/
theorem parseChars?_eq {json : Json} {text space : List Char} (hReads : Reads json text)
    (hBlank : Blank space) : parseChars? (text ++ space) = some json := by
  have hEnds : EndsNumber space := by
    have hEmpty := endsNumber_append hBlank endsNumber_nil
    rwa [List.append_nil] at hEmpty
  have hSkip : skipSpace space = [] := List.dropWhile_eq_nil_iff.mpr hBlank
  have hShort : text.length < (text ++ space).length + 1 := by
    rw [List.length_append]
    omega
  unfold parseChars?
  rw [hReads hShort hEnds]
  simp [hSkip]

/-- A value is read back from its text in one line. -/
theorem parse?_compact {json : Json} (hCanonical : Canonical json) :
    parse? json.compact = some json := by
  have hRead := parseChars?_eq hCanonical.reads_compact blank_nil
  unfold parse? compact
  rwa [String.toList_ofList, ← List.append_nil (compactChars json)]

end Json
end TokenNet
