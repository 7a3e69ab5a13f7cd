import QueryLint.Proofs.Literal.Digits

/-! The escapes of a string literal.

What stands between the quotes is read item by item: a character, an escape letter, or a letter with the
code point of a character behind it. The first characters of an item tell where it ends, so a text is made
of items in one way at most, and it is read if and only if there is one.
-/

set_option autoImplicit false

namespace QueryLint.Literal.Quoted

open Text (byteSize)

/-! Items. -/

/-- Escape letters, and the characters they stand for. -/
def letters : List (Char × Char) :=
  [('n', '\n'), ('t', '\t'), ('r', '\r'), ('a', '\x07'), ('b', '\x08'), ('f', '\x0c'), ('v', '\x0b'),
    ('\\', '\\'), ('"', '"'), ('\'', '\'')]

/-- Escape letters in front of a code point, and how many characters this has. -/
def codeLetters : List (Char × Nat) :=
  [('x', 2), ('u', 4), ('U', 8)]

/-- A plus sign in front of digits does not count. -/
def unsigned : List Char → List Char
  | '+' :: digits => digits
  | digits => digits

/-- The characters behind an escape letter name a character by its code point. -/
structure IsCode (letter : Char) (digits : List Char) (value : Char) : Prop where
  length : (letter, digits.length) ∈ codeLetters
  hex : ∀ c ∈ unsigned digits, c.toLower ∈ hexDigits
  names : value.toNat = hexNumber (unsigned digits)

/-- What one character of a text is written as. -/
inductive Item where
  | plain (c : Char) (isPlain : c ≠ '\\')
  | escaped (letter value : Char) (listed : (letter, value) ∈ letters)
  | code (letter : Char) (digits : List Char) (value : Char) (isCode : IsCode letter digits value)

namespace Item

def text : Item → List Char
  | .plain c _ => [c]
  | .escaped letter _ _ => ['\\', letter]
  | .code letter digits _ _ => '\\' :: letter :: digits

def value : Item → Char
  | .plain c _ => c
  | .escaped _ value _ => value
  | .code _ _ value _ => value

end Item

/-! Letters and digits. -/

theorem simple?_eq_some_iff {letter value : Char} : simple? letter = some value ↔ (letter, value) ∈ letters := by
  unfold simple?
  split <;> simp_all [letters, eq_comm]

theorem codeLength?_eq_some_iff {letter : Char} {n : Nat} :
    codeLength? letter = some n ↔ (letter, n) ∈ codeLetters := by
  unfold codeLength?
  split <;> simp_all [codeLetters, eq_comm]

theorem signedHex?_eq (digits : List Char) :
    signedHex? digits = if unsigned digits = [] then none else hexValue? (unsigned digits) := by
  unfold signedHex?
  split
  · rfl
  · rfl
  · next some => rw [unsigned, if_neg some]
  · next some _ noSign =>
    have same : unsigned digits = digits := by
      unfold unsigned
      split
      · exact (noSign _ rfl).elim
      · rfl
    rw [same, if_neg some]

theorem scalar?_eq_some_iff {n : Nat} {c : Char} : scalar? n = some c ↔ c.toNat = n := by
  constructor
  · intro found
    by_cases valid : n.isValidChar
    · rw [scalar?, dif_pos valid] at found
      cases found
      rfl
    · rw [scalar?, dif_neg valid] at found
      cases found
  · rintro rfl
    exact dif_pos c.valid

/-- Plus signs and hexadecimal digits have one byte each. -/
theorem byteSize_of_hex {digits : List Char} (hex : ∀ c ∈ unsigned digits, c.toLower ∈ hexDigits) :
    byteSize digits = digits.length := by
  apply Text.byteSize_of_ascii
  unfold unsigned at hex
  split at hex
  · intro c member
    rcases List.mem_cons.mp member with rfl | member
    · decide
    · exact ascii_of_hex (hex c member)
  · exact fun c member => ascii_of_hex (hex c member)

theorem length_le_unsigned (digits : List Char) : digits.length ≤ (unsigned digits).length + 1 := by
  unfold unsigned
  split
  · rw [List.length_cons]
  · exact Nat.le_succ _

theorem signedHex?_bind_eq_some_iff {digits : List Char} {c : Char} :
    (signedHex? digits).bind scalar? = some c ↔ unsigned digits ≠ [] ∧
      (∀ d ∈ unsigned digits, d.toLower ∈ hexDigits) ∧ c.toNat = hexNumber (unsigned digits) := by
  rw [signedHex?_eq]
  split
  · next none => simp [none]
  · next some =>
    rw [Option.bind_eq_some_iff]
    constructor
    · rintro ⟨n, found, isScalar⟩
      obtain ⟨hex, rfl⟩ := hexValue?_eq_some_iff.mp found
      exact ⟨some, hex, scalar?_eq_some_iff.mp isScalar⟩
    · rintro ⟨-, hex, names⟩
      exact ⟨_, hexValue?_eq_some_iff.mpr ⟨hex, rfl⟩, scalar?_eq_some_iff.mpr names⟩

/-- What is read as a code point has its length also in characters, because all of them are ASCII. -/
theorem code_eq_ok_iff {n : Nat} {digits : List Char} {c : Char} (long : 2 ≤ n) :
    code n digits = .ok c ↔ digits.length = n ∧
      (∀ d ∈ unsigned digits, d.toLower ∈ hexDigits) ∧ c.toNat = hexNumber (unsigned digits) := by
  constructor
  · intro decoded
    unfold code at decoded
    split at decoded
    · cases decoded
    · next sized =>
      split at decoded
      · next found =>
        cases decoded
        obtain ⟨-, hex, names⟩ := signedHex?_bind_eq_some_iff.mp found
        rw [byteSize_of_hex hex, Decidable.not_not] at sized
        exact ⟨sized, hex, names⟩
      · cases decoded
  · rintro ⟨rfl, hex, names⟩
    have some : unsigned digits ≠ [] := by
      intro none
      have short := length_le_unsigned digits
      rw [none, List.length_nil] at short
      omega
    rw [code, if_neg (by rw [byteSize_of_hex hex, Decidable.not_not]),
      signedHex?_bind_eq_some_iff.mpr ⟨some, hex, names⟩]

theorem two_le_of_mem {letter : Char} {n : Nat} (listed : (letter, n) ∈ codeLetters) : 2 ≤ n := by
  have all : ∀ entry ∈ codeLetters, 2 ≤ entry.2 := by decide
  exact all _ listed

/-- A letter in front of a code point stands for no character by itself. -/
theorem simple?_eq_none {letter : Char} {n : Nat} (listed : (letter, n) ∈ codeLetters) : simple? letter = none := by
  have all : ∀ entry ∈ codeLetters, simple? entry.1 = none := by decide
  exact all _ listed

theorem IsCode.code_eq {letter value : Char} {digits : List Char} (isCode : IsCode letter digits value) :
    code digits.length digits = .ok value :=
  (code_eq_ok_iff (two_le_of_mem isCode.length)).mpr ⟨rfl, isCode.hex, isCode.names⟩

/-! Reading. -/

theorem unescape_code {letter value : Char} {digits : List Char} (isCode : IsCode letter digits value)
    (rest : List Char) :
    unescape ('\\' :: letter :: (digits ++ rest)) = (unescape rest).map (value :: ·) := by
  have isLength := codeLength?_eq_some_iff.mpr isCode.length
  have noLetter := simple?_eq_none isCode.length
  rw [unescape.eq_def]
  simp only [noLetter, isLength, List.take_left, List.drop_left, isCode.code_eq]
  rfl

/-- An item in front is read as its character. -/
theorem unescape_item (item : Item) (rest : List Char) :
    unescape (item.text ++ rest) = (unescape rest).map (item.value :: ·) := by
  cases item with
  | plain c isPlain => exact unescape_cons isPlain rest
  | escaped letter value listed => exact unescape_simple (simple?_eq_some_iff.mpr listed) rest
  | code letter digits value isCode => exact unescape_code isCode rest

theorem unescape_items (items : List Item) :
    unescape (items.flatMap Item.text) = .ok (items.map Item.value) := by
  induction items with
  | nil => rw [List.flatMap_nil, unescape, List.map_nil]
  | cons item items ih =>
    rw [List.flatMap_cons, unescape_item, ih]
    rfl

/-- What is read is items. -/
theorem exists_items {body value : List Char} (isRead : unescape body = .ok value) :
    ∃ items : List Item, body = items.flatMap Item.text ∧ value = items.map Item.value := by
  fun_induction unescape body generalizing value with
  | case1 =>
    cases isRead
    exact ⟨[], rfl, rfl⟩
  | case2 c rest isPlain ih =>
    obtain ⟨tail, isTail, rfl⟩ := map_ok isRead
    obtain ⟨items, rfl, rfl⟩ := ih isTail
    exact ⟨.plain c isPlain :: items, rfl, rfl⟩
  | case3 => cases isRead
  | case4 c isBackslash letter rest value' isSimple ih =>
    obtain rfl := Decidable.not_not.mp isBackslash
    obtain ⟨tail, isTail, rfl⟩ := map_ok isRead
    obtain ⟨items, rfl, rfl⟩ := ih isTail
    exact ⟨.escaped letter value' (simple?_eq_some_iff.mp isSimple) :: items, rfl, rfl⟩
  | case5 c isBackslash letter rest n isCode noSimple ih =>
    obtain rfl := Decidable.not_not.mp isBackslash
    have listed := codeLength?_eq_some_iff.mp isCode
    cases decoded : code n (rest.take n) with
    | error e =>
      rw [decoded] at isRead
      cases isRead
    | ok value' =>
      rw [decoded] at isRead
      obtain ⟨tail, isTail, rfl⟩ := map_ok isRead
      obtain ⟨items, isRest, rfl⟩ := ih isTail
      -- The digits of a code are as many as its letter asks for, and name a character.
      obtain ⟨isLength, hex, names⟩ := (code_eq_ok_iff (two_le_of_mem listed)).mp decoded
      refine ⟨.code letter (rest.take n) value' ⟨isLength.symm ▸ listed, hex, names⟩ :: items, ?_, rfl⟩
      rw [List.flatMap_cons, ← isRest, Item.text, List.cons_append, List.cons_append, List.take_append_drop]
  | case6 => cases isRead

/-! Only one way to read. -/

/-- The first characters of a text tell which item is in front. -/
theorem Item.eq_of_append {a b : Item} {rest rest' : List Char} (same : a.text ++ rest = b.text ++ rest') :
    a = b ∧ rest = rest' := by
  cases a with
  | plain c isPlain =>
    cases b with
    | plain d _ =>
      obtain ⟨rfl, rfl⟩ := List.cons.inj same
      exact ⟨rfl, rfl⟩
    | escaped | code => exact absurd (List.cons.inj same).1 isPlain
  | escaped letter value listed =>
    have isLetter := simple?_eq_some_iff.mpr listed
    cases b with
    | plain d isPlain => exact absurd (List.cons.inj same).1.symm isPlain
    | escaped letter' value' listed' =>
      obtain ⟨-, behind⟩ := List.cons.inj same
      obtain ⟨rfl, rfl⟩ := List.cons.inj behind
      cases isLetter.symm.trans (simple?_eq_some_iff.mpr listed')
      exact ⟨rfl, rfl⟩
    | code letter' digits value' isCode =>
      obtain ⟨-, behind⟩ := List.cons.inj same
      obtain ⟨rfl, -⟩ := List.cons.inj behind
      cases isLetter.symm.trans (simple?_eq_none isCode.length)
  | code letter digits value isCode =>
    have noLetter := simple?_eq_none isCode.length
    cases b with
    | plain d isPlain => exact absurd (List.cons.inj same).1.symm isPlain
    | escaped letter' value' listed =>
      obtain ⟨-, behind⟩ := List.cons.inj same
      obtain ⟨rfl, -⟩ := List.cons.inj behind
      cases noLetter.symm.trans (simple?_eq_some_iff.mpr listed)
    | code letter' digits' value' isCode' =>
      obtain ⟨-, behind⟩ := List.cons.inj same
      obtain ⟨rfl, further⟩ := List.cons.inj behind
      -- The letter says how many digits follow, and these say which character it is.
      have sameLength : digits.length = digits'.length := Option.some.inj
        ((codeLength?_eq_some_iff.mpr isCode.length).symm.trans (codeLength?_eq_some_iff.mpr isCode'.length))
      obtain ⟨rfl, rfl⟩ := List.append_inj further sameLength
      cases isCode.code_eq.symm.trans isCode'.code_eq
      exact ⟨rfl, rfl⟩

theorem Item.text_ne_nil (item : Item) : item.text ≠ [] := by
  cases item <;> exact List.cons_ne_nil _ _

theorem flatMap_text_injective : Function.Injective (List.flatMap Item.text) := by
  intro items items' same
  induction items generalizing items' with
  | nil =>
    cases items' with
    | nil => rfl
    | cons item items' => simp [item.text_ne_nil] at same
  | cons item items ih =>
    cases items' with
    | nil => simp [item.text_ne_nil] at same
    | cons item' items' =>
      rw [List.flatMap_cons, List.flatMap_cons] at same
      obtain ⟨rfl, rest⟩ := Item.eq_of_append same
      rw [ih rest]

/-- A literal between quotes is read if and only if its body is a sequence of items, and then as the
characters of these; the body is such a sequence in one way at most. Between backquotes every body is read
as it is. -/
theorem read_eq_items (body : List Char) :
    (∀ quote, quote = '"' ∨ quote = '\'' → ∀ value : String,
      read (String.ofList (quote :: (body ++ [quote]))) = .ok value ↔
        ∃ items : List Item, body = items.flatMap Item.text ∧ value = String.ofList (items.map Item.value)) ∧
    (∀ items items' : List Item, body = items.flatMap Item.text → body = items'.flatMap Item.text →
      items = items') ∧
    read (String.ofList ('\x60' :: (body ++ ['\x60']))) = .ok (String.ofList body) := by
  refine ⟨fun quote isQuote value => ?_, fun items items' first second => ?_, ?_⟩
  · have escapes : quote ≠ '\x60' := by rcases isQuote with rfl | rfl <;> decide
    rw [read_between (isQuote.imp_right .inl), if_neg escapes]
    constructor
    · intro isRead
      obtain ⟨characters, isBody, rfl⟩ := map_ok isRead
      obtain ⟨items, split, rfl⟩ := exists_items isBody
      exact ⟨items, split, rfl⟩
    · rintro ⟨items, rfl, rfl⟩
      rw [unescape_items]
      rfl
  · exact flatMap_text_injective (first.symm.trans second)
  · rw [read_between (.inr (.inr rfl)), if_pos rfl]

/-- Each kind of item once, the code point with a plus sign. -/
theorem read_eq_items_mixed :
    read "\"é\\n\\u+041\"" = .ok "é\nA" := by
  have hex : (unsigned "+041".toList).all (·.toLower ∈ hexDigits) = true := by decide
  let items : List Item :=
    [.plain 'é' (by decide), .escaped 'n' '\n' (by decide),
      .code 'u' "+041".toList 'A'
        ⟨by decide, fun c member => of_decide_eq_true (List.all_eq_true.mp hex c member), by decide⟩]
  obtain ⟨isRead, -, -⟩ := read_eq_items (items.flatMap Item.text)
  exact (isRead '"' (.inl rfl) _).mpr ⟨items, rfl, rfl⟩

end QueryLint.Literal.Quoted
