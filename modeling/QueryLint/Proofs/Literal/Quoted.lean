import QueryLint.Literal.Quoted
import QueryLint.Proofs.Text.Offsets

/-! What stands between the quotes of a string literal.

A body is made of single characters and of pairs that a backslash starts. The digits behind an escape
letter are never backslashes, so taking them out of a body leaves a body, and no escape runs into the
closing quote. Every text can be written as a body and is read back from it.
-/

set_option autoImplicit false

namespace QueryLint.Literal.Quoted

open Text (byteSize)

/-- The characters that open and close a literal. -/
def IsQuote (c : Char) : Prop :=
  c = '"' ∨ c = '\'' ∨ c = '\x60'

theorem IsQuote.byteSize_eq {quote : Char} (isQuote : IsQuote quote) : byteSize [quote] = 1 := by
  rcases isQuote with rfl | rfl | rfl <;> rfl

theorem IsQuote.ne {quote c : Char} (isQuote : IsQuote quote) (other : c ∉ ['"', '\'', '\x60']) :
    quote ≠ c := by
  rcases isQuote with rfl | rfl | rfl <;> rintro rfl <;> exact other (by decide)

/-- What may stand between two quotes. A backslash guards the character behind it; between backquotes it
is a character like others, and lines may end. -/
inductive Body (quote : Char) : List Char → Prop
  | nil : Body quote []
  | plain {c : Char} {rest : List Char} :
      c ≠ quote → (quote ≠ '\x60' → c ≠ '\\' ∧ c ≠ '\n') → Body quote rest → Body quote (c :: rest)
  | guarded {c : Char} {rest : List Char} :
      quote ≠ '\x60' → Body quote rest → Body quote ('\\' :: c :: rest)

theorem Body.drop {quote : Char} {cs : List Char} (body : Body quote cs) (n : Nat)
    (plain : '\\' ∉ cs.take n) : Body quote (cs.drop n) := by
  induction n generalizing cs with
  | zero => exact body
  | succ n ih =>
    cases body with
    | nil => exact .nil
    | plain _ _ rest =>
      rw [List.take_succ_cons, List.mem_cons, not_or] at plain
      exact ih rest plain.2
    | guarded => exact absurd List.mem_cons_self plain

/-- The backslash of a body is not its last character, and what follows its pair is a body. -/
theorem Body.behind {quote : Char} {cs : List Char} (body : Body quote ('\\' :: cs))
    (escapes : quote ≠ '\x60') : ∃ c rest, cs = c :: rest ∧ Body quote rest := by
  cases body with
  | plain _ allowed _ => exact absurd rfl (allowed escapes).1
  | guarded _ rest => exact ⟨_, _, rfl, rest⟩

/-! Reading escapes. -/

/-- Hexadecimal digits have a value, and nothing else has. -/
theorem hexValue?_isSome_iff {cs : List Char} :
    (hexValue? cs).isSome = true ↔ ∀ c ∈ cs, (hexDigit? c).isSome = true := by
  have fold (n : Nat) : (cs.foldlM (fun n c => (hexDigit? c).map (n * 16 + ·)) n).isSome = true ↔
      ∀ c ∈ cs, (hexDigit? c).isSome = true := by
    induction cs generalizing n with
    | nil => simp
    | cons c cs ih =>
      rw [List.foldlM_cons, List.forall_mem_cons]
      cases digit : hexDigit? c with
      | none => simp
      | some d => simpa using ih (n * 16 + d)
  exact fold 0

theorem not_mem_of_hexValue? {cs : List Char} {n : Nat} (found : hexValue? cs = some n) : '\\' ∉ cs := by
  intro member
  have digit := hexValue?_isSome_iff.mp (Option.isSome_of_eq_some found) '\\' member
  cases digit

/-- The digits of a code are no backslashes. -/
theorem not_mem_of_code {length : Nat} {digits : List Char} {c : Char}
    (decoded : code length digits = .ok c) : '\\' ∉ digits := by
  unfold code at decoded
  split at decoded
  · cases decoded
  · split at decoded
    · next found =>
      obtain ⟨n, isValue, -⟩ := Option.bind_eq_some_iff.mp found
      unfold signedHex? at isValue
      split at isValue
      · cases isValue
      · cases isValue
      · simpa using not_mem_of_hexValue? isValue
      · exact not_mem_of_hexValue? isValue
    · cases decoded

theorem code_error {length : Nat} {digits : List Char} {e : QuotedError}
    (failed : code length digits = .error e) : e = .badCode (String.ofList digits) := by
  unfold code at failed
  split at failed
  · exact (Except.error.inj failed).symm
  · split at failed
    · cases failed
    · exact (Except.error.inj failed).symm

/-- The error is about an escape that has no meaning. -/
def OfEscape (e : QuotedError) : Prop :=
  (∃ c, e = .unknownEscape c) ∨ ∃ digits, e = .badCode digits

theorem map_error {ε α β : Type} {f : α → β} {x : Except ε α} {e : ε} (failed : x.map f = .error e) :
    x = .error e := by
  cases x with
  | ok a => cases failed
  | error e' => exact congrArg Except.error (Except.error.inj failed)

theorem map_ok {ε α β : Type} {f : α → β} {x : Except ε α} {b : β} (done : x.map f = .ok b) :
    ∃ a, x = .ok a ∧ b = f a := by
  cases x with
  | ok a => exact ⟨a, rfl, (Except.ok.inj done).symm⟩
  | error e => cases done

/-- Reading a body fails on escapes without meaning only: none is cut short by the end. -/
theorem Body.unescape_error {quote : Char} {cs : List Char} {e : QuotedError} (body : Body quote cs)
    (escapes : quote ≠ '\x60') (failed : unescape cs = .error e) : OfEscape e := by
  fun_induction unescape cs with
  | case1 => cases failed
  | case2 c rest notBackslash ih =>
    cases body with
    | plain _ _ rest => exact ih rest (map_error failed)
    | guarded => exact absurd rfl notBackslash
  | case3 c isBackslash =>
    obtain rfl := Decidable.not_not.mp isBackslash
    obtain ⟨_, _, split, -⟩ := body.behind escapes
    cases split
  | case4 c isBackslash letter rest value isSimple ih =>
    obtain rfl := Decidable.not_not.mp isBackslash
    obtain ⟨_, _, split, body⟩ := body.behind escapes
    cases split
    exact ih body (map_error failed)
  | case5 c isBackslash letter rest n isCode noSimple ih =>
    obtain rfl := Decidable.not_not.mp isBackslash
    obtain ⟨_, _, split, body⟩ := body.behind escapes
    cases split
    cases decoded : code n (rest.take n) with
    | error e' =>
      rw [decoded] at failed
      cases failed
      exact .inr ⟨_, code_error decoded⟩
    | ok value =>
      -- The digits were no backslashes, so what follows them is a body too.
      rw [decoded] at failed
      exact ih (body.drop n (not_mem_of_code decoded)) (map_error failed)
  | case6 c isBackslash letter rest =>
    cases failed
    exact .inl ⟨letter, rfl⟩

/-- Quotes around a text leave the text to be read. -/
theorem read_between {quote : Char} (isQuote : IsQuote quote) (body : List Char) :
    read (String.ofList (quote :: (body ++ [quote]))) =
      if quote = '\x60' then .ok (String.ofList body) else (unescape body).map String.ofList := by
  have stop : byteSize (quote :: (body ++ [quote])) - 1 = byteSize [quote] + byteSize body := by
    rw [← List.singleton_append, Text.byteSize_append, Text.byteSize_append, isQuote.byteSize_eq]
    omega
  have inside : Text.slice? 1 (byteSize (quote :: (body ++ [quote])) - 1) (quote :: (body ++ [quote])) =
      some body := by
    rw [stop, ← isQuote.byteSize_eq]
    exact Text.slice?_append [quote] body [quote]
  simp only [read, String.toList_ofList, inside]

/-- Reading quotes around a body fails on escapes without meaning only. -/
theorem Body.read_error {quote : Char} {body : List Char} {e : QuotedError} (isBody : Body quote body)
    (isQuote : IsQuote quote) (failed : read (String.ofList (quote :: (body ++ [quote]))) = .error e) :
    OfEscape e := by
  rw [read_between isQuote] at failed
  split at failed
  · cases failed
  · next escapes => exact isBody.unescape_error escapes (map_error failed)

/-! Writing. -/

/-- A character of a body, behind a backslash if it is one itself or the quote or ends the line. -/
def escape (quote c : Char) : List Char :=
  if c = '\\' then ['\\', '\\']
  else if c = quote then ['\\', quote]
  else if c = '\n' then ['\\', 'n']
  else [c]

/-- The body that a text is written as. -/
def written (quote : Char) (cs : List Char) : List Char :=
  if quote = '\x60' then cs else cs.flatMap (escape quote)

/-- A text as a literal. -/
def write (quote : Char) (value : String) : String :=
  String.ofList (quote :: (written quote value.toList ++ [quote]))

/-- The quote can stand around the text: a backquote has no escape. -/
def Fits (quote : Char) (value : String) : Prop :=
  IsQuote quote ∧ (quote = '\x60' → '\x60' ∉ value.toList)

theorem Body.escape {quote : Char} {rest : List Char} (escapes : quote ≠ '\x60') (c : Char)
    (body : Body quote rest) : Body quote (escape quote c ++ rest) := by
  unfold Quoted.escape
  split
  · exact .guarded escapes body
  · next noBackslash =>
    split
    · exact .guarded escapes body
    · next noQuote =>
      split
      · exact .guarded escapes body
      · next noNewline => exact .plain noQuote (fun _ => ⟨noBackslash, noNewline⟩) body

/-- Every text is written as a body. -/
theorem body_written {quote : Char} {value : String} (fits : Fits quote value) :
    Body quote (written quote value.toList) := by
  unfold written
  split
  · next isBackquote =>
    subst isBackquote
    have noQuote := fits.2 rfl
    generalize value.toList = cs at noQuote
    induction cs with
    | nil => exact .nil
    | cons c cs ih =>
      rw [List.mem_cons, not_or] at noQuote
      exact .plain (Ne.symm noQuote.1) (fun escapes => absurd rfl escapes) (ih noQuote.2)
  · next escapes =>
    induction value.toList with
    | nil => exact .nil
    | cons c cs ih =>
      rw [List.flatMap_cons]
      exact ih.escape escapes c

theorem unescape_cons {c : Char} (plain : c ≠ '\\') (rest : List Char) :
    unescape (c :: rest) = (unescape rest).map (c :: ·) := by
  rw [unescape.eq_def]
  simp [plain]

theorem unescape_simple {letter c : Char} (isSimple : simple? letter = some c) (rest : List Char) :
    unescape ('\\' :: letter :: rest) = (unescape rest).map (c :: ·) := by
  rw [unescape.eq_def]
  simp [isSimple]

/-- The escape of a character is read back as the character. -/
theorem unescape_escape {quote : Char} (isQuote : IsQuote quote) (escapes : quote ≠ '\x60') (c : Char)
    (rest : List Char) : unescape (escape quote c ++ rest) = (unescape rest).map (c :: ·) := by
  unfold escape
  split
  · next isBackslash =>
    subst isBackslash
    exact unescape_simple rfl rest
  · next noBackslash =>
    split
    · next same =>
      subst same
      have isSimple : simple? c = some c := by
        rcases isQuote with rfl | rfl | rfl
        · rfl
        · rfl
        · exact absurd rfl escapes
      exact unescape_simple isSimple rest
    · split
      · next isNewline =>
        subst isNewline
        exact unescape_simple rfl rest
      · exact unescape_cons noBackslash rest

/-- What is written is read back. -/
theorem read_write {quote : Char} {value : String} (fits : Fits quote value) :
    read (write quote value) = .ok value := by
  rw [write, read_between fits.1, written]
  split
  · rw [String.ofList_toList]
  · next escapes =>
    have back (cs : List Char) : unescape (cs.flatMap (escape quote)) = .ok cs := by
      induction cs with
      | nil => rw [List.flatMap_nil, unescape]
      | cons c cs ih =>
        rw [List.flatMap_cons, unescape_escape fits.1 escapes, ih]
        rfl
    rw [back, Except.map, String.ofList_toList]

end QueryLint.Literal.Quoted
