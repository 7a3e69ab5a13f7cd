import QueryLint.Proofs.Grammar.Sound
import QueryLint.Proofs.Token.Bytes
import QueryLint.Proofs.Token.Cut

/-! The scanner loses nothing.

`Tiles` takes a text apart into blanks, comments and items, without saying how items are told from
each other. Every text is tiled by what the scanner makes of it, so each of its bytes lies in one of
its items or in a blank or a comment between them, and items begin and end between characters.
-/

set_option autoImplicit false

namespace QueryLint.Token

open Text (Span byteSize)

/-- The text from `offset` on is made of blanks, comments and the items, in this order. A comment runs
to the end of its line or of the text. -/
inductive Tiles : Nat → List Char → List Item → Prop
  | done {offset : Nat} : Tiles offset [] []
  | blank {offset : Nat} {c : Char} {rest : List Char} {items : List Item} :
      isSpace c = true → Tiles (offset + byteSize [c]) rest items → Tiles offset ([c] ++ rest) items
  | comment {offset : Nat} {text rest : List Char} {items : List Item} :
      '\n' ∉ text → (∀ c ∈ rest.head?, c = '\n') → Tiles (offset + byteSize ('#' :: text)) rest items →
      Tiles offset ('#' :: text ++ rest) items
  | item {offset : Nat} {text rest : List Char} {item : Item} {items : List Item} :
      item.span = ⟨offset, offset + byteSize text⟩ →
      (∀ t ∈ item.token?, t.text = String.ofList text) →
      Tiles (offset + byteSize text) rest items → Tiles offset (text ++ rest) (item :: items)

theorem byteSize_blank {c : Char} (isBlank : isSpace c = true) : byteSize [c] = 1 := by
  have size := offset_blank isBlank 0 []
  simpa [byteSize] using size

theorem scan_tiles (depth offset : Nat) (cs : List Char) : Tiles offset cs (scan depth offset cs) := by
  fun_induction scan depth offset cs with
  | case1 => exact .done
  | case2 depth offset c rest isBlank ih =>
    exact .blank isBlank (by rwa [byteSize_blank isBlank])
  | case3 depth offset rest _ ih =>
    have size := offset_comment offset (rest.takeWhile (· ≠ '\n')) []
    have inLine : '\n' ∉ rest.takeWhile (· ≠ '\n') := fun member => by
      simpa using List.all_eq_true.mp List.all_takeWhile _ member
    have ends : ∀ c ∈ (rest.dropWhile (· ≠ '\n')).head?, c = '\n' := by
      intro c isFirst
      have first := List.head?_dropWhile_not (fun c : Char => decide (c ≠ '\n')) rest
      rw [Option.mem_def.mp isFirst] at first
      simpa using first
    rw [List.append_nil] at size
    have tiles : Tiles offset _ _ := .comment inLine ends (by rw [size]; exact ih)
    rwa [List.cons_append, List.takeWhile_append_dropWhile] at tiles
  | case4 depth offset c rest _ _ kind n _ text stop ih =>
    have isText : ∀ t ∈ (Item.ofShape text ⟨offset, stop⟩ kind).token?, t.text = String.ofList text := by
      cases kind <;> simp [Item.ofShape, Item.token?]
    have tiles := Tiles.item (Item.span_ofShape text ⟨offset, stop⟩ kind) isText ih
    rwa [List.cons_append, List.take_append_drop] at tiles

theorem Tiles.le_start {offset : Nat} {cs : List Char} {items : List Item}
    (tiles : Tiles offset cs items) : ∀ item ∈ items, offset ≤ item.span.start := by
  induction tiles with
  | done => simp
  | blank _ _ ih | comment _ _ _ ih =>
    exact fun item member => Nat.le_trans (Nat.le_add_right _ _) (ih item member)
  | item isSpan _ _ ih =>
    intro item member
    rcases List.mem_cons.mp member with rfl | member
    · exact Nat.le_of_eq (by rw [isSpan])
    · exact Nat.le_trans (Nat.le_add_right _ _) (ih item member)

/-- The item stands for a part of the text from `offset` on, and a token has it as its text. -/
def Item.PartOf (offset : Nat) (cs : List Char) (item : Item) : Prop :=
  ∃ before text after, cs = before ++ (text ++ after) ∧
    item.span = ⟨offset + byteSize before, offset + byteSize before + byteSize text⟩ ∧
    ∀ t ∈ item.token?, t.text = String.ofList text

theorem Item.PartOf.behind {offset : Nat} {front rest : List Char} {item : Item}
    (part : item.PartOf (offset + byteSize front) rest) : item.PartOf offset (front ++ rest) := by
  obtain ⟨before, text, after, rfl, isSpan, isText⟩ := part
  refine ⟨front ++ before, text, after, by simp, ?_, isText⟩
  rw [isSpan, Text.byteSize_append, ← Nat.add_assoc]

theorem Tiles.partOf {offset : Nat} {cs : List Char} {items : List Item} (tiles : Tiles offset cs items) :
    ∀ item ∈ items, item.PartOf offset cs := by
  induction tiles with
  | done => simp
  | blank _ _ ih | comment _ _ _ ih => exact fun item member => (ih item member).behind
  | @item offset text rest first items isSpan isText _ ih =>
    intro item member
    rcases List.mem_cons.mp member with rfl | member
    · exact ⟨[], text, rest, rfl, isSpan, isText⟩
    · exact (ih item member).behind

/-- Items begin and end between characters. -/
theorem Item.PartOf.boundaries {cs : List Char} {item : Item} (part : item.PartOf 0 cs) :
    Text.Boundary cs item.span.start ∧ Text.Boundary cs item.span.stop := by
  obtain ⟨before, text, after, rfl, isSpan, -⟩ := part
  rw [isSpan, Nat.zero_add]
  refine ⟨⟨before, text ++ after, rfl, rfl⟩, before ++ text, after, by simp, ?_⟩
  rw [Text.byteSize_append]

/-- The byte is a blank, or part of a comment that runs to the end of its line or of the text and that
no item reaches into. -/
inductive Trivia (items : List Item) (offset : Nat) (cs : List Char) (b : Nat) : Prop
  | blank (before : List Char) {after : List Char} {c : Char} :
      cs = before ++ c :: after → isSpace c = true → b = offset + byteSize before →
      Trivia items offset cs b
  | comment (before : List Char) {text after : List Char} {span : Span} :
      cs = before ++ ('#' :: text ++ after) → '\n' ∉ text → (∀ c ∈ after.head?, c = '\n') →
      span = ⟨offset + byteSize before, offset + byteSize before + byteSize ('#' :: text)⟩ →
      span.start ≤ b → b < span.stop →
      (∀ item ∈ items, item.span.Before span ∨ span.Before item.span) →
      Trivia items offset cs b

/-- What is trivia stays so behind more text, whose items lie in that text. -/
theorem Trivia.behind {items more : List Item} {offset b : Nat} {front rest : List Char}
    (trivia : Trivia items (offset + byteSize front) rest b)
    (earlier : ∀ item ∈ more, item ∈ items ∨ item.span.stop ≤ offset + byteSize front) :
    Trivia more offset (front ++ rest) b := by
  cases trivia with
  | blank before split isBlank isPlace =>
    refine .blank (front ++ before) (by rw [split, List.append_assoc]) isBlank ?_
    rw [isPlace, Text.byteSize_append, Nat.add_assoc]
  | comment before split inLine ends isSpan least most apart =>
    refine .comment (front ++ before) (by rw [split, List.append_assoc]) inLine ends
      (by rw [isSpan, Text.byteSize_append, Nat.add_assoc offset]) least most ?_
    intro item member
    rcases earlier item member with known | before
    · exact apart item known
    · refine .inl (Nat.le_trans before ?_)
      rw [isSpan]
      exact Nat.le_add_right _ _

/-- Every byte of the text lies in an item or is trivia. -/
theorem Tiles.covered_or_trivia {offset b : Nat} {cs : List Char} {items : List Item}
    (tiles : Tiles offset cs items) (least : offset ≤ b) (most : b < offset + byteSize cs) :
    (∃ item ∈ items, item.span.start ≤ b ∧ b < item.span.stop) ∨ Trivia items offset cs b := by
  -- The byte lies in the first piece, or the rest decides.
  induction tiles with
  | done => exact absurd most (Nat.not_lt.mpr least)
  | @blank offset c rest items isBlank _ ih =>
    rw [Text.byteSize_append, ← Nat.add_assoc] at most
    by_cases first : b < offset + byteSize [c]
    · rw [byteSize_blank isBlank] at first
      exact .inr (.blank [] rfl isBlank (Nat.le_antisymm (Nat.le_of_lt_succ first) least))
    · exact (ih (Nat.not_lt.mp first) most).imp_right fun found =>
        found.behind fun item member => .inl member
  | @comment offset text rest items inLine ends tiles ih =>
    rw [Text.byteSize_append, ← Nat.add_assoc] at most
    by_cases first : b < offset + byteSize ('#' :: text)
    · exact .inr (.comment [] rfl inLine ends rfl least first fun item member =>
        .inr (tiles.le_start item member))
    · exact (ih (Nat.not_lt.mp first) most).imp_right fun found =>
        found.behind fun item member => .inl member
  | @item offset text rest item items isSpan _ _ ih =>
    rw [Text.byteSize_append, ← Nat.add_assoc] at most
    by_cases first : b < offset + byteSize text
    · exact .inl ⟨item, by simp, by rw [isSpan]; exact ⟨least, first⟩⟩
    · rcases ih (Nat.not_lt.mp first) most with ⟨other, member, holds⟩ | found
      · exact .inl ⟨other, by simp [member], holds⟩
      · refine .inr (found.behind fun other member => ?_)
        rcases List.mem_cons.mp member with rfl | member
        · exact .inr (Nat.le_of_eq (by rw [isSpan]))
        · exact .inl member

theorem numeral_ne_eof (cs : List Char) : (numeral cs).1 ≠ .eof := by
  simp only [numeral]
  split
  · simp
  · split <;> simp

theorem otherShape_ne_eof (depth : Nat) (c : Char) (rest : List Char) :
    (otherShape depth c rest).1 ≠ .token .eof := by
  unfold otherShape
  split
  · simp
  · split
    · dsimp only
      split <;> simp
    · split
      · simpa using numeral_ne_eof (c :: rest)
      · split <;> simp

/-- The scanner itself never makes the token that stands for the end of the text. -/
theorem shape_ne_eof (depth : Nat) (c : Char) (rest : List Char) :
    (shape depth c rest).1 ≠ .token .eof := by
  have second (a : Char) (both : Shape) (otherwise : Shape × Nat) (noEof : both ≠ .token .eof)
      (noEof' : otherwise.1 ≠ .token .eof) :
      (if rest.head? = some a then (both, 1) else otherwise).1 ≠ .token .eof := by
    split
    · exact noEof
    · exact noEof'
  unfold shape
  split
  case h_15 => exact second _ _ _ (by simp) (second _ _ _ (by simp) (by simp))
  case h_16 => exact second _ _ _ (by simp) (second _ _ _ (by simp) (by simp))
  case h_17 => exact second _ _ _ (by simp) (by simp)
  case h_18 => exact second _ _ _ (by simp) (by simp)
  case h_19 => exact otherShape_ne_eof depth c rest
  all_goals simp

/-- What a token of a text was told by: its own characters, in front of some others. -/
theorem exists_shape {depth offset : Nat} {cs : List Char} {t : Token}
    (member : .token t ∈ scan depth offset cs) :
    ∃ depth' c text rest, t.text.toList = c :: text ∧
      shape depth' c (text ++ rest) = (.token t.kind, text.length) := by
  fun_induction scan depth offset cs with
  | case1 => cases member
  | case2 _ _ _ _ _ ih | case3 _ _ _ _ ih => exact ih member
  | case4 depth offset c rest _ _ kind n isShape text stop ih =>
    rcases List.mem_cons.mp member with first | member
    · cases kind with
      | fault => cases first
      | token k =>
        cases first
        have within : n ≤ rest.length := by simpa [isShape] using shape_le depth c rest
        refine ⟨depth, c, rest.take n, rest.drop n, by simp [text], ?_⟩
        rw [List.take_append_drop, isShape, List.length_take_of_le within]
    · exact ih member

theorem kind_ne_eof {depth offset : Nat} {cs : List Char} {t : Token}
    (member : .token t ∈ scan depth offset cs) : t.kind ≠ .eof := by
  obtain ⟨depth', c, text, rest, -, isShape⟩ := exists_shape member
  have noEof := shape_ne_eof depth' c (text ++ rest)
  rw [isShape] at noEof
  exact fun isEof => noEof (congrArg Shape.token isEof)

/-- Items that account for all of a text: they lie in it one behind the other, none of them empty, begin
and end between characters, and what they leave out is trivia. -/
structure Lossless (source : String) (items : List Item) : Prop where
  inOrder : Span.InOrder 0 (byteSize source.toList) (items.map Item.span)
  sliced : ∀ item ∈ items, ∃ text,
    Text.slice? item.span.start item.span.stop source.toList = some text ∧
      ∀ t ∈ item.token?, t.text = String.ofList text
  covered : ∀ b < byteSize source.toList,
    (∃ item ∈ items, item.span.start ≤ b ∧ b < item.span.stop) ∨ Trivia items 0 source.toList b
  noEof : ∀ t, .token t ∈ items → t.kind ≠ .eof

theorem items_lossless (source : String) : Lossless source (items source) where
  inOrder := by
    have order := scan_inOrder 0 0 source.toList
    rwa [Nat.zero_add] at order
  sliced item member := by
    obtain ⟨before, text, after, split, isSpan, isText⟩ := (scan_tiles 0 0 source.toList).partOf item member
    rw [isSpan, split, Nat.zero_add]
    exact ⟨text, Text.slice?_append before text after, isText⟩
  covered b inside :=
    (scan_tiles 0 0 source.toList).covered_or_trivia (Nat.zero_le b) (by rwa [Nat.zero_add])
  noEof _ := kind_ne_eof

/-- The items of a text are found byte by byte without cutting a character, and they account for all of it.
Without faults they are its tokens, and one token for the end of the text follows them; otherwise all faults are
reported, in order. -/
theorem tokenize_lossless (source : String) :
    Bytes.items? source = some (items source) ∧ Lossless source (items source) ∧
      (∀ tokens, tokenize source = .ok tokens ↔ ∃ ts : List Token, items source = ts.map .token ∧
        tokens = ts ++ [⟨.eof, "", ⟨byteSize source.toList, byteSize source.toList⟩⟩]) ∧
      (∀ faults, tokenize source = .error faults ↔
        faults ≠ [] ∧ faults = (items source).filterMap Item.fault?) := by
  refine ⟨Bytes.items?_eq source, items_lossless source, fun tokens => ⟨fun answer => ?_, ?_⟩, fun faults => ?_⟩
  · unfold tokenize at answer
    split at answer
    · next clean =>
      cases answer
      exact ⟨_, items_eq_map clean, rfl⟩
    · cases answer
  · rintro ⟨ts, clean, rfl⟩
    exact tokenize_eq_ok clean
  · unfold tokenize
    split
    · next clean => simp +contextual [clean]
    · next found =>
      rw [Except.error.injEq]
      constructor
      · rintro rfl
        exact ⟨found, rfl⟩
      · exact fun all => all.2.symm

end QueryLint.Token
