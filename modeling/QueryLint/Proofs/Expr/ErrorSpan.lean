import Mathlib
import QueryLint.Proofs.Expr.Move
import QueryLint.Proofs.Token.Tiling

/-! Where the errors of a text lie.

The readers make spans from those of tokens by covering alone, and they commute with every move. So two
moves that cannot tell the tokens apart cannot tell the places of errors apart either. With moves that
look at one offset each, this gives both ends of an error: it starts where a token starts, stops where
a token stops, and the token it starts with lies inside of it. A text that fails has its faults as its
errors, all of them and in order, or a single error of the readers.
-/

set_option autoImplicit false

namespace QueryLint

open Text (Span byteSize Boundary)
open Text.Span (Move)

namespace Text.Span

/-- Keeps of a span whether it stops at `high` or behind it and, if not, whether it starts before `low`. -/
def seen (low high : Nat) (s : Span) : Span :=
  ⟨0, if high ≤ s.stop then 2 else if s.start < low then 1 else 0⟩

theorem seen_cover (low high : Nat) (a b : Span) :
    (a.cover b).seen low high = (a.seen low high).cover (b.seen low high) := by
  simp only [seen, cover, Span.mk.injEq]
  refine ⟨rfl, ?_⟩
  grind

/-- The move to what is seen of the two offsets. -/
def Move.watch (low high : Nat) : Move :=
  ⟨seen low high, seen_cover low high⟩

end Text.Span

namespace Parser

/-- Moves that agree on the tokens agree on the place of an error. -/
theorem map_error_span [Pattern.Engine] (φ ψ : Move) {eof : Token} {ts : List Token} {e : ParseError}
    (failed : whole eof ts = .error e) (agree : ∀ t ∈ eof :: ts, φ.map t.span = ψ.map t.span) :
    φ.map e.span = ψ.map e.span := by
  have same : ∀ t ∈ eof :: ts, t.move φ = t.move ψ := by
    intro t member
    rw [Token.move, Token.move, agree t member]
  have tokens : ts.map (Token.move φ) = ts.map (Token.move ψ) :=
    List.map_congr_left fun t member => same t (List.mem_cons_of_mem eof member)
  have moved := whole_move φ eof ts
  rw [same eof List.mem_cons_self, tokens, whole_move ψ, failed] at moved
  exact congrArg ParseError.span (Except.error.inj moved.symm)

/-- An error runs from the start of a token to the end of a token. -/
theorem error_span [Pattern.Engine] {eof : Token} {ts : List Token} {e : ParseError}
    (failed : whole eof ts = .error e) :
    ∃ first ∈ eof :: ts, ∃ last ∈ eof :: ts,
      e.span = ⟨first.span.start, last.span.stop⟩ ∧ first.span.stop ≤ last.span.stop := by
  -- If no token has the offset, two moves that differ there alone agree on the tokens, not on the error.
  have behind : ¬e.span.stop + 1 ≤ e.span.stop := Nat.not_succ_le_self _
  have starts : ∃ first ∈ eof :: ts, first.span.start = e.span.start ∧ first.span.stop ≤ e.span.stop := by
    refine Classical.byContradiction fun none => ?_
    have same := map_error_span (.watch e.span.start (e.span.stop + 1))
      (.watch (e.span.start + 1) (e.span.stop + 1)) failed ?_
    · simp only [Move.watch, Span.seen, behind, if_false, Nat.lt_irrefl, Nat.lt_succ_self, if_true] at same
      cases same
    · intro t member
      have later : t.span.start = e.span.start → e.span.stop < t.span.stop := fun isStart =>
        Nat.lt_of_not_le fun inside => none ⟨t, member, isStart, inside⟩
      simp only [Move.watch, Span.seen, Span.mk.injEq, true_and]
      grind
  have stops : ∃ last ∈ eof :: ts, last.span.stop = e.span.stop := by
    refine Classical.byContradiction fun none => ?_
    have same := map_error_span (.watch 0 e.span.stop) (.watch 0 (e.span.stop + 1)) failed ?_
    · simp only [Move.watch, Span.seen, behind, if_false, Nat.le_refl, Nat.not_lt_zero, if_true] at same
      cases same
    · intro t member
      have other : t.span.stop ≠ e.span.stop := fun isStop => none ⟨t, member, isStop⟩
      simp only [Move.watch, Span.seen, Span.mk.injEq, true_and]
      grind
  obtain ⟨first, isFirst, isStart, inside⟩ := starts
  obtain ⟨last, isLast, isStop⟩ := stops
  refine ⟨first, isFirst, last, isLast, ?_, isStop ▸ inside⟩
  rw [isStart, isStop]

end Parser

/-! Faults and tokens among the items of a text. -/

theorem Token.mem_of_fault {items : List Token.Item} {cause : Token.Fault} {span : Span}
    (member : (cause, span) ∈ items.filterMap Token.Item.fault?) : .fault cause span ∈ items := by
  obtain ⟨item, isItem, isFault⟩ := List.mem_filterMap.mp member
  cases item with
  | token => cases isFault
  | fault =>
    cases isFault
    exact isItem

theorem Token.mem_of_token {items : List Token.Item} {t : Token}
    (member : t ∈ items.filterMap Token.Item.token?) : .token t ∈ items := by
  obtain ⟨item, isItem, isToken⟩ := List.mem_filterMap.mp member
  cases item with
  | fault => cases isToken
  | token =>
    cases isToken
    exact isItem

theorem Token.faults_sublist (items : List Token.Item) :
    ((items.filterMap Token.Item.fault?).map Prod.snd).Sublist (items.map Token.Item.span) := by
  induction items with
  | nil => exact .slnil
  | cons item items ih =>
    cases item with
    | token t => exact ih.cons t.span
    | fault cause span => exact ih.cons_cons span

theorem Token.item_fits {source : String} {item : Token.Item} (member : item ∈ Token.items source) :
    item.span.fits (byteSize source.toList) = true := by
  have order := Token.scan_inOrder 0 0 source.toList
  have isSpan := List.mem_map_of_mem (f := Token.Item.span) member
  have nonempty := order.nonempty _ isSpan
  have bounded := order.bounded _ isSpan
  exact Span.fits_iff.mpr ⟨Nat.le_of_lt nonempty, by omega⟩

theorem Token.item_boundaries {source : String} {item : Token.Item} (member : item ∈ Token.items source) :
    Boundary source.toList item.span.start ∧ Boundary source.toList item.span.stop :=
  ((Token.scan_tiles 0 0 source.toList).partOf item member).boundaries

theorem Token.token_fits {source : String} {t : Token}
    (member : t ∈ Token.eof source :: (Token.items source).filterMap Token.Item.token?) :
    t.span.fits (byteSize source.toList) = true := by
  rcases List.mem_cons.mp member with rfl | member
  · exact Span.fits_iff.mpr ⟨Nat.le_refl _, Nat.le_refl _⟩
  · exact Token.item_fits (Token.mem_of_token member)

theorem Token.token_boundaries {source : String} {t : Token}
    (member : t ∈ Token.eof source :: (Token.items source).filterMap Token.Item.token?) :
    Boundary source.toList t.span.start ∧ Boundary source.toList t.span.stop := by
  rcases List.mem_cons.mp member with rfl | member
  · have behind : Boundary source.toList (byteSize source.toList) := ⟨_, [], by simp, rfl⟩
    exact ⟨behind, behind⟩
  · exact Token.item_boundaries (Token.mem_of_token member)

theorem Token.tokenize_eq_error {source : String}
    (faulty : (items source).filterMap Item.fault? ≠ []) :
    tokenize source = .error ((items source).filterMap Item.fault?) := by
  unfold tokenize
  split
  · next clean => exact absurd clean faulty
  · rfl

section

variable [Pattern.Engine]

/-- What can be wrong with a text: the scanner finds faults, or the readers stop at an error. -/
theorem Expr.error_cases {source : String} {errors : List ParseError}
    (failed : Expr.parse source = .error errors) :
    (∃ faults, faults ≠ [] ∧ Token.tokenize source = .error faults ∧
      faults = (Token.items source).filterMap Token.Item.fault? ∧
      errors = faults.map fun (fault, span) => ⟨span, .lexical fault⟩) ∨
    ∃ tokens e, Token.tokenize source = .ok (tokens ++ [Token.eof source]) ∧
      tokens = (Token.items source).filterMap Token.Item.token? ∧
      Parser.whole (Token.eof source) tokens = .error e ∧ errors = [e] := by
  unfold Expr.parse at failed
  split at failed
  · next clean =>
    split at failed
    · cases failed
    · next e answer =>
      cases failed
      exact .inr ⟨_, e, Token.tokenize_eq_ok (Token.items_eq_map clean), rfl, answer, rfl⟩
  · next faulty =>
    cases failed
    exact .inl ⟨_, faulty, Token.tokenize_eq_error faulty, rfl, rfl⟩

theorem Expr.errors_ne_nil {source : String} {errors : List ParseError}
    (failed : Expr.parse source = .error errors) : errors ≠ [] := by
  rcases error_cases failed with ⟨faults, some, -, -, rfl⟩ | ⟨tokens, e, -, -, -, rfl⟩
  · simpa using some
  · exact List.cons_ne_nil e []

/-- Every error of a text lies in the text. -/
theorem Expr.error_fits {source : String} {errors : List ParseError}
    (failed : Expr.parse source = .error errors) {e : ParseError} (member : e ∈ errors) :
    e.span.fits (byteSize source.toList) = true := by
  rcases error_cases failed with ⟨faults, -, -, rfl, rfl⟩ | ⟨tokens, e', -, rfl, answer, rfl⟩
  · obtain ⟨⟨cause, span⟩, isFault, rfl⟩ := List.mem_map.mp member
    exact Token.item_fits (Token.mem_of_fault isFault)
  · obtain rfl := List.mem_singleton.mp member
    obtain ⟨first, isFirst, last, isLast, isSpan, inside⟩ := Parser.error_span answer
    have firstFits := Span.fits_iff.mp (Token.token_fits isFirst)
    have lastFits := Span.fits_iff.mp (Token.token_fits isLast)
    rw [isSpan]
    exact Span.fits_iff.mpr ⟨Nat.le_trans firstFits.1 inside, lastFits.2⟩

/-- Every error of a text begins and ends between characters. -/
theorem Expr.error_boundaries {source : String} {errors : List ParseError}
    (failed : Expr.parse source = .error errors) {e : ParseError} (member : e ∈ errors) :
    Boundary source.toList e.span.start ∧ Boundary source.toList e.span.stop := by
  rcases error_cases failed with ⟨faults, -, -, rfl, rfl⟩ | ⟨tokens, e', -, rfl, answer, rfl⟩
  · obtain ⟨⟨cause, span⟩, isFault, rfl⟩ := List.mem_map.mp member
    exact Token.item_boundaries (Token.mem_of_fault isFault)
  · obtain rfl := List.mem_singleton.mp member
    obtain ⟨first, isFirst, last, isLast, isSpan, -⟩ := Parser.error_span answer
    rw [isSpan]
    exact ⟨(Token.token_boundaries isFirst).1, (Token.token_boundaries isLast).2⟩

/-- The errors of a text that is no expression: there are some, and they lie in the text, between its
characters. If the scanner finds faults, these are all of the errors, one behind the other; if not, there
is one error, and it runs from the start of a token to the end of a token. -/
theorem Expr.parse_errors {source : String} {errors : List ParseError}
    (failed : Expr.parse source = .error errors) :
    errors ≠ [] ∧
      (∀ e ∈ errors, e.span.start ≤ e.span.stop ∧ e.span.stop ≤ byteSize source.toList ∧
        Boundary source.toList e.span.start ∧ Boundary source.toList e.span.stop) ∧
      (∀ faults, Token.tokenize source = .error faults →
        faults = (Token.items source).filterMap Token.Item.fault? ∧
        errors = (faults.map fun (fault, span) => ⟨span, .lexical fault⟩) ∧
        Span.InOrder 0 (byteSize source.toList) (errors.map ParseError.span)) ∧
      ∀ tokens, Token.tokenize source = .ok tokens →
        ∃ e, errors = [e] ∧ ∃ first ∈ tokens, ∃ last ∈ tokens,
          e.span = ⟨first.span.start, last.span.stop⟩ := by
  refine ⟨errors_ne_nil failed, fun e member => ?_, fun faults cut => ?_, fun tokens cut => ?_⟩
  · obtain ⟨ordered, inside⟩ := Span.fits_iff.mp (error_fits failed member)
    exact ⟨ordered, inside, error_boundaries failed member⟩
  · rcases error_cases failed with ⟨found, -, cut', isAll, rfl⟩ | ⟨_, _, cut', -⟩
    · obtain rfl : found = faults := Except.error.inj (cut'.symm.trans cut)
      refine ⟨isAll, rfl, ?_⟩
      -- The faults are among the items of the scan, which lie one behind the other.
      have order := Token.scan_inOrder 0 0 source.toList
      rw [Nat.zero_add] at order
      rw [List.map_map, isAll]
      exact order.sublist (Token.faults_sublist _)
    · cases cut'.symm.trans cut
  · rcases error_cases failed with ⟨_, -, cut', -⟩ | ⟨found, e, cut', -, answer, rfl⟩
    · cases cut'.symm.trans cut
    · obtain rfl : found ++ [Token.eof source] = tokens := Except.ok.inj (cut'.symm.trans cut)
      obtain ⟨first, isFirst, last, isLast, isSpan, -⟩ := Parser.error_span answer
      refine ⟨e, rfl, first, ?_, last, ?_, isSpan⟩
      · simpa [or_comm] using isFirst
      · simpa [or_comm] using isLast

end

/-- The missing operand behind a character of two bytes. -/
theorem Expr.parse_errors_operand :
    let _ := Pattern.Engine.ofAnswers []
    ∃ errors, Expr.parse "'é' + " = .error errors ∧ errors ≠ [] ∧
      (∀ e ∈ errors, e.span.start ≤ e.span.stop ∧ e.span.stop ≤ 7 ∧
        Boundary "'é' + ".toList e.span.start ∧ Boundary "'é' + ".toList e.span.stop) ∧
      ∃ e, errors = [e] ∧ ∃ first ∈ [⟨.string, "'é'", ⟨0, 4⟩⟩, ⟨.add, "+", ⟨5, 6⟩⟩, Token.eof "'é' + "],
        ∃ last ∈ [⟨.string, "'é'", ⟨0, 4⟩⟩, ⟨.add, "+", ⟨5, 6⟩⟩, Token.eof "'é' + "],
          e.span = ⟨first.span.start, last.span.stop⟩ := by
  intro _
  have fails : (Expr.parse "'é' + ").isOk = false := by cbv
  have cut : Token.tokenize "'é' + " =
      .ok [⟨.string, "'é'", ⟨0, 4⟩⟩, ⟨.add, "+", ⟨5, 6⟩⟩, Token.eof "'é' + "] := by cbv
  cases failed : Expr.parse "'é' + " with
  | ok root =>
    rw [failed] at fails
    cases fails
  | error errors =>
    obtain ⟨some, inside, -, single⟩ := parse_errors failed
    exact ⟨errors, rfl, some, inside, single _ cut⟩

end QueryLint
