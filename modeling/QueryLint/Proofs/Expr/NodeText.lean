import QueryLint.Proofs.Expr.Move
import QueryLint.Proofs.Expr.Placement
import QueryLint.Proofs.Grammar.Complete
import QueryLint.Proofs.Grammar.Segments

/-! The text of a node parses to the node.

A node was derived from a stretch of tokens that is an expression of its own. The text of the
stretch is cut into the same tokens when it stands alone, because the stretch starts outside of all
brackets and ends where a token ends, and the readers do not see that the tokens have moved.
-/

set_option autoImplicit false

namespace QueryLint

open Text (Span byteSize)
open Text.Span (Move)

namespace Token

theorem Item.move_left_right (n : Nat) (item : Item) :
    (item.move (.right n)).move (.left n) = item := by
  cases item <;> simp [Item.move, Token.move, Move.left_right]

/-- The text behind some of the tokens, at the depth they leave. -/
theorem exists_rest {depth offset : Nat} {cs : List Char} {front back : List Token}
    (scanned : scan depth offset cs = (front ++ back).map .token) :
    ∃ x u, cs = x ++ u ∧ scan (depthBehind depth front) (offset + byteSize x) u = back.map .token := by
  rcases List.eq_nil_or_concat front with rfl | ⟨front, t, rfl⟩
  · exact ⟨[], cs, rfl, scanned⟩
  · rw [List.concat_eq_append, List.append_assoc] at scanned
    obtain ⟨x, u, final, split, cuts, -, rest⟩ := exists_cuts scanned
    rw [List.concat_eq_append, ← cuts.final_eq]
    exact ⟨x, u, split, rest⟩

/-- The text of a stretch of tokens, which is cut into the same tokens when it stands alone. -/
theorem exists_stretch {cs : List Char} {first last : Token} {before stretch after : List Token}
    (scanned : scan 0 0 cs = (before ++ stretch ++ after).map .token)
    (outside : depthBehind 0 before = 0) (isFirst : stretch.head? = some first)
    (isLast : stretch.getLast? = some last) :
    ∃ front text back, cs = front ++ (text ++ back) ∧ first.span.start = byteSize front ∧
      last.span.stop = byteSize front + byteSize text ∧
      scan 0 0 text = (stretch.map (Token.move (.left (byteSize front)))).map .token := by
  -- The text in front ends with the blanks before the first token, at depth zero.
  rw [List.append_assoc] at scanned
  obtain ⟨x, rest, rfl, behind⟩ := exists_rest scanned
  rw [outside, Nat.zero_add] at behind
  obtain ⟨more, split⟩ := List.head?_eq_some_iff.mp isFirst
  rw [split, List.cons_append, List.map_cons] at behind
  obtain ⟨y, rest, rfl, starts, behind⟩ := exists_start behind
  obtain ⟨init, split'⟩ := List.getLast?_eq_some_iff.mp isLast
  rw [← List.map_cons, ← List.cons_append, ← split, split', List.append_assoc, List.singleton_append]
    at behind
  obtain ⟨text, back, final, rfl, cuts, stops, -⟩ := exists_cuts behind
  rw [← split'] at cuts
  refine ⟨x ++ y, text, back, by simp, ?_, ?_, ?_⟩
  · rw [Text.byteSize_append]
    exact starts
  · rw [Text.byteSize_append]
    exact stops
  · -- Nothing follows now, and the offsets count from the start of the stretch.
    have alone := (cuts.breaks (v := []) (by simp [Breaks])).scan_eq
    rw [List.append_nil, scan, List.append_nil, ← Text.byteSize_append,
      ← Nat.zero_add (byteSize (x ++ y)), scan_right] at alone
    have moved := congrArg (List.map (Item.move (.left (byteSize (x ++ y))))) alone
    simp only [List.map_map, Function.comp_def, Item.move_left_right, List.map_id'] at moved
    rw [moved, List.map_map]
    rfl

end Token

section

variable [Pattern.Engine]

/-- Derivations do not depend on places. -/
theorem Grammar.Derives.move {e : Expr} {tokens : List Token}
    (derived : Derives (.expr 0 e) tokens none) (φ : Move) :
    Derives (.expr 0 (e.move φ)) (tokens.map (Token.move φ)) none := by
  -- The derivation is read, the reading moved and then derived again; its end of text is arbitrary.
  have eof : Token := ⟨.eof, "", ⟨0, 0⟩⟩
  have read : Parser.whole (eof.move φ) (tokens.map (Token.move φ)) = .ok (e.move φ) := by
    rw [Parser.whole_move, whole_complete derived]
    rfl
  exact whole_sound read

/-- The text of every node of a parsed tree parses to the node, with all spans counted from the
start of that text. -/
theorem Expr.parse_node_text {source : String} {root : Expr}
    (parsed : Expr.parse source = .ok root) :
    ∀ n, root.Reaches n →
      ∃ text, Text.slice? n.span.start n.span.stop source.toList = some text ∧
        Expr.parse (String.ofList text) = .ok (n.move (.left n.span.start)) := by
  intro n reached
  obtain ⟨tokens, clean, derived⟩ := Grammar.parse_sound parsed
  obtain ⟨before, stretch, after, split, balanced, alone⟩ :=
    derived.stretches root (by simp [Grammar.Phrase.roots]) n reached
  -- Seen from the stretch alone, the node covers all the tokens.
  have ordered : Grammar.Ordered stretch :=
    Grammar.Ordered.sublist ⟨_, _, Grammar.ordered_items clean⟩ (by rw [split]; simp)
  have placed : Grammar.Placed stretch n := alone.placed ordered
  obtain ⟨first, last, isFirst, isLast, span⟩ := placed.covers
  rw [Token.items, split] at clean
  obtain ⟨front, text, back, same, starts, stops, scanned⟩ :=
    Token.exists_stretch clean (balanced 0) isFirst isLast
  rw [span, starts, stops, same]
  refine ⟨text, Text.slice?_append front text back, ?_⟩
  refine Grammar.parse_complete ?_ (alone.move _)
  rw [Token.items, String.toList_ofList, scanned]

end

theorem Expr.parse_node_text_power :
    let _ := Pattern.Engine.ofAnswers []
    ∃ root, Expr.parse "-a ^ b * c" = .ok root ∧
      ∀ n, root.Reaches n →
        ∃ text, Text.slice? n.span.start n.span.stop ("-a ^ b * c" : String).toList = some text ∧
          Expr.parse (String.ofList text) = .ok (n.move (.left n.span.start)) := by
  intro _
  have reads : (Expr.parse "-a ^ b * c").isOk = true := by cbv
  obtain ⟨root, parsed⟩ := Grammar.exists_of_isOk reads
  exact ⟨root, parsed, parse_node_text parsed⟩

end QueryLint
