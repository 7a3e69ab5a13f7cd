import QueryLint.Proofs.Token.Spacing

/-! Texts inside of other texts.

A text whose tokens are known is cut into the same tokens, only further behind, wherever a new line
follows it: the new line ends the last token, and a comment that the text leaves open. So a larger text
can be put together from such lines and from single tokens, and cut part by part.
-/

set_option autoImplicit false

namespace QueryLint.Token

open Text (byteSize)

/-- Parts of a text are cut one behind the other. -/
theorem Cuts.append {u x y : List Char} {middle final depth offset : Nat} {front back : List Token}
    (first : Cuts (y ++ u) middle depth offset x front)
    (second : Cuts u final middle (offset + byteSize x) y back) :
    Cuts u final depth offset (x ++ y) (front ++ back) := by
  induction first with
  | done => exact second
  | @blank depth offset c x tokens isBlank _ ih =>
    rw [offset_blank isBlank] at second
    exact .blank isBlank (ih second)
  | @comment depth offset text x tokens inLine _ ih =>
    rw [offset_comment] at second
    have rest := ih second
    rw [List.cons_append] at rest
    rw [List.cons_append, List.append_assoc, List.cons_append]
    exact .comment inLine rest
  | @token depth offset c text x kind tokens notBlank notHash isToken _ ih =>
    have size : offset + byteSize (c :: (text ++ x)) = offset + byteSize (c :: text) + byteSize x := by
      rw [byteSize, byteSize, Text.byteSize_append]
      omega
    rw [size] at second
    rw [← List.append_assoc x] at isToken
    rw [List.cons_append, List.append_assoc, List.cons_append]
    exact .token notBlank notHash isToken (ih second)

/-- A cut counts from the offset it starts at. -/
theorem Cuts.right {u x : List Char} {final depth offset : Nat} {tokens : List Token}
    (cuts : Cuts u final depth offset x tokens) (n : Nat) :
    Cuts u final depth (offset + n) x (tokens.map (Token.move (.right n))) := by
  induction cuts with
  | done => exact .done
  | blank isBlank _ ih =>
    rw [Nat.add_right_comm] at ih
    exact .blank isBlank ih
  | comment inLine _ ih =>
    rw [Nat.add_right_comm, Nat.add_right_comm _ 1] at ih
    exact .comment inLine ih
  | token notBlank notHash isToken _ ih =>
    rw [Nat.add_right_comm] at ih
    have cut := Cuts.token notBlank notHash isToken ih
    rw [Nat.add_right_comm] at cut
    exact cut

/-- What is cut into nothing is a gap, as soon as a new line closes it. -/
theorem gap_of_scan {depth offset : Nat} {cs : List Char} (scanned : scan depth offset cs = []) :
    Gap false (cs ++ ['\n']) := by
  fun_induction scan depth offset cs with
  | case1 => exact .blank rfl .nil
  | case2 _ _ _ _ isBlank ih => exact .blank isBlank (ih scanned)
  | case3 depth offset rest _ ih =>
    have isGap := ih scanned
    have inLine : '\n' ∉ rest.takeWhile (fun c : Char => decide (c ≠ '\n')) := by
      intro member
      simpa using List.all_eq_true.mp List.all_takeWhile _ member
    rw [← List.takeWhile_append_dropWhile (p := fun c : Char => decide (c ≠ '\n')) (l := rest),
      List.cons_append, List.append_assoc]
    -- The comment runs up to a new line of its own, or to the one that was added.
    cases behind : rest.dropWhile (fun c : Char => decide (c ≠ '\n')) with
    | nil => exact .comment inLine .nil
    | cons c more =>
      have newline : c = '\n' := by
        have first := List.head?_dropWhile_not (fun c : Char => decide (c ≠ '\n')) rest
        rw [behind] at first
        simpa using first
      subst newline
      rw [behind] at isGap
      cases isGap with
      | blank _ isGap => exact .comment inLine isGap
  | case4 => cases scanned

/-- A text and a new line behind it, anywhere outside of brackets. -/
theorem cuts_line {source : String} {tokens : List Token} (clean : items source = tokens.map .token)
    (u : List Char) (offset : Nat) :
    Cuts u (depthBehind 0 tokens) 0 offset (source.toList ++ ['\n'])
      (tokens.map (Token.move (.right offset))) := by
  have line : Cuts u (depthBehind 0 tokens) 0 0 (source.toList ++ ['\n']) tokens := by
    rcases List.eq_nil_or_concat tokens with rfl | ⟨front, t, rfl⟩
    · have isGap : Gap false (source.toList ++ ['\n']) := gap_of_scan clean
      exact isGap.cuts u 0 0
    · rw [List.concat_eq_append] at clean ⊢
      obtain ⟨x, rest, final, split, cuts, -, scanned⟩ := exists_cuts clean
      have isGap : Gap false (rest ++ ['\n']) := gap_of_scan scanned
      have breaks : Breaks ((rest ++ ['\n']) ++ u) := isGap.breaks_append (by simp) u
      have whole := (cuts.breaks breaks).append (isGap.cuts u final _)
      rw [← cuts.final_eq, split, List.append_assoc]
      simpa using whole
  simpa using line.right offset

/-- A token with its text at an offset. -/
def put (kind : Kind) (text : String) (offset : Nat) : Token :=
  ⟨kind, text, ⟨offset, offset + byteSize text.toList⟩⟩

theorem cuts_space (u : List Char) (depth offset : Nat) : Cuts u depth depth offset [' '] [] :=
  .blank rfl .done

/-- A token that stands, in front of a gap or the end of the text. -/
theorem Cuts.of_stands {t : Token} {depth : Nat} (stands : Stands depth t) {u : List Char}
    (breaks : Breaks u) (offset : Nat) :
    Cuts u (depthAfter depth (.token t.kind)) depth offset t.text.toList [put t.kind t.text offset] := by
  obtain ⟨c, text, isText, notBlank, notHash, isToken⟩ := stands
  have alone : Cuts u (depthAfter depth (.token t.kind)) (depthAfter depth (.token t.kind))
      (offset + byteSize t.text.toList) [] [] := .done
  have cut := Cuts.first isText notBlank notHash (isToken ([] ++ u) breaks) alone
  rwa [List.append_nil] at cut

/-- A token that stands, with a blank behind it. -/
theorem Cuts.word {t : Token} {depth : Nat} (stands : Stands depth t) (u : List Char) (offset : Nat) :
    Cuts u (depthAfter depth (.token t.kind)) depth offset (t.text.toList ++ [' '])
      [put t.kind t.text offset] :=
  (of_stands stands (by simp [Breaks, isSpace]) offset).append (cuts_space u _ _)

theorem stops_cons {test : Char → Bool} {c : Char} (fails : test c = false) (rest : List Char) :
    Stops test (c :: rest) := by
  simpa [Stops] using fails

/-- A name in front of what does not continue it. -/
theorem Cuts.identifier {text : String} (starts : text.toList.head?.any startsIdentifier = true)
    (continues : text.toList.all continuesIdentifier = true) {u : List Char}
    (ends : Stops continuesIdentifier u) (depth offset : Nat) :
    Cuts u depth depth offset text.toList [put .identifier text offset] := by
  obtain ⟨c, cs, isText⟩ : ∃ c cs, text.toList = c :: cs := by
    cases isText : text.toList with
    | nil => simp [isText] at starts
    | cons c cs => exact ⟨c, cs, rfl⟩
  rw [isText] at starts continues
  have starts : startsIdentifier c = true := starts
  have continues : ∀ a ∈ cs, continuesIdentifier a = true :=
    fun a member => List.all_eq_true.mp continues a (List.mem_cons_of_mem c member)
  have isName : shape depth c (cs ++ ([] ++ u)) = (.token .identifier, cs.length) := by
    rw [shape_of_starts starts, List.nil_append, countWhile_of_stops continues ends]
  have alone : Cuts u depth depth (offset + byteSize text.toList) [] [] := .done
  have cut := Cuts.first isText (isSpace_of_starts starts) (ne_of_test starts rfl) isName alone
  rwa [List.append_nil] at cut

/-- A mark of one character that is no bracket. -/
theorem Cuts.mark {c : Char} {kind : Kind}
    (isMark : (c, kind) ∈
      [('(', Kind.leftParen), (')', .rightParen), (',', .comma), ('-', .sub), ('@', .at)]) (u : List Char)
    (depth offset : Nat) : Cuts u depth depth offset [c] [put kind (String.ofList [c]) offset] := by
  have alone : Cuts u (depthAfter depth (.token kind)) (depthAfter depth (.token kind))
      (offset + byteSize [c]) [] [] := .done
  have text : [c] = c :: ([] ++ []) := rfl
  rw [text]
  simp only [List.mem_cons, Prod.mk.injEq, List.not_mem_nil, or_false] at isMark
  rcases isMark with ⟨rfl, rfl⟩ | ⟨rfl, rfl⟩ | ⟨rfl, rfl⟩ | ⟨rfl, rfl⟩ | ⟨rfl, rfl⟩
  all_goals exact .token rfl (by decide) rfl alone

end QueryLint.Token
