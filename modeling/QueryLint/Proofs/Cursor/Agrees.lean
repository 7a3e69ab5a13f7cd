import QueryLint.Proofs.Cursor
import QueryLint.Proofs.Grammar.Sound

/-! When a scan does what a reader of lists answers.

A reader of lists returns the tokens it leaves, a scan the position behind the tokens it passed. The two
agree when the tokens passed are those in front of the tokens left, wherever in the input they stand, and a
refusal is the same. A fault is no answer of a reader, so a scan that agrees with one has none.
-/

set_option autoImplicit false

namespace QueryLint

namespace Cursor

open QueryLint.Parser (Reads MayRead eat? eatWord? isWord listReads)
open ParseError (Context)
open Grammar (front? choice? either? isKind)

/-- The position behind tokens at the start of the input. -/
def after (passed : List Token) : Cursor := ⟨passed.length, passed⟩

/-- No token is the end of input. -/
def Inner (ts : List Token) : Prop := ∀ t ∈ ts, t.kind ≠ .eof

/-- What a scan gives in front of `ts` and the end of input, behind the tokens `front`. -/
def Scan.at {α : Type} (scan : Scan α) (front ts : List Token) (eof : Token) : Except Stop (α × Cursor) :=
  (scan.run (front ++ ts ++ [eof])).run (after front)

/-- What a scan gives when it passes those of the tokens `ts` that an answer does not leave. -/
inductive Meets {α : Type} (front ts : List Token) :
    Except ParseError (α × List Token) → Except Stop (α × Cursor) → Prop
  | passed {a : α} {used rest : List Token} (split : ts = used ++ rest) :
      Meets front ts (.ok (a, rest)) (.ok (a, after (front ++ used)))
  | refused {e : ParseError} : Meets front ts (.error e) (.error (.refused e))

/-- A scan in front of the tokens `ts` and the end of input does what the answer says. -/
def Agrees {α : Type} (eof : Token) (scan : Scan α) (ts : List Token)
    (answer : Except ParseError (α × List Token)) : Prop :=
  Inner ts → ∀ front, Meets front ts answer (scan.at front ts eof)

/-- An answer without what is known of the tokens left; a scan may give only the `view` of its value. -/
def plain {α γ : Type} {P : List Token → Prop} (view : α → γ)
    (answer : Except ParseError (α × { rest // P rest })) : Except ParseError (γ × List Token) :=
  answer.map fun (a, rest) => (view a, rest.1)

section

variable {σ α β γ δ : Type} {eof : Token} {ts rest : List Token} {P Q : List Token → Prop} {scan : Scan α}

theorem Meets.eq_ok {front : List Token} {a : α} {given : Except Stop (α × Cursor)}
    (meets : Meets front ts (.ok (a, rest)) given) :
    ∃ used, ts = used ++ rest ∧ given = .ok (a, after (front ++ used)) := by
  cases meets with
  | passed split => exact ⟨_, split, rfl⟩

theorem Meets.eq_error {front : List Token} {e : ParseError} {given : Except Stop (α × Cursor)}
    (meets : Meets front ts (.error e) given) : given = .error (.refused e) := by
  cases meets
  rfl

theorem Meets.stays {front : List Token} {a : α} :
    Meets front ts (.ok (a, ts)) (.ok (a, after front)) := by
  have meets : Meets front ts (.ok (a, ts)) (.ok (a, after (front ++ []))) := .passed rfl
  rwa [List.append_nil] at meets

/-- Tokens that were passed before may count as passed now. -/
theorem Meets.behind {front used : List Token} {answer : Except ParseError (α × List Token)}
    {given : Except Stop (α × Cursor)} (meets : Meets (front ++ used) ts answer given) :
    Meets front (used ++ ts) answer given := by
  cases meets with
  | refused => exact .refused
  | passed split =>
    rw [List.append_assoc]
    exact .passed (by rw [split, List.append_assoc])

theorem plain_last {x : Except ParseError (α × { rest // P rest })}
    {f : α × { rest // P rest } → Except ParseError (β × { rest // Q rest })} {view : α → δ}
    {shown : β → δ}
    (kept : ∀ a rest left, plain shown (f (a, ⟨rest, left⟩)) = .ok (view a, rest)) :
    plain shown (x >>= f) = plain view x := by
  cases x with
  | error e => rfl
  | ok answer => exact kept answer.1 answer.2.1 answer.2.2

theorem at_bind (scan : Scan α) (next : α → Scan β) (front ts : List Token) (eof : Token) :
    Scan.at (scan >>= next) front ts eof =
      scan.at front ts eof >>= fun (a, c) => ((next a).run (front ++ ts ++ [eof])).run c := rfl

theorem run_checkProgress {before : Nat} {passed tokens : List Token} (moved : before < passed.length)
    (inside : passed.length < tokens.length) :
    ((checkProgress before).run tokens).run (after passed) = .ok ((), after passed) := by
  show ((if passed.length ≤ before then throw (.fault .idle)
    else read >>= fun all => if all.length ≤ passed.length then throw (.fault .beyond)
      else Pure.pure () : Scan Unit).run tokens).run (after passed) = _
  rw [if_neg (by omega)]
  show ((if tokens.length ≤ passed.length then throw (.fault .beyond) else Pure.pure () : Scan Unit).run
    tokens).run (after passed) = _
  rw [if_neg (by omega)]
  rfl

namespace Agrees

theorem pure (a : α) : Agrees eof (Pure.pure a) ts (.ok (a, ts)) :=
  fun _ _ => .stays

theorem refuse (e : ParseError) : Agrees eof (build (.error e) : Scan α) ts (.error e) :=
  fun _ _ => .refused

/-- What comes behind a scan agrees at the tokens that the scan left. -/
theorem next {a : α} {next : α → Scan β} {answer : Except ParseError (β × List Token)}
    (first : Agrees eof scan ts (.ok (a, rest))) (behind : Agrees eof (next a) rest answer) :
    Agrees eof (scan >>= next) ts answer := by
  intro inner front
  obtain ⟨used, rfl, given⟩ := (first inner front).eq_ok
  have same : Scan.at (scan >>= next) front (used ++ rest) eof =
      (next a).at (front ++ used) rest eof := by
    rw [at_bind, given, ← List.append_assoc front used rest]
    rfl
  rw [same]
  exact (behind (fun t isRest => inner t (List.mem_append_right _ isRest)) (front ++ used)).behind

theorem stop {next : α → Scan β} {e : ParseError} (first : Agrees eof scan ts (.error e)) :
    Agrees eof (scan >>= next) ts (.error e) := by
  intro inner front
  rw [at_bind, (first inner front).eq_error]
  exact .refused

theorem bindView {x : Except ParseError (α × { rest // P rest })}
    {f : α × { rest // P rest } → Except ParseError (β × { rest // Q rest })} {view : α → γ}
    {shown : β → δ}
    {scan : Scan γ} {next : γ → Scan δ} (first : Agrees eof scan ts (plain view x))
    (behind : ∀ a rest left, Agrees eof (next (view a)) rest (plain shown (f (a, ⟨rest, left⟩)))) :
    Agrees eof (scan >>= next) ts (plain shown (x >>= f)) := by
  cases x with
  | error e => exact first.stop
  | ok answer => exact first.next (behind answer.1 answer.2.1 answer.2.2)

theorem bind {x : Except ParseError (α × { rest // P rest })}
    {f : α × { rest // P rest } → Except ParseError (β × { rest // Q rest })} {shown : β → δ}
    {next : α → Scan δ} (first : Agrees eof scan ts (plain id x))
    (behind : ∀ a rest left, Agrees eof (next a) rest (plain shown (f (a, ⟨rest, left⟩)))) :
    Agrees eof (scan >>= next) ts (plain shown (x >>= f)) :=
  first.bindView behind

/-- Building from no tokens before the rest. -/
theorem build {x : Except ParseError α} {f : α → Except ParseError (β × { rest // Q rest })}
    {shown : β → δ} {next : α → Scan δ} (behind : ∀ a, Agrees eof (next a) ts (plain shown (f a))) :
    Agrees eof (Cursor.build x >>= next) ts (plain shown (x >>= f)) := by
  cases x with
  | error e => exact (refuse e).stop
  | ok a => exact (pure a).next (behind a)

/-- Building from no tokens at the end. -/
theorem built {x : Except ParseError α} (left : P ts) :
    Agrees eof (Cursor.build x) ts
      (plain id (x >>= fun a => Pure.pure (a, (⟨ts, left⟩ : { rest // P rest })))) := by
  cases x with
  | error e => exact refuse e
  | ok a => exact pure a

/-- A reader that ends with another is known to leave fewer tokens, or no more. -/
theorem last {x : Except ParseError (α × { rest // P rest })}
    {f : α × { rest // P rest } → Except ParseError (β × { rest // Q rest })} {view : α → δ}
    {shown : β → δ}
    {scan : Scan δ} (reads : Agrees eof scan ts (plain view x))
    (kept : ∀ a rest left, plain shown (f (a, ⟨rest, left⟩)) = .ok (view a, rest)) :
    Agrees eof scan ts (plain shown (x >>= f)) :=
  plain_last kept ▸ reads

theorem map {x : Except ParseError (α × { rest // P rest })} (view : α → γ)
    (reads : Agrees eof scan ts (plain id x)) : Agrees eof (view <$> scan) ts (plain view x) := by
  show Agrees eof (scan >>= fun a => Pure.pure (view a)) ts (plain view x)
  cases x with
  | error e => exact reads.stop
  | ok answer => exact reads.next (pure _)

/-- What is checked holds behind a scan that left fewer tokens than it found. -/
theorem checked {a : α} {next : Cursor → α → Scan β} {behind : Scan β}
    {answer : Except ParseError (β × List Token)} (first : Agrees eof scan ts (.ok (a, rest)))
    (fewer : rest.length < ts.length)
    (checks : ∀ c, next c a = checkProgress c.position >>= fun _ => behind)
    (reads : Agrees eof behind rest answer) :
    Agrees eof (get >>= fun c => scan >>= next c) ts answer := by
  intro inner front
  obtain ⟨used, rfl, given⟩ := (first inner front).eq_ok
  -- The check finds the position behind `front ++ used`, where `used` is not empty and the end of input is
  -- still in front.
  have same : Scan.at (get >>= fun c => scan >>= next c) front (used ++ rest) eof =
      Scan.at (scan >>= fun _ => behind) front (used ++ rest) eof := by
    show Scan.at (scan >>= next (after front)) front (used ++ rest) eof = _
    rw [at_bind, at_bind, given]
    show ((next (after front) a).run _).run (after (front ++ used)) = _
    rw [checks]
    show ((checkProgress front.length).run _).run (after (front ++ used)) >>= _ = _
    rw [List.length_append] at fewer
    rw [run_checkProgress]
    · rfl
    · simp only [List.length_append]
      omega
    · simp only [List.length_append, List.length_singleton]
      omega
  have onward : Agrees eof (scan >>= fun _ => behind) (used ++ rest) answer := first.next reads
  rw [same]
  exact onward inner front

/-- Without the check, the position in front does not matter. -/
theorem unchecked {next : Cursor → Scan β} {answer : Except ParseError (β × List Token)}
    (agrees : ∀ c, Agrees eof (next c) ts answer) : Agrees eof (get >>= next) ts answer :=
  fun inner front => agrees (after front) inner front

/-- A scan that leaves fewer tokens than it found passed one, and not the end of input. -/
theorem watched {view : α → γ} {x : Except ParseError (α × { rest // P rest })} {scan : Scan γ}
    (fewer : ∀ rest, P rest → rest.length < ts.length) (reads : Agrees eof scan ts (plain view x)) :
    Agrees eof (Cursor.watched scan) ts (plain view x) := by
  cases x with
  | error e => exact unchecked fun _ => reads.stop
  | ok answer => exact reads.checked (fewer answer.2.1 answer.2.2) (fun _ => rfl) (pure _)

end Agrees

end

/-! Tokens. -/

section

variable {eof t : Token} {ts : List Token} {kind : Token.Kind} {test : Token → Bool} {word : String}
  {context : Context}

theorem run_look {tokens : List Token} {index : Nat} (found : tokens[index]? = some t) (c : Cursor) :
    ((look index).run tokens).run c = .ok (t, c) := by
  have input : (read : Scan (List Token)).run tokens = pure tokens := rfl
  rw [look, ReaderT.run_bind, input, pure_bind, found]
  rfl

/-- The end of input stays in front, however far ahead a scan looks. -/
theorem peekNth_agrees (n : Nat) : Agrees eof (peekNth n) ts (.ok ((ts.drop n).headD eof, ts)) := by
  intro inner front
  have index : min (front.length + n) ((front ++ ts ++ [eof]).length - 1) =
      front.length + min n ts.length := by
    simp only [List.length_append, List.length_singleton]
    omega
  have found : (front ++ ts ++ [eof])[front.length + min n ts.length]? =
      some ((ts.drop n).headD eof) := by
    rw [List.append_assoc, List.getElem?_append_right (Nat.le_add_right _ _), Nat.add_sub_cancel_left]
    rcases Nat.lt_or_ge n ts.length with isInner | isBehind
    · rw [Nat.min_eq_left (Nat.le_of_lt isInner), List.getElem?_append_left isInner,
        List.drop_eq_getElem_cons isInner, List.getElem?_eq_getElem isInner]
      rfl
    · rw [Nat.min_eq_right isBehind, List.drop_eq_nil_of_le isBehind]
      simp
  have given : (peekNth n).at front ts eof = .ok ((ts.drop n).headD eof, after front) := by
    show ((look (min (front.length + n) ((front ++ ts ++ [eof]).length - 1))).run _).run _ = _
    rw [index]
    exact run_look found _
  rw [given]
  exact .stays

theorem peek_agrees : Agrees eof peek ts (.ok (ts.headD eof, ts)) := peekNth_agrees 0

/-- The token before the position is the last one passed. -/
theorem Agrees.previous {α β : Type} {rest used : List Token} {scan : Scan α} {a : α} {next : α → Scan β}
    {behind : Token → Scan β} {answer : Except ParseError (β × List Token)}
    (first : Agrees eof scan ts (.ok (a, rest))) (split : ts = used ++ t :: rest)
    (looks : next a = Cursor.previous >>= behind) (reads : Agrees eof (behind t) rest answer) :
    Agrees eof (scan >>= next) ts answer := by
  intro inner front
  obtain ⟨passed, samePassed, given⟩ := (first inner front).eq_ok
  have isLast : passed = used ++ [t] := by
    refine List.append_cancel_right (samePassed.symm.trans ?_)
    rw [split, List.append_assoc]
    rfl
  have same : Scan.at (scan >>= next) front ts eof = Scan.at (scan >>= fun _ => behind t) front ts eof := by
    rw [at_bind, at_bind, given]
    show ((next a).run _).run (after (front ++ passed)) = _
    rw [looks, isLast, split]
    have found : (front ++ (used ++ t :: rest) ++ [eof])[front.length + used.length]? = some t := by
      simp
    have here : after (front ++ (used ++ [t])) =
        ⟨front.length + used.length + 1, front ++ (used ++ [t])⟩ := by
      simp [after, Nat.add_assoc]
    rw [here]
    show ((look (front.length + used.length)).run _).run _ >>= _ = _
    rw [run_look found]
    rfl
  have onward : Agrees eof (scan >>= fun _ => behind t) ts answer := first.next reads
  rw [same]
  exact onward inner front

theorem advance_agrees (ends : eof.kind = .eof) : Agrees eof advance ts (.ok (ts.headD eof, ts.tail)) := by
  refine peek_agrees.next ?_
  cases ts with
  | nil =>
    simp only [List.headD_nil, ends]
    exact Agrees.pure eof
  | cons t rest =>
    intro inner front
    have moved : (⟨front.length + 1, front ++ [t]⟩ : Cursor) = after (front ++ [t]) := by simp [after]
    have isInner : t.kind ≠ .eof := inner t (List.mem_cons_self ..)
    simp only [List.headD_cons, isInner, ne_eq, not_false_eq_true, ↓reduceIte]
    show Meets front _ _ (.ok (t, ⟨front.length + 1, front ++ [t]⟩))
    rw [moved]
    exact .passed rfl

theorem eatIf_ahead (rest : List Token) (ends : eof.kind = .eof) (passes : test t = true) :
    Agrees eof (eatIf test) (t :: rest) (.ok (some t, rest)) := by
  refine peek_agrees.next ?_
  rw [List.headD_cons, if_pos passes]
  have passed : Agrees eof advance (t :: rest) (.ok (t, rest)) := advance_agrees ends
  show Agrees eof (advance >>= fun t => pure (some t)) _ _
  exact passed.next (Agrees.pure _)

theorem eatIf_some {rest : List Token} {fewer : rest.length < ts.length} (ends : eof.kind = .eof)
    (eaten : front? test ts = some (t, ⟨rest, fewer⟩)) :
    Agrees eof (eatIf test) ts (.ok (some t, rest)) := by
  obtain ⟨split, passes⟩ := Grammar.front?_some eaten
  rw [split]
  exact eatIf_ahead rest ends passes

theorem eatIf_none (stops : test eof = false) (absent : Grammar.NotAhead test ts.head?) :
    Agrees eof (eatIf test) ts (.ok (none, ts)) := by
  have fails : test (ts.headD eof) = false := by
    cases ts with
    | nil => exact stops
    | cons t rest => exact absent t rfl
  refine peek_agrees.next ?_
  rw [if_neg (Bool.eq_false_iff.mp fails)]
  exact Agrees.pure none

theorem eat_some {rest : List Token} {fewer : rest.length < ts.length} (ends : eof.kind = .eof)
    (eaten : eat? kind ts = some (t, ⟨rest, fewer⟩)) :
    Agrees eof (eat kind) ts (.ok (some t, rest)) :=
  eatIf_some ends (Grammar.eat?_eq kind ts ▸ eaten)

theorem eat_none (ends : eof.kind = .eof) (inner : kind ≠ .eof) (eaten : eat? kind ts = none) :
    Agrees eof (eat kind) ts (.ok (none, ts)) :=
  eatIf_none (by simpa [ends] using inner.symm) (Grammar.eat?_none eaten)

theorem kind_ahead {found : Token × Parser.Fewer ts} (eaten : eat? kind ts = some found) :
    (ts.headD eof).kind = kind := by
  obtain ⟨split, isKind⟩ := Grammar.eat?_some eaten
  rwa [split]

theorem kind_ahead_ne (ends : eof.kind = .eof) (inner : kind ≠ .eof) (eaten : eat? kind ts = none) :
    (ts.headD eof).kind ≠ kind := by
  cases ts with
  | nil => simpa [ends] using inner.symm
  | cons t rest => simpa [isKind] using Grammar.eat?_none eaten t rfl

theorem isWord_end (ends : eof.kind = .eof) : isWord word eof = false := by
  simp [isWord, ends]

theorem eatWord_some {rest : List Token} {fewer : rest.length < ts.length} (ends : eof.kind = .eof)
    (eaten : eatWord? word ts = some (t, ⟨rest, fewer⟩)) :
    Agrees eof (eatWord word) ts (.ok (some t, rest)) :=
  eatIf_some ends (Grammar.eatWord?_eq word ts ▸ eaten)

theorem eatWord_none (ends : eof.kind = .eof) (eaten : eatWord? word ts = none) :
    Agrees eof (eatWord word) ts (.ok (none, ts)) :=
  eatIf_none (isWord_end ends) (Grammar.front?_none (Grammar.eatWord?_eq word ts ▸ eaten))

theorem eatEither_ahead {α : Type} {first second : String × α} {a : α} (rest : List Token)
    (ends : eof.kind = .eof) (found : either? first second t = some a) :
    Agrees eof (eatEither first second) (t :: rest) (.ok (some (a, t), rest)) := by
  rw [either?] at found
  split at found
  · next isFirst =>
    cases found
    exact (eatIf_ahead rest ends isFirst).next (Agrees.pure _)
  · next notFirst =>
    refine (eatIf_none (isWord_end ends) (by simpa using notFirst)).next ?_
    split at found
    · next isSecond =>
      cases found
      exact (eatIf_ahead rest ends isSecond).next (Agrees.pure _)
    · cases found

theorem eatEither_some {α : Type} {first second : String × α} {a : α} {rest : List Token}
    {fewer : rest.length < ts.length} (ends : eof.kind = .eof)
    (chosen : choice? first second ts = some ((a, t), ⟨rest, fewer⟩)) :
    Agrees eof (eatEither first second) ts (.ok (some (a, t), rest)) := by
  obtain ⟨split, found⟩ := Grammar.choice?_some chosen
  rw [split]
  exact eatEither_ahead rest ends found

theorem eatEither_none {α : Type} {first second : String × α} (ends : eof.kind = .eof)
    (chosen : choice? first second ts = none) :
    Agrees eof (eatEither first second) ts (.ok (none, ts)) := by
  have neither : Grammar.NotAhead (isWord first.1) ts.head? ∧
      Grammar.NotAhead (isWord second.1) ts.head? := by
    refine ⟨fun t ahead => ?_, fun t ahead => ?_⟩ <;>
    · have absent := Grammar.choice?_none chosen t ahead
      simp only [either?] at absent
      grind
  refine (eatIf_none (isWord_end ends) neither.1).next ?_
  exact (eatIf_none (isWord_end ends) neither.2).next (Agrees.pure none)

theorem expect_agrees (kind : Token.Kind) (context : Context) (ends : eof.kind = .eof)
    (inner : kind ≠ .eof) :
    Agrees eof (expect kind context) ts (plain id (Parser.expect eof kind context ts)) := by
  refine peek_agrees.next ?_
  cases ts with
  | nil =>
    rw [List.headD_nil, if_neg (by simpa [ends] using inner.symm)]
    exact Agrees.refuse _
  | cons t rest =>
    rw [List.headD_cons, Parser.expect]
    split
    · exact advance_agrees ends
    · exact Agrees.refuse _

theorem expect_of_eat {rest : Parser.Fewer ts} (eaten : eat? kind ts = some (t, rest)) :
    Parser.expect eof kind context ts = .ok (t, rest) := by
  cases ts with
  | nil => cases eaten
  | cons head tail =>
    rw [eat?] at eaten
    split at eaten
    · next isKind =>
      cases eaten
      rw [Parser.expect, if_pos isKind]
    · cases eaten

end

/-! Loops. -/

/-- What a round answers, beside what all rounds answer together. -/
inductive Round {σ α : Type} (whole : σ → List Token → Except ParseError (α × List Token)) (s : σ)
    (ts : List Token) : Except ParseError ((σ ⊕ α) × List Token) → Prop
  | leaves {a : α} {rest : List Token} (same : whole s ts = .ok (a, rest)) :
      Round whole s ts (.ok (.inr a, rest))
  | goesOn {s' : σ} {rest : List Token} (fewer : rest.length < ts.length)
      (same : whole s ts = whole s' rest) : Round whole s ts (.ok (.inl s', rest))
  | refuses {e : ParseError} (same : whole s ts = .error e) : Round whole s ts (.error e)

/-- A loop whose rounds take tokens ends before the fuel does, if there is more of it than of tokens. -/
theorem loop_agrees {σ α : Type} {eof : Token} {round : σ → Scan (σ ⊕ α)}
    {whole : σ → List Token → Except ParseError (α × List Token)} {bound : Nat}
    (rounds : ∀ s ts, ts.length ≤ bound →
      ∃ answer, Agrees eof (round s) ts answer ∧ Round whole s ts answer)
    {fuel : Nat} (s : σ) {ts : List Token} (inBound : ts.length ≤ bound) (enough : ts.length < fuel) :
    Agrees eof (loop round fuel s) ts (whole s ts) := by
  -- A round that goes on leaves fewer tokens, so there stays more fuel than tokens.
  induction fuel generalizing s ts with
  | zero => exact absurd enough (Nat.not_lt_zero _)
  | succ fuel ih =>
    obtain ⟨answer, first, goes⟩ := rounds s ts inBound
    cases goes with
    | leaves same =>
      rw [same]
      exact Agrees.unchecked fun c => first.next (Agrees.pure _)
    | refuses same =>
      rw [same]
      exact Agrees.unchecked fun c => first.stop
    | @goesOn s' rest fewer same =>
      rw [same]
      exact first.checked fewer (fun c => rfl) (ih s' (by omega) (by omega))

/-! Tokens are left by one reader after the other. -/

section

variable {ts r₁ r₂ r₃ : List Token}

theorem atMost_cons (t : Token) (first : r₁.length < ts.length) (second : r₂.length ≤ r₁.length) :
    r₂.length ≤ (t :: ts).length :=
  Nat.le_succ_of_le (Nat.le_trans second (Nat.le_of_lt first))

theorem atMost_of_fewer (first : r₁.length < ts.length) (second : r₂.length < r₁.length) :
    r₂.length ≤ ts.length :=
  Nat.le_of_lt (Parser.fewer_trans first second)

theorem fewer_of_atMost (first : r₁.length ≤ ts.length) (second : r₂.length ≤ r₁.length)
    (third : r₃.length < r₂.length) : r₃.length < ts.length :=
  Nat.lt_of_lt_of_le third (Nat.le_trans second first)

end

/-- What all rounds answer, when the first one reads `x` behind the token `t` and goes on. -/
def continued {σ α : Type} (whole : σ → (ts : List Token) → MayRead α ts) (t : Token) {ts : List Token}
    (x : Reads σ ts) : MayRead α (t :: ts) := do
  let (s, ⟨r₁, fewer₁⟩) ← x
  let (a, ⟨r₂, atMost₂⟩) ← whole s r₁
  pure (a, ⟨r₂, atMost_cons t fewer₁ atMost₂⟩)

theorem round_of_continued {σ α : Type} {whole : σ → (ts : List Token) → MayRead α ts} {s : σ} {t : Token}
    {ts : List Token} {x : Reads σ ts} (same : whole s (t :: ts) = continued whole t x) :
    Round (fun s ts => plain id (whole s ts)) s (t :: ts) (plain .inl x) := by
  cases x with
  | error e => exact .refuses (by rw [same]; rfl)
  | ok answer =>
    refine .goesOn (Nat.lt_succ_of_lt answer.2.2) ?_
    rw [same]
    show plain id (whole answer.1 answer.2.1 >>= _) = _
    exact plain_last fun _ _ _ => rfl

theorem listed_agrees {α : Type} {eof : Token} {close : Token.Kind} {context : Context} {scan : Scan α}
    {item : (ts : List Token) → Reads α ts} {whole : (ts : List Token) → Reads (List α × Token) ts}
    {bound fuel : Nat} {ts : List Token} (ends : eof.kind = .eof) (inner : close ≠ .eof)
    (items : ∀ ts, ts.length ≤ bound → Agrees eof scan ts (plain id (item ts)))
    (lists : ∀ ts, whole ts = listReads eof item close context whole ts)
    (inBound : ts.length ≤ bound) (enough : ts.length < fuel) :
    Agrees eof (listed fuel scan close context) ts (plain id (whole ts)) := by
  -- The loop keeps what it has found, which stands before all that is still to come.
  let prepended (found : List α) (ts : List Token) : Except ParseError ((List α × Token) × List Token) :=
    plain (fun (more, t) => (found ++ more, t)) (whole ts)
  suffices rounds : ∀ found ts, ts.length ≤ bound → ∃ answer,
      Agrees eof (listRound scan close context found) ts answer ∧ Round prepended found ts answer from
    loop_agrees rounds [] inBound enough
  intro found ts inBound
  have first := items ts inBound
  have unfolded := lists ts
  unfold listReads at unfolded
  cases eaten : eat? close ts with
  | some closing =>
    obtain ⟨t, rest, fewer⟩ := closing
    simp only [eaten] at unfolded
    refine ⟨.ok (.inr (found, t), rest), (eat_some ends eaten).next (Agrees.pure _), .leaves ?_⟩
    simp [prepended, unfolded, plain, Except.map]
  | none =>
    have notClose := eat_none ends inner eaten
    simp only [eaten] at unfolded
    cases read : item ts with
    | error e =>
      rw [read] at first unfolded
      exact ⟨.error e, notClose.next first.stop, .refuses (by simp only [prepended, unfolded]; rfl)⟩
    | ok answer =>
      obtain ⟨a, r₁, fewer₁⟩ := answer
      rw [read] at first unfolded
      simp only [Bind.bind, Except.bind] at unfolded
      cases comma : eat? .comma r₁ with
      | some separator =>
        obtain ⟨t, r₂, fewer₂⟩ := separator
        simp only [comma] at unfolded
        refine ⟨.ok (.inl (found ++ [a]), r₂),
          notClose.next (first.next ((eat_some ends comma).next (Agrees.pure _))),
          .goesOn (by omega) ?_⟩
        simp only [prepended, unfolded]
        cases whole r₂ <;> simp [plain, Except.map, Pure.pure, Except.pure]
      | none =>
        have noComma := eat_none ends (by decide) comma
        have closes : Agrees eof _ r₁ _ := expect_agrees close context ends inner
        simp only [comma] at unfolded
        cases last : Parser.expect eof close context r₁ with
        | error e =>
          rw [last] at closes unfolded
          exact ⟨.error e, notClose.next (first.next (noComma.next closes.stop)),
            .refuses (by simp only [prepended, unfolded]; rfl)⟩
        | ok answer =>
          obtain ⟨t, r₂, fewer₂⟩ := answer
          rw [last] at closes unfolded
          exact ⟨.ok (.inr (found ++ [a], t), r₂),
            notClose.next (first.next (noComma.next (closes.next (Agrees.pure _)))),
            .leaves (by simp only [prepended, unfolded]; rfl)⟩

end Cursor

end QueryLint
