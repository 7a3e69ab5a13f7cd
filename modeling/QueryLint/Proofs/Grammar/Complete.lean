import QueryLint.Proofs.Grammar.Sound

/-! The other direction: what the grammar derives, the readers accept.

A derivation fixes the tokens a reader takes and its lookahead the token it stops at, so a reader
that is given the derived tokens, and behind them others that begin with the lookahead, returns the
derived value and leaves the others.
-/

set_option autoImplicit false

namespace QueryLint.Grammar

open QueryLint.Parser
open ParseError (Context)

/-- The answer of a reader that returned `a` and left `rest`. -/
def Gives {α : Type} {P : List Token → Prop}
    (answer : Except ParseError (α × { rest : List Token // P rest })) (a : α)
    (rest : List Token) : Prop :=
  ∃ left, answer = .ok (a, ⟨rest, left⟩)

theorem Gives.bind {α β : Type} {P Q : List Token → Prop} {a : α} {b : β} {r₁ r₂ : List Token}
    {x : Except ParseError (α × { rest : List Token // P rest })}
    {f : α × { rest : List Token // P rest } →
      Except ParseError (β × { rest : List Token // Q rest })}
    (first : Gives x a r₁) (second : ∀ left, Gives (f (a, ⟨r₁, left⟩)) b r₂) :
    Gives (x >>= f) b r₂ := by
  obtain ⟨left, rfl⟩ := first
  exact second left

/-- A step that takes no tokens. -/
theorem Gives.step {α β : Type} {Q : List Token → Prop} {a : α} {b : β} {rest : List Token}
    {x : Except ParseError α} {f : α → Except ParseError (β × { rest : List Token // Q rest })}
    (first : x = .ok a) (second : Gives (f a) b rest) : Gives (x >>= f) b rest := by
  rw [first]
  exact second

theorem Gives.pure {α : Type} {P : List Token → Prop} {a : α} {rest : List Token}
    (left : P rest) : Gives (.ok (a, ⟨rest, left⟩) : Except ParseError (α × { rest // P rest })) a rest :=
  ⟨left, rfl⟩

/-- The reader answers what was built and leaves `rest`, or fails with the error of building. -/
def Yields {P : List Token → Prop}
    (answer : Except ParseError (Expr × { rest : List Token // P rest }))
    (built : Except ParseError Expr) (rest : List Token) : Prop :=
  match built with
  | .ok e => Gives answer e rest
  | .error error => answer = .error error

section

variable {P Q : List Token → Prop} {built : Except ParseError Expr} {rest rest' : List Token}

/-- Building comes last. -/
theorem Yields.build {f : Expr → Except ParseError (Expr × { rest : List Token // Q rest })}
    (last : ∀ e, Gives (f e) e rest) : Yields (built >>= f) built rest := by
  cases built with
  | ok e => exact last e
  | error error => rfl

/-- A reader of parts comes first. -/
theorem Yields.behind {α : Type} {a : α} {x : Except ParseError (α × { rest : List Token // P rest })}
    {f : α × { rest : List Token // P rest } →
      Except ParseError (Expr × { rest : List Token // Q rest })}
    (first : Gives x a rest) (second : ∀ left, Yields (f (a, ⟨rest, left⟩)) built rest') :
    Yields (x >>= f) built rest' := by
  obtain ⟨left, rfl⟩ := first
  exact second left

/-- A reader that has nothing to add comes last. -/
theorem Yields.bind {x : Except ParseError (Expr × { rest : List Token // P rest })}
    {f : Expr × { rest : List Token // P rest } →
      Except ParseError (Expr × { rest : List Token // Q rest })}
    (first : Yields x built rest) (second : ∀ e left, Gives (f (e, ⟨rest, left⟩)) e rest') :
    Yields (x >>= f) built rest' := by
  cases built with
  | ok e =>
    obtain ⟨left, rfl⟩ := first
    exact second e left
  | error error =>
    rw [show x = .error error from first]
    rfl

end

/-! Single tokens. -/

theorem expect_complete {t : Token} {kind : Token.Kind} (eof : Token) (context : Context)
    (rest : List Token) (same : t.kind = kind) :
    Gives (expect eof kind context (t :: rest)) t rest := by
  rw [expect, if_pos same]
  exact Gives.pure _

theorem front?_cons {test : Token → Bool} {t : Token} (rest : List Token) (passes : test t = true) :
    front? test (t :: rest) = some (t, ⟨rest, length_rest_lt t rest⟩) := by
  rw [front?, if_pos passes]

theorem front?_eq_none {test : Token → Bool} {ts : List Token} (fails : NotAhead test ts.head?) :
    front? test ts = none := by
  cases ts with
  | nil => rfl
  | cons t rest =>
    rw [front?, if_neg]
    simpa using fails

theorem eat?_cons {kind : Token.Kind} {t : Token} (rest : List Token) (same : t.kind = kind) :
    eat? kind (t :: rest) = some (t, ⟨rest, length_rest_lt t rest⟩) := by
  rw [eat?_eq, front?_cons rest (isKind_iff.mpr same)]

theorem eat?_eq_none {kind : Token.Kind} {ts : List Token}
    (differs : NotAhead (isKind kind) ts.head?) : eat? kind ts = none := by
  rw [eat?_eq, front?_eq_none differs]

/-- A token of another kind is not eaten. -/
theorem eat?_other {kind : Token.Kind} {t : Token} (rest : List Token) (differs : t.kind ≠ kind) :
    eat? kind (t :: rest) = none :=
  eat?_eq_none (by simpa [isKind] using differs)

theorem choice?_cons {α : Type} {first second : String × α} {t : Token} {a : α} (rest : List Token)
    (found : either? first second t = some a) :
    choice? first second (t :: rest) = some ((a, t), ⟨rest, length_rest_lt t rest⟩) := by
  rw [choice?, found]
  rfl

theorem choice?_eq_none {α : Type} {first second : String × α} {ts : List Token}
    (fails : NotAhead (fun t => (either? first second t).isSome) ts.head?) :
    choice? first second ts = none := by
  cases ts with
  | nil => rfl
  | cons t rest =>
    have missing : either? first second t = none := by simpa using fails
    rw [choice?, missing]
    rfl

/-! Lists. -/

section

variable {α : Type} {eof : Token} {close : Token.Kind} {context : Context}
  {item : (ts : List Token) → Reads α ts} {more : (ts : List Token) → Reads (List α × Token) ts}
  {ts rest : List Token} {t : Token} {a : α}

theorem listReads_nil (isClose : t.kind = close) :
    Gives (listReads eof item close context more (t :: rest)) ([], t) rest := by
  rw [listReads, eat?_cons rest isClose]
  exact Gives.pure _

theorem listReads_last (noClose : eat? close ts = none) (first : Gives (item ts) a (t :: rest))
    (isClose : t.kind = close) (noComma : close ≠ .comma) :
    Gives (listReads eof item close context more ts) ([a], t) rest := by
  rw [listReads, noClose]
  refine .bind first fun _ => ?_
  simp only
  rw [eat?_other _ (by simp [isClose, noComma])]
  exact .bind (expect_complete eof context _ isClose) fun _ => Gives.pure _

theorem listReads_more {comma : Token} {r₂ : List Token} {others : List α} (noClose : eat? close ts = none)
    (first : Gives (item ts) a (comma :: r₂)) (isComma : comma.kind = .comma)
    (later : Gives (more r₂) (others, t) rest) :
    Gives (listReads eof item close context more ts) (a :: others, t) rest := by
  rw [listReads, noClose]
  refine .bind first fun _ => ?_
  simp only
  rw [eat?_cons _ isComma]
  exact .bind later fun _ => Gives.pure _

/-- A list of the grammar is read, if no item of it starts with the closing token. -/
theorem listed_complete {Item : List Token → α → Prop} {whole : (ts : List Token) → Reads (List α × Token) ts}
    (lists : ∀ ts, whole ts = listReads eof item close context whole ts) (noComma : close ≠ .comma)
    (items : ∀ {used : List Token} {a : α}, Item used a → ∀ rest,
      eat? close (used ++ rest) = none ∧ Gives (item (used ++ rest)) a rest)
    {used : List Token} {found : List α} (listed : Listed Item used found) (isClose : t.kind = close)
    (split : ts = used ++ t :: rest) : Gives (whole ts) (found, t) rest := by
  induction listed generalizing ts with
  | nil =>
    rw [split, List.nil_append, lists]
    exact listReads_nil isClose
  | last isItem =>
    obtain ⟨noClose, first⟩ := items isItem (t :: rest)
    rw [split, lists]
    exact listReads_last noClose first isClose noComma
  | @more used behind comma a as isItem isComma _ ih =>
    obtain ⟨noClose, first⟩ := items isItem (comma :: (behind ++ t :: rest))
    rw [split, List.append_assoc, List.cons_append, lists]
    exact listReads_more noClose first isComma (ih rfl)

end

/-! Clauses without expressions inside. -/

theorem labels_complete {used : List Token} {found : List String} (listed : Listed Label used found)
    (eof : Token) (context : Context) {close : Token} (isClose : close.kind = .rightParen)
    (rest ts : List Token) (split : ts = used ++ close :: rest) :
    Gives (labels eof context ts) (found, close) rest := by
  refine listed_complete (labels_eq eof context) (by decide) ?_ listed isClose split
  rintro _ _ ⟨isName⟩ rest
  refine ⟨eat?_other rest (by simp [isName]), ?_⟩
  exact .bind (expect_complete eof context rest isName) fun _ => Gives.pure _

theorem labelList_complete {used : List Token} {close : Token} {found : List String}
    (listed : LabelList used close found) (eof : Token) (context : Context) (rest : List Token) :
    Gives (labelList eof context (used ++ rest)) (found, close) rest := by
  obtain ⟨isOpening, listed, isClose⟩ := listed
  rw [labelList, List.cons_append]
  refine .bind (expect_complete eof context _ isOpening) fun left => ?_
  exact .bind (labels_complete listed eof context isClose rest _ (by simp)) fun _ => Gives.pure _

theorem included_complete {used : List Token} {next : Option Token} {found : List String}
    (clause : Included next used found) (eof : Token) (rest : List Token)
    (follows : rest.head? = next) : Gives (included eof (used ++ rest)) found rest := by
  rw [included]
  cases clause with
  | absent missing =>
    rw [List.nil_append, eat?_eq_none (follows ▸ missing)]
    exact Gives.pure _
  | listed listed =>
    have whole := labelList_complete listed eof .grouping rest
    obtain ⟨isOpening, listed, isClose⟩ := listed
    rw [List.cons_append] at whole ⊢
    rw [eat?_cons _ isOpening]
    exact .bind whole fun _ => Gives.pure _

theorem vectorMatching_complete {op : BinaryOp} {used : List Token} {next : Option Token}
    {matching : Option Matching} (clause : MatchingClause op next used matching) (eof : Token)
    (rest : List Token) (follows : rest.head? = next) :
    Gives (vectorMatching eof op (used ++ rest)) matching rest := by
  rw [vectorMatching, matchingSide?_eq]
  cases clause with
  | absent missing =>
    rw [List.nil_append, choice?_eq_none (follows ▸ missing)]
    exact Gives.pure _
  | plain isWord listed alone =>
    rw [List.cons_append, choice?_cons _ isWord]
    refine .bind (labelList_complete listed eof .vectorMatching rest) fun left => ?_
    simp only [cardinality?_eq]
    rw [choice?_eq_none (follows ▸ alone)]
    exact Gives.pure _
  | @grouped _ _ side _ more _ _ _ _ isWord listed isSide notSet including =>
    rw [List.cons_append, List.append_assoc, List.cons_append, choice?_cons _ isWord]
    refine .bind (labelList_complete listed eof .vectorMatching (side :: (more ++ rest)))
      fun left => ?_
    simp only [cardinality?_eq]
    rw [choice?_cons _ isSide]
    simp only [notSet, Bool.false_eq_true, if_false]
    exact .bind (included_complete including eof rest follows) fun _ => Gives.pure _

theorem grouping?_complete {used : List Token} {close : Token} {grouping : Grouping}
    (clause : GroupingClause used close grouping) (eof : Token) (rest : List Token) :
    Gives (grouping? eof (used ++ rest)) (some (grouping, close)) rest := by
  obtain ⟨isWord, listed⟩ := clause
  rw [grouping?, groupingSide?_eq, List.cons_append, choice?_cons _ isWord]
  exact .bind (labelList_complete listed eof .grouping rest) fun _ => Gives.pure _

theorem grouping?_absent (eof : Token) {rest : List Token}
    (missing : NotAhead (fun t => (groupingWord? t).isSome) rest.head?) :
    Gives (grouping? eof rest) none rest := by
  rw [grouping?, groupingSide?_eq, choice?_eq_none missing]
  exact Gives.pure _

/-! Ranges and modifiers. -/

theorem duration_complete {t : Token} {ms : Nat} (isDuration : IsDuration t ms) (eof : Token)
    (context : Context) (rest : List Token) :
    Gives (duration eof context (t :: rest)) (ms, t) rest := by
  rw [duration]
  refine .bind (expect_complete eof context rest isDuration.kind) fun left => ?_
  simp only [isDuration.read]
  exact Gives.pure _

theorem minus_complete {sign : List Token} {negative : Bool} (isSign : Sign sign negative)
    {t : Token} (rest : List Token) (differs : t.kind ≠ .sub) :
    ∃ left, minus (sign ++ t :: rest) = (negative, ⟨t :: rest, left⟩) := by
  rw [minus]
  cases isSign with
  | absent =>
    rw [List.nil_append, eat?_other rest differs]
    exact ⟨_, rfl⟩
  | minus kind =>
    rw [List.singleton_append, eat?_cons _ kind]
    exact ⟨_, rfl⟩

theorem instant_complete {used : List Token} {last : Token} {value : Instant}
    (clause : InstantClause used last value) (eof : Token) (rest : List Token) :
    Gives (instant eof (used ++ rest)) (value, last.span) rest := by
  rw [instant, instantWord_eq]
  cases clause with
  | word isName isOpening isClose =>
    simp only [List.cons_append, List.nil_append]
    rw [choice?_cons _ isName]
    refine .bind (expect_complete eof .instant _ isOpening) fun left => ?_
    exact .bind (expect_complete eof .instant _ isClose) fun _ => Gives.pure _
  | @timestamp sign _ negative value isSign isNumber readValue finite =>
    have noWord : NotAhead (fun t => (instantWord? t).isSome) (sign ++ [last] ++ rest).head? := by
      cases isSign with
      | absent => simp [either?, isWord, isNumber]
      | minus kind => simp [either?, isWord, kind]
    rw [choice?_eq_none noWord, List.append_assoc, List.singleton_append]
    obtain ⟨left, taken⟩ := minus_complete (t := last) isSign rest (by simp [isNumber])
    rw [taken]
    refine .bind (expect_complete eof .instant _ isNumber) fun _ => .step readValue ?_
    simp only [finite, if_true]
    exact Gives.pure _

theorem range_complete {length close : Token} {ms : Nat} (isLength : IsDuration length ms)
    (isClose : close.kind = .rightBracket) (eof opening : Token) (selector : Selector)
    (rest : List Token) :
    Gives (window eof opening (.vector selector) (length :: close :: rest))
      (.matrix selector ms (selector.span.cover close.span)) rest := by
  rw [window]
  refine .bind (duration_complete isLength eof .range _) fun left => ?_
  simp only
  rw [eat?_other _ (by simp [isClose])]
  exact .bind (expect_complete eof .rangeSelector _ isClose) fun _ => Gives.pure _

theorem subquery_complete {length colon close : Token} {used : List Token} {ms : Nat}
    {step : Option Nat} {e : Expr} (isLength : IsDuration length ms)
    (isColon : colon.kind = .colon) (isStep : Step used step) (isClose : close.kind = .rightBracket)
    (isVector : e.valueType = .vector) (eof opening : Token) (rest : List Token) :
    Gives (window eof opening e (length :: colon :: (used ++ close :: rest)))
      (.subquery e ms step {} (e.span.cover close.span)) rest := by
  rw [window]
  refine .bind (duration_complete isLength eof .range _) fun left => ?_
  simp only
  rw [eat?_cons _ isColon]
  -- With or without a step, the closing bracket comes next.
  cases isStep with
  | absent =>
    simp only [List.nil_append]
    rw [eat?_other _ (by simp [isClose])]
    refine .bind (Gives.pure _) fun _ => .bind (expect_complete eof .subquery _ isClose) fun _ => ?_
    simp only [isVector, ne_eq, not_true_eq_false, if_false]
    exact Gives.pure _
  | given isStep =>
    simp only [List.cons_append, List.nil_append]
    rw [eat?_cons _ isStep.kind]
    refine .bind (show Gives _ (some _) (close :: rest) from
      .bind (duration_complete isStep eof .subqueryStep _) fun _ => Gives.pure _)
      fun _ => .bind (expect_complete eof .subquery _ isClose) fun _ => ?_
    simp only [isVector, ne_eq, not_true_eq_false, if_false]
    exact Gives.pure _

theorem offset_complete {sign : List Token} {negative : Bool} {length : Token} {ms : Nat} {e : Expr}
    {modifiers : Modifiers} (isSign : Sign sign negative) (isLength : IsDuration length ms)
    (found : e.modifiers? = some modifiers) (unset : modifiers.offset = none) (eof word : Token)
    (rest : List Token) :
    Gives (offset eof word e (sign ++ length :: rest))
      (e.modify { modifiers with offset := some (if negative then -(ms : Int) else ms) }
        length.span) rest := by
  obtain ⟨left, taken⟩ := minus_complete (t := length) isSign rest (by simp [isLength.kind])
  rw [offset, taken]
  refine .bind (duration_complete isLength eof .offset _) fun left => ?_
  simp only [found, unset, Option.isSome_none, Bool.false_eq_true, if_false]
  exact Gives.pure _

theorem pinned_complete {used : List Token} {last : Token} {value : Instant} {e : Expr}
    {modifiers : Modifiers} (clause : InstantClause used last value)
    (found : e.modifiers? = some modifiers) (unset : modifiers.instant = none) (eof mark : Token)
    (rest : List Token) :
    Gives (pinned eof mark e (used ++ rest))
      (e.modify { modifiers with instant := some value } last.span) rest := by
  rw [pinned]
  refine .bind (instant_complete clause eof rest) fun left => ?_
  simp only [found, unset, Option.isSome_none, Bool.false_eq_true, if_false]
  exact Gives.pure _

/-- A suffix leaves the reader of suffixes with its result and what follows, which has the last word. -/
theorem suffix_complete {e middle : Expr} {used : List Token} (suffix : Suffix e used middle)
    (eof : Token) (rest ts : List Token) (split : ts = used ++ rest) {built : Except ParseError Expr}
    {rest' : List Token} (others : Yields (suffixes eof middle rest) built rest') :
    Yields (suffixes eof e ts) built rest' := by
  cases suffix with
  | range isOpening isLength isClose =>
    subst split
    simp only [List.cons_append, List.nil_append]
    rw [suffixes, if_pos isOpening]
    exact .behind (range_complete isLength isClose eof _ _ rest)
      fun _ => others.bind fun _ _ => Gives.pure _
  | subquery isOpening isLength isColon isStep isClose isVector =>
    simp only [List.cons_append, List.append_assoc, List.nil_append] at split
    subst split
    rw [suffixes, if_pos isOpening]
    exact .behind (subquery_complete isLength isColon isStep isClose isVector eof _ rest)
      fun _ => others.bind fun _ _ => Gives.pure _
  | offset isOffset isSign isLength found unset =>
    simp only [List.cons_append, List.append_assoc, List.nil_append] at split
    subst split
    rw [suffixes, if_neg (by simp [kind_of_isWord isOffset]), if_pos isOffset]
    exact .behind (offset_complete isSign isLength found unset eof _ rest)
      fun _ => others.bind fun _ _ => Gives.pure _
  | pinned isMark clause found unset =>
    subst split
    rw [List.cons_append, suffixes, if_neg (by simp [isMark]), if_neg (by simp [isWord, isMark]),
      if_pos isMark]
    exact .behind (pinned_complete clause found unset eof _ rest)
      fun _ => others.bind fun _ _ => Gives.pure _

theorem suffixes_complete {e e' : Expr} {used : List Token} {next : Option Token}
    (suffixes : Suffixes next e used e') (eof : Token) (rest : List Token)
    (follows : rest.head? = next) : Gives (Parser.suffixes eof e (used ++ rest)) e' rest := by
  induction suffixes with
  | nil stops =>
    cases rest with
    | nil =>
      rw [List.nil_append, Parser.suffixes]
      exact Gives.pure _
    | cons t tail =>
      subst follows
      simp only [List.head?_cons, NotAhead.some_iff, startsSuffix, isKind, Bool.or_eq_false_iff,
        decide_eq_false_iff_not] at stops
      rw [List.nil_append, Parser.suffixes, if_neg stops.1.1, if_neg (by simp [stops.1.2]),
        if_neg stops.2]
      exact Gives.pure _
  | @cons _ _ e' _ _ suffix _ ih =>
    have others : Yields (Parser.suffixes eof _ _) (.ok e') rest := ih
    exact suffix_complete suffix eof _ _ (List.append_assoc _ _ _) others

/-! Selectors. -/

theorem matcher_complete {used : List Token} {m : Matcher} (condition : Condition used m)
    (eof : Token) (rest : List Token) : Gives (matcher eof (used ++ rest)) m rest := by
  obtain ⟨isLabel, isOp, isValue, readString⟩ := condition
  simp only [List.cons_append, List.nil_append]
  rw [matcher]
  refine .bind (expect_complete eof .labelMatching _ isLabel) fun left => ?_
  simp only [List.headD_cons, isOp, List.tail_cons]
  exact .bind (expect_complete eof .labelMatching _ isValue)
    fun _ => .step readString (Gives.pure _)

theorem matchers_complete {used : List Token} {found : List Matcher}
    (listed : Listed Condition used found) (eof : Token) {close : Token}
    (isClose : close.kind = .rightBrace) (rest ts : List Token)
    (split : ts = used ++ close :: rest) : Gives (matchers eof ts) (found, close) rest := by
  refine listed_complete (matchers_eq eof) (by decide) ?_ listed isClose split
  intro used m condition rest
  refine ⟨?_, matcher_complete condition eof rest⟩
  obtain ⟨isLabel⟩ := condition
  exact eat?_other _ (by simp [isLabel])

theorem braces_complete [Pattern.Engine] {used : List Token} {opening close : Token} {found : List Matcher}
    (clause : Braces (opening :: used) opening close found) (eof : Token) (name : Option String)
    (named : List Matcher) (start : Text.Span) {e : Expr}
    (finished : finishSelector name (named ++ found) (start.cover close.span) = .ok e)
    (rest : List Token) : Gives (braces eof name named start (used ++ rest)) e rest := by
  obtain ⟨isOpening, listed, isClose⟩ := clause
  rw [braces]
  exact .bind (matchers_complete listed eof isClose rest _ (by simp))
    fun _ => .step finished (Gives.pure _)

/-! Expressions. -/

theorem boolFlag_complete {op : BinaryOp} {flag : List Token} {next : Option Token}
    {returnsBool : Bool} (clause : BoolFlag op next flag returnsBool) (rest : List Token)
    (follows : rest.head? = next) :
    ∃ left, boolFlag op (flag ++ rest) = (returnsBool, ⟨rest, left⟩) := by
  rw [boolFlag, eatWord?_eq]
  cases clause with
  | absent missing =>
    split
    · next comparison =>
      rw [List.nil_append, front?_eq_none (follows ▸ missing comparison)]
      exact ⟨Nat.le_refl _, rfl⟩
    · exact ⟨Nat.le_refl _, rfl⟩
  | present comparison isBool =>
    rw [if_pos comparison, List.singleton_append, front?_cons rest isBool]
    exact ⟨_, rfl⟩

/-- Whether an operand can begin with a token. -/
def startsOperand (t : Token) : Bool :=
  match t.kind with
  | .number | .string | .leftParen | .leftBrace | .identifier | .add | .sub => true
  | _ => false

/-- Every phrase but a list of arguments begins with a token of an operand. -/
def Begins : Phrase → List Token → Prop
  | .arguments _, _ => True
  | _, used => ∃ t tail, used = t :: tail ∧ startsOperand t = true

section

variable [Pattern.Engine]

theorem Derives.begins {phrase : Phrase} {used : List Token} {next : Option Token}
    (derived : Derives phrase used next) : Begins phrase used := by
  induction derived with
  | expr _ _ ih => exact ih
  | first _ ih => exact ih
  | operator _ _ _ _ _ _ _ ih _ =>
    obtain ⟨t, tail, rfl, starts⟩ := ih
    exact ⟨t, _, rfl, starts⟩
  | signed isSign _ _ _ =>
    refine ⟨_, _, rfl, ?_⟩
    unfold UnaryOp.ofKind? at isSign
    split at isSign <;> simp_all [startsOperand]
  | suffixed _ _ ih =>
    obtain ⟨t, tail, rfl, starts⟩ := ih
    exact ⟨t, _, rfl, starts⟩
  | number kind _ | numberWord kind _ | string kind _ | paren kind _ _ _ =>
    exact ⟨_, _, rfl, by simp [startsOperand, kind]⟩
  | braces braces _ =>
    obtain ⟨isOpening, _, _⟩ := braces
    exact ⟨_, _, rfl, by simp [startsOperand, isOpening]⟩
  | metric isMetric _ _ | metricBraces isMetric _ _ =>
    exact ⟨_, _, rfl, by simp [startsOperand, isMetric.kind]⟩
  | call isName _ _ _ _ _ _ _ | aggregateLeading isName _ _ _ _ _ _ _
  | aggregate isName _ _ _ _ _ _ _ => exact ⟨_, _, rfl, by simp [startsOperand, isName.kind]⟩
  | noArguments | lastArgument _ _ | moreArguments _ _ _ _ _ => trivial

/-- No argument starts with the parenthesis that ends the list. -/
theorem eat?_argument {least : Nat} {e : Expr} {used : List Token} {next : Option Token}
    (derived : Derives (.expr least e) used next) (rest : List Token) :
    eat? .rightParen (used ++ rest) = none := by
  obtain ⟨t, tail, rfl, starts⟩ := derived.begins
  refine eat?_other _ fun same => ?_
  simp [startsOperand, same] at starts

/-- What the reader of a phrase answers when the phrase stands in front. An open chain is not read
on its own: the reader of expressions goes on behind it. -/
def Accepted : Phrase → List Token → Option Token → Prop
  | .expr least e, used, next => ∀ eof rest ts, ts = used ++ rest → rest.head? = next →
      Gives (expr eof least ts) e rest
  | .chain least e, used, next => ∀ eof rest ts e' rest', ts = used ++ rest → rest.head? = next →
      Gives (chain eof least e rest) e' rest' → Gives (expr eof least ts) e' rest'
  | .operand e, used, next => ∀ eof rest ts, ts = used ++ rest → rest.head? = next →
      Gives (operand eof ts) e rest
  | .primary e, used, next => ∀ eof t rest ts, t :: ts = used ++ rest → rest.head? = next →
      UnaryOp.ofKind? t.kind = none ∧ Gives (primary eof t ts) e rest
  | .arguments args, used, next => ∀ eof context close rest ts, ts = used ++ close :: rest →
      next = some close → close.kind = .rightParen → Gives (arguments eof context ts) (args, close) rest

/-- Where no operator of the level follows, a chain ends. -/
theorem chain_stop (eof : Token) {least : Nat} (e : Expr) {rest : List Token}
    (stops : NotAhead (continuesChain least) rest.head?) : Gives (chain eof least e rest) e rest := by
  cases rest with
  | nil =>
    rw [chain]
    exact Gives.pure _
  | cons t tail =>
    rw [chain]
    split
    · exact Gives.pure _
    · next op isOperator =>
      have loose : op.precedence < least := by
        simpa [continuesChain, isOperator] using stops
      rw [if_pos loose]
      exact Gives.pure _

/-- A name that is a metric is read as one. -/
theorem primary_metric (eof : Token) {t : Token} {ts : List Token} (isMetric : IsMetric t ts.head?) :
    primary eof t ts = namedSelector eof t ts := by
  rw [primary, isMetric.kind]
  simp only [isMetric.noNumber, isMetric.notReserved, Bool.false_eq_true, if_false]
  split
  · next op isOp starts =>
    have noStart := startsAggregate_eq_false.mpr
      ⟨isMetric.noCall, isMetric.noAggregate (by simp [isOp])⟩
    simp [noStart] at starts
  · rw [eat?_eq_none isMetric.noCall]

/-- The name of an aggregation is read as one where an aggregation can start. -/
theorem primary_aggregation (eof : Token) {op : AggregateOp} {t : Token} {ts : List Token}
    (isName : IsName t) (isOp : AggregateOp.ofName? t.text = some op)
    (starts : startsAggregate ts = true) : primary eof t ts = aggregation eof op t ts := by
  rw [primary, isName.kind]
  simp only [isName.noNumber, isOp, starts]

end

theorem startsAggregate_clause {clause : List Token} {last : Token} {grouping : Grouping}
    (isClause : GroupingClause clause last grouping) (rest : List Token) :
    startsAggregate (clause ++ rest) = true := by
  obtain ⟨isWord, _⟩ := isClause
  rw [← Bool.not_eq_false]
  intro noStart
  have noWord := (startsAggregate_eq_false.mp noStart).2
  simp [isWord] at noWord

variable [Pattern.Engine]

theorem Derives.accepted {phrase : Phrase} {used : List Token} {next : Option Token}
    (derived : Derives phrase used next) : Accepted phrase used next := by
  induction derived with
  | expr _ stops ih =>
    intro eof rest ts split follows
    exact ih eof rest ts _ _ split follows (chain_stop eof _ (follows ▸ stops))
  | first _ ih =>
    intro eof rest ts e' rest' split follows more
    rw [Parser.expr]
    exact .bind (ih eof rest ts split follows) fun _ => .bind more fun _ => Gives.pure _
  | @operator least op t lhs rhs e returnsBool matching left flag clause right next _ isOperator
      tight isFlag isClause _ built ihLhs ihRhs =>
    intro eof rest ts e' rest' split follows more
    -- The chain read so far ends in front of the operator, and the reader goes on there.
    refine ihLhs eof (t :: (flag ++ (clause ++ (right ++ rest)))) ts e' rest' (by simp [split]) rfl ?_
    have afterClause : (right ++ rest).head? = ahead right next := by rw [head?_append, follows]
    have afterFlag : (clause ++ (right ++ rest)).head? = ahead clause (ahead right next) := by
      rw [head?_append, afterClause]
    obtain ⟨_, taken⟩ := boolFlag_complete isFlag _ afterFlag
    rw [Parser.chain, isOperator]
    simp only [Nat.not_lt.mpr tight, if_false]
    rw [taken]
    refine .bind (vectorMatching_complete isClause eof _ afterClause) fun _ => ?_
    refine .bind (ihRhs eof rest _ rfl follows) fun _ => .step built ?_
    exact .bind more fun _ => Gives.pure _
  | signed isSign _ built ih =>
    intro eof rest ts split follows
    subst split
    rw [List.cons_append, operand, isSign]
    exact .bind (ih eof rest _ rfl follows) fun _ => .step built (Gives.pure _)
  | @suffixed body e used more next derived suffixes ih =>
    intro eof rest ts split follows
    obtain ⟨t, tail, rfl, _⟩ := derived.begins
    -- The primary expression sees the first suffix ahead, or what follows when there is none.
    have after : (more ++ rest).head? = ahead more next := by rw [head?_append, follows]
    obtain ⟨noSign, first⟩ := ih eof t (more ++ rest) (tail ++ (more ++ rest)) rfl after
    simp only [List.cons_append, List.append_assoc] at split
    subst split
    rw [operand, noSign]
    exact .bind first fun _ => .bind (suffixes_complete suffixes eof rest follows)
      fun _ => Gives.pure _
  | number kind readNumber =>
    intro eof t rest ts split follows
    cases split
    refine ⟨by simp [UnaryOp.ofKind?, kind], ?_⟩
    rw [primary, kind]
    exact .step readNumber (Gives.pure _)
  | numberWord kind isNumber =>
    intro eof t rest ts split follows
    cases split
    refine ⟨by simp [UnaryOp.ofKind?, kind], ?_⟩
    rw [primary, kind]
    simp only [isNumber]
    exact Gives.pure _
  | string kind readString =>
    intro eof t rest ts split follows
    cases split
    refine ⟨by simp [UnaryOp.ofKind?, kind], ?_⟩
    rw [primary, kind]
    exact .step readString (Gives.pure _)
  | paren isOpening _ isClose ih =>
    intro eof t rest ts split follows
    simp only [List.cons_append, List.append_assoc, List.nil_append, List.cons.injEq] at split
    obtain ⟨rfl, split⟩ := split
    refine ⟨by simp [UnaryOp.ofKind?, isOpening], ?_⟩
    rw [primary, isOpening]
    exact .bind (ih eof _ ts split rfl)
      fun _ => .bind (expect_complete eof .parentheses _ isClose) fun _ => Gives.pure _
  | braces clause finished =>
    intro eof t rest ts split follows
    have whole := clause
    obtain ⟨isOpening, _, _⟩ := clause
    cases split
    refine ⟨by simp [UnaryOp.ofKind?, isOpening], ?_⟩
    rw [primary, isOpening]
    exact .bind (braces_complete whole eof none [] _ finished rest) fun _ => Gives.pure _
  | metric isMetric noBrace finished =>
    intro eof t rest ts split follows
    cases split
    refine ⟨by simp [UnaryOp.ofKind?, isMetric.kind], ?_⟩
    rw [primary_metric eof (follows ▸ isMetric), namedSelector,
      eat?_eq_none (follows ▸ noBrace)]
    exact .step finished (Gives.pure _)
  | metricBraces isMetric clause finished =>
    intro eof t rest ts split follows
    have whole := clause
    obtain ⟨isOpening, _, _⟩ := clause
    cases split
    refine ⟨by simp [UnaryOp.ofKind?, isMetric.kind], ?_⟩
    rw [primary_metric eof isMetric, namedSelector]
    simp only [List.append_eq, List.cons_append]
    rw [eat?_cons _ isOpening]
    exact .bind (braces_complete whole eof _ _ _ finished rest) fun _ => Gives.pure _
  | call isName noOp isOpening isFunction _ isClose built ih =>
    intro eof t rest ts split follows
    simp only [List.cons_append, List.append_assoc, List.nil_append, List.cons.injEq] at split
    obtain ⟨rfl, split⟩ := split
    subst split
    refine ⟨by simp [UnaryOp.ofKind?, isName.kind], ?_⟩
    rw [primary, isName.kind]
    simp only [isName.noNumber, noOp, isFunction]
    rw [eat?_cons _ isOpening]
    exact .bind (ih eof .arguments _ rest _ rfl rfl isClose) fun _ => .step built (Gives.pure _)
  | aggregateLeading isName isOp isClause isOpening _ isClose built ih =>
    intro eof t rest ts split follows
    simp only [List.cons_append, List.append_assoc, List.nil_append, List.cons.injEq] at split
    obtain ⟨rfl, split⟩ := split
    subst split
    refine ⟨by simp [UnaryOp.ofKind?, isName.kind], ?_⟩
    rw [primary_aggregation eof isName isOp (startsAggregate_clause isClause _), aggregation]
    refine .bind (grouping?_complete isClause eof _) fun _ => ?_
    refine .bind (expect_complete eof .aggregation _ isOpening) fun _ => ?_
    refine .bind (ih eof .aggregation _ rest _ rfl rfl isClose) fun _ => ?_
    exact .step built (Gives.pure _)
  | aggregate isName isOp isOpening _ isClose trailing built ih =>
    intro eof t rest ts split follows
    simp only [List.cons_append, List.append_assoc, List.cons.injEq] at split
    obtain ⟨rfl, split⟩ := split
    subst split
    refine ⟨by simp [UnaryOp.ofKind?, isName.kind], ?_⟩
    -- A parenthesis is no grouping, so the reader looks for one behind the arguments.
    rw [primary_aggregation eof isName isOp (by simp [startsAggregate, isOpening]), aggregation]
    refine .bind (grouping?_absent eof (by simp [either?, isWord, isOpening])) fun _ => ?_
    refine .bind (expect_complete eof .aggregation _ isOpening) fun _ => ?_
    refine .bind (ih eof .aggregation _ _ _ rfl rfl isClose) fun _ => ?_
    cases trailing with
    | absent noClause =>
      refine .bind (grouping?_absent eof (follows ▸ noClause)) fun _ => ?_
      exact .step built (Gives.pure _)
    | present isClause =>
      refine .bind (grouping?_complete isClause eof rest) fun _ => ?_
      exact .step built (Gives.pure _)
  | noArguments =>
    intro eof context close rest ts split follows isClose
    rw [split, List.nil_append, arguments_eq]
    exact listReads_nil isClose
  | lastArgument derived ih =>
    intro eof context close rest ts split follows isClose
    have first := ih eof (close :: rest) _ rfl (by simp [follows])
    rw [split, arguments_eq]
    exact listReads_last (eat?_argument derived _) first isClose (by decide)
  | @moreArguments comma e es used more next derived isComma _ ihFirst ihMore =>
    intro eof context close rest ts split follows isClose
    have first := ihFirst eof (comma :: (more ++ close :: rest)) _ rfl rfl
    rw [split, List.append_assoc, List.cons_append, arguments_eq]
    exact listReads_more (eat?_argument derived _) first isComma
      (ihMore eof context close rest _ rfl follows isClose)

theorem whole_complete {tokens : List Token} {e : Expr} (derived : Derives (.expr 0 e) tokens none)
    (eof : Token) : whole eof tokens = .ok e := by
  obtain ⟨t, tail, rfl, _⟩ := derived.begins
  obtain ⟨left, answer⟩ := derived.accepted eof [] (t :: tail) (by simp) rfl
  rw [whole, answer]
  · rfl
  · simp

/-- A text without faults whose tokens are derived as a tree parses to the tree. -/
theorem parse_complete {source : String} {tokens : List Token} {root : Expr}
    (items : Token.items source = tokens.map .token) (derived : Derives (.expr 0 root) tokens none) :
    Expr.parse source = .ok root := by
  unfold Expr.parse
  rw [items, Token.filterMap_fault?_map, Token.filterMap_token?_map]
  simp only [whole_complete derived]

end QueryLint.Grammar
