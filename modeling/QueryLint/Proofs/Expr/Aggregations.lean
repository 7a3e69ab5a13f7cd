import QueryLint.Proofs.Expr.Calls
import QueryLint.Proofs.Token.Literals

/-! Aggregations with their grouping on either side.

The labels to group by stand in front of the arguments or behind them. The two spellings are cut into the
same parts in another order, and the builder gets the same operator, arguments and grouping from both. So
they have the same tree or the same error, and only the number and the types of the arguments decide which.
-/

set_option autoImplicit false

namespace QueryLint

open Text (Span byteSize lower lowerChar)

/-! Words in any case. -/

/-- A word as it is written, in any case. -/
structure Spelled (word : String) where
  text : String
  spells : text.toList.map Char.toLower = word.toList

/-- One or more letters and underscores. -/
def Text.IsPlainWord (word : String) : Prop :=
  word.toList.isEmpty = false ∧ word.toList.all Token.startsIdentifier = true

namespace Spelled

variable {word : String}

-- A capital letter starts a name itself, and every other character is not changed.
theorem startsIdentifier (spelled : Spelled word) (isWord : Text.IsPlainWord word) :
    ∀ c ∈ spelled.text.toList, Token.startsIdentifier c = true := by
  intro c member
  by_cases upper : c.isUpper = true
  · simp [Token.startsIdentifier, Char.isAlpha, upper]
  · rw [← Char.toLower_eq_of_not_isUpper upper]
    refine List.all_eq_true.mp isWord.2 _ ?_
    rw [← spelled.spells]
    exact List.mem_map_of_mem member

/-- Case does not matter where the parser looks for the word. -/
theorem lower_eq (spelled : Spelled word) (isWord : Text.IsPlainWord word) : lower spelled.text = word := by
  have same : ∀ c ∈ spelled.text.toList, lowerChar c = c.toLower := by
    intro c member
    refine if_neg ?_
    rintro rfl
    exact absurd (spelled.startsIdentifier isWord _ member) (by decide)
  apply String.toList_inj.mp
  rw [lower, String.toList_ofList, List.map_congr_left same, spelled.spells]

/-- The word is cut out wherever a gap or the end of the text follows it. -/
theorem stands (spelled : Spelled word) (isWord : Text.IsPlainWord word) (span : Span) :
    Token.Stands 0 ⟨.identifier, spelled.text, span⟩ := by
  have starts := spelled.startsIdentifier isWord
  cases isText : spelled.text.toList with
  | nil =>
    have none : word.toList = [] := by rw [← spelled.spells, isText, List.map_nil]
    exact absurd isWord.1 (by simp [none])
  | cons c text =>
    rw [isText, List.forall_mem_cons] at starts
    refine Token.stands_identifier rfl isText starts.1 (fun a member => ?_) 0
    simp [Token.continuesIdentifier, starts.2 a member]

end Spelled

/-! Names. -/

/-- A text that is cut as one name. -/
structure LabelName where
  text : String
  cut : Token.tokenize text = .ok [⟨.identifier, text, ⟨0, byteSize text.toList⟩⟩, Token.eof text]

/-- A label is cut as it is alone in front of everything that does not continue it. -/
theorem LabelName.cuts (label : LabelName) {u : List Char} (ends : Token.Stops Token.continuesIdentifier u)
    (offset : Nat) :
    Token.Cuts u 0 0 offset label.text.toList [Token.put .identifier label.text offset] := by
  have cut : Token.Cuts u 0 0 offset (label.text.toList ++ []) _ := .name label.cut ends .done
  rwa [List.append_nil] at cut

/-- Labels with commas between them. -/
def LabelName.texts (labels : List LabelName) : String :=
  ",".intercalate (labels.map LabelName.text)

theorem LabelName.exists_texts (labels : List LabelName) (offset : Nat) :
    ∃ tokens, (∀ u, Token.Stops Token.continuesIdentifier u →
        Token.Cuts u 0 0 offset (texts labels).toList tokens) ∧
      Grammar.Listed Grammar.Label tokens (labels.map LabelName.text) := by
  induction labels generalizing offset with
  | nil => exact ⟨[], fun u _ => .done, .nil⟩
  | cons label rest ih =>
    let name := Token.put .identifier label.text offset
    have isName : Grammar.Label [name] label.text := .name rfl
    cases rest with
    | nil => exact ⟨[name], fun u ends => by simpa [texts] using label.cuts ends offset, .last isName⟩
    | cons second rest =>
      let middle := Token.put .comma "," (offset + byteSize label.text.toList)
      obtain ⟨tokens, cut, listed⟩ := ih (offset + byteSize label.text.toList + 1)
      refine ⟨[name] ++ middle :: tokens, fun u ends => ?_, .more isName rfl listed⟩
      have cutName (v : List Char) := label.cuts (Token.stops_cons (c := ',') rfl v) offset
      have cutMiddle (v : List Char) :
          Token.Cuts v 0 0 (offset + byteSize label.text.toList) [','] [middle] := .mark (by simp) v 0 _
      have isText : (texts (label :: second :: rest)).toList =
          label.text.toList ++ ([','] ++ (texts (second :: rest)).toList) := by
        simp [texts, String.toList_intercalate]
      rw [isText]
      exact (cutName _).append ((cutMiddle _).append (cut u ends))

/-! The parts of an aggregation. -/

/-- The word in front of the labels. -/
def Grouping.sideName (without : Bool) : String :=
  if without then "without" else "by"

theorem Grouping.isPlainWord_sideName (without : Bool) : Text.IsPlainWord (sideName without) := by
  cases without <;> exact ⟨by cbv, by cbv⟩

/-- A grouping clause. -/
def clauseText {without : Bool} (side : Spelled (Grouping.sideName without)) (labels : List LabelName) :
    String :=
  side.text ++ " (" ++ LabelName.texts labels ++ ")"

theorem exists_clauseText {without : Bool} (side : Spelled (Grouping.sideName without))
    (labels : List LabelName) (offset : Nat) :
    ∃ tokens last, (∀ u, Token.Cuts u 0 0 offset (clauseText side labels).toList tokens) ∧
      Grammar.GroupingClause tokens last ⟨without, labels.map LabelName.text⟩ := by
  have isWord := Grouping.isPlainWord_sideName without
  let start := offset + byteSize (side.text.toList ++ [' '])
  obtain ⟨inner, cutInner, listed⟩ := LabelName.exists_texts labels (start + 1)
  let word := Token.put .identifier side.text offset
  let opening := Token.put .leftParen "(" start
  let close := Token.put .rightParen ")" (start + 1 + byteSize (LabelName.texts labels).toList)
  refine ⟨word :: opening :: (inner ++ [close]), close, fun u => ?_, ?_⟩
  · have cutWord (v : List Char) : Token.Cuts v 0 0 offset (side.text.toList ++ [' ']) [word] :=
      .word (side.stands isWord ⟨0, 0⟩) v offset
    have cutOpening (v : List Char) : Token.Cuts v 0 0 start ['('] [opening] := .mark (by simp) v 0 _
    have cutClose : Token.Cuts u 0 0 _ [')'] [close] := .mark (by simp) u 0 _
    have isText : (clauseText side labels).toList = (side.text.toList ++ [' ']) ++
        (['('] ++ ((LabelName.texts labels).toList ++ [')'])) := by
      simp [clauseText]
    rw [isText]
    exact (cutWord _).append
      ((cutOpening _).append ((cutInner _ (Token.stops_cons rfl _)).append cutClose))
  · have isSide : Grammar.groupingWord? word = some without := by
      have spelled : lower word.text = Grouping.sideName without := side.lower_eq isWord
      have isName : word.kind = .identifier := rfl
      cases without <;> simp [Grammar.either?, Parser.isWord, spelled, isName, Grouping.sideName]
    exact .labels isSide (.parens rfl listed rfl)

/-- Arguments in parentheses. -/
def Argument.parensText [Pattern.Engine] (args : List Argument) : String :=
  "(" ++ texts args ++ ")"

theorem Argument.exists_parensText [Pattern.Engine] (args : List Argument) (offset : Nat) :
    ∃ opening used close, opening.kind = .leftParen ∧ close.kind = .rightParen ∧
      (∀ u, Token.Cuts u 0 0 offset (parensText args).toList (opening :: (used ++ [close]))) ∧
      Grammar.Derives (.arguments (placed (offset + 1) args)) used (some close) := by
  obtain ⟨used, cutUsed, derived, -⟩ := exists_texts args (offset + 1)
  let opening := Token.put .leftParen "(" offset
  let close := Token.put .rightParen ")" (offset + 1 + byteSize (texts args).toList)
  refine ⟨opening, used, close, rfl, rfl, fun u => ?_, derived close (Grammar.closes_iff.mpr (.inl rfl))⟩
  have cutOpening (v : List Char) : Token.Cuts v 0 0 offset ['('] [opening] := .mark (by simp) v 0 _
  have cutClose : Token.Cuts u 0 0 _ [')'] [close] := .mark (by simp) u 0 _
  have isText : (parensText args).toList = ['('] ++ ((texts args).toList ++ [')']) := by
    simp [parensText]
  rw [isText]
  exact (cutOpening _).append ((cutUsed _).append cutClose)

namespace AggregateOp

def name : AggregateOp → String
  | .sum => "sum"
  | .avg => "avg"
  | .count => "count"
  | .min => "min"
  | .max => "max"
  | .group => "group"
  | .stddev => "stddev"
  | .stdvar => "stdvar"
  | .topk => "topk"
  | .bottomk => "bottomk"
  | .quantile => "quantile"
  | .countValues => "count_values"
  | .limitk => "limitk"
  | .limitRatio => "limit_ratio"

theorem isPlainWord_name (op : AggregateOp) : Text.IsPlainWord op.name := by
  cases op <;> exact ⟨by cbv, by cbv⟩

variable {op : AggregateOp}

theorem ofName?_spelled (name : Spelled op.name) : ofName? name.text = some op := by
  rw [ofName?, name.lower_eq op.isPlainWord_name]
  cases op <;> rfl

theorem isName_spelled (name : Spelled op.name) (offset : Nat) :
    Grammar.IsName (Token.put .identifier name.text offset) where
  kind := rfl
  noNumber := by
    change Parser.numberWord? (lower name.text) = none
    rw [name.lower_eq op.isPlainWord_name]
    cases op <;> rfl

end AggregateOp

/-! Reading an aggregation. -/

section

variable [Pattern.Engine] {op : AggregateOp} {without : Bool}

/-- An aggregation with its grouping in front of the arguments. -/
def leadingText (name : Spelled op.name) (side : Spelled (Grouping.sideName without))
    (labels : List LabelName) (args : List Argument) : String :=
  name.text ++ " " ++ clauseText side labels ++ " " ++ Argument.parensText args

/-- An aggregation with its grouping behind the arguments. -/
def trailingText (name : Spelled op.name) (side : Spelled (Grouping.sideName without))
    (labels : List LabelName) (args : List Argument) : String :=
  name.text ++ " " ++ Argument.parensText args ++ " " ++ clauseText side labels

/-- Only the arguments are left to judge. -/
theorem Expr.exists_parse_leadingText (name : Spelled op.name) (side : Spelled (Grouping.sideName without))
    (labels : List LabelName) (args : List Argument) :
    ∃ offset span, Expr.parse (leadingText name side labels args) =
      (Parser.buildAggregate op (Argument.placed offset args) ⟨without, labels.map LabelName.text⟩
        span).mapError fun error => [error] := by
  let start := 0 + byteSize (name.text.toList ++ [' '])
  obtain ⟨clause, last, cutClause, isClause⟩ := exists_clauseText side labels start
  obtain ⟨opening, used, close, isOpening, isClose, cutArgs, derived⟩ :=
    Argument.exists_parensText args (start + byteSize (clauseText side labels).toList + byteSize [' '])
  have items : Token.items (leadingText name side labels args) =
      (Token.put .identifier name.text 0 :: (clause ++ opening :: (used ++ [close]))).map .token := by
    have cutName (v : List Char) := Token.Cuts.word (name.stands op.isPlainWord_name ⟨0, 0⟩) v 0
    have cut := (cutName _).append ((cutClause _).append ((Token.cuts_space _ _ _).append (cutArgs [])))
    exact Token.Cuts.items_eq (by simpa [leadingText] using cut)
  have read := Grammar.whole_aggregateLeading (AggregateOp.isName_spelled name 0)
    (AggregateOp.ofName?_spelled name) isClause isOpening derived isClose
  exact ⟨_, _, Grammar.parse_of_whole items (read _)⟩

theorem Expr.exists_parse_trailingText (name : Spelled op.name) (side : Spelled (Grouping.sideName without))
    (labels : List LabelName) (args : List Argument) :
    ∃ offset span, Expr.parse (trailingText name side labels args) =
      (Parser.buildAggregate op (Argument.placed offset args) ⟨without, labels.map LabelName.text⟩
        span).mapError fun error => [error] := by
  let start := 0 + byteSize (name.text.toList ++ [' '])
  obtain ⟨opening, used, close, isOpening, isClose, cutArgs, derived⟩ := Argument.exists_parensText args start
  obtain ⟨clause, last, cutClause, isClause⟩ := exists_clauseText side labels
    (start + byteSize (Argument.parensText args).toList + byteSize [' '])
  have items : Token.items (trailingText name side labels args) =
      (Token.put .identifier name.text 0 :: opening :: (used ++ close :: clause)).map .token := by
    have cutName (v : List Char) := Token.Cuts.word (name.stands op.isPlainWord_name ⟨0, 0⟩) v 0
    have cut := (cutName _).append ((cutArgs _).append ((Token.cuts_space _ _ _).append (cutClause [])))
    exact Token.Cuts.items_eq (by simpa [trailingText] using cut)
  have read := Grammar.whole_aggregateTrailing (AggregateOp.isName_spelled name 0)
    (AggregateOp.ofName?_spelled name) isOpening derived isClose isClause
  exact ⟨_, _, Grammar.parse_of_whole items (read _)⟩

end

/-! Judging an aggregation. -/

/-- Trees are the same at their places, the places apart. -/
theorem Argument.map_move_placed [Pattern.Engine] (offset : Nat) (args : List Argument) :
    (placed offset args).map (Expr.move .nowhere) = args.map fun arg => arg.tree.move .nowhere := by
  induction args generalizing offset with
  | nil => rfl
  | cons arg rest ih => rw [placed, List.map_cons, ih, List.map_cons, Expr.move_nowhere]

theorem ValueType.standsFor_vector {actual : ValueType} :
    actual.StandsFor .vector ↔ actual = .scalar ∨ actual = .vector := by
  cases actual <;> simp [StandsFor]

/-- What is built behind a check needs the type that is checked. -/
theorem Parser.exists_checkType_bind_iff {α : Type} {e : Expr} {expected : ValueType} {role : ParseError.Role}
    {build : Unit → Except ParseError α} :
    (∃ a, (checkType e expected role >>= build) = .ok a) ↔
      e.valueType.StandsFor expected ∧ ∃ a, build () = .ok a := by
  rw [← ValueType.accepts_iff, checkType]
  split
  · next accepted => exact ⟨fun built => ⟨accepted, built⟩, fun both => both.2⟩
  · next refused =>
    refine iff_of_false ?_ fun both => refused both.1
    rintro ⟨a, built⟩
    cases built

namespace AggregateOp

/-- What an operator takes: a body that is a scalar or a vector, behind a parameter of its type if it has
one. -/
def Takes (op : AggregateOp) (types : List ValueType) : Prop :=
  types.length = (if op.paramType?.isSome then 2 else 1) ∧
    (∀ expected ∈ op.paramType?, ∀ param ∈ types.head?, param.StandsFor expected) ∧
    ∀ body ∈ types.getLast?, body = .scalar ∨ body = .vector

theorem exists_buildAggregate_iff {op : AggregateOp} {args : List Expr} {grouping : Grouping} {span : Span} :
    (∃ e, Parser.buildAggregate op args grouping span = .ok e) ↔ op.Takes (args.map Expr.valueType) := by
  unfold Parser.buildAggregate Takes
  cases op.paramType? with
  | none =>
    cases args with
    | nil => simp [Parser.fail]
    | cons body args =>
      cases args with
      | nil => simp [Parser.exists_checkType_bind_iff, ValueType.standsFor_vector, pure, Except.pure]
      | cons => simp [Parser.fail]
  | some expected =>
    cases args with
    | nil => simp [Parser.fail]
    | cons param args =>
      cases args with
      | nil => simp [Parser.fail]
      | cons body args =>
        cases args with
        | nil => simp [Parser.exists_checkType_bind_iff, ValueType.standsFor_vector, pure, Except.pure]
        | cons => simp [Parser.fail]

/-- The answer for an aggregation goes by the types of its arguments: it is the aggregation of the arguments
with the grouping, or one error. -/
structure Judges [Pattern.Engine] (op : AggregateOp) (grouping : Grouping) (args : List Argument)
    (answer : Except (List ParseError) Expr) : Prop where
  accepts_iff : (∃ e, answer = .ok e) ↔ op.Takes (args.map fun arg => arg.tree.valueType)
  tree : ∀ e, answer = .ok e → ∃ param body,
    param.toList ++ [body] = args.map (fun arg => arg.tree.move .nowhere) ∧
      e.move .nowhere = .aggregate op param body grouping ⟨0, 0⟩
  error : ∀ errors, answer = .error errors → ∃ error, errors = [error]

theorem judges_buildAggregate [Pattern.Engine] (op : AggregateOp) (args : List Argument)
    (grouping : Grouping) (offset : Nat) (span : Span) :
    op.Judges grouping args
      ((Parser.buildAggregate op (Argument.placed offset args) grouping span).mapError
        fun error => [error]) := by
  have accepts : (∃ e, Parser.buildAggregate op (Argument.placed offset args) grouping span = .ok e) ↔ _ :=
    exists_buildAggregate_iff
  rw [Argument.map_valueType_placed] at accepts
  cases built : Parser.buildAggregate op (Argument.placed offset args) grouping span with
  | error error =>
    rw [built] at accepts
    refine ⟨by simpa [Except.mapError] using accepts, nofun, ?_⟩
    rintro _ ⟨rfl⟩
    exact ⟨error, rfl⟩
  | ok e =>
    rw [built] at accepts
    obtain ⟨param, body, placed, rfl, -⟩ := Parser.buildAggregate_ok built
    refine ⟨by simpa [Except.mapError] using accepts, ?_, nofun⟩
    rintro _ ⟨rfl⟩
    refine ⟨param.map (Expr.move .nowhere), body.move .nowhere, ?_, ?_⟩
    · rw [← Argument.map_move_placed offset, placed]
      cases param <;> rfl
    · cases param <;> rfl

end AggregateOp

/-- Grouping in front of the arguments means the same as behind them. -/
theorem AggregateOp.judges_grouped [Pattern.Engine] {op : AggregateOp} {without : Bool}
    (name : Spelled op.name)
    (side : Spelled (Grouping.sideName without)) (labels : List LabelName) (args : List Argument) :
    op.Judges ⟨without, labels.map LabelName.text⟩ args (Expr.parse (leadingText name side labels args)) ∧
      op.Judges ⟨without, labels.map LabelName.text⟩ args (Expr.parse (trailingText name side labels args)) ∧
      Expr.withoutPlaces (Expr.parse (leadingText name side labels args)) =
        Expr.withoutPlaces (Expr.parse (trailingText name side labels args)) := by
  obtain ⟨front, frontSpan, leading⟩ := Expr.exists_parse_leadingText name side labels args
  obtain ⟨behind, behindSpan, trailing⟩ := Expr.exists_parse_trailingText name side labels args
  rw [leading, trailing]
  refine ⟨judges_buildAggregate .., judges_buildAggregate .., ?_⟩
  rw [Expr.withoutPlaces_mapError, Expr.withoutPlaces_mapError, ← Parser.buildAggregate_move,
    ← Parser.buildAggregate_move, Argument.map_move_placed, Argument.map_move_placed]
  rfl

/-- Words in any case, and a label that is listed twice. -/
theorem AggregateOp.judges_grouped_sum :
    let _ := Pattern.Engine.ofAnswers []
    ∃ (name : Spelled AggregateOp.sum.name) (side : Spelled (Grouping.sideName false)) (label : LabelName)
      (arg : Argument),
      leadingText name side [label, label] [arg] = "SUM By (job,job) (up\n)" ∧
      trailingText name side [label, label] [arg] = "SUM (up\n) By (job,job)" ∧
      AggregateOp.sum.Judges ⟨false, ["job", "job"]⟩ [arg]
        (Expr.parse (leadingText name side [label, label] [arg])) ∧
      AggregateOp.sum.Judges ⟨false, ["job", "job"]⟩ [arg]
        (Expr.parse (trailingText name side [label, label] [arg])) ∧
      Expr.withoutPlaces (Expr.parse (leadingText name side [label, label] [arg])) =
        Expr.withoutPlaces (Expr.parse (trailingText name side [label, label] [arg])) := by
  intro _
  have reads : (Expr.parse "up").isOk = true := by cbv
  obtain ⟨e, parsed⟩ := Grammar.exists_of_isOk reads
  let name : Spelled AggregateOp.sum.name := ⟨"SUM", by decide⟩
  let side : Spelled (Grouping.sideName false) := ⟨"By", by decide⟩
  let label : LabelName := ⟨"job", by cbv⟩
  let arg : Argument := ⟨"up", e, parsed⟩
  exact ⟨name, side, label, arg, by cbv, by cbv, judges_grouped name side [label, label] [arg]⟩

end QueryLint
