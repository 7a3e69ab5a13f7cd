import QueryLint.Proofs.Expr.Operands
import QueryLint.Proofs.Expr.Spacing
import QueryLint.Proofs.Expr.Typing

/-! Calls of the functions of the table.

An argument is read as it is on its own, up to the comma or the parenthesis behind it, and a comma behind
the last one is passed over. So a call is refused only for the number of its arguments or for the type of
one of them, and of these only the first is reported.
-/

set_option autoImplicit false

namespace QueryLint

open Text (Span byteSize)

/-! Arguments. -/

section

variable [Pattern.Engine]

/-- A text that parses, and its tree. -/
structure Argument where
  text : String
  tree : Expr
  parsed : Expr.parse text = .ok tree

namespace Argument

/-- Texts of arguments, each on a line of its own, with commas between them. -/
def texts (args : List Argument) : String :=
  ",".intercalate (args.map fun arg => arg.text ++ "\n")

/-- The trees of arguments whose texts start at an offset. -/
def placed (offset : Nat) : List Argument → List Expr
  | [] => []
  | arg :: rest => arg.tree.move (.right offset) :: placed (offset + byteSize arg.text.toList + 2) rest

@[simp] theorem length_placed (offset : Nat) (args : List Argument) :
    (placed offset args).length = args.length := by
  induction args generalizing offset with
  | nil => rfl
  | cons arg rest ih => rw [placed, List.length_cons, ih, List.length_cons]

/-- Trees have the same types at their places. -/
theorem map_valueType_placed (offset : Nat) (args : List Argument) :
    (placed offset args).map Expr.valueType = args.map fun arg => arg.tree.valueType := by
  induction args generalizing offset with
  | nil => rfl
  | cons arg rest ih => rw [placed, List.map_cons, ih, List.map_cons, Expr.move_valueType]

theorem getElem?_placed (offset : Nat) (args : List Argument) (i : Nat) :
    ((placed offset args)[i]?).map Expr.valueType = (args[i]?).map fun arg => arg.tree.valueType := by
  rw [← List.getElem?_map, map_valueType_placed, List.getElem?_map]

theorem toList_texts_cons (arg next : Argument) (rest : List Argument) :
    (texts (arg :: next :: rest)).toList =
      (arg.text.toList ++ ['\n']) ++ ([','] ++ (texts (next :: rest)).toList) := by
  simp [texts, String.toList_intercalate]

/-- Every tree is placed where its text stands among the others. -/
theorem exists_place {args : List Argument} {i : Nat} {arg : Argument} (given : args[i]? = some arg)
    (offset : Nat) :
    ∃ front back, (texts args).toList = front ++ arg.text.toList ++ back ∧
      (placed offset args)[i]? = some (arg.tree.move (.right (offset + byteSize front))) := by
  induction args generalizing offset i with
  | nil => cases given
  | cons first rest ih =>
    cases i with
    | zero =>
      cases given
      cases rest with
      | nil => exact ⟨[], ['\n'], by simp [texts], rfl⟩
      | cons second rest =>
        exact ⟨[], ['\n'] ++ ([','] ++ (texts (second :: rest)).toList), by simp [toList_texts_cons], rfl⟩
    | succ i =>
      obtain ⟨second, rest, rfl⟩ : ∃ second more, rest = second :: more :=
        List.exists_cons_of_ne_nil (by rintro rfl; cases given)
      obtain ⟨front, back, split, isPlaced⟩ := ih given (offset + byteSize first.text.toList + 2)
      refine ⟨(first.text.toList ++ ['\n']) ++ ([','] ++ front), back, ?_, ?_⟩
      · rw [toList_texts_cons, split]
        simp
      · have behind : offset + byteSize ((first.text.toList ++ ['\n']) ++ ([','] ++ front)) =
            offset + byteSize first.text.toList + 2 + byteSize front := by
          rw [Text.byteSize_append, byteSize_line, Text.byteSize_append, show byteSize [','] = 1 from rfl]
          omega
        rw [placed, List.getElem?_cons_succ, isPlaced, behind]

/-- Texts of arguments are read as arguments, and a comma may follow them if there are any. -/
theorem exists_texts (args : List Argument) (offset : Nat) :
    ∃ tokens, (∀ u, Token.Cuts u 0 0 offset (texts args).toList tokens) ∧
      (∀ close, Grammar.closes close = true →
        Grammar.Derives (.arguments (placed offset args)) tokens (some close)) ∧
      (args ≠ [] → ∀ comma next, comma.kind = .comma →
        Grammar.Derives (.arguments (placed offset args)) (tokens ++ [comma]) next) := by
  induction args generalizing offset with
  | nil => exact ⟨[], fun u => .done, fun close _ => .noArguments, fun nonempty => absurd rfl nonempty⟩
  | cons arg rest ih =>
    obtain ⟨line, cutLine, derivedLine⟩ := Expr.exists_line arg.parsed offset
    have derivedFirst {comma : Token} (isComma : comma.kind = .comma) :=
      derivedLine comma (Grammar.closes_iff.mpr (.inr isComma))
    cases rest with
    | nil =>
      refine ⟨line, fun u => ?_, fun close closed => .lastArgument (derivedLine close closed), ?_⟩
      · simpa [texts] using cutLine u
      · exact fun _ comma next isComma => .moreArguments (derivedFirst isComma) isComma .noArguments
    | cons second rest =>
      -- Behind the line of the first argument stands a comma, then the lines of the others.
      let middle := Token.put .comma "," (offset + byteSize (arg.text.toList ++ ['\n']))
      have isMiddle : middle.kind = .comma := rfl
      obtain ⟨tokens, cut, derived, derivedComma⟩ := ih (offset + byteSize arg.text.toList + 2)
      refine ⟨line ++ middle :: tokens, fun u => ?_, fun close closed => ?_, fun _ comma next isComma => ?_⟩
      · have cutMiddle (v : List Char) : Token.Cuts v 0 0 _ [','] [middle] := .mark (by simp) v 0 _
        have behind : offset + byteSize arg.text.toList + 2 =
            offset + byteSize (arg.text.toList ++ ['\n']) + byteSize [','] := by
          rw [byteSize_line]
          rfl
        rw [behind] at cut
        rw [toList_texts_cons]
        exact (cutLine _).append ((cutMiddle _).append (cut u))
      · exact .moreArguments (derivedFirst isMiddle) isMiddle (derived close closed)
      · rw [List.append_assoc, List.cons_append]
        exact .moreArguments (derivedFirst isMiddle) isMiddle
          (derivedComma (List.cons_ne_nil _ _) comma next isComma)

/-- What stands between the parentheses of a call: texts of arguments, perhaps with a comma behind. -/
def listText (args : List Argument) (trailing : Bool) : String :=
  texts args ++ if trailing then "," else ""

theorem exists_listText {args : List Argument} {trailing : Bool} (nonempty : trailing = true → args ≠ [])
    (offset : Nat) :
    ∃ tokens, (∀ u, Token.Cuts u 0 0 offset (listText args trailing).toList tokens) ∧
      ∀ close, Grammar.closes close = true →
        Grammar.Derives (.arguments (placed offset args)) tokens (some close) := by
  obtain ⟨tokens, cut, derived, derivedComma⟩ := exists_texts args offset
  cases trailing with
  | false => exact ⟨tokens, by simpa [listText] using cut, derived⟩
  | true =>
    let comma := Token.put .comma "," (offset + byteSize (texts args).toList)
    have cutComma (u : List Char) : Token.Cuts u 0 0 _ [','] [comma] := .mark (by simp) u 0 _
    refine ⟨tokens ++ [comma], fun u => ?_, fun close _ => derivedComma (nonempty rfl) comma _ rfl⟩
    simpa [listText] using (cut _).append (cutComma u)

end Argument

end

/-! Names of functions. -/

namespace Signature

/-- No two functions have one name. -/
theorem lookup?_name {function : Signature} (member : function ∈ all) :
    lookup? function.name = some function := by
  have table : ∀ function ∈ all, lookup? function.name = some function := by decide +kernel
  exact table function member

/-- A function is not named like a number or an aggregation. -/
theorem name_alone {function : Signature} (member : function ∈ all) :
    Parser.numberWord? (Text.lower function.name) = none ∧ AggregateOp.ofName? function.name = none := by
  have table : ∀ function ∈ all, (Parser.numberWord? (Text.lower function.name)).isNone = true ∧
      (AggregateOp.ofName? function.name).isNone = true := by decide +kernel
  simpa using table function member

theorem name_identifier {function : Signature} (member : function ∈ all) :
    function.name.toList.head?.any Token.startsIdentifier = true ∧
      function.name.toList.all Token.continuesIdentifier = true := by
  have table : ∀ function ∈ all, function.name.toList.head?.any Token.startsIdentifier = true ∧
      function.name.toList.all Token.continuesIdentifier = true := by decide +kernel
  exact table function member

section

variable [Pattern.Engine]

/-- The text of a call. -/
def callText (function : Signature) (args : List Argument) (trailing : Bool) : String :=
  function.name ++ "(" ++ Argument.listText args trailing ++ ")"

/-- Where the arguments of a call start. -/
def argumentsStart (function : Signature) : Nat :=
  byteSize function.name.toList + 1

/-- The tree of every argument is placed where its text stands in the call. -/
def PlacesAll (function : Signature) (args : List Argument) (trailing : Bool) : Prop :=
  ∀ (i : Nat) (arg : Argument), args[i]? = some arg →
    ∃ front back, (function.callText args trailing).toList = front ++ arg.text.toList ++ back ∧
      (Argument.placed function.argumentsStart args)[i]? =
        some (arg.tree.move (.right (byteSize front)))

theorem placesAll (function : Signature) (args : List Argument) (trailing : Bool) :
    function.PlacesAll args trailing := by
  intro i arg given
  obtain ⟨front, back, split, isPlaced⟩ := Argument.exists_place given function.argumentsStart
  refine ⟨function.name.toList ++ (['('] ++ front), back ++ (if trailing then [','] else []) ++ [')'],
    ?_, ?_⟩
  · cases trailing <;> simp [callText, Argument.listText, split]
  · have start : byteSize (function.name.toList ++ (['('] ++ front)) =
        function.argumentsStart + byteSize front := by
      rw [Text.byteSize_append, Text.byteSize_append, show byteSize ['('] = 1 from rfl, argumentsStart]
      omega
    rw [isPlaced, start]

end

end Signature

/-- Only the number of the arguments and their types are left to judge. -/
theorem Expr.parse_callText [Pattern.Engine] {function : Signature} (member : function ∈ Signature.all)
    {args : List Argument} {trailing : Bool} (nonempty : trailing = true → args ≠ []) :
    Expr.parse (function.callText args trailing) =
      (Parser.buildCall function (Argument.placed function.argumentsStart args)
        ⟨0, byteSize (function.callText args trailing).toList⟩).mapError fun error => [error] := by
  obtain ⟨used, cutUsed, derived⟩ := Argument.exists_listText nonempty function.argumentsStart
  let name := Token.put .identifier function.name 0
  let opening := Token.put .leftParen "(" (byteSize function.name.toList)
  let close := Token.put .rightParen ")"
    (function.argumentsStart + byteSize (Argument.listText args trailing).toList)
  let text := function.callText args trailing
  have isText : text.toList = function.name.toList ++
      (['('] ++ ((Argument.listText args trailing).toList ++ [')'])) := by
    simp [text, Signature.callText]
  have items : Token.items text = (name :: opening :: (used ++ [close])).map .token := by
    obtain ⟨starts, continues⟩ := Signature.name_identifier member
    have cutName (v : List Char) : Token.Cuts ('(' :: v) 0 0 0 function.name.toList [name] :=
      .identifier starts continues (Token.stops_cons rfl _) 0 0
    have cutOpening (v : List Char) : Token.Cuts v 0 0 (byteSize function.name.toList) ['('] [opening] :=
      .mark (by simp) v 0 _
    have cutClose : Token.Cuts [] 0 0 _ [')'] [close] := .mark (by simp) [] 0 _
    have cutBehind := (cutOpening _).append ((cutUsed _).append cutClose)
    rw [← Nat.zero_add (byteSize function.name.toList)] at cutBehind
    have cut := (cutName _).append cutBehind
    exact Token.Cuts.items_eq (isText ▸ cut)
  -- The call goes from its name to its parenthesis, which is the whole text.
  have covered : name.span.cover close.span = ⟨0, byteSize text.toList⟩ := by
    have one : byteSize ['('] = 1 ∧ byteSize [')'] = 1 ∧ byteSize ")".toList = 1 := ⟨rfl, rfl, rfl⟩
    simp only [isText, name, close, Token.put, Span.cover, Text.byteSize_append, Span.mk.injEq, one,
      Signature.argumentsStart]
    omega
  have isOpening : opening.kind = .leftParen := rfl
  have isClose : close.kind = .rightParen := rfl
  have isName : Grammar.IsName name := ⟨rfl, (Signature.name_alone member).1⟩
  have noAggregate : AggregateOp.ofName? name.text = none := (Signature.name_alone member).2
  have isFunction : Signature.lookup? name.text = some function := Signature.lookup?_name member
  have read := Grammar.whole_call isName noAggregate isOpening isFunction
    (derived close (Grammar.closes_iff.mpr (.inl isClose))) isClose (Token.eof text)
  rw [← covered]
  exact Grammar.parse_of_whole items read

/-! Judging a call. -/

/-- Scalars and vectors stand in for each other, and every other type only for itself. -/
def ValueType.StandsFor (actual expected : ValueType) : Prop :=
  actual = expected ∨
    (actual = .scalar ∨ actual = .vector) ∧ (expected = .scalar ∨ expected = .vector)

theorem ValueType.accepts_iff {actual expected : ValueType} :
    expected.accepts actual = true ↔ actual.StandsFor expected := by
  cases expected <;> cases actual <;> simp [accepts, isNumeric, StandsFor]

namespace Signature

/-- The function takes so many arguments. -/
def Counts (function : Signature) (n : Nat) : Prop :=
  function.minArgs ≤ n ∧ ∀ most ∈ function.maxArgs?, n ≤ most

/-- The function takes an argument of the type at the index. -/
def TakesAt (function : Signature) (index : Nat) (type : ValueType) : Prop :=
  ∃ expected, function.argType? index = some expected ∧ type.StandsFor expected

theorem acceptsCount_iff {function : Signature} {n : Nat} :
    function.acceptsCount n = true ↔ function.Counts n := by
  simp [acceptsCount, Counts, Option.all_eq_true]

end Signature

namespace Parser

theorem checkArguments_cons {function : Signature} {index : Nat} {e : Expr} {expected : ValueType}
    (typed : function.argType? index = some expected) (back : List Expr) :
    checkArguments function index (e :: back) =
      checkType e expected (.argument function.name) >>= fun _ =>
        checkArguments function (index + 1) back := by
  rw [checkArguments, typed]

/-- Arguments of the right types are passed over. -/
theorem checkArguments_append {function : Signature} {index : Nat} {front : List Expr}
    (taken : ∀ i e, front[i]? = some e → function.TakesAt (index + i) e.valueType) (back : List Expr) :
    checkArguments function index (front ++ back) =
      checkArguments function (index + front.length) back := by
  induction front generalizing index with
  | nil => rfl
  | cons e front ih =>
    obtain ⟨expected, typed, stands⟩ := taken 0 e rfl
    rw [Nat.add_zero] at typed
    have passes : checkType e expected (.argument function.name) = .ok () :=
      if_pos (ValueType.accepts_iff.mpr stands)
    have later : ∀ i e', front[i]? = some e' → function.TakesAt (index + 1 + i) e'.valueType := by
      intro i e' given
      rw [Nat.add_assoc, Nat.add_comm 1]
      exact taken (i + 1) e' given
    rw [List.cons_append, checkArguments_cons typed, passes, List.length_cons,
      Nat.add_comm front.length, ← Nat.add_assoc, ← ih later]
    rfl

theorem checkArguments_refused {function : Signature} {index : Nat} {e : Expr} {expected : ValueType}
    (typed : function.argType? index = some expected) (refused : ¬e.valueType.StandsFor expected)
    (back : List Expr) :
    checkArguments function index (e :: back) =
      .error ⟨e.span, .argumentType expected (.argument function.name) e.valueType⟩ := by
  have fails : checkType e expected (.argument function.name) =
      .error ⟨e.span, .argumentType expected (.argument function.name) e.valueType⟩ :=
    if_neg (ValueType.accepts_iff.not.mpr refused)
  rw [checkArguments_cons typed, fails]
  rfl

end Parser

namespace Signature

section

variable [Pattern.Engine]

/-- Every argument is of a type that the function takes at its place. -/
def TakesAll (function : Signature) (args : List Argument) : Prop :=
  ∀ i arg, args[i]? = some arg → function.TakesAt i arg.tree.valueType

/-- The answer for a call whose text ends at an offset goes by the signature of the function: it is the
call, or one error, which is for the number of arguments or for the first one of a wrong type. -/
structure Judges (function : Signature) (args : List Argument) (stop : Nat)
    (answer : Except (List ParseError) Expr) : Prop where
  accepts_iff : (∃ e, answer = .ok e) ↔ function.Counts args.length ∧ function.TakesAll args
  call : ∀ e, answer = .ok e →
    e = .call function.name (Argument.placed function.argumentsStart args) function.returnType ⟨0, stop⟩
  count : ¬function.Counts args.length →
    answer = .error [⟨⟨0, stop⟩, .argumentCount function args.length⟩]
  type : function.Counts args.length → ¬function.TakesAll args →
    ∃ i arg e expected, args[i]? = some arg ∧ ¬function.TakesAt i arg.tree.valueType ∧
      (∀ j < i, ∀ earlier, args[j]? = some earlier → function.TakesAt j earlier.tree.valueType) ∧
      (Argument.placed function.argumentsStart args)[i]? = some e ∧
      function.argType? i = some expected ∧
      answer = .error [⟨e.span, .argumentType expected (.argument function.name) arg.tree.valueType⟩]

variable {function : Signature} {args : List Argument}

theorem takesAt_placed {offset i : Nat} {e : Expr}
    (taken : ∀ arg, args[i]? = some arg → function.TakesAt i arg.tree.valueType)
    (given : (Argument.placed offset args)[i]? = some e) : function.TakesAt i e.valueType := by
  have same := Argument.getElem?_placed offset args i
  rw [given] at same
  obtain ⟨arg, isArg, sameType⟩ := Option.map_eq_some_iff.mp same.symm
  exact sameType ▸ taken arg isArg

/-- If the function does not take all arguments, there is a first one that it does not take. -/
theorem exists_first (refused : ¬function.TakesAll args) :
    ∃ i arg, args[i]? = some arg ∧ ¬function.TakesAt i arg.tree.valueType ∧
      ∀ j < i, ∀ earlier, args[j]? = some earlier → function.TakesAt j earlier.tree.valueType := by
  classical
  simp only [TakesAll, not_forall, exists_prop] at refused
  obtain ⟨arg, given, notTaken⟩ := Nat.find_spec refused
  refine ⟨Nat.find refused, arg, given, notTaken, fun j before earlier isEarlier => ?_⟩
  by_contra notTaken
  exact Nat.find_min refused before ⟨earlier, isEarlier, notTaken⟩

theorem buildCall_count (refused : ¬function.Counts args.length) (offset stop : Nat) :
    Parser.buildCall function (Argument.placed offset args) ⟨0, stop⟩ =
      .error ⟨⟨0, stop⟩, .argumentCount function args.length⟩ := by
  have notCounted : ¬function.acceptsCount (Argument.placed offset args).length = true := by
    rwa [Argument.length_placed, acceptsCount_iff]
  rw [Parser.buildCall, if_neg notCounted, Argument.length_placed]
  rfl

theorem buildCall_counted (counts : function.Counts args.length) (offset stop : Nat) :
    Parser.buildCall function (Argument.placed offset args) ⟨0, stop⟩ =
      Parser.checkArguments function 0 (Argument.placed offset args) >>= fun _ =>
        .ok (.call function.name (Argument.placed offset args) function.returnType ⟨0, stop⟩) := by
  have counted : function.acceptsCount (Argument.placed offset args).length = true := by
    rwa [Argument.length_placed, acceptsCount_iff]
  rw [Parser.buildCall, if_pos counted]
  rfl

theorem checkArguments_taken (taken : function.TakesAll args) (offset : Nat) :
    Parser.checkArguments function 0 (Argument.placed offset args) = .ok () := by
  have typed : ∀ i e, (Argument.placed offset args)[i]? = some e →
      function.TakesAt (0 + i) e.valueType := by
    intro i e given
    rw [Nat.zero_add]
    exact takesAt_placed (taken i) given
  have passed := Parser.checkArguments_append typed []
  rwa [List.append_nil] at passed

theorem checkArguments_first (member : function ∈ all) (counts : function.Counts args.length)
    {i : Nat} {arg : Argument} (given : args[i]? = some arg)
    (refused : ¬function.TakesAt i arg.tree.valueType)
    (before : ∀ j < i, ∀ earlier, args[j]? = some earlier → function.TakesAt j earlier.tree.valueType)
    (offset : Nat) :
    ∃ e expected, (Argument.placed offset args)[i]? = some e ∧ function.argType? i = some expected ∧
      Parser.checkArguments function 0 (Argument.placed offset args) =
        .error ⟨e.span, .argumentType expected (.argument function.name) arg.tree.valueType⟩ := by
  have below : i < args.length := (List.getElem?_eq_some_iff.mp given).1
  obtain ⟨expected, typed⟩ := argType?_isSome member (acceptsCount_iff.mpr counts) below
  have same := Argument.getElem?_placed offset args i
  rw [given] at same
  obtain ⟨e, placed, sameType⟩ := Option.map_eq_some_iff.mp same
  refine ⟨e, expected, placed, typed, ?_⟩
  -- The trees in front are taken, so the check comes to the one that is not.
  have split : Argument.placed offset args =
      (Argument.placed offset args).take i ++ e :: (Argument.placed offset args).drop (i + 1) := by
    obtain ⟨within, rfl⟩ := List.getElem?_eq_some_iff.mp placed
    rw [List.getElem_cons_drop, List.take_append_drop]
  have passes : ∀ j e', ((Argument.placed offset args).take i)[j]? = some e' →
      function.TakesAt (0 + j) e'.valueType := by
    intro j e' found
    rw [List.getElem?_take] at found
    split at found
    · next inFront =>
      rw [Nat.zero_add]
      exact takesAt_placed (before j inFront) found
    · cases found
  have atIndex : ((Argument.placed offset args).take i).length = i := by
    rw [List.length_take, Argument.length_placed]
    omega
  have stops : ¬e.valueType.StandsFor expected := by
    rw [sameType]
    exact fun stands => refused ⟨expected, typed, stands⟩
  rw [split, Parser.checkArguments_append passes, atIndex, Nat.zero_add,
    Parser.checkArguments_refused typed stops, sameType]

theorem judges_buildCall (member : function ∈ all) (args : List Argument) (stop : Nat) :
    function.Judges args stop
      ((Parser.buildCall function (Argument.placed function.argumentsStart args) ⟨0, stop⟩).mapError
        fun error => [error]) := by
  by_cases counts : function.Counts args.length
  · -- The types are judged only where the number fits.
    rw [buildCall_counted counts]
    by_cases taken : function.TakesAll args
    · rw [checkArguments_taken taken]
      exact {
        accepts_iff := iff_of_true ⟨_, rfl⟩ ⟨counts, taken⟩
        call := fun e answered => (Except.ok.inj answered).symm
        count := fun refused => absurd counts refused
        type := fun _ refused => absurd taken refused }
    · obtain ⟨i, arg, given, refused, before⟩ := exists_first taken
      obtain ⟨e, expected, placed, typed, checked⟩ :=
        checkArguments_first member counts given refused before function.argumentsStart
      rw [checked]
      exact {
        accepts_iff := iff_of_false nofun fun both => taken both.2
        call := nofun
        count := fun refused => absurd counts refused
        type := fun _ _ => ⟨i, arg, e, expected, given, refused, before, placed, typed, rfl⟩ }
  · rw [buildCall_count counts]
    exact {
      accepts_iff := iff_of_false nofun fun both => counts both.1
      call := nofun
      count := fun _ => rfl
      type := fun counted => absurd counted counts }

end

end Signature

/-- A call is accepted exactly by the signature of its function, and a comma behind the last argument
makes no difference. The trees of the arguments are placed where their texts stand in it. -/
theorem Signature.judges_callText [Pattern.Engine] {function : Signature} (member : function ∈ all)
    (args : List Argument) :
    (∀ trailing, function.PlacesAll args trailing) ∧
      function.Judges args (byteSize (function.callText args false).toList)
        (Expr.parse (function.callText args false)) ∧
      (args ≠ [] →
        function.Judges args (byteSize (function.callText args true).toList)
            (Expr.parse (function.callText args true)) ∧
          Expr.withoutPlaces (Expr.parse (function.callText args true)) =
            Expr.withoutPlaces (Expr.parse (function.callText args false))) := by
  have plain : Expr.parse (function.callText args false) = _ := Expr.parse_callText member nofun
  refine ⟨placesAll function args, plain ▸ judges_buildCall member args _, fun nonempty => ?_⟩
  have trailing : Expr.parse (function.callText args true) = _ :=
    Expr.parse_callText member fun _ => nonempty
  refine ⟨trailing ▸ judges_buildCall member args _, ?_⟩
  rw [trailing, plain, Expr.withoutPlaces_mapError, Expr.withoutPlaces_mapError,
    ← Parser.buildCall_move, ← Parser.buildCall_move]
  rfl

theorem Signature.judges_callText_round :
    let _ := Pattern.Engine.ofAnswers []
    ∃ args : List Argument, args.map Argument.text = ["a # b", "c"] ∧
      let round : Signature := ⟨"round", [.vector, .scalar], 1, false, .vector⟩
      round ∈ all ∧
        (∀ trailing, round.PlacesAll args trailing) ∧
        round.Judges args (byteSize (round.callText args false).toList)
          (Expr.parse (round.callText args false)) ∧
        (args ≠ [] →
          round.Judges args (byteSize (round.callText args true).toList)
              (Expr.parse (round.callText args true)) ∧
            Expr.withoutPlaces (Expr.parse (round.callText args true)) =
              Expr.withoutPlaces (Expr.parse (round.callText args false))) := by
  intro _
  have readsFirst : (Expr.parse "a # b").isOk = true := by cbv
  have readsSecond : (Expr.parse "c").isOk = true := by cbv
  have member : ⟨"round", [.vector, .scalar], 1, false, .vector⟩ ∈ all := by decide
  obtain ⟨e, first⟩ := Grammar.exists_of_isOk readsFirst
  obtain ⟨e', second⟩ := Grammar.exists_of_isOk readsSecond
  exact ⟨[⟨"a # b", e, first⟩, ⟨"c", e', second⟩], rfl, member, judges_callText member _⟩

end QueryLint
