import QueryLint.Pattern
import QueryLint.Proofs.Expr.Conditions
import QueryLint.Proofs.Expr.StringLiteral
import QueryLint.Proofs.Pattern.Anchored

/-! The patterns of the matchers in a parsed tree.

A matcher with a pattern is judged by the pattern tied to both ends of the label, so that text is one which
the engine takes. Nothing else is asked of a pattern: every text that the engine takes when it is tied is a
pattern in some parsed tree. Patterns of parsed trees are patterns on their own, then, exactly if the engine
takes no text only when it is tied, and `parse_patterns` says so for every engine.
-/

set_option autoImplicit false

namespace QueryLint

open Literal (Quoted.write Quoted.Fits)
open Text (byteSize)

namespace Pattern

/-- A pattern tied to both ends of what it is matched with. -/
def tied (pattern : String) : String :=
  "^(?:" ++ pattern ++ ")$"

/-- The engine takes the text for a pattern. -/
def Takes [Engine] (pattern : String) : Prop :=
  ∃ test, Engine.compile pattern = .ok test

theorem takes_engine_iff {pattern : String} :
    @Takes engine pattern ↔ ∃ test, compile pattern = .ok test := by
  change (∃ test, (compile pattern).mapError Error.message = .ok test) ↔ _
  cases compile pattern with
  | ok test => exact iff_of_true ⟨test, rfl⟩ ⟨test, rfl⟩
  | error error => exact iff_of_false nofun nofun

end Pattern

open Pattern (Takes tied)

/-- A matcher whose value is a pattern. -/
def Matcher.HasPattern (m : Matcher) : Prop :=
  m.op = .regex ∨ m.op = .notRegex

/-- The matcher is one of a selector in the tree. -/
def Expr.Has (root : Expr) (m : Matcher) : Prop :=
  ∃ n s, root.Reaches n ∧ n.selector? = some s ∧ m ∈ s.matchers

/-! Writing a pattern. -/

namespace Token

/-- A label, the sign of a pattern and the pattern between quotes, in braces. -/
def patternText (sign pattern : String) : String :=
  "\x7b" ++ ("a" ++ (sign ++ (Quoted.write '"' pattern ++ "\x7d")))

theorem items_patternText {kind : Kind} {sign : String}
    (signs : kind = .regexMatch ∧ sign = "=~" ∨ kind = .regexNoMatch ∧ sign = "!~") (pattern : String) :
    let stop := 4 + byteSize (Quoted.write '"' pattern).toList
    items (patternText sign pattern) =
      [⟨.leftBrace, "\x7b", ⟨0, 1⟩⟩, ⟨.identifier, "a", ⟨1, 2⟩⟩, ⟨kind, sign, ⟨2, 4⟩⟩,
        ⟨.string, Quoted.write '"' pattern, ⟨4, stop⟩⟩, ⟨.rightBrace, "\x7d", ⟨stop, stop + 1⟩⟩].map
        .token := by
  intro stop
  have fits : Quoted.Fits '"' pattern := ⟨.inl rfl, fun backquote => by cases backquote⟩
  have isLabel : tokenize "a" = .ok [⟨.identifier, "a", ⟨0, byteSize "a".toList⟩⟩, eof "a"] := by cbv
  refine @Cuts.items_eq 0 _ _ ?_
  rw [patternText, String.toList_append, String.toList_append, String.toList_append, String.toList_append,
    ← List.append_nil "\x7d".toList]
  have behind : Cuts [] 0 0 4 ((Quoted.write '"' pattern).toList ++ ("\x7d".toList ++ [])) _ :=
    .literal fits (.first (c := '\x7d') rfl rfl (by decide) rfl .done)
  rcases signs with ⟨rfl, rfl⟩ | ⟨rfl, rfl⟩
  · refine .first (c := '\x7b') rfl rfl (by decide) rfl (.name isLabel (by simp [Stops]; decide) ?_)
    exact .first (c := '=') rfl rfl (by decide) rfl behind
  · refine .first (c := '\x7b') rfl rfl (by decide) rfl (.name isLabel (by simp [Stops]; decide) ?_)
    exact .first (c := '!') rfl rfl (by decide) rfl behind

end Token

section

variable [Pattern.Engine]

/-- A matcher with a pattern can be judged only if the engine takes the pattern tied to both ends. -/
theorem Parser.takes_tied {m : Matcher} {flag : Bool} (hasPattern : m.HasPattern)
    (judged : acceptsEmpty m = .ok flag) : Takes (tied m.value) := by
  obtain ⟨test, compiled, -⟩ := acceptsEmpty_pattern hasPattern judged
  exact ⟨test, compiled⟩

namespace Expr

/-- Braces with one condition that turns an absent label away select by it. -/
theorem parse_condition {source : String} {opening close : Token} {used : List Token} {m : Matcher}
    (cut : Token.items source = (opening :: (used ++ [close])).map .token)
    (isOpening : opening.kind = .leftBrace) (isClose : close.kind = .rightBrace)
    (condition : Grammar.Condition used m) (rejects : Parser.acceptsEmpty m = .ok false) :
    parse source = .ok (.vector ⟨none, [m], {}, opening.span.cover close.span⟩) := by
  have braces : Grammar.Braces (opening :: (used ++ [close])) opening close [m] :=
    .listed isOpening (.last condition) isClose
  have built := Parser.finishSelector_single rejects none (opening.span.cover close.span)
  have derived := @Grammar.Derives.braces _ _ _ _ _ _ none braces built
  exact Grammar.parse_complete cut derived.primary_alone

/-- The pattern that a label must match, or the one that it must not, is read as the value of the label. -/
theorem parse_patternText {op : MatchOp} (hasPattern : op = .regex ∨ op = .notRegex) {pattern : String}
    {test : String → Bool} (compiled : Pattern.Engine.compile (tied pattern) = .ok test)
    (rejects : (test "" == (op == .regex)) = false) :
    ∃ root m, parse (Token.patternText op.symbol pattern) = .ok root ∧ root.Has m ∧ m.HasPattern ∧
      m.value = pattern := by
  have fits : Quoted.Fits '"' pattern := ⟨.inl rfl, fun backquote => by cases backquote⟩
  obtain ⟨kind, isOp, signs⟩ : ∃ kind, MatchOp.ofKind? kind = some op ∧
      (kind = .regexMatch ∧ op.symbol = "=~" ∨ kind = .regexNoMatch ∧ op.symbol = "!~") := by
    rcases hasPattern with rfl | rfl
    · exact ⟨.regexMatch, rfl, .inl ⟨rfl, rfl⟩⟩
    · exact ⟨.regexNoMatch, rfl, .inr ⟨rfl, rfl⟩⟩
  let stop := 4 + byteSize (Quoted.write '"' pattern).toList
  let m : Matcher := ⟨"a", op, pattern, Text.Span.cover ⟨1, 2⟩ ⟨4, stop⟩⟩
  have condition : Grammar.Condition [⟨.identifier, "a", ⟨1, 2⟩⟩, ⟨kind, op.symbol, ⟨2, 4⟩⟩,
      ⟨.string, Quoted.write '"' pattern, ⟨4, stop⟩⟩] m :=
    .compare rfl isOp rfl (Parser.string_write fits _)
  have judged : Parser.acceptsEmpty m = .ok false := by
    rw [← rejects]
    rcases hasPattern with rfl | rfl
    all_goals
      simp only [Parser.acceptsEmpty, m]
      rw [← tied, compiled]
  have parsed := parse_condition (Token.items_patternText signs pattern) rfl rfl condition judged
  exact ⟨_, m, parsed, ⟨_, _, .refl, rfl, List.mem_singleton_self m⟩, hasPattern, rfl⟩

theorem takes_tied {source : String} {root : Expr} {m : Matcher} (parsed : parse source = .ok root)
    (has : root.Has m) (hasPattern : m.HasPattern) : Takes (tied m.value) := by
  obtain ⟨n, s, reaches, isSelector, member⟩ := has
  have finished := Grammar.parse_finished parsed reaches s isSelector
  obtain ⟨flag, judged⟩ := finished.judged m member
  exact Parser.takes_tied hasPattern judged

/-- A label is absent or not, so one of the two signs of a pattern turns an absent one away. -/
theorem exists_parse_pattern {pattern : String} (takes : Takes (tied pattern)) :
    ∃ source root m, parse source = .ok root ∧ root.Has m ∧ m.HasPattern ∧ m.value = pattern := by
  obtain ⟨test, compiled⟩ := takes
  cases answer : test "" with
  | false => exact ⟨_, parse_patternText (.inl rfl) compiled (by rw [answer]; rfl)⟩
  | true => exact ⟨_, parse_patternText (.inr rfl) compiled (by rw [answer]; rfl)⟩

/-- The patterns in parsed trees are those that the engine takes tied to both ends. So all of them are patterns
on their own if and only if the engine takes no text only when it is tied. -/
theorem parse_patterns :
    (∀ pattern, Takes (tied pattern) ↔
      ∃ source root m, parse source = .ok root ∧ root.Has m ∧ m.HasPattern ∧ m.value = pattern) ∧
    ((∀ source root m, parse source = .ok root → root.Has m → m.HasPattern → Takes m.value) ↔
      ∀ pattern, Takes (tied pattern) → Takes pattern) := by
  refine ⟨fun pattern => ⟨exists_parse_pattern, ?_⟩, fun alone pattern takes => ?_, ?_⟩
  · rintro ⟨source, root, m, parsed, has, hasPattern, rfl⟩
    exact takes_tied parsed has hasPattern
  · obtain ⟨source, root, m, parsed, has, hasPattern, rfl⟩ := exists_parse_pattern takes
    exact alone source root m parsed has hasPattern
  · intro untied source root m parsed has hasPattern
    exact untied m.value (takes_tied parsed has hasPattern)

end Expr

end

namespace Expr

/-- A text that closes the group around it and opens another is accepted, though it is no pattern. -/
theorem parse_patterns_unopened :
    let report := "regex parse error:\n    a)(b\n     ^\nerror: unopened group"
    let _ := Pattern.Engine.ofAnswers [("^(?:a)(b)$", .ok (· == "ab")), ("a)(b", .error report)]
    ∃ root m, parse "\x7ba=~\"a)(b\"\x7d" = .ok root ∧ root.Has m ∧ m.HasPattern ∧ m.value = "a)(b" ∧
      Pattern.Engine.compile m.value = .error report ∧ ¬Takes m.value := by
  intro report _
  obtain ⟨root, m, parsed, has, hasPattern, isValue⟩ :=
    parse_patternText (.inl rfl) (show Pattern.Engine.compile (tied "a)(b") = .ok (· == "ab") from rfl) rfl
  have isSource : Token.patternText MatchOp.regex.symbol "a)(b" = "\x7ba=~\"a)(b\"\x7d" := by decide
  have refused : Pattern.Engine.compile m.value = .error report := by rw [isValue]; rfl
  refine ⟨root, m, isSource ▸ parsed, has, hasPattern, isValue, refused, ?_⟩
  rintro ⟨test, compiled⟩
  cases refused.symm.trans compiled

/-- With the engine that comes with the linter, a pattern is one on its own unless it closes a group that it did
not open. -/
theorem takes_or_unopened :
    let _ := Pattern.engine
    ∀ source root m, parse source = .ok root → root.Has m → m.HasPattern →
      Takes m.value ∨
        ∃ error, Pattern.compile m.value = .error error ∧ error.fault = .groupUnopened := by
  intro _ source root m parsed has hasPattern
  obtain ⟨test, compiled⟩ := Pattern.takes_engine_iff.mp (takes_tied parsed has hasPattern)
  rcases Pattern.compile_of_anchored compiled with alone | unopened
  · exact .inl (Pattern.takes_engine_iff.mpr alone)
  · exact .inr unopened

end Expr

end QueryLint
