import QueryLint.Files.Search
import QueryLint.Proofs.Files.Place

/-! What the patterns for manifests match: an escaped directory means itself, whatever characters its path
has, and what follows it is asked of the names below.

Of the escaping only its meaning counts: an escaped text matches this text and no other. Putting the characters
that mean something in brackets is such an escaping.
-/

set_option autoImplicit false

namespace QueryLint

namespace Glob

open FileTree (components)

/-- What an escaped character is read as. -/
def Piece.escaped (c : Char) : Piece :=
  if c ∈ ['?', '*', '[', ']'] then .within false [(c, c)] else .char c

/-- What an escaped text is read as. -/
def Segment.escaped (text : String) : Segment := .name (text.toList.map Piece.escaped)

namespace Piece

@[simp] theorem literal?_escaped (c : Char) : (escaped c).literal? = some c := by
  rw [escaped]
  split <;> simp [literal?]

theorem accepts_escaped (c d : Char) : (escaped c).accepts d = true ↔ d = c := by
  rw [escaped]
  split
  · simp only [accepts, List.any_cons, List.any_nil, Bool.or_false, Bool.bne_false, Bool.and_eq_true,
      decide_eq_true_eq]
    exact ⟨fun both => Char.le_antisymm both.2 both.1, fun same => same ▸ ⟨Char.le_refl _, Char.le_refl _⟩⟩
  · simp [accepts]

theorem read_escape (cs : List Char) : read none (cs.flatMap escapeChar) = some (cs.map escaped) := by
  induction cs with
  | nil => rfl
  | cons c cs ih =>
    rw [List.flatMap_cons, escapeChar, List.map_cons, escaped]
    split
    · next special =>
      -- An exclamation mark would negate the class, but none is put in brackets.
      have notBang : c ≠ '!' := by
        rintro rfl
        simp at special
      have one : ofClass [c] = .within false [(c, c)] := by
        simp [ofClass, notBang, ranges]
      simp [read, notBang, ih, one]
    · next plain =>
      simp only [List.mem_cons, List.not_mem_nil, or_false, not_or] at plain
      simp [read, plain, ih]

/-- Pieces that accept one character each are together one text. -/
theorem matchAll_map {f : Char → Piece} (exact : ∀ c d, (f c).accepts d = true ↔ d = c)
    (cs text : List Char) : matchAll (cs.map f) text = true ↔ text = cs := by
  induction cs generalizing text with
  | nil => simp [matchAll]
  | cons c cs ih =>
    have some : (f c).accepts c = true := (exact c c).mpr rfl
    rw [List.map_cons]
    cases text with
    | nil => cases isPiece : f c <;> simp_all [matchAll, accepts]
    | cons d text =>
      have first : matchAll (f c :: cs.map f) (d :: text) =
          ((f c).accepts d && matchAll (cs.map f) text) := by
        cases isPiece : f c with
        | anyText => simp [isPiece, accepts] at some
        | _ => rfl
      rw [first, Bool.and_eq_true, exact, ih, List.cons.injEq]

/-- An asterisk in front of a text asks for an ending. -/
theorem matchAll_ending (cs text : List Char) :
    matchAll (.anyText :: cs.map .char) text = true ↔ cs <:+ text := by
  have exact (c d : Char) : (Piece.char c).accepts d = true ↔ d = c := by simp [accepts]
  simp only [matchAll, List.any_eq_true, List.mem_range, matchAll_map exact]
  constructor
  · rintro ⟨n, -, rfl⟩
    exact List.drop_suffix n text
  · rintro ⟨front, rfl⟩
    exact ⟨front.length, by rw [List.length_append]; omega, by simp⟩

end Piece

theorem splitOn_append {front : List Char} (noSlash : '/' ∉ front) (cs : List Char) :
    (front ++ cs).splitOn '/' = (cs.splitOn '/').modifyHead (front ++ ·) := by
  induction front with
  | nil =>
    rw [List.nil_append]
    cases cs.splitOn '/' <;> rfl
  | cons c front ih =>
    simp only [List.mem_cons, not_or] at noSlash
    rw [List.cons_append, List.splitOn_cons_eq_if_modifyHead, ih noSlash.2, List.modifyHead_modifyHead]
    rw [if_neg fun same => noSlash.1 (beq_iff_eq.mp same).symm]
    rfl

theorem splitOn_escape (cs : List Char) :
    (cs.flatMap escapeChar).splitOn '/' = (cs.splitOn '/').map (·.flatMap escapeChar) := by
  induction cs with
  | nil => rfl
  | cons c cs ih =>
    rw [List.flatMap_cons, List.splitOn_cons_eq_if_modifyHead]
    by_cases isSlash : c = '/'
    · rw [isSlash, if_pos (by rfl), List.map_cons, ← ih]
      exact List.splitOn_append_cons_self [] _
    · have noSlash : '/' ∉ escapeChar c := by
        rw [escapeChar]
        split <;> simp [eq_comm, isSlash]
      rw [splitOn_append noSlash, ih, if_neg (by simpa using isSlash)]
      cases cs.splitOn '/' <;> rfl

theorem components_bracketed (text : String) :
    components (bracketed text) = (components text).map bracketed := by
  rw [FileTree.components_eq_iff, bracketed, String.toList_ofList, splitOn_escape,
    ← FileTree.map_toList_components]
  simp [Function.comp_def, bracketed]

theorem ofText?_bracketed (text : String) : Segment.ofText? (bracketed text) = some (.escaped text) := by
  -- Two asterisks have a meaning of their own only since they cannot be read as pieces.
  have noStars : bracketed text ≠ "**" := by
    intro same
    have read := Piece.read_escape text.toList
    rw [← String.toList_ofList (l := text.toList.flatMap escapeChar), ← bracketed, same] at read
    cases read
  rw [Segment.ofText?, if_neg noStars, bracketed, String.toList_ofList, Piece.read_escape]
  rfl

/-- The name of a file with an extension. -/
def Segment.ending (extension : String) : Segment :=
  .name (.anyText :: ('.' :: extension.toList).map .char)

theorem mapM_ofText?_bracketed (texts : List String) :
    (texts.map bracketed).mapM Segment.ofText? = some (texts.map .escaped) := by
  induction texts with
  | nil => rfl
  | cons text texts ih => simp [ofText?_bracketed, ih]

theorem segments?_bracketed (text : String) :
    segments? (bracketed text) = some ((components text).map .escaped) := by
  rw [segments?, components_bracketed, mapM_ofText?_bracketed]

/-- What a search asks of the names below a directory. -/
def below (recursive : Bool) (extension : String) : List Segment :=
  (if recursive then [.directories] else []) ++ [.ending extension]

theorem segments?_slash {front behind : String} {first second : List Segment}
    (isFirst : segments? front = some first)
    (isSecond : segments? behind = some second) :
    segments? (front ++ "/" ++ behind) = some (first ++ second) := by
  rw [segments?] at isFirst isSecond ⊢
  rw [FileTree.components_slash, List.mapM_append, isFirst, isSecond]
  rfl

/-- Behind a directory, a search asks for files with an extension. -/
theorem segments?_pattern {glob : Glob} {recursive : Bool} {dir extension : String}
    (known : extension ∈ Search.extensions) {front : List Segment}
    (isFront : segments? (glob.escape dir) = some front) :
    segments? (Search.pattern glob recursive dir extension) = some (front ++ below recursive extension) := by
  have spelled : Search.pattern glob recursive dir extension =
      glob.escape dir ++ "/" ++ ((if recursive then "**/*." else "*.") ++ extension) := by
    cases recursive <;> simp [Search.pattern, ← String.toList_inj]
  rw [spelled]
  refine segments?_slash isFront ?_
  simp only [Search.extensions, List.mem_cons, List.not_mem_nil, or_false] at known
  rcases known with rfl | rfl <;> cases recursive <;> rfl

theorem literal?_escaped (text : String) : (Segment.escaped text).literal? = some text := by
  have each (cs : List Char) : (cs.map Piece.escaped).mapM Piece.literal? = some cs := by
    induction cs with
    | nil => rfl
    | cons c cs ih => simp [ih]
  simp [Segment.escaped, Segment.literal?, each]

theorem matchAll_escaped (front : List String) (behind : List Segment) (cs : List String) :
    Segment.matchAll (front.map .escaped ++ behind) cs = true ↔
      ∃ rest, cs = front ++ rest ∧ Segment.matchAll behind rest = true := by
  induction front generalizing cs with
  | nil => simp
  | cons text front ih =>
    rw [List.map_cons, List.cons_append]
    cases cs with
    | nil => simp [Segment.matchAll, Segment.escaped]
    | cons c cs =>
      -- A segment that is a single text matches it even where it is no name, such as a dot.
      have fixed := literal?_escaped text
      rw [Segment.escaped] at fixed ⊢
      simp only [Segment.matchAll, fixed, Option.isSome_some, Bool.true_or, Bool.and_true, Bool.and_eq_true,
        Piece.matchAll_map Piece.accepts_escaped, ih, String.toList_inj]
      grind

/-- How names lead from a directory to files with an extension. -/
def Leads (recursive : Bool) (extension : String) (names : List String) : Prop :=
  ∃ front name, names = front ++ [name] ∧ (recursive = false → front = []) ∧
    (∀ n ∈ names, isName n = true) ∧ '.' :: extension.toList <:+ name.toList

theorem matchAll_ending (extension : String) (names : List String) :
    Segment.matchAll [.ending extension] names = true ↔
      ∃ name, names = [name] ∧ isName name = true ∧ '.' :: extension.toList <:+ name.toList := by
  match names with
  | [] => simp [Segment.matchAll, Segment.ending]
  | [name] =>
    have unfixed : (Segment.ending extension).literal? = none := rfl
    rw [Segment.ending] at unfixed ⊢
    simp only [Segment.matchAll, unfixed, Piece.matchAll_ending, Option.isSome_none, Bool.false_or,
      List.isEmpty_nil, Bool.and_true, Bool.and_eq_true, List.cons.injEq, and_true, exists_eq_left']
    exact and_comm
  | name :: next :: later => simp [Segment.matchAll, Segment.ending]

theorem matchAll_leads {recursive : Bool} {extension : String} {names : List String} :
    Segment.matchAll (below recursive extension) names = true ↔ Leads recursive extension names := by
  rw [below]
  cases recursive with
  | false =>
    rw [if_neg Bool.false_ne_true, List.nil_append, matchAll_ending]
    constructor
    · rintro ⟨name, rfl, named, ends⟩
      exact ⟨[], name, rfl, fun _ => rfl, by simpa using named, ends⟩
    · rintro ⟨front, name, rfl, direct, named, ends⟩
      obtain rfl := direct rfl
      exact ⟨name, rfl, named name (by simp), ends⟩
  | true =>
    rw [if_pos rfl, List.singleton_append, Segment.matchAll]
    simp only [List.any_eq_true, List.mem_range, Bool.and_eq_true, List.all_eq_true, matchAll_ending]
    constructor
    · rintro ⟨n, -, above, name, isLast, named, ends⟩
      refine ⟨names.take n, name, ?_, by simp, ?_, ends⟩
      · rw [← isLast, List.take_append_drop]
      · intro m member
        rw [← List.take_append_drop n names, isLast, List.mem_append, List.mem_singleton] at member
        rcases member with isAbove | rfl
        · exact above m isAbove
        · exact named
    · rintro ⟨front, name, rfl, -, named, ends⟩
      refine ⟨front.length, by rw [List.length_append]; omega, ?_, name, by simp, named name (by simp), ends⟩
      simpa using fun m member => named m (by simp [member])

/-! What an escaped text matches. -/

/-- Segments behind others match what is behind. -/
theorem Segment.matchAll_append (front behind : List Segment) (cs : List String) :
    matchAll (front ++ behind) cs = true ↔
      ∃ first second, cs = first ++ second ∧ matchAll front first = true ∧ matchAll behind second = true := by
  induction front generalizing cs with
  | nil =>
    simp only [List.nil_append, matchAll, List.isEmpty_iff]
    exact ⟨fun matched => ⟨[], cs, rfl, rfl, matched⟩, fun ⟨_, _, split, isNil, matched⟩ => by simp_all⟩
  | cons segment front ih =>
    rw [List.cons_append]
    cases segment with
    | directories =>
      simp only [matchAll, List.any_eq_true, List.mem_range, Bool.and_eq_true, ih]
      constructor
      · rintro ⟨n, inside, above, first, second, isRest, matchesFirst, matchesSecond⟩
        refine ⟨cs.take n ++ first, second, ?_, ⟨n, ?_, ?_, ?_⟩, matchesSecond⟩
        · rw [List.append_assoc, ← isRest, List.take_append_drop]
        · rw [List.length_append, List.length_take]
          omega
        · rwa [List.take_left' (by rw [List.length_take]; omega)]
        · rwa [List.drop_left' (by rw [List.length_take]; omega)]
      · rintro ⟨first, second, rfl, ⟨n, inside, above, matchesFirst⟩, matchesSecond⟩
        have within : n ≤ first.length := by omega
        refine ⟨n, by rw [List.length_append]; omega, ?_, first.drop n, second, ?_, matchesFirst, matchesSecond⟩
        · rwa [List.take_append_of_le_length within]
        · rw [List.drop_append_of_le_length within]
    | name pieces =>
      cases cs with
      | nil => simp [matchAll]
      | cons c cs =>
        simp only [matchAll, Bool.and_eq_true, ih]
        constructor
        · rintro ⟨own, first, second, rfl, matchesFirst, matchesSecond⟩
          have matched : matchAll (.name pieces :: front) (c :: first) = true := by
            simp only [matchAll, own, matchesFirst, Bool.and_self]
          exact ⟨c :: first, second, rfl, matched, matchesSecond⟩
        · rintro ⟨first, second, split, matchesFirst, matchesSecond⟩
          cases first with
          | nil => cases matchesFirst
          | cons d first =>
            cases split
            simp only [matchAll, Bool.and_eq_true] at matchesFirst
            exact ⟨matchesFirst.1, first, second, rfl, matchesFirst.2, matchesSecond⟩

/-- Segments that match nothing match any name as well. -/
theorem Segment.matchAll_name {segments : List Segment} (some : segments ≠ [])
    (matchesNil : matchAll segments [] = true) {name : String} (named : isName name = true) :
    matchAll segments [name] = true := by
  cases segments with
  | nil => exact absurd rfl some
  | cons segment segments =>
    cases segment with
    | name pieces => cases matchesNil
    | directories =>
      have rest : matchAll segments [] = true := by simpa [matchAll] using matchesNil
      simp only [matchAll, List.any_eq_true, List.mem_range, Bool.and_eq_true]
      exact ⟨1, by simp, by simpa using named, by simpa using rest⟩

/-- An escaped text is a pattern for this text and no other. -/
def Escapes (glob : Glob) : Prop :=
  ∀ text path, matchesPath (glob.escape text) path = true ↔ path = text

theorem Escapes.segments? {glob : Glob} (escapes : glob.Escapes) (text : String) :
    ∃ segments, Glob.segments? (glob.escape text) = some segments ∧
      ∀ cs, (∀ c ∈ cs, '/' ∉ c.toList) →
        (Segment.matchAll segments cs = true ↔ cs = components text) := by
  have own := (escapes text text).mpr rfl
  rw [matchesPath, Option.any_eq_true] at own
  obtain ⟨segments, isPattern, matchesOwn⟩ := own
  have other (path : String) : Segment.matchAll segments (components path) = true ↔ path = text := by
    rw [← escapes text path, matchesPath, isPattern, Option.any_some]
  refine ⟨segments, isPattern, fun cs noSlash => ⟨fun matched => ?_, fun same => same ▸ matchesOwn⟩⟩
  cases cs with
  | nil =>
    -- It would match the names `x` and `y`, which are two texts.
    have some : segments ≠ [] := by
      rintro rfl
      exact FileTree.components_ne_nil text (List.isEmpty_iff.mp matchesOwn)
    have isX := (other "x").mp (Segment.matchAll_name some matched (by decide))
    have isY := (other "y").mp (Segment.matchAll_name some matched (by decide))
    exact absurd (isX.trans isY.symm) (by decide)
  | cons c cs =>
    have written := FileTree.components_join (List.cons_ne_nil c cs) noSlash
    rw [← (other _).mp (written ▸ matched), written]

theorem matchesPath_pattern {glob : Glob} (escapes : glob.Escapes) {recursive : Bool}
    {dir extension path : String} (known : extension ∈ Search.extensions) :
    matchesPath (Search.pattern glob recursive dir extension) path = true ↔
      ∃ names, components path = components dir ++ names ∧ Leads recursive extension names := by
  obtain ⟨segments, isPattern, exact⟩ := escapes.segments? dir
  rw [matchesPath, segments?_pattern known isPattern, Option.any_some, Segment.matchAll_append]
  constructor
  · rintro ⟨first, names, split, isDir, leads⟩
    have noSlash : ∀ c ∈ first, '/' ∉ c.toList :=
      fun c member => FileTree.slash_notMem (split ▸ List.mem_append_left names member)
    rw [(exact first noSlash).mp isDir] at split
    exact ⟨names, split, matchAll_leads.mp leads⟩
  · rintro ⟨names, split, leads⟩
    exact ⟨_, names, split, (exact _ fun c => FileTree.slash_notMem).mpr rfl, matchAll_leads.mpr leads⟩

end Glob

/-- A directory tree escapes by brackets. -/
theorem FileTree.glob_escapes (root : FileTree) : root.glob.Escapes := by
  intro text path
  have exact := Glob.matchAll_escaped (components text) [] (components path)
  rw [List.append_nil] at exact
  have same : components path = components text ↔ path = text :=
    ⟨fun same => by rw [← join_components path, same, join_components], congrArg components⟩
  rw [glob, Glob.matchesPath, Glob.segments?_bracketed, Option.any_some, exact, ← same]
  simp [Glob.Segment.matchAll]

end QueryLint
