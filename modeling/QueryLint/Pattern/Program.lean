import QueryLint.Pattern.Node

/-! Search in time linear in the text: a pattern becomes a program of numbered steps, and all
states that some path reaches are followed at once. -/

set_option autoImplicit false

namespace QueryLint.Pattern

inductive Step where
  /-- The pattern has matched. -/
  | accept
  /-- Takes one character of a set. -/
  | take (chars : CharSet) (next : Nat)
  /-- Goes on if the condition holds here. -/
  | check (condition : Look) (next : Nat)
  /-- Goes on at either step. -/
  | split (left right : Nat)
  deriving Repr

/-- How many steps a pattern needs; repeating nothing counts too. -/
def Node.stepCount : Node → Nat
  | .empty => 0
  | .set _ | .look _ => 1
  | .sequence first second => first.stepCount + second.stepCount
  | .either left right => left.stepCount + right.stepCount + 1
  | .repeated inner least most =>
    let each := max 1 inner.stepCount
    match most with
    | none => max 1 least * each + 1
    | some n => least * each + (n - least) * (each + 1)

structure Program where
  steps : Array Step
  start : Nat
  deriving Repr

namespace Program

def push (steps : Array Step) (step : Step) : Nat × Array Step :=
  (steps.size, steps.push step)

/-- A part of a program: given the step to go on at and the steps so far, its first step. -/
abbrev Part := Nat → Array Step → Nat × Array Step

/-- `n` parts in a row. -/
def inRow (part : Part) : Nat → Part
  | 0, next, steps => (next, steps)
  | n + 1, next, steps =>
    let (first, steps) := part next steps
    inRow part n first steps

/-- At most `n` parts in a row. -/
def upTo (part : Part) (next : Nat) : Nat → Nat → Array Step → Nat × Array Step
  | 0, first, steps => (first, steps)
  | n + 1, first, steps =>
    let (inner, steps) := part first steps
    let (first, steps) := push steps (.split inner next)
    upTo part next n first steps

/-- A part that may come again behind itself: its first step, and the split behind it. -/
def again (part : Part) (next : Nat) (steps : Array Step) : Nat × Nat × Array Step :=
  -- The split is laid down first, so that the part can lead back to it.
  let (loop, steps) := push steps (.split next next)
  let (inner, steps) := part loop steps
  (inner, loop, steps.set! loop (.split inner next))

/-- At least `n` parts in a row. The last one is the one that comes again, if there is any. -/
def atLeast (part : Part) : Nat → Part
  | 0, next, steps =>
    let (_, loop, steps) := again part next steps
    (loop, steps)
  | n + 1, next, steps =>
    let (inner, _, steps) := again part next steps
    inRow part n inner steps

def part : Node → Part
  | .empty => fun next steps => (next, steps)
  | .set chars => fun next steps => push steps (.take chars next)
  | .look condition => fun next steps => push steps (.check condition next)
  | .sequence first second => fun next steps =>
    let (middle, steps) := part second next steps
    part first middle steps
  | .either left right => fun next steps =>
    let (a, steps) := part left next steps
    let (b, steps) := part right next steps
    push steps (.split a b)
  | .repeated inner least most => fun next steps =>
    match most with
    | none => atLeast (part inner) least next steps
    | some n =>
      let (first, steps) := upTo (part inner) next (n - least) next steps
      inRow (part inner) least first steps

/-- The most steps that a program may have. -/
def maxSteps : Nat := 327680

def ofNode (node : Node) : Program :=
  let (start, steps) := part node 0 #[.accept]
  ⟨steps, start⟩

def isWordChar (unicode : Bool) (c : Char) : Bool :=
  if unicode then Unicode.isWord c else AsciiClass.word.set.contains c.toNat

/-- Whether a condition holds between two characters; at an end of the text one is missing. -/
def holds (before after : Option Char) : Look → Bool
  | .start => before.isNone
  | .stop => after.isNone
  | .lineStart => before.all (· = '\n')
  | .lineEnd => after.all (· = '\n')
  | .crlfStart => before.all fun c => c = '\n' || (c = '\r' && after ≠ some '\n')
  | .crlfEnd => after.all fun c => c = '\r' || (c = '\n' && before ≠ some '\r')
  | .boundary u => before.any (isWordChar u) != after.any (isWordChar u)
  | .notBoundary u => before.any (isWordChar u) == after.any (isWordChar u)
  | .wordStart u => !before.any (isWordChar u) && after.any (isWordChar u)
  | .wordEnd u => before.any (isWordChar u) && !after.any (isWordChar u)
  | .wordStartHalf u => !before.any (isWordChar u)
  | .wordEndHalf u => !after.any (isWordChar u)

/-- Steps that follow without taking a character. -/
def successors (p : Program) (before after : Option Char) (state : Nat) : List Nat :=
  match p.steps[state]? with
  | some (.split left right) => [left, right]
  | some (.check condition next) => if holds before after condition then [next] else []
  | _ => []

/-- Adds states that are not marked yet. -/
def mark (marked : Array Bool) (fresh : List Nat) : List Nat → Array Bool × List Nat
  | [] => (marked, fresh)
  | state :: rest =>
    if marked.getD state true then mark marked fresh rest
    else mark (marked.set! state true) (state :: fresh) rest

/-- Everything reachable in at most `rounds` rounds; a path that repeats no step has fewer steps
than the program. -/
def close (p : Program) (before after : Option Char) :
    Nat → Array Bool → List Nat → List Nat → List Nat
  | 0, _, _, reached => reached
  | _ + 1, _, [], reached => reached
  | rounds + 1, marked, frontier, reached =>
    let (marked, fresh) := mark marked [] (frontier.flatMap (p.successors before after))
    close p before after rounds marked fresh (fresh ++ reached)

/-- All states reached from the given ones without taking a character. -/
def closure (p : Program) (before after : Option Char) (states : List Nat) : List Nat :=
  let (marked, fresh) := mark (Array.replicate p.steps.size false) [] states
  close p before after p.steps.size marked fresh fresh

def isAccepting (p : Program) (state : Nat) : Bool :=
  match p.steps[state]? with
  | some .accept => true
  | _ => false

/-- States behind one character. -/
def advance (p : Program) (c : Char) (states : List Nat) : List Nat :=
  states.filterMap fun state => do
    let .take chars next ← p.steps[state]? | none
    if chars.contains c.toNat then some next else none

/-- Whether the pattern matches somewhere from here on; a match may start at every place. -/
def searchFrom (p : Program) (before : Option Char) (states : List Nat) : List Char → Bool
  | [] => (p.closure before none (p.start :: states)).any p.isAccepting
  | c :: rest =>
    let active := p.closure before (some c) (p.start :: states)
    active.any p.isAccepting || p.searchFrom (some c) (p.advance c active) rest

/-- Whether the pattern matches some part of the text. -/
def search (p : Program) (text : List Char) : Bool :=
  p.searchFrom none [] text

end Program

end QueryLint.Pattern
