import QueryLint.Yaml.Token

/-! Documents as trees.

Every reader takes the tokens in front and returns those behind, with the proof that it took some.
A document holds the nodes as they are written: an alias stays an alias, and what it stands for is
looked up by its number. -/

set_option autoImplicit false

namespace QueryLint.Yaml

/-- A node. Anchors and aliases are numbered: the same number means the same content. -/
inductive Node where
  | scalar (anchor : Option Nat) (tag : Option String) (text : String) (style : ScalarStyle)
  | sequence (anchor : Option Nat) (tag : Option String) (items : List Node)
  | mapping (anchor : Option Nat) (tag : Option String) (entries : List (Node × Node))
  | alias (anchor : Nat)
  deriving Repr

namespace Node

/-- The node that stands where nothing is written. -/
def empty : Node := .scalar none none "" .plain

def anchor? : Node → Option Nat
  | .scalar anchor .. => anchor
  | .sequence anchor .. => anchor
  | .mapping anchor .. => anchor
  | .alias _ => none

mutual

/-- A node and all nodes in it, in the order in which they begin. -/
def preorder : Node → List Node
  | .scalar anchor tag text style => [.scalar anchor tag text style]
  | .sequence anchor tag items => .sequence anchor tag items :: preorderItems items
  | .mapping anchor tag entries => .mapping anchor tag entries :: preorderEntries entries
  | .alias anchor => [.alias anchor]

def preorderItems : List Node → List Node
  | [] => []
  | item :: rest => item.preorder ++ preorderItems rest

def preorderEntries : List (Node × Node) → List Node
  | [] => []
  | (key, value) :: rest => key.preorder ++ value.preorder ++ preorderEntries rest

end

/-- Weight of a node by itself: collections have a beginning and an end. -/
def weight : Node → Nat
  | .sequence .. => 2
  | .mapping .. => 2
  | _ => 1

end Node

/-- A document: its root, the contents of its anchors, and its total weight. -/
structure Document where
  root : Node
  anchors : List (Nat × Node)
  weight : Nat
  deriving Repr

namespace Document

/-- Where several anchors have one number the last counts. -/
def ofRoot (root : Node) : Document :=
  let nodes := root.preorder
  let anchors := nodes.filterMap fun node => node.anchor?.map (·, node)
  ⟨root, anchors.reverse, nodes.foldl (fun n node => n + node.weight) 0⟩

/-- What an alias stands for. -/
def content? (d : Document) (anchor : Nat) : Option Node := d.anchors.lookup anchor

end Document

namespace Node

/-- Tokens that remain when at least one of `ts` was taken. -/
abbrev Fewer (ts : List Token) := { rest : List Token // rest.length < ts.length }

/-- Tokens that remain when perhaps some of `ts` were taken. -/
abbrev AtMost (ts : List Token) := { rest : List Token // rest.length ≤ ts.length }

/-- Numbers of the anchors so far, the last one of a name in front. -/
abbrev Names := List (String × Nat)

/-- Numbers count the different names so far. -/
def Names.add (names : Names) (name : String) : Nat × Names :=
  let number := names.length
  (number, (name, number) :: names.filter (·.1 ≠ name))

/-- Expansions of tag handles. -/
abbrev Handles := List (String × String)

/-- What holds of all tags: the handles of local tags and of standard ones. -/
def Handles.standard : Handles := [("!", "!"), ("!!", "tag:yaml.org,2002:")]

/-- The full tag. -/
def Handles.expand? (handles : Handles) (tag : TagName) : Option String :=
  if tag.handle = "" then some tag.suffix
  else (handles.lookup tag.handle).map (· ++ tag.suffix)

/-- Marks in front of a node. -/
structure Marks where
  anchor : Option String := none
  tag : Option TagName := none

/-- An anchor and a tag, in either order, as far as they are in front. -/
def marks (ts : List Token) : Marks × AtMost ts :=
  match ts with
  | .anchor name :: .tag tag :: rest =>
    (⟨some name, some tag⟩, ⟨rest, by simp only [List.length_cons]; omega⟩)
  | .tag tag :: .anchor name :: rest =>
    (⟨some name, some tag⟩, ⟨rest, by simp only [List.length_cons]; omega⟩)
  | .anchor name :: rest => (⟨some name, none⟩, ⟨rest, by simp⟩)
  | .tag tag :: rest => (⟨none, some tag⟩, ⟨rest, by simp⟩)
  | rest => ({}, ⟨rest, Nat.le_refl _⟩)

/-- Where in the document a node stands: in a block, in an entry of a block mapping, where a
sequence need not be indented, or in a flow collection. -/
inductive Position where
  | block | blockEntry | flow
  deriving DecidableEq, Repr

/-- Tokens that cannot begin an entry of a block sequence. -/
def endsItem : Token → Bool
  | .blockEntry | .blockEnd => true
  | _ => false

/-- Tokens that cannot begin a key or a value of a block mapping. -/
def endsEntry : Token → Bool
  | .key | .value | .blockEnd => true
  | _ => false

/-- Tokens that cannot begin an entry of a sequence that is not indented. -/
def endsOpenItem (t : Token) : Bool := endsItem t || endsEntry t

/-- Tokens that cannot begin a value in a flow collection. -/
def endsFlowValue (close t : Token) : Bool := t = .flowEntry || t = close

/-- Tokens that cannot begin a key in a flow collection. -/
def endsFlowKey (close t : Token) : Bool := t = .value || endsFlowValue close t

/-- Puts marks on a node; the tag of a scalar that asks for no tag is dropped. -/
def withMarks (anchor : Option Nat) (tag : Option String) : Node → Node
  | .scalar _ _ text style => .scalar anchor (if tag = some "!" then none else tag) text style
  | .sequence _ _ items => .sequence anchor tag items
  | .mapping _ _ entries => .mapping anchor tag entries
  | .alias n => .alias n

/-- Whether a token begins the content of a node. -/
def begins (position : Position) : Token → Bool
  | .scalar .. | .flowSequenceStart | .flowMappingStart => true
  | .blockSequenceStart | .blockMappingStart => position ≠ .flow
  | .blockEntry => position = .blockEntry
  | _ => false

/-- Takes the comma in front of all entries of a flow collection but the first. -/
def separator? (first : Bool) (ts : List Token) : Option (AtMost ts) :=
  match first, ts with
  | true, ts => some ⟨ts, Nat.le_refl _⟩
  | false, .flowEntry :: rest => some ⟨rest, by simp⟩
  | false, _ => none

mutual

/-- A node, with the names of the anchors up to its end. A node that has only marks is an empty
scalar. -/
def read (handles : Handles) (position : Position) (names : Names) (ts : List Token) :
    Option ((Node × Names) × Fewer ts) :=
  match ts with
  | .alias name :: rest => (names.lookup name).map fun n => ((.alias n, names), ⟨rest, by simp⟩)
  | ts => do
    let (found, ⟨r₁, _⟩) := marks ts
    let tag ← match found.tag with
      | none => some none
      | some tag => (handles.expand? tag).map some
    let (anchor, names) := match found.anchor with
      | none => (none, names)
      | some name =>
        let (n, names) := names.add name
        (some n, names)
    if r₁.head?.any (begins position) then
      let ((node, names), ⟨rest, _⟩) ← content handles names r₁
      some ((node.withMarks anchor tag, names), ⟨rest, by omega⟩)
    else if h : r₁ ≠ [] ∧ r₁.length < ts.length then
      some ((.scalar anchor tag "" .plain, names), ⟨r₁, h.2⟩)
    else none
  termination_by 4 * ts.length + 1

/-- The content of a node, by the token that begins it. -/
def content (handles : Handles) (names : Names) (ts : List Token) :
    Option ((Node × Names) × Fewer ts) :=
  match ts with
  | .scalar text style :: rest =>
    some ((.scalar none none text style, names), ⟨rest, by simp⟩)
  | .flowSequenceStart :: r₁ => do
    let ((items, names), ⟨rest, _⟩) ← flowSequence handles true names r₁
    some ((.sequence none none items, names), ⟨rest, by simp only [List.length_cons]; omega⟩)
  | .flowMappingStart :: r₁ => do
    let ((entries, names), ⟨rest, _⟩) ← flowMapping handles true names r₁
    some ((.mapping none none entries, names), ⟨rest, by simp only [List.length_cons]; omega⟩)
  | .blockSequenceStart :: r₁ => do
    let ((items, names), ⟨rest, _⟩) ← blockSequence handles names r₁
    some ((.sequence none none items, names), ⟨rest, by simp only [List.length_cons]; omega⟩)
  | .blockMappingStart :: r₁ => do
    let ((entries, names), ⟨rest, _⟩) ← blockMapping handles names r₁
    some ((.mapping none none entries, names), ⟨rest, by simp only [List.length_cons]; omega⟩)
  | .blockEntry :: r₁ => do
    let ((item, names), ⟨r₂, _⟩) ← readUnless endsOpenItem handles .block names r₁
    let ((items, names), ⟨rest, _⟩) ← openSequence handles names r₂
    some ((.sequence none none (item :: items), names),
      ⟨rest, by simp only [List.length_cons]; omega⟩)
  | _ => none
  termination_by 4 * ts.length + 0

/-- A node, or an empty one in front of certain tokens. -/
def readUnless (ends : Token → Bool) (handles : Handles) (position : Position) (names : Names)
    (ts : List Token) : Option ((Node × Names) × AtMost ts) :=
  match ts with
  | [] => none
  | t :: rest =>
    if ends t then some ((.empty, names), ⟨t :: rest, Nat.le_refl _⟩)
    else do
      let (found, ⟨rest, _⟩) ← read handles position names (t :: rest)
      some (found, ⟨rest, by omega⟩)
  termination_by 4 * ts.length + 2

/-- Entries of a block sequence up to its end. -/
def blockSequence (handles : Handles) (names : Names) (ts : List Token) :
    Option ((List Node × Names) × Fewer ts) :=
  match ts with
  | .blockEnd :: rest => some (([], names), ⟨rest, by simp⟩)
  | .blockEntry :: r₁ => do
    let ((item, names), ⟨r₂, _⟩) ← readUnless endsItem handles .block names r₁
    let ((items, names), ⟨rest, _⟩) ← blockSequence handles names r₂
    some ((item :: items, names), ⟨rest, by simp only [List.length_cons]; omega⟩)
  | _ => none
  termination_by 4 * ts.length + 0

/-- Further entries of a sequence that is not indented; any other token ends it. -/
def openSequence (handles : Handles) (names : Names) (ts : List Token) :
    Option ((List Node × Names) × AtMost ts) :=
  match ts with
  | [] => none
  | .blockEntry :: r₁ => do
    let ((item, names), ⟨r₂, _⟩) ← readUnless endsOpenItem handles .block names r₁
    let ((items, names), ⟨rest, _⟩) ← openSequence handles names r₂
    some ((item :: items, names), ⟨rest, by simp only [List.length_cons]; omega⟩)
  | ts => some (([], names), ⟨ts, Nat.le_refl _⟩)
  termination_by 4 * ts.length + 0

/-- Entries of a block mapping up to its end. -/
def blockMapping (handles : Handles) (names : Names) (ts : List Token) :
    Option ((List (Node × Node) × Names) × Fewer ts) :=
  match ts with
  | .blockEnd :: rest => some (([], names), ⟨rest, by simp⟩)
  | .key :: r₁ => do
    let ((key, names), ⟨r₂, _⟩) ← readUnless endsEntry handles .blockEntry names r₁
    let ((value, names), ⟨r₃, _⟩) ← blockValue handles names r₂
    let ((entries, names), ⟨rest, _⟩) ← blockMapping handles names r₃
    some (((key, value) :: entries, names), ⟨rest, by simp only [List.length_cons]; omega⟩)
  | _ => none
  termination_by 4 * ts.length + 0

/-- The value behind a key of a block mapping; it may be missing. -/
def blockValue (handles : Handles) (names : Names) (ts : List Token) :
    Option ((Node × Names) × AtMost ts) :=
  match ts with
  | [] => none
  | .value :: r₁ => do
    let (found, ⟨rest, _⟩) ← readUnless endsEntry handles .blockEntry names r₁
    some (found, ⟨rest, by simp only [List.length_cons]; omega⟩)
  | ts => some ((.empty, names), ⟨ts, Nat.le_refl _⟩)
  termination_by 4 * ts.length + 0

/-- The value behind a key in a flow collection; it may be missing. -/
def flowValue (close : Token) (handles : Handles) (names : Names) (ts : List Token) :
    Option ((Node × Names) × AtMost ts) :=
  match ts with
  | [] => none
  | .value :: r₁ => do
    let (found, ⟨rest, _⟩) ← readUnless (endsFlowValue close) handles .flow names r₁
    some (found, ⟨rest, by simp only [List.length_cons]; omega⟩)
  | ts => some ((.empty, names), ⟨ts, Nat.le_refl _⟩)
  termination_by 4 * ts.length + 0

/-- Entries of a flow mapping up to its end. -/
def flowMapping (handles : Handles) (first : Bool) (names : Names) (ts : List Token) :
    Option ((List (Node × Node) × Names) × Fewer ts) :=
  match ts with
  | .flowMappingEnd :: rest => some (([], names), ⟨rest, by simp⟩)
  | ts => do
    let ⟨r₁, _⟩ ← separator? first ts
    let (found, ⟨rest, _⟩) ← flowEntries handles names r₁
    some (found, ⟨rest, by omega⟩)
  termination_by 4 * ts.length + 3

/-- Entries of a flow mapping behind a comma; a key without a colon has an empty value. -/
def flowEntries (handles : Handles) (names : Names) (ts : List Token) :
    Option ((List (Node × Node) × Names) × Fewer ts) :=
  match ts with
  | .flowMappingEnd :: rest => some (([], names), ⟨rest, by simp⟩)
  | .key :: r₁ => do
    let ((key, names), ⟨r₂, _⟩) ←
      readUnless (endsFlowKey .flowMappingEnd) handles .flow names r₁
    let ((value, names), ⟨r₃, _⟩) ← flowValue .flowMappingEnd handles names r₂
    let ((entries, names), ⟨rest, _⟩) ← flowMapping handles false names r₃
    some (((key, value) :: entries, names), ⟨rest, by simp only [List.length_cons]; omega⟩)
  | ts => do
    let ((key, names), ⟨r₁, _⟩) ← read handles .flow names ts
    let ((entries, names), ⟨rest, _⟩) ← flowMapping handles false names r₁
    some (((key, .empty) :: entries, names), ⟨rest, by omega⟩)
  termination_by 4 * ts.length + 2

/-- Entries of a flow sequence up to its end. -/
def flowSequence (handles : Handles) (first : Bool) (names : Names) (ts : List Token) :
    Option ((List Node × Names) × Fewer ts) :=
  match ts with
  | .flowSequenceEnd :: rest => some (([], names), ⟨rest, by simp⟩)
  | ts => do
    let ⟨r₁, _⟩ ← separator? first ts
    let (found, ⟨rest, _⟩) ← flowItems handles names r₁
    some (found, ⟨rest, by omega⟩)
  termination_by 4 * ts.length + 3

/-- Entries of a flow sequence behind a comma; a key makes an entry a mapping of its own. -/
def flowItems (handles : Handles) (names : Names) (ts : List Token) :
    Option ((List Node × Names) × Fewer ts) :=
  match ts with
  | .flowSequenceEnd :: rest => some (([], names), ⟨rest, by simp⟩)
  | .key :: r₁ => do
    let ((key, names), ⟨r₂, _⟩) ← pairKey handles names r₁
    let ((value, names), ⟨r₃, _⟩) ← flowValue .flowSequenceEnd handles names r₂
    let ((items, names), ⟨rest, _⟩) ← flowSequence handles false names r₃
    some ((.mapping none none [(key, value)] :: items, names),
      ⟨rest, by simp only [List.length_cons]; omega⟩)
  | ts => do
    let ((item, names), ⟨r₁, _⟩) ← read handles .flow names ts
    let ((items, names), ⟨rest, _⟩) ← flowSequence handles false names r₁
    some ((item :: items, names), ⟨rest, by omega⟩)
  termination_by 4 * ts.length + 2

/-- The key of a mapping that is an entry of a flow sequence; if it is missing, the token in its
place is taken. -/
def pairKey (handles : Handles) (names : Names) (ts : List Token) :
    Option ((Node × Names) × Fewer ts) :=
  match ts with
  | [] => none
  | t :: rest =>
    if endsFlowKey .flowSequenceEnd t then some ((.empty, names), ⟨rest, by simp⟩)
    else read handles .flow names (t :: rest)
  termination_by 4 * ts.length + 2

end

end Node

namespace Document

/-- Directives in front of a document: which handles they explain, with those that always hold. No
handle is explained twice, and the version is given once at most. -/
def directives (versioned : Bool) (handles : Node.Handles) :
    (ts : List Token) → Option (Node.Handles × Node.AtMost ts)
  | .directive (.version major minor) :: rest =>
    if versioned || major ≠ 1 || (minor ≠ 1 && minor ≠ 2) then none
    else (directives true handles rest).map fun (found, ⟨behind, _⟩) =>
      (found, ⟨behind, by simp only [List.length_cons]; omega⟩)
  | .directive (.tag handle expansion) :: rest =>
    if (handles.lookup handle).isSome then none
    else (directives versioned (handles ++ [(handle, expansion)]) rest).map
      fun (found, ⟨behind, _⟩) => (found, ⟨behind, by simp only [List.length_cons]; omega⟩)
  | ts => some (handles ++ .standard, ⟨ts, Nat.le_refl _⟩)

/-- Tokens that cannot begin the root of a document. -/
def endsRoot : Token → Bool
  | .directive _ | .documentStart | .documentEnd | .streamEnd => true
  | _ => false

/-- Whether a document begins here without a mark. -/
def isBare (first : Bool) : List Token → Bool
  | .directive _ :: _ | .documentStart :: _ => false
  | _ => first

/-- A root behind the mark that begins its document. -/
def marked? (handles : Node.Handles) (ts : List Token) : Option (Node × Node.Fewer ts) :=
  match ts with
  | .documentStart :: r₁ => do
    let ((node, _), ⟨rest, _⟩) ← Node.readUnless endsRoot handles .block [] r₁
    some (node, ⟨rest, by simp only [List.length_cons]; omega⟩)
  | _ => none

/-- The root of the next document. Only the first one may stand without a mark in front. -/
def root? (first : Bool) (ts : List Token) : Option (Node × Node.Fewer ts) :=
  if isBare first ts then do
    let ((node, _), rest) ← Node.read .standard .block [] ts
    some (node, rest)
  else do
    let (handles, ⟨r₁, _⟩) ← directives false [] ts
    let (node, ⟨rest, _⟩) ← marked? handles r₁
    some (node, ⟨rest, by omega⟩)

def isDocumentEnd : Token → Bool
  | .documentEnd => true
  | _ => false

/-- Drops the marks that may stand behind a document. -/
def dropEnds (first : Bool) (ts : List Token) : Node.AtMost ts :=
  if first then ⟨ts, Nat.le_refl _⟩
  else ⟨ts.dropWhile isDocumentEnd, List.Sublist.length_le (List.dropWhile_sublist _)⟩

/-- Documents up to the first fault, and whether there is none. -/
def readAll (first : Bool) (ts : List Token) : List Document × Bool :=
  match dropEnds first ts with
  | ⟨[], _⟩ => ([], false)
  | ⟨.streamEnd :: _, _⟩ => ([], true)
  | ⟨t :: rest, _⟩ =>
    match root? first (t :: rest) with
    | none => ([], false)
    | some (_, ⟨[], _⟩) => ([], false)
    | some (root, ⟨next :: behind, _⟩) =>
      let (documents, sound) := readAll false (next :: behind)
      (.ofRoot root :: documents, sound)
  termination_by ts.length
  decreasing_by
    omega

end Document

/-- A sequence of documents, up to its first fault. -/
structure Stream where
  documents : List Document
  sound : Bool
  deriving Repr

def Stream.ofText (text : String) : Stream :=
  let (documents, sound) := Document.readAll true (Token.ofText text)
  ⟨documents, sound⟩

end QueryLint.Yaml
