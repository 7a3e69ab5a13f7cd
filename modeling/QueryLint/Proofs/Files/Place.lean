import QueryLint.Files.Glob
import QueryLint.Files.Path

/-! Where paths lead.

An entry of a tree has one place, the names on the way to it from the root, but many paths: they may go
back, stay where they are and repeat slashes. Without symbolic links, the place of a path can be told from
the path alone.
-/

set_option autoImplicit false

namespace QueryLint

open Glob (isName)

namespace FileTree

/-- What names lead to. -/
def at? : FileTree → List String → Option FileTree
  | tree, [] => some tree
  | .file _, _ :: _ => none
  | .directory entries, name :: names => (child? name entries).bind (at? · names)

/-- Where a component leads from a place. -/
def step (names : List String) (component : String) : List String :=
  if component = "" ∨ component = "." then names
  else if component = ".." then names.dropLast
  else names ++ [component]

/-- The place a path leads to. -/
def place (path : String) : List String := (components path).foldl step []

variable {root tree : FileTree} {names cs : List String} {path : String}

@[simp] theorem at?_nil (tree : FileTree) : tree.at? [] = some tree := by
  cases tree <;> rfl

theorem at?_append (tree : FileTree) (names more : List String) :
    tree.at? (names ++ more) = (tree.at? names).bind (at? · more) := by
  induction names generalizing tree with
  | nil => simp
  | cons name names ih =>
    cases tree with
    | file content => rfl
    | directory entries =>
      simp only [List.cons_append, at?]
      cases child? name entries with
      | none => rfl
      | some inner => exact ih inner

theorem step_of_isName {name : String} (named : isName name = true) (names : List String) :
    step names name = names ++ [name] := by
  simp only [isName, ne_eq, Bool.and_eq_true, decide_eq_true_eq] at named
  simp [step, named]

theorem foldl_step_names {front names : List String} (named : ∀ name ∈ names, isName name = true) :
    names.foldl step front = front ++ names := by
  induction names generalizing front with
  | nil => simp
  | cons name names ih =>
    rw [List.foldl_cons, step_of_isName (named name (List.mem_cons_self ..)),
      ih fun n isLater => named n (List.mem_cons_of_mem _ isLater)]
    simp

/-! Walking. -/

section

variable {trail : List FileTree} {entries : List (String × FileTree)} {component : String}

theorem walk_stay (stays : component = "" ∨ component = ".") (rest : List String) :
    walk trail (.directory entries) (component :: rest) = walk trail (.directory entries) rest := by
  rw [walk.eq_def]
  simp only [Bool.or_eq_true, decide_eq_true_eq, stays, ↓reduceIte]

theorem walk_back (rest : List String) : walk trail (.directory entries) (".." :: rest) =
    walk trail.tail (trail.headD (.directory entries)) rest := by
  rw [walk.eq_def]
  cases trail <;> simp

theorem walk_name (named : isName component = true) (rest : List String) :
    walk trail (.directory entries) (component :: rest) =
      (child? component entries).elim (.error .notFound) (walk (.directory entries :: trail) · rest) := by
  simp only [isName, ne_eq, Bool.and_eq_true, decide_eq_true_eq] at named
  rw [walk.eq_def]
  simp only [named, decide_false, Bool.or_self, Bool.false_eq_true, ↓reduceIte]
  cases child? component entries <;> rfl

theorem component_cases (component : String) :
    (component = "" ∨ component = ".") ∨ component = ".." ∨ isName component = true := by
  simp only [isName, ne_eq, Bool.and_eq_true, decide_eq_true_eq]
  grind

end

/-- The directories above a place, the innermost first. -/
inductive Trail (root : FileTree) : List String → List FileTree → Prop
  | root : Trail root [] []
  | inner {names : List String} {trail : List FileTree} {parent : FileTree} (name : String) :
      Trail root names trail → root.at? names = some parent → Trail root (names ++ [name]) (parent :: trail)

/-- A walk from a place ends at the place that its components lead to. -/
theorem at?_of_walk {trail : List FileTree} {here : FileTree} (above : Trail root names trail)
    (isHere : root.at? names = some here) (walked : walk trail here cs = .ok tree) :
    root.at? (cs.foldl step names) = some tree := by
  -- The trail is what a step back needs, so it stays that of the place through the induction.
  induction cs generalizing trail here names with
  | nil =>
    cases walked
    exact isHere
  | cons component rest ih =>
    cases here with
    | file content => cases walked
    | directory entries =>
      rw [List.foldl_cons]
      obtain stays | rfl | named := component_cases component
      · rw [walk_stay stays] at walked
        rw [step, if_pos stays]
        exact ih above isHere walked
      · rw [walk_back] at walked
        cases above with
        | root => exact ih .root isHere walked
        | @inner names _ _ name above isParent =>
          have back : step (names ++ [name]) ".." = names := List.dropLast_concat
          rw [back]
          exact ih above isParent walked
      · rw [walk_name named] at walked
        rw [step_of_isName named]
        cases next : child? component entries with
        | none => simp [next] at walked
        | some inner =>
          rw [next] at walked
          refine ih (above.inner component isHere) ?_ walked
          simp [at?_append, isHere, at?, next]

theorem at?_place (found : root.find path = .ok tree) : root.at? (place path) = some tree := by
  rw [find] at found
  split at found
  · cases found
  · exact at?_of_walk .root (at?_nil root) found

/-- A walk goes on where its first part ends. -/
theorem walk_append {trail : List FileTree} {here : FileTree}
    (walked : walk trail here cs = .ok tree) :
    ∃ above, ∀ more, walk trail here (cs ++ more) = walk above tree more := by
  induction cs generalizing trail here with
  | nil =>
    cases walked
    exact ⟨trail, fun _ => rfl⟩
  | cons component rest ih =>
    cases here with
    | file content => cases walked
    | directory entries =>
      simp only [List.cons_append]
      obtain stays | rfl | named := component_cases component
      · simp only [walk_stay stays] at walked ⊢
        exact ih walked
      · simp only [walk_back] at walked ⊢
        exact ih walked
      · simp only [walk_name named] at walked ⊢
        cases next : child? component entries with
        | none => simp [next] at walked
        | some inner =>
          simp only [next] at walked ⊢
          exact ih walked

/-- Down a tree, a walk by names only looks them up. -/
theorem walk_names {trail : List FileTree} {here : FileTree} (named : ∀ name ∈ names, isName name = true) :
    walk trail here names = .ok tree ↔ here.at? names = some tree := by
  induction names generalizing trail here with
  | nil => simp [walk]
  | cons name names ih =>
    cases here with
    | file content => simp [walk, at?]
    | directory entries =>
      rw [walk_name (named name (List.mem_cons_self ..)), at?]
      cases child? name entries with
      | none => simp
      | some inner => exact ih fun n isLater => named n (List.mem_cons_of_mem _ isLater)

/-! Components. -/

theorem map_toList_components (path : String) :
    (components path).map String.toList = path.toList.splitOn '/' := by
  simp [components, Function.comp_def]

theorem components_eq_iff : components path = cs ↔ path.toList.splitOn '/' = cs.map String.toList := by
  rw [← map_toList_components]
  refine ⟨congrArg _, fun same => ?_⟩
  have back := congrArg (List.map String.ofList) same
  simpa [Function.comp_def] using back

theorem notMem_of_mem_splitOn {text part : List Char} (isPart : part ∈ text.splitOn '/') : '/' ∉ part := by
  induction text generalizing part with
  | nil => simp_all
  | cons c text ih =>
    rw [List.splitOn_cons_eq_if_modifyHead] at isPart
    split at isPart
    · rcases List.mem_cons.mp isPart with rfl | later
      · exact List.not_mem_nil
      · exact ih later
    · next noSlash =>
      cases parts : text.splitOn '/' with
      | nil => exact absurd parts (List.splitOn_ne_nil _ _)
      | cons first later =>
        rw [parts, List.modifyHead_cons] at isPart
        rcases List.mem_cons.mp isPart with rfl | isLater
        · have notFirst : '/' ∉ first := ih (parts ▸ List.mem_cons_self ..)
          have otherwise : '/' ≠ c := fun same => noSlash (beq_iff_eq.mpr same.symm)
          simp [notFirst, otherwise]
        · exact ih (parts ▸ List.mem_cons_of_mem _ isLater)

theorem slash_notMem {component : String} (isPart : component ∈ components path) :
    '/' ∉ component.toList :=
  notMem_of_mem_splitOn (map_toList_components path ▸ List.mem_map_of_mem isPart)

theorem components_ne_nil (path : String) : components path ≠ [] := by
  simp [components, List.splitOn_ne_nil]

theorem components_slash (front behind : String) :
    components (front ++ "/" ++ behind) = components front ++ components behind := by
  rw [components_eq_iff, List.map_append, map_toList_components, map_toList_components,
    ← List.splitOn_append_cons_self]
  simp

/-- Components without slashes are those of the path that they make. -/
theorem components_join (some : cs ≠ []) (noSlash : ∀ c ∈ cs, '/' ∉ c.toList) :
    components ("/".intercalate cs) = cs := by
  rw [components_eq_iff, String.toList_intercalate]
  exact List.splitOn_intercalate '/' (by simpa using noSlash) (by simpa using some)

theorem join_components (path : String) : "/".intercalate (components path) = path := by
  rw [← String.toList_inj, String.toList_intercalate, map_toList_components]
  exact List.intercalate_splitOn '/'

/-! Paths below a directory. -/

theorem components_eq_singleton_iff : components path = [""] ↔ path = "" := by
  refine ⟨fun alone => ?_, ?_⟩
  · rw [← join_components path, alone]
    rfl
  · rintro rfl
    rfl

theorem find_eq_walk (some : path ≠ "") : root.find path = walk [] root (components path) := by
  rw [find, if_neg some]

theorem ne_empty_of_find (found : root.find path = .ok tree) : path ≠ "" := by
  rintro rfl
  cases found

section

variable {dir : String} {inner : FileTree} (found : root.find dir = .ok inner)
  (written : components path = components dir ++ names) (named : ∀ name ∈ names, isName name = true)
include written

include found in
theorem ne_empty_of_inner : path ≠ "" := by
  intro isEmpty
  rw [components_eq_singleton_iff.mpr isEmpty] at written
  cases front : components dir with
  | nil => exact components_ne_nil dir front
  | cons c rest =>
    rw [front] at written
    simp only [List.cons_append, List.cons.injEq, List.nil_eq_append_iff] at written
    refine ne_empty_of_find found (components_eq_singleton_iff.mp ?_)
    rw [front, ← written.1, written.2.1]

include found named in
theorem find_inner : root.find path = .ok tree ↔ inner.at? names = some tree := by
  rw [find_eq_walk (ne_empty_of_inner found written), written]
  rw [find_eq_walk (ne_empty_of_find found)] at found
  obtain ⟨above, behind⟩ := walk_append found
  rw [behind, walk_names named]

include named in
theorem place_inner : place path = place dir ++ names := by
  rw [place, written, List.foldl_append, foldl_step_names named]
  rfl

end

end FileTree

namespace Path

open FileTree

/-! The order of paths tells places apart. -/

instance : Std.TransOrd Part :=
  inferInstanceAs (Std.TransCmp (compareLex (compareOn Part.rank) (compareOn Part.text)))

instance : Std.LawfulEqOrd Part where
  eq_of_compare {a b} same := by
    have same : compareLex (compareOn Part.rank) (compareOn Part.text) a b = .eq := same
    simp only [compareLex_eq_eq, compareOn, Std.LawfulEqOrd.compare_eq_iff_eq] at same
    cases a <;> cases b <;> simp_all [Part.rank, Part.text]

instance : Std.TransCmp order :=
  inferInstanceAs (Std.TransCmp (compareOn parts))

/-- Where a part leads from a place. -/
def stepPart (names : List String) : Part → List String
  | .root => []
  | .here => names
  | .up => names.dropLast
  | .name text => names ++ [text]

theorem foldl_stepPart (names cs : List String) :
    (cs.filterMap Part.ofComponent?).foldl stepPart names = cs.foldl step names := by
  induction cs generalizing names with
  | nil => rfl
  | cons c cs ih =>
    rw [List.foldl_cons, ← ih, List.filterMap_cons, Part.ofComponent?, step]
    by_cases stays : c = "" ∨ c = "."
    · rw [if_pos stays, if_pos stays]
    by_cases back : c = ".."
    · rw [if_neg stays, if_neg stays, if_pos back, if_pos back]
      rfl
    · rw [if_neg stays, if_neg stays, if_neg back, if_neg back]
      rfl

theorem place_eq (path : String) : place path = (parts path).foldl stepPart [] := by
  rw [place, parts]
  split
  · next alone => rw [alone]; rfl
  · next rest _ split => rw [split, List.foldl_cons, List.foldl_cons, foldl_stepPart]; rfl
  · next rest split => rw [split, List.foldl_cons, List.foldl_cons, foldl_stepPart]; rfl
  · rw [foldl_stepPart]

theorem place_eq_of_order {a b : String} (same : order a b = .eq) : place a = place b := by
  rw [place_eq, place_eq, Std.LawfulEqOrd.eq_of_compare same]

end Path

end QueryLint
