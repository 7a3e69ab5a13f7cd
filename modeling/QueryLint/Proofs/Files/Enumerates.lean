import QueryLint.Proofs.Files.Entries
import QueryLint.Proofs.Files.Patterns

/-! What a file system has for the patterns of a search.

A glob lists the entries that match, and lists each once. An entry is told by its place, for a glob may write
the way to it in its own words. A directory tree is such a glob for every directory that its patterns can
name.
-/

set_option autoImplicit false

namespace QueryLint

open FileTree (components place at?_place at?_append)
open Glob (Leads)

namespace Search

/-- A glob lists the places of the entries that match a pattern, each once. -/
def Enumerates (glob : Glob) (files : FileTree) (pattern : String) : Prop :=
  ∃ paths : List String, glob.entries pattern = .ok (paths.map .ok) ∧ (paths.map place).Nodup ∧
    (∀ path ∈ paths, files.exists? path = true) ∧
    ∀ names, names ∈ paths.map place ↔
      ∃ path, files.exists? path = true ∧ Glob.matchesPath pattern path = true ∧ place path = names

variable {glob : Glob} {files inner : FileTree} {recursive : Bool} {dir path extension : String}
  {names : List String}

theorem exists?_iff : files.exists? path = true ↔ ∃ tree, files.find path = .ok tree := by
  rw [FileTree.exists?]
  cases files.find path <;> simp

/-- The places of what a pattern for a directory matches. -/
theorem exists_matching_iff (escapes : glob.Escapes) (proper : files.Proper)
    (found : files.find dir = .ok inner) (known : extension ∈ extensions) :
    (∃ path, files.exists? path = true ∧ Glob.matchesPath (pattern glob recursive dir extension) path = true ∧
      place path = names) ↔
      ∃ more, Leads recursive extension more ∧ (inner.at? more).isSome = true ∧ names = place dir ++ more := by
  simp only [exists?_iff, Glob.matchesPath_pattern escapes known]
  constructor
  · rintro ⟨path, ⟨tree, isThere⟩, ⟨more, written, leads⟩, rfl⟩
    obtain ⟨front, name, -, -, named, -⟩ := id leads
    rw [FileTree.find_inner found written named] at isThere
    exact ⟨more, leads, by rw [isThere]; rfl, FileTree.place_inner written named⟩
  · rintro ⟨more, leads, isThere, rfl⟩
    obtain ⟨front, name, -, -, named, -⟩ := id leads
    obtain ⟨tree, reached⟩ := Option.isSome_iff_exists.mp isThere
    have reachedFrom : files.at? (place dir ++ more) = some tree := by
      rw [at?_append, at?_place found, Option.bind_some, reached]
    have noSlash : ∀ c ∈ components dir ++ more, '/' ∉ c.toList := by
      intro c member
      rcases List.mem_append.mp member with inDir | isName
      · exact FileTree.slash_notMem inDir
      · exact ((proper.reached reachedFrom).1 c (List.mem_append_right _ isName)).2
    have written := FileTree.components_join (by simp [FileTree.components_ne_nil]) noSlash
    exact ⟨_, ⟨tree, (FileTree.find_inner found written named).mpr reached⟩, ⟨more, written, leads⟩,
      FileTree.place_inner written named⟩

end Search

namespace FileTree

open Search (pattern Enumerates extensions)

variable {root inner tree : FileTree} {recursive : Bool} {dir extension : String} {short names : List String}

theorem fixed_escaped (front : List String) {behind : List Glob.Segment} (unfixed : fixed behind = ([], behind)) :
    fixed (front.map .escaped ++ behind) = (front, behind) := by
  induction front with
  | nil => exact unfixed
  | cons c front ih =>
    rw [List.map_cons, List.cons_append, fixed, Glob.literal?_escaped]
    simp only [ih]

/-- Components and the same without some that stay where they are. -/
inductive Shortens : List String → List String → Prop
  | nil : Shortens [] []
  | keep {full short : List String} (c : String) : Shortens full short → Shortens (c :: full) (c :: short)
  | drop {full short : List String} {c : String} (stays : c = "" ∨ c = ".") :
      Shortens full short → Shortens (c :: full) short

namespace Shortens

variable {full short : List String}

theorem sublist (shortens : Shortens full short) : short.Sublist full := by
  induction shortens with
  | nil => exact .slnil
  | keep c _ ih => exact ih.cons_cons c
  | drop _ _ ih => exact ih.cons _

theorem filter (cs : List String) : Shortens cs (cs.filter (· ≠ "")) := by
  induction cs with
  | nil => exact .nil
  | cons c cs ih =>
    rw [List.filter_cons]
    split
    · exact .keep c ih
    · next isEmpty => exact .drop (.inl (by simpa using isEmpty)) ih

theorem dropWhile (cs : List String) : Shortens cs ((cs.dropWhile (· = ".")).filter (· ≠ "")) := by
  induction cs with
  | nil => exact .nil
  | cons c cs ih =>
    rw [List.dropWhile_cons]
    split
    · next isDot => exact .drop (.inr (of_decide_eq_true isDot)) ih
    · exact .filter _

theorem of_shown (isShown : shown? full = some short) : Shortens full short := by
  unfold shown? at isShown
  split at isShown
  · cases isShown
    exact .keep "" (.filter _)
  · split at isShown
    · cases isShown
    · cases isShown
      exact .dropWhile full

theorem foldl_step (shortens : Shortens full short) (names : List String) :
    short.foldl step names = full.foldl step names := by
  induction shortens generalizing names with
  | nil => rfl
  | keep c _ ih => exact ih (step names c)
  | drop stays _ ih => rw [List.foldl_cons, step, if_pos stays, ih]

theorem walk (shortens : Shortens full short) {trail : List FileTree} {here : FileTree}
    (walked : FileTree.walk trail here full = .ok inner) : FileTree.walk trail here short = .ok inner := by
  induction shortens generalizing trail here with
  | nil => exact walked
  | @keep full short c _ ih =>
    cases here with
    | file content => cases walked
    | directory entries =>
      obtain stays | rfl | named := component_cases c
      · rw [walk_stay stays] at walked ⊢
        exact ih walked
      · rw [walk_back] at walked ⊢
        exact ih walked
      · rw [walk_name named] at walked ⊢
        cases next : child? c entries with
        | none => simp [next] at walked
        | some tree =>
          rw [next] at walked
          exact ih walked
  | drop stays _ ih =>
    cases here with
    | file content => cases walked
    | directory entries => exact ih (walk_stay stays _ ▸ walked)

end Shortens

/-- An entry below a directory is found at the path that shows it. -/
theorem find_shown (found : root.find dir = .ok inner) (isShown : shown? (components dir) = some short)
    (proper : inner.Proper) (reached : inner.at? names = some tree) (below : names ≠ []) :
    root.find ("/".intercalate (short ++ names)) = .ok tree ∧
      place ("/".intercalate (short ++ names)) = place dir ++ names := by
  have shortens := Shortens.of_shown isShown
  have named := (proper.reached reached).1
  have written : components ("/".intercalate (short ++ names)) = short ++ names := by
    refine components_join (by simp [below]) fun c member => ?_
    rcases List.mem_append.mp member with inFront | isName
    · exact slash_notMem (shortens.sublist.mem inFront)
    · exact (named c isName).2
  have some : "/".intercalate (short ++ names) ≠ "" := by
    intro isEmpty
    rw [components_eq_singleton_iff.mpr isEmpty] at written
    obtain ⟨-, rfl⟩ | ⟨-, none⟩ := List.append_eq_singleton_iff.mp written.symm
    · exact absurd (named "" (List.mem_singleton.mpr rfl)).1 (by decide)
    · exact below none
  constructor
  · rw [find_eq_walk (ne_empty_of_find found)] at found
    obtain ⟨above, behind⟩ := walk_append (shortens.walk found)
    rw [find_eq_walk some, written, behind, walk_names fun n member => (named n member).1]
    exact reached
  · rw [place, written, List.foldl_append, foldl_step_names fun n member => (named n member).1,
      shortens.foldl_step]
    rfl

/-- The ways from a directory to the entries that a search asks for. -/
def matching (tree : FileTree) (recursive : Bool) (extension : String) : List (List String) :=
  tree.entries.filter (Glob.Segment.matchAll (Glob.below recursive extension))

theorem mem_matching (proper : tree.Proper) :
    names ∈ tree.matching recursive extension ↔
      Leads recursive extension names ∧ (tree.at? names).isSome = true := by
  rw [matching, List.mem_filter, mem_entries proper, Glob.matchAll_leads, and_comm]

theorem glob_pattern (found : root.find dir = .ok inner) (isShown : shown? (components dir) = some short)
    (known : extension ∈ extensions) :
    root.glob.entries (pattern root.glob recursive dir extension) =
      .ok (((inner.matching recursive extension).map fun names => "/".intercalate (short ++ names)).map .ok) := by
  have unfixed : fixed (Glob.below recursive extension) = ([], Glob.below recursive extension) := by
    cases recursive <;> rfl
  have isDir : Glob.segments? (root.glob.escape dir) = some ((components dir).map .escaped) :=
    Glob.segments?_bracketed dir
  have entries : root.glob.entries = root.matches? := rfl
  rw [find_eq_walk (ne_empty_of_find found)] at found
  rw [entries, matches?, Glob.segments?_pattern known isDir]
  simp only [fixed_escaped _ unfixed, isShown, found, matching, List.map_map]
  rfl

/-- A tree has what its patterns match. -/
theorem glob_enumerates (proper : root.Proper) (found : root.find dir = .ok inner)
    (isShown : shown? (components dir) = some short) (known : extension ∈ extensions) :
    Enumerates root.glob root (pattern root.glob recursive dir extension) := by
  have properInner := (proper.reached (at?_place found)).2
  have shows {names : List String} (isListed : names ∈ inner.matching recursive extension) :
      root.exists? ("/".intercalate (short ++ names)) = true ∧
        place ("/".intercalate (short ++ names)) = place dir ++ names := by
    obtain ⟨⟨front, name, some, -⟩, isEntry⟩ := (mem_matching properInner).mp isListed
    obtain ⟨tree, reached⟩ := Option.isSome_iff_exists.mp isEntry
    obtain ⟨isThere, isPlace⟩ := find_shown found isShown properInner reached (by simp [some])
    exact ⟨Search.exists?_iff.mpr ⟨tree, isThere⟩, isPlace⟩
  have places : ((inner.matching recursive extension).map
      fun names => "/".intercalate (short ++ names)).map place =
        (inner.matching recursive extension).map (place dir ++ ·) := by
    rw [List.map_map]
    exact List.map_congr_left fun names isListed => (shows isListed).2
  refine ⟨_, glob_pattern found isShown known, ?_, ?_, fun names => ?_⟩
  · rw [places]
    have apart (a b : List String) (other : a ≠ b) : place dir ++ a ≠ place dir ++ b :=
      fun same => other (List.append_cancel_left same)
    exact List.Pairwise.map _ apart ((nodup_entries properInner).filter _)
  · intro path member
    obtain ⟨names, isListed, rfl⟩ := List.mem_map.mp member
    exact (shows isListed).1
  · rw [places, Search.exists_matching_iff root.glob_escapes proper found known, List.mem_map]
    simp only [mem_matching properInner, and_assoc, eq_comm]

end FileTree

end QueryLint
