import QueryLint.Proofs.Files.Place

/-! The entries of a directory tree. -/

set_option autoImplicit false

namespace QueryLint

open Glob (isName)

namespace FileTree

/-- Entries have names, without slashes, and no two entries of a directory share one. -/
inductive Proper : FileTree → Prop
  | file (content : ByteArray) : Proper (.file content)
  | directory {entries : List (String × FileTree)}
      (named : ∀ e ∈ entries, isName e.1 = true ∧ '/' ∉ e.1.toList)
      (distinct : (entries.map Prod.fst).Nodup)
      (inner : ∀ e ∈ entries, Proper e.2) : Proper (.directory entries)

section

variable {tree inner : FileTree} {inDirectory : List (String × FileTree)} {name : String}
  {trace : List String}

theorem mem_of_child? (found : child? name inDirectory = some inner) : (name, inner) ∈ inDirectory := by
  induction inDirectory with
  | nil => cases found
  | cons entry later ih =>
    obtain ⟨n, first⟩ := entry
    rw [child?] at found
    split at found
    · next same =>
      cases found
      rw [same]
      exact List.mem_cons_self ..
    · exact List.mem_cons_of_mem _ (ih found)

theorem child?_of_mem (distinct : (inDirectory.map Prod.fst).Nodup) (isEntry : (name, inner) ∈ inDirectory) :
    child? name inDirectory = some inner := by
  induction inDirectory with
  | nil => cases isEntry
  | cons entry later ih =>
    obtain ⟨n, first⟩ := entry
    rw [List.map_cons, List.nodup_cons] at distinct
    rw [child?]
    rcases List.mem_cons.mp isEntry with same | isLater
    · cases same
      rw [if_pos rfl]
    · have other : n ≠ name := by
        rintro rfl
        exact distinct.1 (List.mem_map.mpr ⟨_, isLater, rfl⟩)
      rw [if_neg other]
      exact ih distinct.2 isLater

theorem Proper.child (proper : Proper (.directory inDirectory)) (found : child? name inDirectory = some inner) :
    (isName name = true ∧ '/' ∉ name.toList) ∧ Proper inner := by
  cases proper with
  | directory named distinct below =>
    exact ⟨named _ (mem_of_child? found), below _ (mem_of_child? found)⟩

/-- Only names lead anywhere, and only to trees like this one. -/
theorem Proper.reached (proper : Proper tree) (found : tree.at? trace = some inner) :
    (∀ name ∈ trace, isName name = true ∧ '/' ∉ name.toList) ∧ Proper inner := by
  induction trace generalizing tree with
  | nil =>
    rw [at?_nil] at found
    cases found
    exact ⟨by simp, proper⟩
  | cons name trace ih =>
    cases tree with
    | file content => cases found
    | directory inDirectory =>
      rw [at?] at found
      cases first : child? name inDirectory with
      | none => simp [first] at found
      | some next =>
        rw [first, Option.bind_some] at found
        obtain ⟨isNamed, properNext⟩ := proper.child first
        obtain ⟨named, properInner⟩ := ih properNext found
        exact ⟨List.forall_mem_cons.mpr ⟨isNamed, named⟩, properInner⟩

theorem entriesIn_cons (name : String) (tree : FileTree) (later : List (String × FileTree)) :
    entriesIn ((name, tree) :: later) = tree.entries.map (name :: ·) ++ entriesIn later := by
  cases tree <;> simp [entriesIn, entries]

theorem mem_entriesIn : trace ∈ entriesIn inDirectory ↔
    ∃ name inner more, (name, inner) ∈ inDirectory ∧ more ∈ inner.entries ∧ trace = name :: more := by
  induction inDirectory with
  | nil => simp [entriesIn]
  | cons entry later ih =>
    obtain ⟨n, first⟩ := entry
    rw [entriesIn_cons, List.mem_append, List.mem_map, ih]
    simp only [List.mem_cons, Prod.mk.injEq]
    grind

/-- The entries of a tree are what names lead to. -/
theorem mem_entries (proper : Proper tree) : trace ∈ tree.entries ↔ (tree.at? trace).isSome = true := by
  induction trace generalizing tree with
  | nil => cases tree <;> simp [entries]
  | cons name trace ih =>
    cases proper with
    | file content => simp [entries, at?]
    | @directory inDirectory named distinct below =>
      simp only [entries, List.mem_cons, reduceCtorEq, false_or, mem_entriesIn, List.cons.injEq]
      rw [at?]
      constructor
      · rintro ⟨_, inner, _, isEntry, isInner, rfl, rfl⟩
        rw [child?_of_mem distinct isEntry, Option.bind_some]
        exact (ih (below _ isEntry)).mp isInner
      · intro reached
        cases first : child? name inDirectory with
        | none => simp [first] at reached
        | some inner =>
          rw [first, Option.bind_some] at reached
          have isEntry := mem_of_child? first
          exact ⟨name, inner, trace, isEntry, (ih (below _ isEntry)).mpr reached, rfl, rfl⟩

theorem nodup_entriesIn (distinct : (inDirectory.map Prod.fst).Nodup)
    (inner : ∀ e ∈ inDirectory, e.2.entries.Nodup) : (entriesIn inDirectory).Nodup := by
  induction inDirectory with
  | nil => simp [entriesIn]
  | cons entry later ih =>
    obtain ⟨n, first⟩ := entry
    rw [List.map_cons, List.nodup_cons] at distinct
    rw [entriesIn_cons, List.nodup_append]
    refine ⟨?_, ih distinct.2 fun e isLater => inner e (List.mem_cons_of_mem _ isLater), ?_⟩
    · have apart (a b : List String) (other : a ≠ b) : n :: a ≠ n :: b := fun same => other (List.cons.inj same).2
      exact List.Pairwise.map _ apart (inner (n, first) (List.mem_cons_self ..))
    · -- Entries of different children begin with different names.
      rintro _ isFirst _ isLater rfl
      obtain ⟨more, -, rfl⟩ := List.mem_map.mp isFirst
      obtain ⟨name, tree, _, isEntry, -, same⟩ := mem_entriesIn.mp isLater
      cases same
      exact distinct.1 (List.mem_map.mpr ⟨_, isEntry, rfl⟩)

theorem nodup_entries (proper : Proper tree) : tree.entries.Nodup := by
  induction proper with
  | file content => simp [entries]
  | @directory inDirectory named distinct below ih =>
    rw [entries, List.nodup_cons]
    refine ⟨fun isNil => ?_, nodup_entriesIn distinct ih⟩
    obtain ⟨name, inner, more, -, -, same⟩ := mem_entriesIn.mp isNil
    cases same

end

end FileTree

end QueryLint
