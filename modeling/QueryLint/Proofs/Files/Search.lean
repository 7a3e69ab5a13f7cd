import Mathlib.Data.List.Forall2
import QueryLint.Proofs.Files.Enumerates

/-! A search finds exactly the manifests that are there. -/

set_option autoImplicit false

namespace QueryLint

open FileTree (place at?_place at?_append)
open Glob (Leads)

namespace Search

/-- A file with the extension that lies in a directory, or, if the search is recursive, anywhere below. -/
def IsFound (files : FileTree) (recursive : Bool) (dir extension : String) (names : List String) : Prop :=
  ∃ front name, names = place dir ++ front ++ [name] ∧ (recursive = false → front = []) ∧
    (∃ content, files.at? names = some (.file content)) ∧ '.' :: extension.toList <:+ name.toList

variable {glob : Glob} {files inner : FileTree} {recursive : Bool} {dir path extension : String}
  {names : List String}

theorem isFile_iff : files.isFile path = true ↔ ∃ content, files.find path = .ok (.file content) := by
  rw [FileTree.isFile]
  split
  · next content found => simp [found]
  · next other => simpa using other

theorem filesFor_ok {text : String} {paths : List String} (given : glob.entries text = .ok (paths.map .ok)) :
    filesFor glob files text = .ok (paths.filter files.isFile) := by
  have each : (paths.map Except.ok).mapM (fun entry => entry.mapError SearchError.unreadable) =
      .ok paths := by
    clear given
    induction paths with
    | nil => rfl
    | cons path paths ih =>
      rw [List.map_cons, List.mapM_cons, ih]
      rfl
  rw [filesFor, given]
  simp only [each]
  rfl

/-- One pattern has the files with one extension. -/
theorem filesFor_exact (escapes : glob.Escapes) (proper : files.Proper) (found : files.find dir = .ok inner)
    (known : extension ∈ extensions) (lists : Enumerates glob files (pattern glob recursive dir extension)) :
    ∃ paths, filesFor glob files (pattern glob recursive dir extension) = .ok paths ∧
      (paths.map place).Nodup ∧ (∀ path ∈ paths, files.isFile path = true) ∧
      ∀ names, names ∈ paths.map place ↔ IsFound files recursive dir extension names := by
  obtain ⟨paths, given, once, exist, all⟩ := lists
  simp only [exists_matching_iff escapes proper found known] at all
  -- Directories may have such names too; the glob lists them, and only files are kept.
  refine ⟨_, filesFor_ok given, once.sublist (List.filter_sublist.map _),
    fun path isFile => (List.mem_filter.mp isFile).2, fun names => ?_⟩
  rw [List.mem_map]
  constructor
  · rintro ⟨path, isFound, rfl⟩
    obtain ⟨isListed, isFile⟩ := List.mem_filter.mp isFound
    obtain ⟨content, isThere⟩ := isFile_iff.mp isFile
    obtain ⟨more, ⟨front, name, rfl, direct, -, ends⟩, -, isPlace⟩ :=
      (all (place path)).mp (List.mem_map_of_mem isListed)
    exact ⟨front, name, by rw [isPlace, List.append_assoc], direct, ⟨content, at?_place isThere⟩, ends⟩
  · rintro ⟨front, name, rfl, direct, ⟨content, reached⟩, ends⟩
    have named := fun n member => ((proper.reached reached).1 n member).1
    rw [List.append_assoc] at reached named ⊢
    have below : inner.at? (front ++ [name]) = some (.file content) := by
      rwa [at?_append, at?_place found, Option.bind_some] at reached
    have leads : Leads recursive extension (front ++ [name]) :=
      ⟨front, name, rfl, direct, fun n member => named n (List.mem_append_right _ member), ends⟩
    obtain ⟨path, isListed, isPlace⟩ :=
      List.mem_map.mp ((all _).mpr ⟨_, leads, by rw [below]; rfl, rfl⟩)
    obtain ⟨tree, isThere⟩ := exists?_iff.mp (exist path isListed)
    have same := (at?_place isThere).symm.trans (isPlace ▸ reached)
    cases same
    exact ⟨path, List.mem_filter.mpr ⟨isListed, isFile_iff.mpr ⟨content, isThere⟩⟩, isPlace⟩

/-- A manifest that lies in a directory, or, if the search is recursive, anywhere below. -/
def IsManifest (files : FileTree) (recursive : Bool) (dir : String) (names : List String) : Prop :=
  ∃ front name, names = place dir ++ front ++ [name] ∧ (recursive = false → front = []) ∧
    (∃ content, files.at? names = some (.file content)) ∧
    (".yaml".toList <:+ name.toList ∨ ".yml".toList <:+ name.toList)

/-- No name ends with both extensions. -/
theorem not_isFound_both (yaml : IsFound files recursive dir "yaml" names)
    (yml : IsFound files recursive dir "yml" names) : False := by
  obtain ⟨front, name, rfl, -, -, ends⟩ := yaml
  obtain ⟨front', name', same, -, -, ends'⟩ := yml
  cases (List.append_inj' same rfl).2
  have inside := List.suffix_of_suffix_length_le ends' ends (by decide)
  exact absurd inside (by decide)

/-- What a path stands for: a file for itself, whatever its name is; a directory for the manifests in it, each
once and in the order of their paths. -/
inductive StandsFor (files : FileTree) (recursive : Bool) : String → List String → Prop
  | file {path : String} {content : ByteArray} (isThere : files.find path = .ok (.file content)) :
      StandsFor files recursive path [path]
  | directory {dir : String} {entries : List (String × FileTree)} {found : List String}
      (isThere : files.find dir = .ok (.directory entries))
      (increasing : found.Pairwise fun a b => Path.order a b = .lt)
      (once : (found.map place).Nodup)
      (areFiles : ∀ path ∈ found, files.isFile path = true)
      (all : ∀ names, names ∈ found.map place ↔ IsManifest files recursive dir names) :
      StandsFor files recursive dir found

theorem order_total (a b : String) : ((Path.order a b).isLE || (Path.order b a).isLE) = true := by
  cases ahead : Path.order a b with
  | gt => rw [Std.OrientedCmp.lt_of_gt ahead]; rfl
  | _ => rfl

/-- Sorted paths with different places are in increasing order. -/
theorem increasing_mergeSort {paths : List String} (once : (paths.map place).Nodup) :
    (paths.mergeSort fun a b => (Path.order a b).isLE).Pairwise fun a b => Path.order a b = .lt := by
  have sorted := List.pairwise_mergeSort (fun a b c => Std.TransCmp.isLE_trans) order_total paths
  have apart : (paths.mergeSort fun a b => (Path.order a b).isLE).Pairwise fun a b => place a ≠ place b := by
    rw [← List.pairwise_map]
    exact (((List.mergeSort_perm paths _).map place).nodup_iff).mpr once
  -- Paths that compare equal have one place, so among these none do.
  refine (sorted.and apart).imp fun {a b} ⟨isLE, other⟩ => ?_
  cases ahead : Path.order a b with
  | lt => rfl
  | eq => exact absurd (Path.place_eq_of_order ahead) other
  | gt =>
    rw [ahead] at isLE
    cases isLE

theorem directory_exact {entries : List (String × FileTree)} (escapes : glob.Escapes) (proper : files.Proper)
    (isThere : files.find dir = .ok (.directory entries))
    (lists : ∀ extension ∈ extensions, Enumerates glob files (pattern glob recursive dir extension)) :
    ∃ found, directory glob files recursive dir = .ok found ∧ StandsFor files recursive dir found := by
  obtain ⟨yaml, gotYaml, onceYaml, filesYaml, allYaml⟩ :=
    filesFor_exact escapes proper isThere (by decide : "yaml" ∈ extensions) (lists _ (by decide))
  obtain ⟨yml, gotYml, onceYml, filesYml, allYml⟩ :=
    filesFor_exact escapes proper isThere (by decide : "yml" ∈ extensions) (lists _ (by decide))
  -- No name ends in both ways, so no file is found twice.
  have once : ((yaml ++ yml).map place).Nodup := by
    rw [List.map_append, List.nodup_append]
    refine ⟨onceYaml, onceYml, ?_⟩
    rintro _ inYaml _ inYml rfl
    exact not_isFound_both ((allYaml _).mp inYaml) ((allYml _).mp inYml)
  have sameMembers := List.mergeSort_perm (yaml ++ yml) fun a b => (Path.order a b).isLE
  refine ⟨_, ?_, .directory isThere (increasing_mergeSort once) ((sameMembers.map place).nodup_iff.mpr once) ?_ ?_⟩
  · rw [directory, extensions]
    simp only [List.mapM_cons, List.mapM_nil, gotYaml, gotYml]
    simp [bind, Except.bind, pure, Except.pure]
  · intro path member
    rcases List.mem_append.mp (sameMembers.mem_iff.mp member) with inYaml | inYml
    · exact filesYaml path inYaml
    · exact filesYml path inYml
  · intro names
    rw [(sameMembers.map place).mem_iff, List.map_append, List.mem_append, allYaml, allYml]
    constructor
    · rintro (⟨front, name, same, direct, isFile, ends⟩ | ⟨front, name, same, direct, isFile, ends⟩)
      · exact ⟨front, name, same, direct, isFile, .inl ends⟩
      · exact ⟨front, name, same, direct, isFile, .inr ends⟩
    · rintro ⟨front, name, same, direct, isFile, ends | ends⟩
      · exact .inl ⟨front, name, same, direct, isFile, ends⟩
      · exact .inr ⟨front, name, same, direct, isFile, ends⟩

/-! Several paths are searched one after the other. -/

/-- What one path contributes to a search. -/
def contribution (glob : Glob) (files : FileTree) (recursive : Bool) (path : String) :
    Except SearchError (List String) :=
  match files.find path with
  | .error _ => .error (.notFound path)
  | .ok (.file _) => .ok [path]
  | .ok (.directory _) => directory glob files recursive path

/-- What answers behind a computation is put to its answer. -/
theorem answer_map {α β : Type} (x : Logged SearchError α) (f : α → β) (log : List Log.Entry) :
    ((do let a ← x; pure (f a) : Logged SearchError β).run.run log).1 = f <$> (x.run.run log).1 := by
  simp only [ExceptT.run_bind, StateT.run_bind]
  rcases x.run.run log with ⟨e | a, after⟩ <;> rfl

/-- A search of several paths is the search of each, until one fails; the log is no part of it. -/
theorem collect_eq (paths : List String) (log : List Log.Entry) :
    ((collect glob files recursive paths).run.run log).1 =
      List.flatten <$> paths.mapM (contribution glob files recursive) := by
  induction paths generalizing log with
  | nil => rfl
  | cons path paths ih =>
    rw [collect, List.mapM_cons, contribution]
    cases files.find path with
    | error e => rfl
    | ok tree =>
      cases tree with
      | file content =>
        refine (answer_map (collect glob files recursive paths) (path :: ·) log).trans ?_
        rw [ih]
        cases paths.mapM (contribution glob files recursive) <;> rfl
      | directory entries =>
        cases searched : directory glob files recursive path with
        | error e => rfl
        | ok found =>
          refine (answer_map (collect glob files recursive paths) (found ++ ·) (log ++ [_])).trans ?_
          rw [ih]
          cases paths.mapM (contribution glob files recursive) <;> rfl

theorem contribution_exact (escapes : glob.Escapes) (proper : files.Proper) (exist : files.exists? path = true)
    (lists : files.isDirectory path = true →
      ∀ extension ∈ extensions, Enumerates glob files (pattern glob recursive path extension)) :
    ∃ found, contribution glob files recursive path = .ok found ∧ StandsFor files recursive path found := by
  obtain ⟨tree, isThere⟩ := exists?_iff.mp exist
  rw [contribution, isThere]
  cases tree with
  | file content => exact ⟨[path], rfl, .file isThere⟩
  | directory entries =>
    have isDirectory : files.isDirectory path = true := by rw [FileTree.isDirectory, isThere]
    exact directory_exact escapes proper isThere (lists isDirectory)

theorem contribution_missing (missing : files.exists? path = false) :
    contribution glob files recursive path = .error (.notFound path) := by
  rw [FileTree.exists?] at missing
  rw [contribution]
  split at missing
  · cases missing
  · next e absent => rw [absent]

/-- Every path contributes what it stands for, up to the first that is not there. -/
theorem mapM_contribution {paths : List String} (escapes : glob.Escapes) (proper : files.Proper)
    (lists : ∀ path ∈ paths, files.isDirectory path = true →
      ∀ extension ∈ extensions, Enumerates glob files (pattern glob recursive path extension)) :
    (∃ founds, paths.mapM (contribution glob files recursive) = .ok founds ∧
      List.Forall₂ (fun path found =>
        contribution glob files recursive path = .ok found ∧ StandsFor files recursive path found) paths founds) ∨
    ∃ before path after, paths.mapM (contribution glob files recursive) = .error (.notFound path) ∧
      paths = before ++ path :: after ∧ files.exists? path = false ∧
      ∀ earlier ∈ before, files.exists? earlier = true := by
  induction paths with
  | nil => exact .inl ⟨[], rfl, .nil⟩
  | cons path paths ih =>
    have ⟨headLists, tailLists⟩ := List.forall_mem_cons.mp lists
    rw [List.mapM_cons]
    cases exist : files.exists? path with
    | false =>
      rw [contribution_missing exist]
      exact .inr ⟨[], path, paths, rfl, rfl, exist, by simp⟩
    | true =>
      obtain ⟨found, contributed, stands⟩ := contribution_exact escapes proper exist headLists
      rw [contributed]
      rcases ih tailLists with ⟨founds, answered, each⟩ | ⟨before, missing, after, failed, rfl, absent, earlier⟩
      · rw [answered]
        exact .inl ⟨found :: founds, rfl, .cons ⟨contributed, stands⟩ each⟩
      · rw [failed]
        exact .inr ⟨path :: before, missing, after, rfl, rfl, absent, List.forall_mem_cons.mpr ⟨exist, earlier⟩⟩

/-- A tree in which a directory has brackets in its name. -/
def bracketed : FileTree :=
  .directory [("notes.txt", .file .empty),
    ("x[1]", .directory [("b.yml", .file .empty), ("sub", .directory [("a.yaml", .file .empty)])])]

end Search

end QueryLint
