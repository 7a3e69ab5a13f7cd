/-! Maps from label names to patterns, in ascending order of the names. -/

set_option autoImplicit false

namespace QueryLint

/-- Labels with their patterns, in ascending order; no label occurs twice. -/
structure LabelMap where
  entries : List (String × String)
  ascending : (entries.map Prod.fst).Pairwise (· < ·)
  deriving DecidableEq, Repr

namespace LabelMap

instance : EmptyCollection LabelMap := ⟨[], .nil⟩

def insertEntry (label pattern : String) : List (String × String) → List (String × String)
  | [] => [(label, pattern)]
  | (l, p) :: rest =>
    if label = l then (label, pattern) :: rest
    else if label < l then (label, pattern) :: (l, p) :: rest
    else (l, p) :: insertEntry label pattern rest

theorem mem_insertEntry {label pattern l : String} {entries : List (String × String)}
    (member : l ∈ (insertEntry label pattern entries).map Prod.fst) :
    l = label ∨ l ∈ entries.map Prod.fst := by
  induction entries with
  | nil => simpa [insertEntry] using member
  | cons entry rest ih =>
    obtain ⟨first, p⟩ := entry
    rw [insertEntry] at member
    split at member
    · next same =>
      rw [List.map_cons, ← same]
      exact .inr member
    · split at member
      · exact List.mem_cons.mp member
      · rcases List.mem_cons.mp member with isFirst | later
        · exact .inr (isFirst ▸ List.mem_cons_self ..)
        · exact (ih later).imp_right (List.mem_cons_of_mem _)

theorem ascending_insertEntry (label pattern : String) {entries : List (String × String)}
    (ascending : (entries.map Prod.fst).Pairwise (· < ·)) :
    ((insertEntry label pattern entries).map Prod.fst).Pairwise (· < ·) := by
  induction entries with
  | nil => simp [insertEntry]
  | cons entry rest ih =>
    obtain ⟨first, p⟩ := entry
    have ⟨before, restAscending⟩ := List.pairwise_cons.mp ascending
    rw [insertEntry]
    split
    · next same =>
      rw [List.map_cons, same]
      exact ascending
    · next other =>
      split
      · next isBefore =>
        refine List.pairwise_cons.mpr ⟨fun l member => ?_, ascending⟩
        rcases List.mem_cons.mp member with rfl | later
        · exact isBefore
        · exact String.lt_trans isBefore (before l later)
      · next notBefore =>
        have isBehind : first < label := by grind
        refine List.pairwise_cons.mpr ⟨fun l member => ?_, ih restAscending⟩
        rcases mem_insertEntry member with rfl | later
        · exact isBehind
        · exact before l later

/-- Sets the pattern of a label, in place of an earlier one. -/
def insert (m : LabelMap) (label pattern : String) : LabelMap :=
  ⟨insertEntry label pattern m.entries, ascending_insertEntry label pattern m.ascending⟩

/-- Sets several patterns, one after the other. -/
def insertAll (m : LabelMap) (entries : List (String × String)) : LabelMap :=
  entries.foldl (fun m (label, pattern) => m.insert label pattern) m

def get? (m : LabelMap) (label : String) : Option String :=
  m.entries.lookup label

def labels (m : LabelMap) : List String :=
  m.entries.map Prod.fst

end LabelMap

end QueryLint
