import Mathlib.Data.List.Forall2
import Mathlib.Data.List.TakeWhile
import QueryLint.Settings.Flag

/-! Flags for denied labels, said without the splitting of texts.

A flag gives a pattern to a label. Of several flags for one label the last counts, and a label that no flag
names keeps the pattern it had.
-/

set_option autoImplicit false

namespace QueryLint

/-! Maps. -/

namespace LabelMap

theorem lookup_cons_eq (label : String) (entry : String × String) (entries : List (String × String)) :
    (entry :: entries).lookup label = if label = entry.1 then some entry.2 else entries.lookup label := by
  rcases entry with ⟨first, pattern⟩
  by_cases same : label = first
  · simp [same]
  · have differs : (label == first) = false := by simpa using same
    rw [List.lookup_cons, differs, if_neg same]

theorem lookup_insertEntry (label pattern other : String) (entries : List (String × String)) :
    (insertEntry label pattern entries).lookup other =
      if other = label then some pattern else entries.lookup other := by
  induction entries with
  | nil => exact lookup_cons_eq other (label, pattern) []
  | cons entry entries ih =>
    rw [insertEntry]
    split
    · next replaced =>
      rw [lookup_cons_eq, lookup_cons_eq, ← replaced]
      split <;> rfl
    · next differs =>
      split
      · rw [lookup_cons_eq]
      · rw [lookup_cons_eq, ih, lookup_cons_eq]
        by_cases found : other = entry.1
        · rw [if_pos found, if_pos found, if_neg (by rw [found]; exact Ne.symm differs)]
        · rw [if_neg found, if_neg found]

theorem get?_insert (m : LabelMap) (label pattern other : String) :
    (m.insert label pattern).get? other = if other = label then some pattern else m.get? other :=
  lookup_insertEntry label pattern other m.entries

theorem mem_labels_insert {m : LabelMap} {label pattern other : String} :
    other ∈ (m.insert label pattern).labels ↔ other = label ∨ other ∈ m.labels := by
  change other ∈ (insertEntry label pattern m.entries).map Prod.fst ↔ _ ∨ other ∈ m.entries.map Prod.fst
  induction m.entries with
  | nil => simp [insertEntry]
  | cons entry entries ih =>
    rw [insertEntry]
    split
    · next replaced => simp [replaced]
    · split
      · simp
      · rw [List.map_cons, List.mem_cons, ih, List.map_cons, List.mem_cons, or_left_comm]

theorem insertAll_append (m : LabelMap) (first second : List (String × String)) :
    m.insertAll (first ++ second) = (m.insertAll first).insertAll second :=
  List.foldl_append

theorem mem_labels_insertAll {m : LabelMap} {entries : List (String × String)} {label : String} :
    label ∈ (m.insertAll entries).labels ↔ label ∈ entries.map Prod.fst ∨ label ∈ m.labels := by
  induction entries generalizing m with
  | nil => simp [insertAll]
  | cons entry entries ih =>
    change label ∈ ((m.insert entry.1 entry.2).insertAll entries).labels ↔ _
    rw [ih, mem_labels_insert, List.map_cons, List.mem_cons, or_left_comm, or_assoc]

end LabelMap

namespace DeniedLabels

/-! One flag. -/

/-- The text without the blanks at its ends. -/
structure Trimmed (text label : List Char) : Prop where
  split : ∃ front back, text = front ++ (label ++ back) ∧ (∀ c ∈ front, Unicode.isBlank c = true) ∧
    ∀ c ∈ back, Unicode.isBlank c = true
  first : ∀ c ∈ label.head?, Unicode.isBlank c = false
  last : ∀ c ∈ label.getLast?, Unicode.isBlank c = false

theorem head?_dropWhile_isBlank (cs : List Char) :
    ∀ c ∈ (cs.dropWhile Unicode.isBlank).head?, Unicode.isBlank c = false := by
  intro c found
  have stopped := List.head?_dropWhile_not Unicode.isBlank cs
  rw [Option.mem_def.mp found] at stopped
  simpa using stopped

theorem trimmed_trim (text : List Char) : Trimmed text (trim text) := by
  let tail := text.dropWhile Unicode.isBlank
  -- The back is cut from the reversed tail, so it is put back reversed.
  have isTail : tail = trim text ++ (tail.reverse.takeWhile Unicode.isBlank).reverse := by
    have cut := List.takeWhile_append_dropWhile (p := Unicode.isBlank) (l := tail.reverse)
    have turned := congrArg List.reverse cut
    rw [List.reverse_append, List.reverse_reverse] at turned
    exact turned.symm
  refine ⟨⟨text.takeWhile Unicode.isBlank, (tail.reverse.takeWhile Unicode.isBlank).reverse, ?_, ?_, ?_⟩, ?_, ?_⟩
  · rw [← isTail, List.takeWhile_append_dropWhile]
  · exact List.all_eq_true.mp List.all_takeWhile
  · intro c member
    exact List.all_eq_true.mp List.all_takeWhile c (List.mem_reverse.mp member)
  · intro c found
    have inTail : tail.head? = some c := by
      rw [isTail, List.head?_append, Option.mem_def.mp found]
      rfl
    exact head?_dropWhile_isBlank text c inTail
  · intro c found
    rw [trim, List.getLast?_reverse] at found
    exact head?_dropWhile_isBlank _ c found

theorem dropWhile_blanks {front rest : List Char} (blank : ∀ c ∈ front, Unicode.isBlank c = true)
    (stops : ∀ c ∈ rest.head?, Unicode.isBlank c = false) :
    (front ++ rest).dropWhile Unicode.isBlank = rest := by
  rw [List.dropWhile_append_of_pos blank]
  cases rest with
  | nil => rfl
  | cons c rest => rw [List.dropWhile_cons_of_neg (by simp [stops c rfl])]

theorem Trimmed.eq_trim {text label : List Char} (trimmed : Trimmed text label) : label = trim text := by
  obtain ⟨⟨front, back, rfl, blankFront, blankBack⟩, first, last⟩ := trimmed
  cases label with
  | nil =>
    have blank : ∀ c ∈ front ++ back, Unicode.isBlank c = true := by
      intro c member
      exact (List.mem_append.mp member).elim (blankFront c) (blankBack c)
    have dropped : (front ++ back ++ []).dropWhile Unicode.isBlank = [] :=
      dropWhile_blanks blank (by simp)
    rw [List.append_nil] at dropped
    rw [trim, List.nil_append, dropped]
    rfl
  | cons c label =>
    have dropped : (front ++ (c :: label ++ back)).dropWhile Unicode.isBlank = c :: label ++ back :=
      dropWhile_blanks blankFront first
    have droppedBack : (back.reverse ++ (c :: label).reverse).dropWhile Unicode.isBlank =
        (c :: label).reverse :=
      dropWhile_blanks (by simpa using blankBack) (by rwa [List.head?_reverse])
    rw [trim, dropped, List.reverse_append, droppedBack, List.reverse_reverse]

/-- A flag is a name, an equals sign and a pattern. The first equals sign is meant; blanks around the name
do not count, and the label is what is left of it, which is something. -/
def Gives (flag label pattern : String) : Prop :=
  ∃ name, flag.toList = name ++ '=' :: pattern.toList ∧ '=' ∉ name ∧ Trimmed name label.toList ∧ label ≠ ""

/-- A flag with no equals sign, or with nothing but blanks before the first. -/
def Malformed (flag : String) : Prop :=
  '=' ∉ flag.toList ∨
    ∃ name pattern, flag.toList = name ++ '=' :: pattern ∧ '=' ∉ name ∧ ∀ c ∈ name, Unicode.isBlank c = true

theorem trim_eq_nil_iff {name : List Char} : trim name = [] ↔ ∀ c ∈ name, Unicode.isBlank c = true := by
  constructor
  · intro nothing
    obtain ⟨⟨front, back, split, blankFront, blankBack⟩, -, -⟩ := trimmed_trim name
    rw [nothing, List.nil_append] at split
    rw [split]
    exact List.forall_mem_append.mpr ⟨blankFront, blankBack⟩
  · intro blank
    exact (Trimmed.eq_trim ⟨⟨name, [], by simp, blank, by simp⟩, by simp, by simp⟩).symm

theorem noSign {name : List Char} (inName : '=' ∉ name) : ∀ c ∈ name, decide (c ≠ '=') = true :=
  fun c member => by simpa using fun same : c = '=' => inName (same ▸ member)

theorem takeWhile_name {name : List Char} (inName : '=' ∉ name) (pattern : List Char) :
    (name ++ '=' :: pattern).takeWhile (· ≠ '=') = name := by
  rw [List.takeWhile_append_of_pos (noSign inName)]
  simp

theorem exists_split {flag : String} (found : '=' ∈ flag.toList) :
    ∃ name pattern, flag.toList = name ++ '=' :: pattern ∧ '=' ∉ name := by
  obtain ⟨name, pattern, split, inName⟩ := List.eq_append_cons_of_mem found
  exact ⟨name, pattern, split, inName⟩

/-- A flag without an equals sign is refused, any other is cut at the first. -/
theorem readFlag_of_notMem {flag : String} (none : '=' ∉ flag.toList) :
    readFlag flag = .error (.invalid (.malformedRule flag)) := by
  have nothing : flag.toList.dropWhile (· ≠ '=') = [] := List.dropWhile_eq_nil_iff.mpr (noSign none)
  rw [readFlag, nothing]

theorem readFlag_of_split {flag : String} {name pattern : List Char}
    (split : flag.toList = name ++ '=' :: pattern) (inName : '=' ∉ name) :
    readFlag flag = if trim name = [] then .error (.invalid (.malformedRule flag))
      else .ok (String.ofList (trim name), String.ofList pattern) := by
  have back : (name ++ '=' :: pattern).dropWhile (· ≠ '=') = '=' :: pattern := by
    rw [List.dropWhile_append_of_pos (noSign inName)]
    rfl
  rw [readFlag, split, takeWhile_name inName, back]
  simp [List.isEmpty_iff]

theorem readFlag_eq_ok_iff {flag label pattern : String} :
    readFlag flag = .ok (label, pattern) ↔ Gives flag label pattern := by
  constructor
  · intro read
    by_cases found : '=' ∈ flag.toList
    · obtain ⟨name, rest, split, inName⟩ := exists_split found
      rw [readFlag_of_split split inName] at read
      split at read
      · cases read
      · next filled =>
        cases read
        refine ⟨name, by rwa [String.toList_ofList], inName, ?_, ?_⟩
        · rw [String.toList_ofList]
          exact trimmed_trim name
        · rwa [Ne, String.ofList_eq_empty_iff]
    · rw [readFlag_of_notMem found] at read
      cases read
  · rintro ⟨name, split, inName, trimmed, filled⟩
    have some : trim name ≠ [] := by
      rw [← trimmed.eq_trim]
      simpa using filled
    rw [readFlag_of_split split inName, if_neg some, ← trimmed.eq_trim, String.ofList_toList,
      String.ofList_toList]

theorem readFlag_eq_error_iff {flag : String} {e : SettingsError} :
    readFlag flag = .error e ↔ Malformed flag ∧ e = .invalid (.malformedRule flag) := by
  by_cases found : '=' ∈ flag.toList
  · obtain ⟨name, rest, split, inName⟩ := exists_split found
    have isMalformed : Malformed flag ↔ trim name = [] := by
      rw [trim_eq_nil_iff]
      constructor
      · -- The name is the same in every split, since it has no equals sign.
        rintro (none | ⟨other, pattern, again, inOther, blank⟩)
        · exact absurd found none
        · rw [split] at again
          have same := congrArg (List.takeWhile (· ≠ '=')) again
          rw [takeWhile_name inName, takeWhile_name inOther] at same
          exact same ▸ blank
      · exact fun blank => .inr ⟨name, rest, split, inName, blank⟩
    rw [readFlag_of_split split inName, isMalformed]
    by_cases blank : trim name = []
    · rw [if_pos blank, Except.error.injEq]
      exact ⟨fun same => ⟨blank, same.symm⟩, fun same => same.2.symm⟩
    · rw [if_neg blank]
      exact ⟨fun same => (by cases same), fun same => absurd same.1 blank⟩
  · rw [readFlag_of_notMem found, Except.error.injEq]
    exact ⟨fun same => ⟨.inl found, same.symm⟩, fun same => same.2.symm⟩

/-! Several flags. -/

/-- The flags and what they give, one by one. -/
abbrev GiveAll : List String → List (String × String) → Prop :=
  List.Forall₂ fun flag entry => Gives flag entry.1 entry.2

theorem readFlags_cons (flag : String) (flags : List String) (all : List (String × String)) :
    readFlags (flag :: flags) = .ok all ↔
      ∃ entry entries, readFlag flag = .ok entry ∧ readFlags flags = .ok entries ∧ all = entry :: entries := by
  rw [readFlags]
  cases readFlag flag with
  | error e => exact ⟨fun read => (by cases read), fun ⟨_, _, read, _⟩ => (by cases read)⟩
  | ok entry =>
    cases readFlags flags with
    | error e => exact ⟨fun read => (by cases read), fun ⟨_, _, _, read, _⟩ => (by cases read)⟩
    | ok entries =>
      constructor
      · rintro ⟨⟩
        exact ⟨entry, entries, rfl, rfl, rfl⟩
      · rintro ⟨_, _, ⟨⟩, ⟨⟩, rfl⟩
        rfl

theorem readFlags_eq_ok_iff {flags : List String} {entries : List (String × String)} :
    readFlags flags = .ok entries ↔ GiveAll flags entries := by
  induction flags generalizing entries with
  | nil =>
    rw [GiveAll, List.forall₂_nil_left_iff, readFlags, Except.ok.injEq]
    exact eq_comm
  | cons flag flags ih =>
    rw [readFlags_cons, GiveAll, List.forall₂_cons_left_iff]
    exact exists₂_congr fun _ _ => and_congr readFlag_eq_ok_iff (and_congr_left' ih)

theorem GiveAll.label_ne_empty {flags : List String} {entries : List (String × String)}
    (giveAll : GiveAll flags entries) {entry : String × String} (member : entry ∈ entries) : entry.1 ≠ "" := by
  induction giveAll with
  | nil => cases member
  | cons gives _ ih =>
    obtain ⟨-, -, -, -, filled⟩ := gives
    exact (List.mem_cons.mp member).elim (fun same => same ▸ filled) ih

theorem readFlags_append {first second : List String} {entries more : List (String × String)}
    (readFirst : readFlags first = .ok entries) (readSecond : readFlags second = .ok more) :
    readFlags (first ++ second) = .ok (entries ++ more) :=
  readFlags_eq_ok_iff.mpr
    (List.rel_append (readFlags_eq_ok_iff.mp readFirst) (readFlags_eq_ok_iff.mp readSecond))

theorem exists_readFlags_iff {flags : List String} :
    (∃ entries, readFlags flags = .ok entries) ↔ ∀ flag ∈ flags, ∃ entry, readFlag flag = .ok entry := by
  induction flags with
  | nil => simp [readFlags]
  | cons flag flags ih =>
    rw [List.forall_mem_cons, ← ih]
    simp only [readFlags_cons]
    constructor
    · rintro ⟨_, entry, entries, first, rest, -⟩
      exact ⟨⟨entry, first⟩, entries, rest⟩
    · rintro ⟨⟨entry, first⟩, entries, rest⟩
      exact ⟨_, entry, entries, first, rest, rfl⟩

/-- Flags cannot be read if one of them is malformed, and only then. -/
theorem exists_ofFlags_error_iff {flags : List String} :
    (∃ e, ofFlags flags = .error e) ↔ ∃ flag ∈ flags, Malformed flag := by
  have wellFormed : (∃ entries, readFlags flags = .ok entries) ↔ ∀ flag ∈ flags, ¬Malformed flag := by
    rw [exists_readFlags_iff]
    refine forall₂_congr fun flag _ => ?_
    have refused := @readFlag_eq_error_iff flag
    cases read : readFlag flag with
    | ok entry =>
      refine iff_of_true ⟨entry, rfl⟩ fun malformed => ?_
      cases read.symm.trans (refused.mpr ⟨malformed, rfl⟩)
    | error e => exact iff_of_false (fun ⟨_, taken⟩ => nomatch taken) fun fine => fine (refused.mp read).1
  rw [ofFlags]
  cases read : readFlags flags with
  | error e =>
    have someMalformed : ∃ flag ∈ flags, Malformed flag := by
      by_contra none
      obtain ⟨entries, readable⟩ := wellFormed.mpr fun flag member malformed => none ⟨flag, member, malformed⟩
      cases read.symm.trans readable
    exact iff_of_true ⟨e, rfl⟩ someMalformed
  | ok entries =>
    refine iff_of_false (fun ⟨_, failed⟩ => nomatch failed) ?_
    rintro ⟨flag, member, malformed⟩
    exact wellFormed.mp ⟨entries, read⟩ flag member malformed

def Unnamed (flags : List String) (label : String) : Prop :=
  ∀ flag ∈ flags, ∀ pattern, ¬Gives flag label pattern

/-- The last of the flags for a label gives it the pattern. -/
def LastGives (flags : List String) (label pattern : String) : Prop :=
  ∃ before flag after, flags = before ++ flag :: after ∧ Gives flag label pattern ∧ Unnamed after label

theorem unnamed_cons {flag : String} {flags : List String} {label : String} :
    Unnamed (flag :: flags) label ↔ (∀ pattern, ¬Gives flag label pattern) ∧ Unnamed flags label :=
  List.forall_mem_cons

theorem lastGives_cons {flag : String} {flags : List String} {label pattern : String} :
    LastGives (flag :: flags) label pattern ↔
      LastGives flags label pattern ∨ Unnamed flags label ∧ Gives flag label pattern := by
  constructor
  · rintro ⟨before, last, after, split, gives, unnamed⟩
    cases before with
    | nil =>
      cases split
      exact .inr ⟨unnamed, gives⟩
    | cons first before =>
      cases split
      exact .inl ⟨before, last, after, rfl, gives, unnamed⟩
  · rintro (⟨before, last, after, rfl, gives, unnamed⟩ | ⟨unnamed, gives⟩)
    · exact ⟨flag :: before, last, after, rfl, gives, unnamed⟩
    · exact ⟨[], flag, flags, rfl, gives, unnamed⟩

theorem Gives.label_unique {flag label other pattern otherPattern : String}
    (gives : Gives flag label pattern) (givesOther : Gives flag other otherPattern) :
    label = other ∧ pattern = otherPattern := by
  have same := (readFlag_eq_ok_iff.mpr gives).symm.trans (readFlag_eq_ok_iff.mpr givesOther)
  simpa using same

/-- The pattern of a label is the one that the last flag for it gives, or the one from before. -/
theorem get?_insertAll_iff {flags : List String} {entries : List (String × String)} (m : LabelMap)
    (giveAll : GiveAll flags entries) (label pattern : String) :
    (m.insertAll entries).get? label = some pattern ↔
      LastGives flags label pattern ∨ Unnamed flags label ∧ m.get? label = some pattern := by
  -- The first flag goes into the map before the others, so any map has to be allowed for.
  induction giveAll generalizing m with
  | nil =>
    have silent : Unnamed [] label := fun _ member => absurd member (List.not_mem_nil)
    have noLast : ¬LastGives [] label pattern := fun ⟨before, _, _, split, _⟩ => by cases before <;> cases split
    simp [LabelMap.insertAll, silent, noLast]
  | @cons flag entry flags entries gives _ ih =>
    change ((m.insert entry.1 entry.2).insertAll entries).get? label = some pattern ↔ _
    rw [ih, LabelMap.get?_insert, lastGives_cons, unnamed_cons, or_assoc]
    refine or_congr_right ?_
    by_cases named : label = entry.1
    · subst named
      have notSilent : ¬∀ pattern, ¬Gives flag entry.1 pattern := fun silent => silent _ gives
      have isPattern : Gives flag entry.1 pattern ↔ entry.2 = pattern :=
        ⟨fun other => (gives.label_unique other).2, fun same => same ▸ gives⟩
      simp [notSilent, isPattern]
    · have silent : ∀ pattern, ¬Gives flag label pattern := fun _ other =>
        named (other.label_unique gives).1
      simp [named, silent]

end DeniedLabels

end QueryLint
