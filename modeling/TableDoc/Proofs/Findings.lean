import TableDoc.Proofs.Refinement

/-!
# What is found in a column list

Going through a column list, each entry is a column, or it has indexes, or a word is said that it is
passed over. `Findings.add` takes one entry, with its wording, to what has been found before it.

* **one entry** adds one column, or at least one index, or one event, and nothing else
  (`Findings.add_cases`);
* **all entries** — what is found is the columns, the indexes and the events of all, each in the
  order of the entries, and these are as many as the entries (`Findings.foldl_add`,
  `length_eq_add`);
* **tables** — hence the specification of a table and what is told about it account for every entry
  once, whether the wordings count or not (`TableSchema.entries_accounted`).
-/

namespace TableDoc

open Sql

/-- What has been found so far in a column list. -/
structure Findings where
  columns : List ColumnSpec := []
  indexes : List IndexSpec := []
  /-- A word for each entry that is passed over. -/
  events : List Event := []

/-- Whether an event tells of an entry that is passed over. -/
def Event.passesOver : Event → Bool
  | ignoredEntry _ _ => true
  | _ => false

/-- The findings with one more entry of a table. A column is taken at once; of any other entry the
indexes are taken, and where there are none a word is said. -/
def Findings.add (d : Dialect) (table : String) (f : Findings) (p : Entry × Wording) : Findings :=
  match p.1.column? d p.2 with
  | some c => { f with columns := f.columns ++ [c] }
  | none =>
    let found := p.1.indexes d table p.2
    let told := if found.isEmpty then [Event.ignoredEntry p.1.className table] else []
    { f with indexes := f.indexes ++ found, events := f.events ++ told }

/-! ## One entry -/

namespace Sql.Entry

variable (d : Dialect) (table : String)

/-- An entry has indexes in any wording or in none. -/
theorem indexes_eq_nil_iff (e : Entry) (w : Wording) :
    e.indexes d table w = [] ↔ e.plainIndexes d table = [] := by
  have hmap := e.indexes_withoutKind d table w
  rw [← List.map_eq_nil_iff (f := IndexSpec.withoutKind), hmap, List.map_eq_nil_iff]

theorem column?_isSome_iff (e : Entry) (w : Wording) :
    (e.column? d w).isSome = e.definition?.isSome := by
  cases e <;> rfl

/-- A column has no indexes. -/
theorem indexes_of_definition {e : Entry} (h : e.definition?.isSome = true) (w : Wording) :
    e.indexes d table w = [] := by
  cases e with
  | column c => rfl
  | _ => cases h

/-- An entry is passed over where it is no column and has no indexes. -/
theorem isIgnored_eq (e : Entry) (w : Wording) :
    e.isIgnored d table = (e.definition?.isNone && (e.indexes d table w).isEmpty) := by
  have hempty : (e.indexes d table w).isEmpty = (e.plainIndexes d table).isEmpty := by
    rw [Bool.eq_iff_iff, List.isEmpty_iff, List.isEmpty_iff]
    exact e.indexes_eq_nil_iff d table w
  rw [hempty]
  cases e <;> rfl

end Sql.Entry

namespace Findings

variable {d : Dialect} {table : String}

/-- One entry adds one column, or at least one index, or one event. -/
theorem add_cases (d : Dialect) (table : String) (f : Findings) (p : Entry × Wording) :
    (∃ c, p.1.column? d p.2 = some c ∧ p.1.indexes d table p.2 = [] ∧
        p.1.isIgnored d table = false ∧
        f.add d table p = { f with columns := f.columns ++ [c] }) ∨
      (p.1.column? d p.2 = none ∧ p.1.indexes d table p.2 ≠ [] ∧
        p.1.isIgnored d table = false ∧
        f.add d table p = { f with indexes := f.indexes ++ p.1.indexes d table p.2 }) ∨
      (p.1.column? d p.2 = none ∧ p.1.indexes d table p.2 = [] ∧
        p.1.isIgnored d table = true ∧
        f.add d table p =
          { f with events := f.events ++ [.ignoredEntry p.1.className table] }) := by
  have hsome := p.1.column?_isSome_iff d p.2
  have hignored := p.1.isIgnored_eq d table p.2
  unfold add
  cases hcolumn : p.1.column? d p.2 with
  | some c =>
    rw [hcolumn] at hsome
    refine .inl ⟨c, rfl, p.1.indexes_of_definition d table hsome.symm p.2, ?_, rfl⟩
    rw [hignored, Option.isNone_eq_false_iff.mpr hsome.symm, Bool.false_and]
  | none =>
    rw [hcolumn] at hsome
    have hnone : p.1.definition?.isNone = true := by simpa using hsome.symm
    rw [hnone, Bool.true_and] at hignored
    by_cases hfound : p.1.indexes d table p.2 = []
    · rw [hfound] at hignored ⊢
      exact .inr (.inr ⟨rfl, rfl, hignored, by simp⟩)
    · have hne : (p.1.indexes d table p.2).isEmpty = false := by simpa using hfound
      rw [hne] at hignored
      exact .inr (.inl ⟨rfl, hfound, hignored, by simp [hne]⟩)

/-! ## All entries -/

/-- The entries that have indexes, each with its wording. -/
def indexed (d : Dialect) (table : String) (ps : List (Entry × Wording)) :
    List (Entry × Wording) :=
  ps.filter fun p => !(p.1.indexes d table p.2).isEmpty

/-- The entries that are passed over, each with its wording. -/
def ignored (d : Dialect) (table : String) (ps : List (Entry × Wording)) :
    List (Entry × Wording) :=
  ps.filter fun p => p.1.isIgnored d table

/-- What is found in some entries is found in each of them, in order. -/
theorem foldl_add (ps : List (Entry × Wording)) (f : Findings) :
    ps.foldl (add d table) f =
      ⟨f.columns ++ ps.filterMap (fun p => p.1.column? d p.2),
        f.indexes ++ (indexed d table ps).flatMap fun p => p.1.indexes d table p.2,
        f.events ++ (ignored d table ps).map fun p => .ignoredEntry p.1.className table⟩ := by
  induction ps generalizing f with
  | nil => simp [indexed, ignored]
  | cons p ps ih =>
    unfold indexed ignored at ih ⊢
    rw [List.foldl_cons, ih]
    rcases add_cases d table f p with ⟨c, hcolumn, hnil, hkept, hadd⟩ |
      ⟨hcolumn, hne, hkept, hadd⟩ |
      ⟨hcolumn, hnil, hignored, hadd⟩
    · rw [hadd]
      simp [hcolumn, hnil, hkept]
    · rw [hadd]
      simp [hcolumn, hne, hkept]
    · rw [hadd]
      simp [hcolumn, hnil, hignored]

/-- Every entry is a column, has indexes or is passed over, and no entry is two of these. -/
theorem length_eq_add (d : Dialect) (table : String) (ps : List (Entry × Wording)) :
    ps.length = (ps.filterMap fun p => p.1.column? d p.2).length + (indexed d table ps).length +
      (ignored d table ps).length := by
  induction ps with
  | nil => rfl
  | cons p ps ih =>
    unfold indexed ignored at ih ⊢
    rcases add_cases d table {} p with ⟨c, hcolumn, hnil, hkept, -⟩ |
      ⟨hcolumn, hne, hkept, -⟩ | ⟨hcolumn, hnil, hignored, -⟩
    · simp [hcolumn, hnil, hkept]
      omega
    · simp [hcolumn, hne, hkept]
      omega
    · simp [hcolumn, hnil, hignored]
      omega

end Findings

/-! ## Tables -/

namespace Sql.TableSchema

/-- The wordings that the entries of a table are paired with: those of its text where there are as
many, and otherwise none for any. -/
def wordings (s : TableSchema) (declared : List Wording) : List Wording :=
  if declared.length = s.entries.length then declared else List.replicate s.entries.length {}

theorem length_wordings (s : TableSchema) (declared : List Wording) :
    (s.wordings declared).length = s.entries.length := by
  unfold wordings
  split
  · assumption
  · exact List.length_replicate

theorem worded_eq_zip (s : TableSchema) (declared : List Wording) :
    s.worded declared = s.entries.zip (s.wordings declared) := by
  unfold worded agrees wordings
  by_cases hlength : declared.length = s.entries.length
  · rw [if_pos hlength, if_pos (by simpa using hlength)]
  · rw [if_neg hlength, if_neg (by simpa using hlength)]
    induction s.entries with
    | nil => rfl
    | cons e es ih =>
      rw [List.map_cons, ih, List.length_cons, List.replicate_succ, List.zip_cons_cons]

/-- The words for the entries that are passed over are told, after one on the number of entries
where the text has another. -/
theorem filter_passesOver_events (d : Dialect) (s : TableSchema) (declared : List Wording) :
    (s.events d declared).filter Event.passesOver =
      (Findings.ignored d s.name (s.worded declared)).map fun p =>
        .ignoredEntry p.1.className s.name := by
  have hcounts : (if s.agrees declared then []
      else [Event.entryCounts s.name declared.length s.entries.length]).filter
        Event.passesOver = [] := by
    split <;> rfl
  have htold : ∀ es : List Entry, (es.map fun e => Event.ignoredEntry e.className s.name).filter
      Event.passesOver = es.map fun e => Event.ignoredEntry e.className s.name := by
    intro es
    rw [List.filter_eq_self]
    intro e he
    obtain ⟨x, -, rfl⟩ := List.mem_map.mp he
    rfl
  unfold events Findings.ignored
  rw [List.filter_append, hcounts, List.nil_append, htold, ← map_fst_worded s declared,
    List.filter_map, List.map_map]
  rfl

/-- How a specification and what is told account for the entries of a table. -/
structure Accounted (d : Dialect) (s : TableSchema) (declared : List Wording) : Prop where
  /-- Every entry has one wording: its own where the text has as many entries, else an empty one. -/
  paired : (s.entries.zip (s.wordings declared)).map Prod.fst = s.entries ∧
    (s.entries.zip (s.wordings declared)).map Prod.snd = s.wordings declared
  /-- Going through the entries one after another finds the specification, and tells of the entries
  that are passed over. -/
  found : (s.entries.zip (s.wordings declared)).foldl (Findings.add d s.name) {} =
    ⟨(s.toSpec d declared).columns, (s.toSpec d declared).indexes,
      (s.events d declared).filter Event.passesOver⟩
  /-- The columns are the column definitions in order, each in its wording. -/
  columns : (s.toSpec d declared).columns =
      (s.wordedDefinitions declared).map (fun q => q.1.toSpec d q.2) ∧
    (s.wordedDefinitions declared).map Prod.fst = s.definitions
  /-- The indexes are those of the other entries in order. -/
  indexes : (s.toSpec d declared).indexes =
    ((s.entries.zip (s.wordings declared)).filter fun p => p.1.definition?.isNone).flatMap
      fun p => p.1.indexes d s.name p.2
  /-- One word is said for each other entry without indexes, in order. -/
  events : (s.events d declared).filter Event.passesOver =
    ((s.entries.zip (s.wordings declared)).filter fun p =>
      p.1.definition?.isNone && (p.1.indexes d s.name p.2).isEmpty).map
        fun p => .ignoredEntry p.1.className s.name
  /-- So the entries are as many as the columns, the entries with indexes and the words. -/
  counted : s.entries.length = (s.toSpec d declared).columns.length +
    ((s.entries.zip (s.wordings declared)).filter
      fun p => !(p.1.indexes d s.name p.2).isEmpty).length +
    ((s.events d declared).filter Event.passesOver).length

theorem toSpec_columns_eq (d : Dialect) (s : TableSchema) (declared : List Wording) :
    (s.toSpec d declared).columns = (s.worded declared).filterMap fun p => p.1.column? d p.2 := rfl

/-- Entries without indexes add none, so those that have some have them all. -/
theorem toSpec_indexes_eq (d : Dialect) (s : TableSchema) (declared : List Wording) :
    (s.toSpec d declared).indexes =
      (Findings.indexed d s.name (s.worded declared)).flatMap
        fun p => p.1.indexes d s.name p.2 := by
  show (s.worded declared).flatMap _ = _
  unfold Findings.indexed
  induction s.worded declared with
  | nil => rfl
  | cons p ps ih =>
    rw [List.flatMap_cons, ih, List.filter_cons]
    by_cases hnil : p.1.indexes d s.name p.2 = [] <;> simp [hnil]

/-- Every entry of a column list is accounted for once, with the wordings of any text. -/
theorem entries_accounted (d : Dialect) (s : TableSchema) (declared : List Wording) :
    s.Accounted d declared := by
  have hlength := s.length_wordings declared
  have hzip := s.worded_eq_zip declared
  have hevents := s.filter_passesOver_events d declared
  constructor
  case paired =>
    exact ⟨List.map_fst_zip (by omega), List.map_snd_zip (by omega)⟩
  case found =>
    rw [← hzip, Findings.foldl_add, toSpec_columns_eq, toSpec_indexes_eq, hevents]
    rfl
  case columns => exact ⟨columns_eq d s declared, map_fst_wordedDefinitions s declared⟩
  case indexes =>
    rw [← hzip]
    show (s.worded declared).flatMap _ = _
    induction s.worded declared with
    | nil => rfl
    | cons p ps ih =>
      rw [List.flatMap_cons, ih, List.filter_cons]
      -- a column has no indexes to be left out
      by_cases hdefinition : p.1.definition? = none
      · simp [hdefinition]
      · have hsome := Option.isSome_iff_ne_none.mpr hdefinition
        simp [p.1.indexes_of_definition d s.name hsome, hdefinition]
  case events =>
    rw [hevents, ← hzip, Findings.ignored]
    simp only [← Entry.isIgnored_eq]
  case counted =>
    have hcount := Findings.length_eq_add d s.name (s.worded declared)
    rw [hevents, List.length_map, ← hzip, toSpec_columns_eq]
    rw [← congrArg List.length (map_fst_worded s declared), List.length_map]
    exact hcount

end Sql.TableSchema

end TableDoc
