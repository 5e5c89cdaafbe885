import TableDoc.Proofs.Refinement

/-!
# Names of indexes

Where the names of a table's indexes come from, and when no two indexes have the same one.

* **sources** — an index is named by the statement, by the rule for primary keys, or by the rule for
  indexes without a name (`Naming`), and a wording changes nothing of this
  (`TableSchema.indexNames_eq`);
* **rules** — the names that a dialect makes up are alike for the same first column or the same
  columns joined (`Dialect.unnamedIndexName_inj`), and where the columns are part of the name no
  primary key has it (`Dialect.primaryKeyName_eq_unnamed_iff`);
* **distinct names** — names repeat within one source or between two, and nothing else makes them
  repeat (`TableSchema.index_names_distinct_iff`). The rules do not look at the other indexes, so
  they do make them repeat (`index_names_repeated`).
-/

namespace TableDoc

open Sql

/-- Where the name of an index comes from. -/
inductive Naming where
  /-- The statement, by the name of the index or of its constraint. -/
  | given (name : String)
  /-- The rule for primary keys. -/
  | primary
  /-- The rule for indexes without a name, from the columns. -/
  | derived (columns : List String)
deriving DecidableEq, Repr

namespace Naming

/-- The name that an index of a table has. -/
def name (d : Dialect) (table : String) : Naming → String
  | given n => n
  | primary => d.primaryKeyName table none
  | derived columns => d.unnamedIndexName table columns

/-- An index with a name of its own, unless that is empty, or with the name of its constraint. -/
def ofNames (own constraint : Option String) (columns : List String) : Naming :=
  match own.filter (!·.isEmpty), constraint with
  | some n, _ => given n
  | none, some n => given n
  | none, none => derived columns

theorem name_ofNames (d : Dialect) (table : String) (own constraint : Option String)
    (columns : List String) :
    (ofNames own constraint columns).name d table = indexName d table own constraint columns := by
  unfold ofNames indexName
  cases own.filter (!·.isEmpty) with
  | some n => rfl
  | none => cases constraint <;> rfl

/-! ## Groups of namings -/

/-- The names that the statement gives. -/
def givens (ns : List Naming) : List String :=
  ns.filterMap fun
    | given n => some n
    | _ => none

/-- The column lists of the indexes that are named by the rule for those without a name. -/
def columnLists (ns : List Naming) : List (List String) :=
  ns.filterMap fun
    | derived columns => some columns
    | _ => none

/-- The names of indexes are those given, those of primary keys and those made up of columns. -/
theorem map_name_perm (d : Dialect) (table : String) (ns : List Naming) :
    (ns.map (name d table)).Perm
      (givens ns ++ (List.replicate (ns.count .primary) (d.primaryKeyName table none) ++
        (columnLists ns).map (d.unnamedIndexName table))) := by
  induction ns with
  | nil => exact .nil
  | cons n ns ih =>
    rw [List.map_cons]
    cases n with
    | given n =>
      rw [List.count_cons_of_ne (by simp)]
      exact ih.cons n
    | primary =>
      rw [List.count_cons_self, List.replicate_succ, List.cons_append]
      exact (ih.cons _).trans List.perm_middle.symm
    | derived columns =>
      rw [List.count_cons_of_ne (by simp)]
      refine (ih.cons _).trans ?_
      simp only [← List.append_assoc]
      exact List.perm_middle.symm

end Naming

/-! ## Rules -/

namespace Dialect

/-- What the name of an index without one takes from the columns: the first column, or all of them,
each behind a line. -/
def namedAfter (d : Dialect) (columns : List String) : String :=
  match d with
  | .mysql => columns.headD ""
  | .postgres => String.join (columns.map ("_" ++ ·))

theorem intercalate_line (table : String) (columns : List String) :
    String.intercalate "_" (table :: columns) =
      table ++ String.join (columns.map ("_" ++ ·)) := by
  induction columns generalizing table with
  | nil => simp
  | cons c cs ih =>
    rw [String.intercalate_cons_cons, ih, List.map_cons, String.join_cons]
    simp only [String.append_assoc]

theorem unnamedIndexName_postgres (table : String) (columns : List String) :
    Dialect.postgres.unnamedIndexName table columns =
      table ++ (Dialect.postgres.namedAfter columns ++ "_key") := by
  show String.intercalate "_" (table :: (columns ++ ["key"])) = _
  rw [intercalate_line, List.map_append, String.join_append]
  rfl

/-- Two indexes without a name have the same one where it takes the same from their columns. -/
theorem unnamedIndexName_inj (d : Dialect) (table : String) (columns columns' : List String) :
    d.unnamedIndexName table columns = d.unnamedIndexName table columns' ↔
      d.namedAfter columns = d.namedAfter columns' := by
  cases d with
  | mysql => rfl
  | postgres =>
    rw [unnamedIndexName_postgres, unnamedIndexName_postgres, String.append_right_inj,
      String.append_left_inj]

/-- A primary key has the name of an index without one only where that is the name of a column. -/
theorem primaryKeyName_eq_unnamed_iff (d : Dialect) (table : String) (columns : List String) :
    d.primaryKeyName table none = d.unnamedIndexName table columns ↔
      d = .mysql ∧ columns.headD "" = "PRIMARY" := by
  cases d with
  | mysql =>
    show "PRIMARY" = columns.headD "" ↔ _
    simp [eq_comm]
  | postgres =>
    rw [unnamedIndexName_postgres]
    show table ++ "_pkey" = _ ↔ _
    rw [String.append_right_inj]
    simp only [reduceCtorEq, false_and, iff_false]
    intro h
    -- the last four characters of both
    have hchars : ['_'] ++ ['p', 'k', 'e', 'y'] =
        (Dialect.postgres.namedAfter columns).toList ++ ['_', 'k', 'e', 'y'] := by
      simpa using congrArg String.toList h
    exact absurd (List.append_inj_right' hchars rfl) (by decide)

end Dialect

/-! ## Distinct names -/

/-- No two of the namings of a table's indexes make the same name. -/
structure DistinctNamings (d : Dialect) (table : String) (ns : List Naming) : Prop where
  /-- No name is given twice. -/
  given : (Naming.givens ns).Nodup
  /-- There is one primary key at most that is named by the rule. -/
  primary : ns.count .primary ≤ 1
  /-- No two indexes without a name are named after the same. -/
  derived : ((Naming.columnLists ns).map d.namedAfter).Nodup
  /-- The name of the primary key is not given to another index. -/
  givenPrimary : Naming.primary ∈ ns → d.primaryKeyName table none ∉ Naming.givens ns
  /-- The name of an index without one is not given to another index. -/
  givenDerived : ∀ columns ∈ Naming.columnLists ns,
    d.unnamedIndexName table columns ∉ Naming.givens ns
  /-- No index without a name has that of the primary key for its first column. -/
  primaryDerived : d = .mysql → Naming.primary ∈ ns →
    ∀ columns ∈ Naming.columnLists ns, columns.headD "" ≠ "PRIMARY"

namespace Naming

/-- Names are distinct in every group, and no two groups share one. -/
theorem nodup_iff (d : Dialect) (table : String) (ns : List Naming) :
    (ns.map (name d table)).Nodup ↔ DistinctNamings d table ns := by
  have hprimary : ∀ x, x ∈ List.replicate (ns.count .primary) (d.primaryKeyName table none) ↔
      .primary ∈ ns ∧ x = d.primaryKeyName table none := by
    intro x
    rw [List.mem_replicate, Nat.ne_zero_iff_zero_lt, List.count_pos_iff]
  have hderived : ((columnLists ns).map (d.unnamedIndexName table)).Nodup ↔
      ((columnLists ns).map d.namedAfter).Nodup := by
    simp only [List.nodup_iff_pairwise_ne, List.pairwise_map, ne_eq, d.unnamedIndexName_inj]
  rw [(map_name_perm d table ns).nodup_iff, List.nodup_append, List.nodup_append,
    List.nodup_replicate, hderived]
  constructor
  · rintro ⟨hgiven, ⟨hone, hlists, hmixed⟩, hapart⟩
    constructor
    case given => exact hgiven
    case primary => exact hone
    case derived => exact hlists
    case givenPrimary =>
      intro hmem hname
      exact hapart _ hname _ (List.mem_append_left _ ((hprimary _).mpr ⟨hmem, rfl⟩)) rfl
    case givenDerived =>
      intro columns hcolumns hname
      exact hapart _ hname _ (List.mem_append_right _ (List.mem_map_of_mem hcolumns)) rfl
    case primaryDerived =>
      intro hd hmem columns hcolumns hfirst
      refine hmixed _ ((hprimary _).mpr ⟨hmem, rfl⟩) _ (List.mem_map_of_mem hcolumns) ?_
      exact (d.primaryKeyName_eq_unnamed_iff table columns).mpr ⟨hd, hfirst⟩
  · intro h
    refine ⟨h.given, ⟨h.primary, h.derived, ?_⟩, ?_⟩
    · intro x hx y hy hxy
      obtain ⟨hmem, rfl⟩ := (hprimary x).mp hx
      obtain ⟨columns, hcolumns, rfl⟩ := List.mem_map.mp hy
      obtain ⟨hd, hfirst⟩ := (d.primaryKeyName_eq_unnamed_iff table columns).mp hxy
      exact h.primaryDerived hd hmem columns hcolumns hfirst
    · intro x hx y hy hxy
      subst hxy
      rcases List.mem_append.mp hy with hy | hy
      · obtain ⟨hmem, rfl⟩ := (hprimary x).mp hy
        exact h.givenPrimary hmem hx
      · obtain ⟨columns, hcolumns, rfl⟩ := List.mem_map.mp hy
        exact h.givenDerived columns hcolumns hx

end Naming

/-! ## Tables -/

namespace Sql

/-- How the index that a clause declares is named, given the name of its constraint. One dialect
has a name of its own for every primary key. -/
def Clause.naming? (d : Dialect) (constraint : Option String) : Clause → Option Naming
  | .primaryKey _ => some (match d, constraint.filter (!·.isEmpty) with
    | .postgres, some n => .given n
    | _, _ => .primary)
  | .uniqueKey n members | .index _ n members =>
    some (.ofNames (n.map Term.label) constraint (members.map (Term.memberName d)))
  | _ => none

/-- How the indexes that an entry declares are named. -/
def Entry.namings (d : Dialect) : Entry → List Naming
  | .clause c => (c.naming? d none).toList
  | .constraint n cs => cs.filterMap (Clause.naming? d (if n.isEmpty then none else some n))
  | _ => []

/-- How the indexes of a table are named. -/
def TableSchema.namings (d : Dialect) (s : TableSchema) : List Naming :=
  s.entries.flatMap (Entry.namings d)

theorem Clause.index?_name (d : Dialect) (table : String) (constraint : Option String)
    (c : Clause) :
    (c.index? d table constraint).map IndexSpec.name =
      (c.naming? d constraint).map (Naming.name d table) := by
  cases c with
  | primaryKey members =>
    refine congrArg some ?_
    cases d with
    | mysql => rfl
    | postgres =>
      cases constraint with
      | none => rfl
      | some n =>
        show (if n.isEmpty then table ++ "_pkey" else n) = _
        by_cases hempty : n.isEmpty = true
        · simp only [hempty, Option.filter_some, Bool.not_true]
          rfl
        · simp only [hempty, Option.filter_some, Bool.not_false]
          rfl
  | uniqueKey n members => exact congrArg some (Naming.name_ofNames d table _ _ _).symm
  | index kind n members => exact congrArg some (Naming.name_ofNames d table _ _ _).symm
  | _ => rfl

theorem Entry.plainIndexes_name (d : Dialect) (table : String) (e : Entry) :
    (e.plainIndexes d table).map IndexSpec.name = (e.namings d).map (Naming.name d table) := by
  cases e with
  | clause c =>
    show (c.index? d table none).toList.map _ = (c.naming? d none).toList.map _
    rw [← Option.toList_map, ← Option.toList_map, c.index?_name]
  | constraint n cs =>
    show (cs.filterMap _).map _ = (cs.filterMap _).map _
    rw [List.map_filterMap, List.map_filterMap]
    simp only [Clause.index?_name]
  | _ => rfl

namespace TableSchema

/-- The names of the indexes come from their sources, in the wording of any text. -/
theorem indexNames_eq (d : Dialect) (s : TableSchema) (declared : List Wording) :
    (s.toSpec d declared).indexes.map IndexSpec.name =
      (s.namings d).map (Naming.name d s.name) := by
  have hworded : ∀ p ∈ s.worded declared, (p.1.indexes d s.name p.2).map IndexSpec.name =
      (p.1.plainIndexes d s.name).map IndexSpec.name := by
    intro p _
    have hnamed := congrArg (List.map IndexSpec.name) (p.1.indexes_withoutKind d s.name p.2)
    rw [List.map_map, List.map_map] at hnamed
    exact hnamed
  rw [map_indexes declared hworded, List.map_flatMap]
  unfold namings
  rw [List.map_flatMap]
  simp only [Entry.plainIndexes_name]

/-- The names of the indexes of a table are those that the statement gives and those that the rules
make, and they are distinct exactly when neither the ones, nor the others, nor both together
repeat. -/
theorem index_names_distinct_iff (d : Dialect) (s : TableSchema) (declared : List Wording) :
    (s.toSpec d declared).indexes.map IndexSpec.name =
        (s.namings d).map (Naming.name d s.name) ∧
      (((s.toSpec d declared).indexes.map IndexSpec.name).Nodup ↔
        DistinctNamings d s.name (s.namings d)) := by
  have hnames := indexNames_eq d s declared
  refine ⟨hnames, ?_⟩
  rw [hnames]
  exact Naming.nodup_iff d s.name (s.namings d)

/-- Without a single name given, two indexes with the same first column have the same name, and so
do two whose columns are the same when joined. -/
theorem index_names_repeated :
    (∃ s declared,
      Fragment.read .mysql "CREATE TABLE t (a int, b int, KEY (a), KEY (a, b))" =
        .table s declared ∧
      Naming.givens (s.namings .mysql) = [] ∧
      ¬((s.toSpec .mysql declared).indexes.map IndexSpec.name).Nodup) ∧
    (∃ s declared,
      Fragment.read .postgres
          "CREATE TABLE t (a int, b int, a_b int, UNIQUE (a, b), UNIQUE (a_b))" =
        .table s declared ∧
      Naming.givens (s.namings .postgres) = [] ∧
      ¬((s.toSpec .postgres declared).indexes.map IndexSpec.name).Nodup) := by
  have hmysql : (Fragment.read .mysql
      "CREATE TABLE t (a int, b int, KEY (a), KEY (a, b))").schema?.map (namings .mysql) =
        some [.derived ["a"], .derived ["a", "b"]] := by decide +kernel
  have hpostgres : (Fragment.read .postgres
      "CREATE TABLE t (a int, b int, a_b int, UNIQUE (a, b), UNIQUE (a_b))").schema?.map
        (namings .postgres) = some [.derived ["a", "b"], .derived ["a_b"]] := by decide +kernel
  have hshared : ∀ {d : Dialect} {sql : String} {columns columns' : List String},
      (Fragment.read d sql).schema?.map (namings d) = some [.derived columns, .derived columns'] →
      d.namedAfter columns = d.namedAfter columns' →
      ∃ s declared, Fragment.read d sql = .table s declared ∧
        Naming.givens (s.namings d) = [] ∧
        ¬((s.toSpec d declared).indexes.map IndexSpec.name).Nodup := by
    intro d sql columns columns' hschema hsame
    obtain ⟨s, declared, -, hread, -, hnamings⟩ := Fragment.exists_reading hschema
    refine ⟨s, declared, hread, by rw [hnamings]; rfl, ?_⟩
    rw [indexNames_eq, hnamings, Naming.nodup_iff]
    intro hdistinct
    have hderived : [d.namedAfter columns, d.namedAfter columns'].Nodup := hdistinct.derived
    simp [hsame] at hderived
  exact ⟨hshared hmysql rfl, hshared hpostgres (by decide)⟩

end TableSchema

end Sql

end TableDoc
