import Mathlib.Data.List.Nodup
import TableDoc.Extraction

/-!
# Attributes of columns

Which clauses of a column decide what of its specification. What a clause says of one of five
attributes takes the place of what earlier clauses said of it; that the values are counted up is
said once for all; other clauses say nothing.

* **one clause** — a clause says something of at most one attribute (`said?_isSome`), and a
  column takes that up and keeps everything else (`withClause_value`, `withClause_bare`,
  `withClause_autoIncrement`);
* **all clauses** — of each attribute the last value counts (`foldl_value`);
* **columns** — hence a specification is settled by its name and type, the last value of each
  attribute and whether the values are counted up, in whatever order the clauses stand
  (`toSpec_perm`); `clauses_decide` puts these results together.
-/

namespace TableDoc

open Sql

/-- What later clauses of a column say again in place of earlier ones. -/
inductive Attribute where
  | nullability
  | default
  | comment
  | charset
  | collation
deriving DecidableEq, Repr

namespace Attribute

/-- The values that an attribute can have. -/
abbrev Value : Attribute → Type
  | nullability => Bool
  | default | comment | charset | collation => Option String

/-- The value of an attribute of which nothing is said. -/
def absent : (a : Attribute) → a.Value
  | nullability => false
  | default | comment | charset | collation => none

end Attribute

namespace Sql

/-- A default as a specification shows it. -/
def Term.shown (d : Dialect) (w : Wording) (v : Term) : String :=
  if v.isLiteral then v.content d else w.default.getD (v.content d)

namespace Clause

/-- The attribute of which a clause says something, if any. -/
def attribute? : Clause → Option Attribute
  | nullability _ => some .nullability
  | default _ _ => some .default
  | comment _ => some .comment
  | charset _ => some .charset
  | collation _ => some .collation
  | _ => none

/-- What a clause says of an attribute. -/
def said? (d : Dialect) (w : Wording) : (a : Attribute) → Clause → Option a.Value
  | .nullability, nullability allowed => some (!allowed)
  | .default, default value _ => some (some (value.shown d w))
  | .comment, comment value => some (some (value.content d))
  | .charset, charset value => some (some value.label)
  | .collation, collation value => some (some value.label)
  | _, _ => none

/-- Whether a clause tells that the values are counted up. -/
def countsUp : Clause → Bool
  | autoIncrement => true
  | _ => false

theorem countsUp_iff {k : Clause} : k.countsUp = true ↔ k = autoIncrement := by
  cases k <;> simp [countsUp]

/-- A clause says something of its own attribute and of no other. -/
theorem said?_isSome (d : Dialect) (w : Wording) (a : Attribute) (k : Clause) :
    (k.said? d w a).isSome = (k.attribute? == some a) := by
  cases a <;> cases k <;> rfl

end Clause

end Sql

namespace ColumnSpec

variable (d : Dialect) (w : Wording)

/-- The value that a column has for an attribute. -/
def value (c : ColumnSpec) : (a : Attribute) → a.Value
  | .nullability => c.notNull
  | .default => c.default
  | .comment => c.comment
  | .charset => c.charset
  | .collation => c.collate

/-- The column with its name and type only. -/
def bare (c : ColumnSpec) : ColumnSpec :=
  { c with
    notNull := false, default := none, comment := none, charset := none, collate := none,
    autoIncrement := false }

/-- Name and type, the attributes and whether the values are counted up are all of a column. -/
theorem eq_of_value_eq {c c' : ColumnSpec} (hbare : c.bare = c'.bare)
    (hvalue : ∀ a, c.value a = c'.value a) (hcounts : c.autoIncrement = c'.autoIncrement) :
    c = c' := by
  have hnull : c.notNull = c'.notNull := hvalue .nullability
  have hdefault : c.default = c'.default := hvalue .default
  have hcomment : c.comment = c'.comment := hvalue .comment
  have hcharset : c.charset = c'.charset := hvalue .charset
  have hcollate : c.collate = c'.collate := hvalue .collation
  cases c
  cases c'
  simp_all [bare]

/-! ## One clause -/

theorem withClause_value (c : ColumnSpec) (k : Clause) (a : Attribute) :
    (c.withClause d w k).value a = (k.said? d w a).getD (c.value a) := by
  cases a <;> cases k <;> rfl

theorem withClause_bare (c : ColumnSpec) (k : Clause) : (c.withClause d w k).bare = c.bare := by
  cases k <;> rfl

theorem withClause_autoIncrement (c : ColumnSpec) (k : Clause) :
    (c.withClause d w k).autoIncrement = (c.autoIncrement || k.countsUp) := by
  cases k <;> simp [withClause, Clause.countsUp]

/-! ## All clauses -/

/-- The last value that clauses say takes the place of what a column had. -/
theorem foldl_value (ks : List Clause) (c : ColumnSpec) (a : Attribute) :
    (ks.foldl (withClause d w) c).value a =
      (ks.filterMap (Clause.said? d w a)).getLast?.getD (c.value a) := by
  induction ks generalizing c with
  | nil => rfl
  | cons k ks ih =>
    rw [List.foldl_cons, ih, withClause_value]
    cases hsaid : k.said? d w a with
    | none => rw [List.filterMap_cons_none hsaid, Option.getD_none]
    | some v =>
      rw [List.filterMap_cons_some hsaid, List.getLast?_cons, Option.getD_some, Option.getD_some]

theorem foldl_bare (ks : List Clause) (c : ColumnSpec) :
    (ks.foldl (withClause d w) c).bare = c.bare := by
  induction ks generalizing c with
  | nil => rfl
  | cons k ks ih => rw [List.foldl_cons, ih, withClause_bare]

theorem foldl_autoIncrement (ks : List Clause) (c : ColumnSpec) :
    (ks.foldl (withClause d w) c).autoIncrement = (c.autoIncrement || ks.any Clause.countsUp) := by
  induction ks generalizing c with
  | nil => rw [List.foldl_nil, List.any_nil, Bool.or_false]
  | cons k ks ih =>
    rw [List.foldl_cons, ih, withClause_autoIncrement, List.any_cons, Bool.or_assoc]

/-- A type says nothing of what clauses say. -/
theorem exists_withType_eq (c : ColumnSpec) (t : Term) :
    ∃ word unsigned size values, c.withType d t =
      { c with typeName := word, unsigned := unsigned, length := size, enumValues := values } := by
  unfold withType
  split
  · dsimp only
    split
    · exact ⟨_, _, _, _, rfl⟩
    · split
      · split <;> exact ⟨_, _, _, _, rfl⟩
      · exact ⟨_, _, _, _, rfl⟩
  · exact ⟨_, _, _, _, rfl⟩

end ColumnSpec

/-! ## Columns -/

namespace Sql

namespace Clause

/-- Clauses that do not tell of an attribute say nothing of it. -/
theorem filterMap_said?_eq_nil {ks : List Clause} {a : Attribute}
    (h : ∀ k ∈ ks, k.attribute? ≠ some a) (d : Dialect) (w : Wording) :
    ks.filterMap (said? d w a) = [] := by
  rw [List.filterMap_eq_nil_iff]
  intro k hk
  rw [← Option.isNone_iff_eq_none, ← Option.not_isSome, said?_isSome]
  simpa using h k hk

/-- Where no attribute is told of twice, of each at most one value is said. -/
theorem length_said?_le_one {ks : List Clause} (h : (ks.filterMap attribute?).Nodup)
    (d : Dialect) (w : Wording) (a : Attribute) : (ks.filterMap (said? d w a)).length ≤ 1 := by
  calc (ks.filterMap (said? d w a)).length
      = (ks.filterMap attribute?).count a := by
        rw [List.length_filterMap_eq_countP, List.count_filterMap]
        simp only [said?_isSome]
    _ ≤ 1 := List.nodup_iff_count_le_one.mp h a

end Clause

/-- Lists of at most one element are equal where one is the other in another order. -/
theorem eq_of_perm_of_length_le_one {α : Type} {l l' : List α} (h : l.Perm l')
    (hlength : l'.length ≤ 1) : l = l' := by
  cases l' with
  | nil => exact h.eq_nil
  | cons x xs =>
    obtain rfl : xs = [] := List.length_eq_zero_iff.mp (by simpa using hlength)
    exact List.perm_singleton.mp h

theorem TypeName.isSerial_iff {t : TypeName} :
    t.isSerial = true ↔ t ∈ [serial, smallserial, bigserial] := by
  cases t <;> decide

namespace ColumnDefinition

variable (d : Dialect) (w : Wording) (c : ColumnDefinition)

/-- A column before its clauses: its name and what its type says. -/
def typed : ColumnSpec :=
  let named : ColumnSpec := ⟨c.name, "", none, [], false, none, none, false, false, none, none⟩
  match c.type with
  | some t => named.withType d t
  | none => named

theorem toSpec_eq_foldl :
    c.toSpec d w =
      let spec := c.clauses.foldl (ColumnSpec.withClause d w) (c.typed d)
      { spec with autoIncrement := spec.autoIncrement || c.countsByItself d } := rfl

/-- Before its clauses nothing is said of a column's attributes or of counting up. -/
theorem typed_value :
    (∀ a, (c.typed d).value a = a.absent) ∧ (c.typed d).autoIncrement = false := by
  unfold typed
  split
  · obtain ⟨word, unsigned, size, values, htyped⟩ := ColumnSpec.exists_withType_eq d
      ⟨c.name, "", none, [], false, none, none, false, false, none, none⟩ (by assumption)
    rw [htyped]
    exact ⟨fun a => by cases a <;> rfl, rfl⟩
  · exact ⟨fun a => by cases a <;> rfl, rfl⟩

/-- A column has the last value that its clauses say of an attribute. -/
theorem toSpec_value (a : Attribute) :
    (c.toSpec d w).value a =
      (c.clauses.filterMap (Clause.said? d w a)).getLast?.getD a.absent := by
  rw [← (c.typed_value d).1 a, ← ColumnSpec.foldl_value, toSpec_eq_foldl]
  cases a <;> rfl

theorem toSpec_bare : (c.toSpec d w).bare = (c.typed d).bare := by
  rw [← ColumnSpec.foldl_bare d w c.clauses (c.typed d)]
  rfl

theorem toSpec_autoIncrement :
    (c.toSpec d w).autoIncrement = (c.clauses.any Clause.countsUp || c.countsByItself d) := by
  rw [toSpec_eq_foldl]
  dsimp only
  rw [ColumnSpec.foldl_autoIncrement, (c.typed_value d).2, Bool.false_or]

/-- One dialect counts up generated values and those of a serial type by itself. -/
theorem countsByItself_iff :
    c.countsByItself d = true ↔ d = .postgres ∧ (.identity ∈ c.clauses ∨
      ∃ t ∈ [TypeName.serial, .smallserial, .bigserial], ∃ args sizes,
        c.type = some (.type (.builtin t) args sizes)) := by
  unfold countsByItself
  cases d with
  | mysql => exact iff_of_false Bool.false_ne_true fun h => nomatch h.1
  | postgres =>
    dsimp only
    rw [Bool.or_eq_true, List.any_eq_true]
    constructor
    · rintro (htype | ⟨k, hk, hidentity⟩)
      · split at htype
        · exact ⟨rfl, .inr ⟨_, TypeName.isSerial_iff.mp htype, _, _, by assumption⟩⟩
        · cases htype
      · split at hidentity
        · exact ⟨rfl, .inl hk⟩
        · cases hidentity
    · rintro ⟨-, hidentity | ⟨t, ht, args, sizes, htype⟩⟩
      · exact .inr ⟨_, hidentity, rfl⟩
      · rw [htype]
        exact .inl (TypeName.isSerial_iff.mpr ht)

variable {d w c}

/-- Where no attribute is told of twice, the clauses may stand in any order. -/
theorem toSpec_perm {ks : List Clause} (honce : (c.clauses.filterMap Clause.attribute?).Nodup)
    (hperm : ks.Perm c.clauses) :
    ({ c with clauses := ks } : ColumnDefinition).toSpec d w = c.toSpec d w := by
  apply ColumnSpec.eq_of_value_eq
  case hbare => rw [toSpec_bare, toSpec_bare]; rfl
  case hvalue =>
    intro a
    rw [toSpec_value, toSpec_value, eq_of_perm_of_length_le_one (hperm.filterMap _)
      (Clause.length_said?_le_one honce d w a)]
  case hcounts =>
    have hitself : ({ c with clauses := ks } : ColumnDefinition).countsByItself d =
        c.countsByItself d := by
      rw [Bool.eq_iff_iff, countsByItself_iff, countsByItself_iff, hperm.mem_iff]
    rw [toSpec_autoIncrement, toSpec_autoIncrement, hperm.any_eq, hitself]

/-- Behind the last clause on an attribute nothing more is said of it. -/
theorem toSpec_value_of_last {a : Attribute} {front back : List Clause} {k : Clause} {v : a.Value}
    (hsplit : c.clauses = front ++ k :: back) (hsaid : k.said? d w a = some v)
    (hback : ∀ l ∈ back, l.attribute? ≠ some a) : (c.toSpec d w).value a = v := by
  rw [toSpec_value, hsplit, List.filterMap_append, List.filterMap_cons_some hsaid,
    Clause.filterMap_said?_eq_nil hback, List.getLast?_concat, Option.getD_some]

end ColumnDefinition

/-- What the clauses of a column decide of its specification, in any wording or in none. -/
structure ClausesDecide (d : Dialect) (w : Wording) (c : ColumnDefinition) : Prop where
  /-- Where no attribute is told of twice, the clauses may stand in any order. -/
  reordered : (c.clauses.filterMap Clause.attribute?).Nodup → ∀ ks, ks.Perm c.clauses →
    ({ c with clauses := ks } : ColumnDefinition).toSpec d w = c.toSpec d w
  /-- The last clause on an attribute alone decides its value. -/
  last : ∀ (a : Attribute) front k back v, c.clauses = front ++ k :: back →
    k.said? d w a = some v → (∀ l ∈ back, l.attribute? ≠ some a) → (c.toSpec d w).value a = v
  /-- An attribute of which no clause tells has no value. -/
  unsaid : ∀ a, (∀ k ∈ c.clauses, k.attribute? ≠ some a) → (c.toSpec d w).value a = a.absent
  /-- The values are counted up where a clause says so, wherever it stands, and in one dialect where
  they are generated or have a serial type. -/
  counted : (c.toSpec d w).autoIncrement = true ↔ .autoIncrement ∈ c.clauses ∨
    d = .postgres ∧ (.identity ∈ c.clauses ∨
      ∃ t ∈ [TypeName.serial, .smallserial, .bigserial], ∃ args sizes,
        c.type = some (.type (.builtin t) args sizes))

/-- The clauses of a column decide its specification, whatever their order. -/
theorem clauses_decide (d : Dialect) (w : Wording) (c : ColumnDefinition) :
    ClausesDecide d w c := by
  constructor
  case reordered => exact fun honce ks hperm => ColumnDefinition.toSpec_perm honce hperm
  case last => exact fun a front k back v => ColumnDefinition.toSpec_value_of_last
  case unsaid =>
    intro a hnone
    rw [ColumnDefinition.toSpec_value, Clause.filterMap_said?_eq_nil hnone]
    rfl
  case counted =>
    rw [ColumnDefinition.toSpec_autoIncrement, Bool.or_eq_true, List.any_eq_true,
      ColumnDefinition.countsByItself_iff]
    simp only [Clause.countsUp_iff, exists_eq_right]

/-- A key that is counted up, its clauses in two orders. -/
theorem clauses_decide_reversed :
    let c : ColumnDefinition := ⟨"id", none, [.nullability false, .default (.number "0") [],
      .autoIncrement, .comment (.text "key"), .other "uniquecolumnconstraint"]⟩
    (c.clauses.filterMap Clause.attribute?).Nodup ∧ c.clauses.reverse.Perm c.clauses ∧
    ({ c with clauses := c.clauses.reverse } : ColumnDefinition).toSpec .mysql {} =
      c.toSpec .mysql {} := by
  intro c
  have honce : (c.clauses.filterMap Clause.attribute?).Nodup := by decide
  have hperm := List.reverse_perm c.clauses
  exact ⟨honce, hperm, (clauses_decide .mysql {} c).reordered honce _ hperm⟩

end Sql

end TableDoc
