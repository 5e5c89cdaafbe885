import TableDoc.Proofs.Attributes
import TableDoc.Script

/-!
# Contributions of entries

What each entry of a column list gives to the specification of its table, one contribution for an
entry.

* **the specification** is the contributions put together (`TableSchema.toSpec_eq`);
* **wordings** — with one for each entry a contribution depends on its own wording only
  (`contributions_getElem?`), otherwise on none (`contributions_of_not_agrees`); in a fragment that
  wording is the one of its own tokens (`Fragment.exists_declaration`);
* **defaults** — of all clauses only those of a default reach the default of a column
  (`ColumnDefinition.toSpec_default`).
-/

namespace TableDoc

open Sql

/-- What an entry gives to the specification of its table. -/
structure Contribution where
  column : Option ColumnSpec
  indexes : List IndexSpec
deriving DecidableEq, Repr

namespace Sql

/-- What an entry gives to the specification of a table, in the wording of the entry. -/
def Entry.contribution (d : Dialect) (table : String) (e : Entry) (w : Wording) : Contribution :=
  ⟨e.column? d w, e.indexes d table w⟩

/-- The contributions of the entries, in order. -/
def TableSchema.contributions (d : Dialect) (s : TableSchema) (declared : List Wording) :
    List Contribution :=
  (s.worded declared).map fun p => p.1.contribution d s.name p.2

/-! ## The specification -/

theorem TableSchema.toSpec_eq (d : Dialect) (s : TableSchema) (declared : List Wording) :
    s.toSpec d declared = ⟨s.name, (s.contributions d declared).filterMap Contribution.column,
      (s.contributions d declared).flatMap Contribution.indexes⟩ := by
  unfold TableSchema.toSpec TableSchema.contributions
  rw [List.filterMap_map, List.flatMap_map]
  rfl

/-! ## Wordings -/

theorem TableSchema.contributions_getElem? {d : Dialect} {s : TableSchema}
    {declared : List Wording} (h : s.agrees declared = true) (i : Nat) :
    (s.contributions d declared)[i]? =
      s.entries[i]?.bind fun e => declared[i]?.map (e.contribution d s.name) := by
  unfold TableSchema.contributions TableSchema.worded
  rw [if_pos h, List.getElem?_map, List.zip, List.getElem?_zipWith]
  cases s.entries[i]? <;> cases declared[i]? <;> rfl

theorem TableSchema.contributions_of_not_agrees {d : Dialect} {s : TableSchema}
    {declared : List Wording} (h : s.agrees declared = false) :
    s.contributions d declared = s.entries.map (·.contribution d s.name {}) := by
  unfold TableSchema.contributions TableSchema.worded
  rw [if_neg (by simp [h]), List.map_map]
  rfl

/-! ## Defaults -/

/-- The value of a default and the tokens that it was read from. -/
def Clause.default? : Clause → Option (Term × List Token)
  | .default value read => some (value, read)
  | _ => none

/-- The defaults that a column declares, in order. -/
def ColumnDefinition.defaults (c : ColumnDefinition) : List (Term × List Token) :=
  c.clauses.filterMap Clause.default?

/-- The defaults that an entry declares, in order. -/
def Entry.defaults : Entry → List (Term × List Token)
  | .column c => c.defaults
  | _ => []

/-- A column shows the last default that it declares. -/
theorem ColumnDefinition.toSpec_default_eq (d : Dialect) (w : Wording) (c : ColumnDefinition) :
    (c.toSpec d w).default = c.defaults.getLast?.map fun v => v.1.shown d w := by
  have hsaid : ∀ k : Clause,
      k.said? d w .default = k.default?.map fun v => some (v.1.shown d w) := by
    intro k
    cases k <;> rfl
  have hvalue : (c.toSpec d w).default =
      (c.clauses.filterMap (Clause.said? d w .default)).getLast?.getD none :=
    c.toSpec_value d w .default
  rw [hvalue, funext hsaid, ← List.map_filterMap, List.getLast?_map]
  show (c.defaults.getLast?.map _).getD none = _
  cases c.defaults.getLast? <;> rfl

/-- A column with one default shows it. -/
theorem ColumnDefinition.toSpec_default {d : Dialect} {w : Wording} {c : ColumnDefinition}
    {v : Term} {read : List Token} (h : c.defaults = [(v, read)]) :
    (c.toSpec d w).default = some (v.shown d w) := by
  rw [c.toSpec_default_eq d w, h]
  rfl

end Sql

/-! ## Fragments -/

theorem eq_ok_of_toOption {ε α : Type} {x : Except ε α} {a : α} (h : x.toOption = some a) :
    x = .ok a := by
  cases x with
  | error e => cases h
  | ok b => cases h; rfl

/-- What is shown of a value that came out tells that it came out. -/
theorem exists_ok_of_toOption {ε α β : Type} {x : Except ε α} {f : α → β} {b : β}
    (h : x.toOption.map f = some b) : ∃ a, x = .ok a ∧ f a = b := by
  obtain ⟨a, ha, hb⟩ := Option.map_eq_some_iff.mp h
  exact ⟨a, eq_ok_of_toOption ha, hb⟩

/-- The schema of a fragment that is read as a table. -/
def Reading.schema? : Reading → Option TableSchema
  | .table schema _ => some schema
  | _ => none

theorem Reading.eq_table_of_schema? {r : Reading} {s : TableSchema} (h : r.schema? = some s) :
    ∃ declared, r = .table s declared := by
  cases r with
  | table schema declared => cases h; exact ⟨declared, rfl⟩
  | _ => cases h

/-- A fragment that is read as a table is one to the grammar, and it has wordings. -/
theorem Fragment.parse_of_read {d : Dialect} {f : String} {s : TableSchema}
    {declared : List Wording} (h : Fragment.read d f = .table s declared) :
    parse d f = .ok (some (.createTable s)) ∧ declaredWordings d f = .ok declared := by
  unfold Fragment.read at h
  split at h
  · cases h
  · split at h <;> cases h
    rename_i hparse hwords
    exact ⟨hparse, hwords⟩

/-- A fragment that is read as a table has tokens, and its wordings are those of their entries. -/
theorem Fragment.declared_of_read {d : Dialect} {f : String} {s : TableSchema}
    {declared : List Wording} (h : Fragment.read d f = .table s declared) :
    ∃ ts, tokens d f = .ok ts ∧
      declared = (Declaration.ofTokens ts).map (Declaration.wording f) := by
  have hwords := (Fragment.parse_of_read h).2
  unfold declaredWordings at hwords
  cases hts : tokens d f with
  | error e => rw [hts] at hwords; cases hwords
  | ok ts =>
    rw [hts] at hwords
    cases hwords
    exact ⟨ts, rfl, rfl⟩

/-- What is shown of the schema of a fragment tells that it is read as a table and has tokens. -/
theorem Fragment.exists_reading {β : Type} {d : Dialect} {f : String} {g : TableSchema → β} {b : β}
    (h : (Fragment.read d f).schema?.map g = some b) :
    ∃ s declared ts, Fragment.read d f = .table s declared ∧ tokens d f = .ok ts ∧ g s = b := by
  obtain ⟨s, hs, hshown⟩ := Option.map_eq_some_iff.mp h
  obtain ⟨declared, hread⟩ := Reading.eq_table_of_schema? hs
  obtain ⟨ts, hts, -⟩ := Fragment.declared_of_read hread
  exact ⟨s, declared, ts, hread, hts, hshown⟩

/-- What is shown of the schema and of the tokens of one fragment. -/
theorem Fragment.exists_reading_and_tokens {β γ : Type} {d : Dialect} {f : String}
    {g : TableSchema → β} {b : β} {u : List Token → γ} {c : γ}
    (h : (Fragment.read d f).schema?.map g = some b ∧ (tokens d f).toOption.map u = some c) :
    ∃ s declared ts, Fragment.read d f = .table s declared ∧ tokens d f = .ok ts ∧ g s = b ∧
      u ts = c := by
  obtain ⟨hschema, htokens⟩ := h
  obtain ⟨s, declared, ts, hread, hts, hshown⟩ := Fragment.exists_reading hschema
  rw [hts] at htokens
  exact ⟨s, declared, ts, hread, hts, hshown, Option.some.inj htokens⟩

section

variable {d : Dialect} {f : String} {s : TableSchema} {declared : List Wording} {ts : List Token}

/-- The wordings of a fragment are those of the entries of its tokens. -/
theorem Fragment.declared_eq (hread : Fragment.read d f = .table s declared)
    (hts : tokens d f = .ok ts) :
    declared = (Declaration.ofTokens ts).map (Declaration.wording f) := by
  obtain ⟨ts', hts', hdeclared⟩ := Fragment.declared_of_read hread
  cases hts.symm.trans hts'
  exact hdeclared

/-- The declared texts are in use where the tokens make as many entries as the grammar reads. -/
theorem Fragment.agrees_iff (hread : Fragment.read d f = .table s declared)
    (hts : tokens d f = .ok ts) :
    s.agrees declared = true ↔ (Declaration.ofTokens ts).length = s.entries.length := by
  rw [TableSchema.agrees, Fragment.declared_eq hread hts, List.length_map, beq_iff_eq]

/-- Where the declared texts are in use, every entry has a text of its own and contributes in its
wording. -/
theorem Fragment.exists_declaration {i : Nat} {entry : Entry}
    (hread : Fragment.read d f = .table s declared) (hts : tokens d f = .ok ts)
    (hagrees : s.agrees declared = true) (hentry : s.entries[i]? = some entry) :
    ∃ D, (Declaration.ofTokens ts)[i]? = some D ∧
      (s.contributions d declared)[i]? = some (entry.contribution d s.name (D.wording f)) := by
  have hi : i < (Declaration.ofTokens ts).length := by
    rw [(Fragment.agrees_iff hread hts).mp hagrees]
    exact (List.getElem?_eq_some_iff.mp hentry).1
  obtain ⟨D, hD⟩ : ∃ D, (Declaration.ofTokens ts)[i]? = some D :=
    ⟨_, List.getElem?_eq_getElem hi⟩
  refine ⟨D, hD, ?_⟩
  rw [TableSchema.contributions_getElem? hagrees, hentry, Fragment.declared_eq hread hts,
    List.getElem?_map, hD]
  rfl

end

end TableDoc
