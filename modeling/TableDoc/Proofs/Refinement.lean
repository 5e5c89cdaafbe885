import TableDoc.Proofs.Contribution
import TableDoc.Proofs.EntryWords
import TableDoc.Proofs.LetterForms
import TableDoc.Proofs.ParsedKinds

/-!
# Declared texts only refine

What a table's specification is with the wordings of a text, any text, and what it is without.

* **kinds** — a wording of an index is one of eight, in letters of the alphabet
  (`Declaration.respell_indexWording`), and so is the kind that the grammar tells
  (`Clause.index?_kind`);
* **columns** — a wording reaches the default alone (`ColumnDefinition.toSpec_withoutDefault`), and
  only one that is there and is no literal (`ColumnDefinition.toSpec_literal`);
* **indexes** — a wording reaches the kind alone (`Entry.indexes_withoutKind`), and never that of a
  primary key (`Entry.indexes_primary`);
* **tables** — all of it in one statement (`declared_text_refines`).
-/

namespace TableDoc

open Sql

/-! ## Kinds -/

/-- The kinds of index that the grammar tells, primary keys apart. -/
def plainKinds : List String := ["unique key", "key", "fulltext key", "spatial key"]

/-- The kinds of index besides the primary key, in the words for them. -/
def wordedKinds : List String :=
  ["unique key", "unique index", "key", "index", "fulltext key", "fulltext index", "spatial key",
   "spatial index"]

/-- The kinds of index. -/
def kinds : List String := "primary key" :: wordedKinds

/-- The grammar tells some of the kinds. -/
theorem plainKinds_subset : "primary key" :: plainKinds ⊆ kinds := by
  simp [plainKinds, kinds, wordedKinds]

/-- No kind has a stray letter. -/
theorem respell_kind {k : String} (h : k ∈ kinds) : Text.respell k = k := by
  have hall : (kinds.all fun k => k.toList.all fun c => !Text.strayLetters.contains c) = true := by
    decide
  have hk := List.all_eq_true.mp hall k h
  refine (Text.respell_eq_self_iff k).mpr fun c hc => ?_
  simpa using List.all_eq_true.mp hk c hc

/-- A text that is a kind but for stray letters is one exactly when it has none of them. -/
theorem mem_kinds_iff {k : String} (h : Text.respell k ∈ kinds) :
    k ∈ kinds ↔ ∀ c ∈ k.toList, c ∉ Text.strayLetters := by
  rw [← Text.respell_eq_self_iff]
  constructor
  · exact respell_kind
  · intro hk
    rwa [hk] at h

namespace Declaration

/-- The small letters of a token that is one of some words. -/
theorem respell_of_isOneOf {words : List String}
    (hwords : (words.all fun w => decide (Text.IsWord w.toList)) = true) {t : Token}
    (h : isOneOf words t = true) :
    Text.respell (Text.lower t.text) ∈
      words.map fun w => String.ofList (w.toList.map Char.toLower) := by
  simp only [isOneOf, Bool.and_eq_true, List.contains_iff_mem] at h
  have hword : Text.IsWord t.capitals.toList := by
    simpa using List.all_eq_true.mp hwords t.capitals h.2
  rw [Text.respell_lower hword rfl]
  exact List.mem_map_of_mem h.2

theorem respell_indexWord {t : Token} (h : isOneOf indexWords t = true) :
    Text.respell (Text.lower t.text) ∈ ["index", "key"] := by
  have hsmall : (indexWords.map fun w => String.ofList (w.toList.map Char.toLower)) =
      ["index", "key"] := by simp [indexWords]
  rw [← hsmall]
  exact respell_of_isOneOf (by decide) h

theorem respell_indexPrefix {t : Token} (h : isOneOf indexPrefixes t = true) :
    Text.respell (Text.lower t.text) ∈ ["unique", "fulltext", "spatial"] := by
  have hsmall : (indexPrefixes.map fun w => String.ofList (w.toList.map Char.toLower)) =
      ["unique", "fulltext", "spatial"] := by simp [indexPrefixes]
  rw [← hsmall]
  exact respell_of_isOneOf (by decide) h

theorem respell_space : Text.respell " " = " " :=
  (Text.respell_eq_self_iff " ").mpr (by simp [Text.strayLetters])

theorem respell_key : Text.respell " key" = " key" :=
  (Text.respell_eq_self_iff " key").mpr (by simp [Text.strayLetters])

/-- The wording of an index is that of a kind, but for stray letters. -/
theorem respell_indexWording {D : Declaration} {k : String} (h : D.indexWording? = some k) :
    Text.respell k ∈ wordedKinds := by
  have hwords : ∀ w ∈ ["index", "key"], w ∈ wordedKinds := by simp [wordedKinds]
  have hbare : ∀ p ∈ ["unique", "fulltext", "spatial"], p ++ " key" ∈ wordedKinds := by
    simp [wordedKinds]
  have hboth : ∀ p ∈ ["unique", "fulltext", "spatial"], ∀ w ∈ ["index", "key"],
      p ++ " " ++ w ∈ wordedKinds := by simp [wordedKinds]
  rcases indexWording?_cases h with ⟨t, -, ht, rfl⟩ | ⟨t, -, -, ht, rfl | ⟨u, hu, rfl⟩⟩
  · exact hwords _ (respell_indexWord ht)
  · rw [Text.respell_append, respell_key]
    exact hbare _ (respell_indexPrefix ht)
  · rw [Text.respell_append, Text.respell_append, respell_space]
    exact hboth _ (respell_indexPrefix ht) _ (respell_indexWord hu)

end Declaration

/-! ## Columns -/

/-- The column without its default. -/
def ColumnSpec.withoutDefault (c : ColumnSpec) : ColumnSpec := { c with default := none }

namespace ColumnSpec

/-- A clause adds the same to a column but for the default. -/
theorem withClause_withoutDefault (d : Dialect) (w : Wording) (c : ColumnSpec) (a : Clause) :
    (c.withClause d w a).withoutDefault = (c.withoutDefault.withClause d {} a).withoutDefault := by
  cases a <;> rfl

theorem foldl_withoutDefault (d : Dialect) (w : Wording) (as : List Clause) {c c' : ColumnSpec}
    (h : c.withoutDefault = c'.withoutDefault) :
    (as.foldl (withClause d w) c).withoutDefault =
      (as.foldl (withClause d {}) c').withoutDefault := by
  induction as generalizing c c' with
  | nil => exact h
  | cons a as ih =>
    rw [List.foldl_cons, List.foldl_cons]
    refine ih ?_
    rw [withClause_withoutDefault d w, withClause_withoutDefault d {} c', h]

end ColumnSpec

namespace Sql

/-- The content of the literal that a column has as its default, if it has one. -/
def ColumnDefinition.literal? (d : Dialect) (c : ColumnDefinition) : Option String :=
  match c.defaults.getLast? with
  | some (v, _) => if v.isLiteral then some (v.content d) else none
  | none => none

namespace ColumnDefinition

variable {d : Dialect} (w : Wording) (c : ColumnDefinition)

theorem toSpec_withoutDefault :
    (c.toSpec d w).withoutDefault = (c.toSpec d {}).withoutDefault := by
  have hfold : ∀ typed : ColumnSpec,
      (c.clauses.foldl (ColumnSpec.withClause d w) typed).withoutDefault =
        (c.clauses.foldl (ColumnSpec.withClause d {}) typed).withoutDefault :=
    fun typed => ColumnSpec.foldl_withoutDefault d w c.clauses rfl
  exact congrArg (fun spec : ColumnSpec =>
    { spec with autoIncrement := spec.autoIncrement || c.countsByItself d }) (hfold _)

theorem toSpec_isSome :
    (c.toSpec d w).default.isSome = (c.toSpec d {}).default.isSome := by
  rw [toSpec_default_eq, toSpec_default_eq, Option.isSome_map, Option.isSome_map]

theorem toSpec_literal {text : String} (h : c.literal? d = some text) :
    (c.toSpec d w).default = some text := by
  rw [toSpec_default_eq]
  unfold literal? at h
  cases hlast : c.defaults.getLast? with
  | none =>
    rw [hlast] at h
    cases h
  | some p =>
    rw [hlast] at h
    dsimp only at h
    by_cases hliteral : p.1.isLiteral = true
    · rw [if_pos hliteral] at h
      cases h
      simp [Term.shown, hliteral]
    · rw [if_neg hliteral] at h
      cases h

end ColumnDefinition

end Sql

/-! ## Indexes -/

/-- The index without its kind. -/
def IndexSpec.withoutKind (i : IndexSpec) : IndexSpec := { i with kind := "" }

/-- A wording that calls an index what it may be called, but for stray letters. -/
def Wording.TellsKind (w : Wording) : Prop := ∀ k ∈ w.index, Text.respell k ∈ wordedKinds

theorem Wording.TellsKind.ne_primary {w : Wording} (h : w.TellsKind) {k : String}
    (hk : k ∈ w.index) : k ≠ "primary key" := by
  rintro rfl
  have hmem := h _ hk
  rw [respell_kind List.mem_cons_self] at hmem
  exact absurd hmem (by decide)

namespace Sql

/-- A clause of a known kind declares an index of one of the kinds that the grammar tells. -/
theorem Clause.index?_kind {d : Dialect} {table : String} {constraint : Option String} {c : Clause}
    (hc : c.Known) :
    ∀ i ∈ c.index? d table constraint, i.kind ∈ "primary key" :: plainKinds := by
  intro i hi
  cases c with
  | primaryKey members =>
    cases hi
    exact List.mem_cons_self
  | uniqueKey n members =>
    cases hi
    simp [plainKinds]
  | index kind n members =>
    cases hi
    cases kind with
    | none => simp [plainKinds]
    | some w =>
      have hw : w = "FULLTEXT" ∨ w = "SPATIAL" := by simpa [kindWords] using hc w rfl
      rcases hw with rfl | rfl
      · show Text.lower "FULLTEXT" ++ " key" ∈ "primary key" :: plainKinds
        decide
      · show Text.lower "SPATIAL" ++ " key" ∈ "primary key" :: plainKinds
        decide
  | _ => cases hi

namespace Entry

variable (d : Dialect) (table : String) {e : Entry} {w : Wording}

theorem plainIndexes_kind (he : e.Known) :
    ∀ i ∈ e.plainIndexes d table, i.kind ∈ "primary key" :: plainKinds := by
  intro i hi
  cases e with
  | clause c => exact Clause.index?_kind he i (Option.mem_toList.mp hi)
  | constraint n cs =>
    obtain ⟨c, hc, hci⟩ := List.mem_filterMap.mp hi
    exact Clause.index?_kind (he c hc) i hci
  | _ => cases hi

/-- A wording leaves an index alone, or it is all that the index is called. -/
theorem mem_indexes {i : IndexSpec} (hi : i ∈ e.indexes d table w) :
    i ∈ e.plainIndexes d table ∨ i.kind ∈ w.index := by
  unfold Entry.indexes at hi
  split at hi
  -- only a single index has the wording of its entry
  · rename_i j hj
    rw [hj]
    split at hi
    · exact .inl hi
    · cases hindex : w.index with
      | none =>
        rw [hindex] at hi
        exact .inl hi
      | some k =>
        rw [hindex] at hi
        rw [List.mem_singleton.mp hi]
        exact .inr rfl
  · exact .inl hi

theorem indexes_withoutKind (e : Entry) (w : Wording) :
    (e.indexes d table w).map IndexSpec.withoutKind =
      (e.plainIndexes d table).map IndexSpec.withoutKind := by
  unfold Entry.indexes
  split
  · rename_i i hi
    rw [hi]
    split <;> rfl
  · rfl

theorem indexes_primary (e : Entry) (hw : w.TellsKind) :
    (e.indexes d table w).map (·.kind == "primary key") =
      (e.plainIndexes d table).map (·.kind == "primary key") := by
  unfold Entry.indexes
  split
  · rename_i i hi
    rw [hi]
    by_cases hprimary : (i.kind == "primary key") = true
    · rw [if_pos hprimary]
    · rw [if_neg hprimary]
      cases hindex : w.index with
      | none => rfl
      | some k =>
        have hk : (k == "primary key") = false := beq_false_of_ne (hw.ne_primary hindex)
        simp [hk, hprimary]
  · rfl

end Entry

/-! ## Tables -/

/-- The column definition that an entry is. -/
def Entry.definition? : Entry → Option ColumnDefinition
  | .column c => some c
  | _ => none

namespace TableSchema

/-- The column definitions of a table, in order. -/
def definitions (s : TableSchema) : List ColumnDefinition := s.entries.filterMap Entry.definition?

variable {d : Dialect} {s : TableSchema} {declared : List Wording}

theorem map_fst_worded (s : TableSchema) (declared : List Wording) :
    (s.worded declared).map Prod.fst = s.entries := by
  unfold worded agrees
  split
  · rename_i h
    have hlength : declared.length = s.entries.length := by simpa using h
    exact List.map_fst_zip (by omega)
  · simp [Function.comp_def]

/-- An entry has a wording of the text, or none. -/
theorem wording_of_mem_worded {p : Entry × Wording} (hp : p ∈ s.worded declared) :
    p.1 ∈ s.entries ∧ (p.2 ∈ declared ∨ p.2 = {}) := by
  refine ⟨?_, ?_⟩
  · rw [← map_fst_worded s declared]
    exact List.mem_map_of_mem hp
  · unfold worded at hp
    split at hp
    · exact .inl (List.of_mem_zip hp).2
    · obtain ⟨e, -, rfl⟩ := List.mem_map.mp hp
      exact .inr rfl

/-- The column definitions of a table, each with its wording. -/
def wordedDefinitions (s : TableSchema) (declared : List Wording) :
    List (ColumnDefinition × Wording) :=
  (s.worded declared).filterMap fun p => p.1.definition?.map (·, p.2)

theorem map_fst_wordedDefinitions (s : TableSchema) (declared : List Wording) :
    (s.wordedDefinitions declared).map Prod.fst = s.definitions := by
  unfold wordedDefinitions definitions
  rw [List.map_filterMap, ← map_fst_worded s declared, List.filterMap_map]
  congr 1
  funext p
  show (p.1.definition?.map (·, p.2)).map Prod.fst = p.1.definition?
  cases p.1.definition? <;> rfl

/-- The columns are their definitions, each in its wording. -/
theorem columns_eq (d : Dialect) (s : TableSchema) (declared : List Wording) :
    (s.toSpec d declared).columns =
      (s.wordedDefinitions declared).map fun q => q.1.toSpec d q.2 := by
  unfold wordedDefinitions
  rw [List.map_filterMap]
  show (s.worded declared).filterMap _ = _
  congr 1
  funext ⟨e, w⟩
  cases e <;> rfl

/-- What no wording reaches in the columns comes from their definitions. -/
theorem map_columns {γ : Type} {F : ColumnSpec → γ} (declared : List Wording)
    (hF : ∀ (c : ColumnDefinition) w, F (c.toSpec d w) = F (c.toSpec d {})) :
    (s.toSpec d declared).columns.map F = s.definitions.map fun c => F (c.toSpec d {}) := by
  rw [columns_eq, ← map_fst_wordedDefinitions s declared, List.map_map, List.map_map]
  exact List.map_congr_left fun q _ => hF q.1 q.2

/-- What every wording of a definition gives, its column has. -/
theorem columns_getElem? {γ : Type} {F : ColumnSpec → Option γ} (declared : List Wording) {k : Nat}
    {c : ColumnDefinition} {v : γ} (hc : s.definitions[k]? = some c)
    (hF : ∀ w, F (c.toSpec d w) = some v) :
    (s.toSpec d declared).columns[k]?.bind F = some v := by
  rw [← map_fst_wordedDefinitions s declared, List.getElem?_map] at hc
  obtain ⟨q, hq, rfl⟩ := Option.map_eq_some_iff.mp hc
  rw [columns_eq, List.getElem?_map, hq]
  exact hF q.2

/-- What no wording reaches in the indexes comes from their entries. -/
theorem map_indexes {γ : Type} {F : IndexSpec → γ} (declared : List Wording)
    (hF : ∀ p ∈ s.worded declared, (p.1.indexes d s.name p.2).map F =
      (p.1.plainIndexes d s.name).map F) :
    (s.toSpec d declared).indexes.map F =
      (s.entries.flatMap fun e => e.plainIndexes d s.name).map F := by
  show ((s.worded declared).flatMap fun p => p.1.indexes d s.name p.2).map F = _
  rw [List.map_flatMap, List.flatMap_def, List.map_congr_left hF, ← List.flatMap_def,
    ← map_fst_worded s declared, List.flatMap_map, List.map_flatMap]

/-- The kind of an index is what the grammar makes it, or the wording of an entry. -/
theorem kind_of_mem_indexes (hs : s.Known) {i : IndexSpec}
    (hi : i ∈ (s.toSpec d declared).indexes) :
    i.kind ∈ kinds ∨ ∃ w ∈ declared, i.kind ∈ w.index := by
  -- the entry that the index comes from, with its wording
  obtain ⟨p, hp, hip⟩ := List.mem_flatMap.mp hi
  obtain ⟨he, hw⟩ := wording_of_mem_worded hp
  rcases Entry.mem_indexes d s.name hip with hplain | hindex
  · exact .inl (plainKinds_subset (Entry.plainIndexes_kind d s.name (hs p.1 he) i hplain))
  · rcases hw with hw | hw
    · exact .inr ⟨p.2, hw, hindex⟩
    · rw [hw] at hindex
      cases hindex

/-- In letters of the alphabet every index is of one of the kinds. -/
theorem respell_kind_of_mem_indexes (hs : s.Known) (hdeclared : ∀ w ∈ declared, w.TellsKind)
    {i : IndexSpec} (hi : i ∈ (s.toSpec d declared).indexes) : Text.respell i.kind ∈ kinds := by
  rcases kind_of_mem_indexes hs hi with hkind | ⟨w, hw, hindex⟩
  · rwa [respell_kind hkind]
  · exact List.mem_cons_of_mem _ (hdeclared w hw i.kind hindex)

/-! ## Refinement -/

/-- What a specification with wordings keeps of the one without. -/
structure Refines (d : Dialect) (s : TableSchema) (plain worded : TableSpec) : Prop where
  /-- The name is the same. -/
  name : worded.name = plain.name
  /-- So are the columns in number, in order and in all but their defaults. -/
  columns : worded.columns.map ColumnSpec.withoutDefault =
    plain.columns.map ColumnSpec.withoutDefault
  /-- The same columns have a default. -/
  defaulted : worded.columns.map (·.default.isSome) = plain.columns.map (·.default.isSome)
  /-- A literal is shown by its content in both. -/
  literals : ∀ (k : Nat) (c : ColumnDefinition) (text : String), s.definitions[k]? = some c →
    c.literal? d = some text →
    worded.columns[k]?.bind ColumnSpec.default = some text ∧
      plain.columns[k]?.bind ColumnSpec.default = some text
  /-- The indexes are the same in number, in order and in all but their kinds. -/
  indexes : worded.indexes.map IndexSpec.withoutKind = plain.indexes.map IndexSpec.withoutKind
  /-- The same indexes are primary keys. -/
  primary : worded.indexes.map (·.kind == "primary key") =
    plain.indexes.map (·.kind == "primary key")
  /-- Without wordings every kind is one of the kinds. -/
  plainKinds : ∀ i ∈ plain.indexes, i.kind ∈ kinds
  /-- With them it is one but for stray letters, and one exactly when it has none. -/
  wordedKinds : ∀ i ∈ worded.indexes, Text.respell i.kind ∈ kinds ∧
    (i.kind ∈ kinds ↔ ∀ c ∈ i.kind.toList, c ∉ Text.strayLetters)

end TableSchema

end Sql

theorem declaredWordings_tellsKind {d : Dialect} {text : String} {declared : List Wording}
    (h : declaredWordings d text = .ok declared) : ∀ w ∈ declared, w.TellsKind := by
  intro w hw k hk
  unfold declaredWordings at h
  cases htokens : tokens d text with
  | error e =>
    rw [htokens] at h
    cases h
  | ok ts =>
    rw [htokens] at h
    cases h
    obtain ⟨D, -, rfl⟩ := List.mem_map.mp hw
    exact Declaration.respell_indexWording hk

/-- The wordings of any text only refine the specification of a table that a statement declares,
which without a text has no wordings. -/
theorem declared_text_refines {d : Dialect} {sql text : String} {s : TableSchema}
    {declared : List Wording} (hparse : parse d sql = .ok (some (.createTable s)))
    (htext : declaredWordings d text = .ok declared) :
    s.Refines d (s.toSpec d []) (s.toSpec d declared) := by
  have hknown : s.Known := parse_known hparse
  have htells := declaredWordings_tellsKind htext
  have hworded : ∀ ws, (∀ w ∈ ws, Wording.TellsKind w) → ∀ p ∈ s.worded ws, p.2.TellsKind := by
    intro ws hws p hp
    rcases (TableSchema.wording_of_mem_worded hp).2 with hw | hw
    · exact hws p.2 hw
    · rw [hw]
      intro k hk
      cases hk
  have hnone : ∀ w ∈ ([] : List Wording), w.TellsKind := by simp
  constructor
  case name => rfl
  case columns =>
    rw [TableSchema.map_columns declared fun c w => c.toSpec_withoutDefault w,
      TableSchema.map_columns [] fun c w => c.toSpec_withoutDefault w]
  case defaulted =>
    rw [TableSchema.map_columns declared fun c w => c.toSpec_isSome w,
      TableSchema.map_columns [] fun c w => c.toSpec_isSome w]
  case literals =>
    intro k c content hc hliteral
    have hshown := fun w => c.toSpec_literal w hliteral
    exact ⟨TableSchema.columns_getElem? declared hc hshown,
      TableSchema.columns_getElem? [] hc hshown⟩
  case indexes =>
    rw [TableSchema.map_indexes declared fun p _ => p.1.indexes_withoutKind d s.name p.2,
      TableSchema.map_indexes [] fun p _ => p.1.indexes_withoutKind d s.name p.2]
  case primary =>
    rw [TableSchema.map_indexes declared fun p hp =>
        p.1.indexes_primary d s.name (hworded declared htells p hp),
      TableSchema.map_indexes [] fun p hp => p.1.indexes_primary d s.name (hworded [] hnone p hp)]
  case plainKinds =>
    intro i hi
    rcases TableSchema.kind_of_mem_indexes hknown hi with hkind | ⟨w, hw, -⟩
    · exact hkind
    · cases hw
  case wordedKinds =>
    intro i hi
    have hrespelled := TableSchema.respell_kind_of_mem_indexes hknown htells hi
    exact ⟨hrespelled, mem_kinds_iff hrespelled⟩

/-- The wordings of another table: its second entry calls the index an index. -/
theorem declared_text_refines_other_table :
    ∃ s declared,
      parse .mysql "CREATE TABLE t (a int DEFAULT 1, KEY k (a))" = .ok (some (.createTable s)) ∧
      declaredWordings .mysql "CREATE TABLE u (UNIQUE (b), INDEX (b))" = .ok declared ∧
      s.agrees declared = true ∧
      s.Refines .mysql (s.toSpec .mysql []) (s.toSpec .mysql declared) := by
  have hschema : ((Fragment.read .mysql "CREATE TABLE t (a int DEFAULT 1, KEY k (a))").schema?.map
      fun s => s.entries.length) = some 2 := by decide +kernel
  have hdeclared : (declaredWordings .mysql "CREATE TABLE u (UNIQUE (b), INDEX (b))").toOption =
      some [⟨none, some "unique key"⟩, ⟨none, some "index"⟩] := by decide +kernel
  obtain ⟨s, _, -, hread, -, hlength⟩ := Fragment.exists_reading hschema
  have hparse := (Fragment.parse_of_read hread).1
  cases hwords : declaredWordings .mysql "CREATE TABLE u (UNIQUE (b), INDEX (b))" with
  | error e =>
    rw [hwords] at hdeclared
    cases hdeclared
  | ok ws =>
    rw [hwords] at hdeclared
    cases hdeclared
    refine ⟨s, _, hparse, rfl, ?_, declared_text_refines hparse hwords⟩
    rw [TableSchema.agrees, hlength]
    rfl

/-- The word for an index with an i without a dot is one in capitals, and is shown as written. -/
theorem kind_of_dotless_word :
    ∃ s declared,
      parse .mysql "CREATE TABLE t (a int, ındex i (a))" = .ok (some (.createTable s)) ∧
      declaredWordings .mysql "CREATE TABLE t (a int, ındex i (a))" = .ok declared ∧
      ∃ i ∈ (s.toSpec .mysql declared).indexes, i.kind ∉ kinds := by
  have hindexes : ((Fragment.table? .mysql "CREATE TABLE t (a int, ındex i (a))").map
      TableSpec.indexes) = some [⟨"i", "ındex", ["a"]⟩] := by decide +kernel
  obtain ⟨t, ht, hi⟩ := Option.map_eq_some_iff.mp hindexes
  unfold Fragment.table? at ht
  split at ht
  · rename_i s declared hread
    cases ht
    obtain ⟨hparse, hwords⟩ := Fragment.parse_of_read hread
    refine ⟨s, declared, hparse, hwords, ⟨"i", "ındex", ["a"]⟩, ?_, by decide⟩
    rw [hi]
    exact List.mem_cons_self
  · cases ht

end TableDoc
