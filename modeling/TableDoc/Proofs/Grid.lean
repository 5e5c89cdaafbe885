import TableDoc.Proofs.Lines
import TableDoc.Proofs.Refinement

/-!
# The grid of a document

A row shows its cells between bars, and the cells as they are: a bar or a line feed in a cell is one
in the document.

* **rows** — the bars and the lines of a row are those of its cells and its own
  (`gridRow_of_count`); for a column four cells count (`ColumnSpec.gridRow`), for an index the name
  and the columns (`IndexSpec.gridRow`);
* **documents** — the lines of a document are those of its rows, each at its place
  (`document_rows`).
-/

namespace TableDoc

namespace Document

/-! ## Rows -/

/-- A character that the grid is made of. -/
abbrev IsMark (a : Char) : Prop := a = '|' ∨ a = '\n'

/-- A row is one line with a bar before its first cell, one behind each, and no other. -/
def KeepsGrid (width : Nat) (row : String) : Prop :=
  linesOf row = [row] ∧ row.toList.count '|' = width + 1

/-- What the texts in a row of cells do to it. -/
structure GridRow (width : Nat) (row : String) (texts : List String) : Prop where
  /-- The row has its own bars and those of the texts. -/
  bars : row.toList.count '|' = width + 1 + (String.join texts).toList.count '|'
  /-- Every line feed of the texts ends a line. -/
  lines : (linesOf row).length = 1 + (String.join texts).toList.count '\n'
  /-- The row is one line of so many cells exactly when no text shows a bar or a line feed. -/
  keeps : KeepsGrid width row ↔ ∀ s ∈ texts, Plain s

theorem count_join_eq_zero {c : Char} {texts : List String} :
    (String.join texts).toList.count c = 0 ↔ ∀ s ∈ texts, c ∉ s.toList := by
  rw [String.toList_join, List.count_eq_zero]
  simp [List.mem_flatMap]

/-- The texts in a row are those of its cells that have as many bars and line feeds. -/
theorem gridRow_of_count (cells texts : List String)
    (h : ∀ c, IsMark c →
      (String.join cells).toList.count c = (String.join texts).toList.count c) :
    GridRow cells.length (rowLine cells) texts := by
  have hbars : (rowLine cells).toList.count '|' =
      cells.length + 1 + (String.join texts).toList.count '|' := by
    rw [count_rowLine, h '|' (.inl rfl), if_pos rfl]
    omega
  have hlines : (linesOf (rowLine cells)).length =
      1 + (String.join texts).toList.count '\n' := by
    rw [length_linesOf, count_rowLine, h '\n' (.inr rfl), if_neg (by decide)]
    omega
  refine ⟨hbars, hlines, ?_⟩
  unfold KeepsGrid
  rw [linesOf_eq_singleton_iff, ← List.count_eq_zero]
  rw [length_linesOf] at hlines
  constructor
  · rintro ⟨hfeed, hbar⟩ s hs
    exact ⟨count_join_eq_zero.mp (by omega) s hs, count_join_eq_zero.mp (by omega) s hs⟩
  · intro hplain
    have hbar := count_join_eq_zero.mpr fun s hs => (hplain s hs).1
    have hfeed := count_join_eq_zero.mpr fun s hs => (hplain s hs).2
    omega

end Document

open Document

/-! ## Columns -/

/-- The texts of a column that its row shows. -/
def ColumnSpec.texts (c : ColumnSpec) : List String :=
  [c.name, c.typeCell, c.default.getD "", c.comment.getD ""]

/-- The words in the other two cells of a column show no bar and no line feed. -/
theorem ColumnSpec.gridRow (c : ColumnSpec) : GridRow 6 (rowLine c.toRow.cells) c.texts := by
  refine gridRow_of_count c.toRow.cells c.texts fun a ha => ?_
  have hnull : (c.toRow.notNull).toList.count a = 0 := by
    unfold ColumnSpec.toRow
    rcases ha with rfl | rfl <;> dsimp only <;> split <;> decide
  have hauto : (c.toRow.autoIncrement).toList.count a = 0 := by
    unfold ColumnSpec.toRow
    rcases ha with rfl | rfl <;> dsimp only <;> split <;> decide
  have hcells : c.toRow.cells = [c.name, c.typeCell, c.toRow.notNull, c.toRow.autoIncrement,
      c.default.getD "", c.comment.getD ""] := rfl
  rw [hcells]
  simp [ColumnSpec.texts, List.count_append, hnull, hauto]

/-! ## Indexes -/

/-- The texts of an index that its row shows beside the kind. -/
def IndexSpec.texts (i : IndexSpec) : List String := i.name :: i.columns

/-- The row of an index, whether it has columns or not. -/
def IndexSpec.shownRow (i : IndexSpec) : IndexRow :=
  ⟨i.name, i.kind, String.intercalate ", " i.columns⟩

/-- What stands between the columns of an index is no mark. -/
theorem count_intercalate_comma {a : Char} (ha : IsMark a) (texts : List String) :
    (String.intercalate ", " texts).toList.count a = (String.join texts).toList.count a := by
  have hcomma : ", ".toList.count a = 0 := by rcases ha with rfl | rfl <;> decide
  induction texts with
  | nil => rfl
  | cons s texts ih =>
    cases texts with
    | nil => simp
    | cons u texts =>
      rw [String.intercalate_cons_cons, String.toList_append, String.toList_append,
        List.count_append, List.count_append, ih, hcomma]
      simp [List.count_append]

/-- A kind in letters of the alphabet and stray ones shows no mark. -/
theorem count_kind {k : String} (hk : Text.respell k ∈ kinds) {a : Char} (ha : IsMark a) :
    k.toList.count a = 0 := by
  have hall : (kinds.all fun k => !k.toList.contains '|' && !k.toList.contains '\n') = true := by
    decide
  have hkinds : '|' ∉ (Text.respell k).toList ∧ '\n' ∉ (Text.respell k).toList := by
    simpa using List.all_eq_true.mp hall _ hk
  have hmark : Text.respellLetter a = a := by rcases ha with rfl | rfl <;> decide
  -- a mark is no stray letter, so it would be in the kind itself
  refine List.count_eq_zero.mpr fun hin => ?_
  have hrespelled : a ∈ (Text.respell k).toList := by
    rw [Text.respell, String.toList_map, ← hmark]
    exact List.mem_map_of_mem hin
  rcases ha with rfl | rfl
  · exact hkinds.1 hrespelled
  · exact hkinds.2 hrespelled

theorem IndexSpec.gridRow {i : IndexSpec} (hi : Text.respell i.kind ∈ kinds) :
    GridRow 3 (rowLine i.shownRow.cells) i.texts := by
  refine gridRow_of_count i.shownRow.cells i.texts fun a ha => ?_
  have hcells : i.shownRow.cells = [i.name, i.kind, String.intercalate ", " i.columns] := rfl
  have hcolumns := count_intercalate_comma ha i.columns
  rw [String.toList_join] at hcolumns
  rw [hcells]
  simp [-String.toList_intercalate, IndexSpec.texts, List.count_append, count_kind hi ha, hcolumns]

/-! ## Documents -/

/-- The definition of a table, whether every index has columns or not. -/
def TableSpec.shown (t : TableSpec) : TableDefinition :=
  ⟨t.name, t.columns.map ColumnSpec.toRow, t.indexes.map IndexSpec.shownRow⟩

theorem IndexSpec.toRow_eq_ok {i : IndexSpec} {r : IndexRow} (h : i.toRow = .ok r) :
    r = i.shownRow := by
  unfold IndexSpec.toRow at h
  split at h
  · cases h
  · exact (Except.ok.inj h).symm

/-- Where a list of results comes out and each is the value `g`, so is the list. -/
theorem eq_map_of_mapM {α β ε : Type} {f : α → Except ε β} {g : α → β}
    (hf : ∀ a b, f a = .ok b → b = g a) {as : List α} {bs : List β} (h : as.mapM f = .ok bs) :
    bs = as.map g := by
  have hresults := Sql.map_eq_of_mapM h
  have hvalues : as.map f = (as.map g).map Except.ok := by
    rw [List.map_map]
    refine List.map_congr_left fun a ha => ?_
    have hmem : f a ∈ bs.map Except.ok := hresults ▸ List.mem_map_of_mem ha
    obtain ⟨b, -, hb⟩ := List.mem_map.mp hmem
    rw [← hb, hf a b hb.symm]
    rfl
  rw [hvalues] at hresults
  exact ((List.map_inj_right fun _ _ => Except.ok.inj).mp hresults).symm

theorem TableSpec.toDefinition_eq_ok {t : TableSpec} {D : TableDefinition}
    (h : t.toDefinition = .ok D) : D = t.shown := by
  unfold TableSpec.toDefinition at h
  cases hrows : t.indexes.mapM IndexSpec.toRow with
  | error e => rw [hrows] at h; cases h
  | ok rows =>
    rw [hrows] at h
    cases h
    rw [eq_map_of_mapM (fun i r => IndexSpec.toRow_eq_ok) hrows]
    rfl

/-- A document shows the tables of its script. -/
theorem Script.document_eq_ok {d : Dialect} {script text : String}
    (h : Script.document d script = .ok text) :
    text = render ((Script.tables d script).map TableSpec.shown) := by
  unfold Script.document at h
  cases hdefs : (Script.tables d script).mapM TableSpec.toDefinition with
  | error e => rw [hdefs] at h; cases h
  | ok defs =>
    rw [hdefs] at h
    cases h
    rw [eq_map_of_mapM (fun t D => TableSpec.toDefinition_eq_ok) hdefs]

/-- In letters of the alphabet every index of a script is of one of the kinds. -/
theorem Script.respell_kind {d : Dialect} {script : String} {t : TableSpec} {i : IndexSpec}
    (ht : t ∈ Script.tables d script) (hi : i ∈ t.indexes) : Text.respell i.kind ∈ kinds := by
  obtain ⟨f, -, hf⟩ := List.mem_filterMap.mp ht
  unfold Fragment.table? at hf
  split at hf
  · rename_i s declared hread
    cases hf
    obtain ⟨hparse, hwords⟩ := Fragment.parse_of_read hread
    exact Sql.TableSchema.respell_kind_of_mem_indexes (Sql.parse_known hparse)
      (declaredWordings_tellsKind hwords) hi
  · cases hf

/-- The lines of a document are those of the texts that its tables show, one below the other. A
column has a row of six cells among them and an index one of three, and the row keeps the grid
exactly when the texts in it do. -/
theorem document_rows {d : Dialect} {script text : String}
    (h : Script.document d script = .ok text) :
    linesOf text =
      ((Script.tables d script).flatMap fun t => shownLines t.shown).flatMap linesOf ++ [""] ∧
    ∀ t ∈ Script.tables d script,
      (∀ c ∈ t.columns, GridRow 6 (rowLine c.toRow.cells) c.texts) ∧
      ∀ i ∈ t.indexes, GridRow 3 (rowLine i.shownRow.cells) i.texts := by
  refine ⟨?_, fun t ht => ⟨fun c _ => c.gridRow, fun i hi => ?_⟩⟩
  · rw [Script.document_eq_ok h, linesOf_render, List.flatMap_map]
  · exact IndexSpec.gridRow (Script.respell_kind ht hi)

/-- A column with a bar in its comment beside an index. -/
theorem document_rows_barred :
    ∃ text,
      Script.document .mysql "CREATE TABLE t (a int COMMENT 'x|y', KEY k (a))" = .ok text ∧
      linesOf text =
        ((Script.tables .mysql "CREATE TABLE t (a int COMMENT 'x|y', KEY k (a))").flatMap
          fun t => shownLines t.shown).flatMap linesOf ++ [""] ∧
      ∀ t ∈ Script.tables .mysql "CREATE TABLE t (a int COMMENT 'x|y', KEY k (a))",
        (∀ c ∈ t.columns, GridRow 6 (rowLine c.toRow.cells) c.texts) ∧
        ∀ i ∈ t.indexes, GridRow 3 (rowLine i.shownRow.cells) i.texts := by
  have htables : Script.tables .mysql "CREATE TABLE t (a int COMMENT 'x|y', KEY k (a))" =
      [⟨"t", [{ name := "a", typeName := "int", comment := some "x|y" }],
        [⟨"k", "key", ["a"]⟩]⟩] := by
    decide +kernel
  have hdocument : ∃ text,
      Script.document .mysql "CREATE TABLE t (a int COMMENT 'x|y', KEY k (a))" = .ok text := by
    rw [Script.document, htables]
    exact ⟨_, rfl⟩
  obtain ⟨text, htext⟩ := hdocument
  exact ⟨text, htext, document_rows htext⟩

/-- A comment with a bar, and one with a line feed: neither row keeps the grid. -/
theorem grid_broken_by_comments :
    ∃ text c₁ c₂,
      Script.document .mysql "CREATE TABLE t (a int COMMENT 'x|y', b int COMMENT 'x\ny')" =
        .ok text ∧
      Script.tables .mysql "CREATE TABLE t (a int COMMENT 'x|y', b int COMMENT 'x\ny')" =
        [⟨"t", [c₁, c₂], []⟩] ∧
      rowLine c₁.toRow.cells = "|a|int||||x|y|" ∧ ¬ KeepsGrid 6 (rowLine c₁.toRow.cells) ∧
      rowLine c₂.toRow.cells = "|b|int||||x\ny|" ∧ ¬ KeepsGrid 6 (rowLine c₂.toRow.cells) := by
  have htables : Script.tables .mysql "CREATE TABLE t (a int COMMENT 'x|y', b int COMMENT 'x\ny')" =
      [⟨"t", [{ name := "a", typeName := "int", comment := some "x|y" },
        { name := "b", typeName := "int", comment := some "x\ny" }], []⟩] := by
    decide +kernel
  refine ⟨_, _, _, by rw [Script.document, htables]; rfl, htables, by decide, ?_, by decide, ?_⟩
  · rintro ⟨-, hbars⟩
    exact absurd hbars (by decide)
  · rintro ⟨hlines, -⟩
    exact absurd ((linesOf_eq_singleton_iff _).mp hlines) (by decide)

end TableDoc
