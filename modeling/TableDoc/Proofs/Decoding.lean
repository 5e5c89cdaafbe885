import TableDoc.Proofs.Lines

/-!
# Documents determine their tables

Blocks stand one after another with nothing between them, and yet a document can be read back:
lines end in line feeds, a run of rows ends in an empty line, and cells end in bars. `decode?` cuts
a document at these three marks, one after the other, and takes the runs in fours.

* **rows** — the cells of a row are read back (`cellsOf_rowLine`);
* **runs** — a block is four runs of lines, each with an empty line behind it (`shownLines_eq`),
  and no line of a run is empty (`ne_nil_of_mem_runs`);
* **documents** — every list of tables whose names and cells show no bar and no line feed is read
  back (`decode?_render`), so that a document belongs to one such list
  (`render_determines_tables`).
-/

namespace TableDoc

/-! ## Rows -/

/-- The row of these cells, if there are as many as a column has. -/
def ColumnRow.ofCells? : List String → Option ColumnRow
  | [name, type, notNull, autoIncrement, default, comment] =>
    some ⟨name, type, notNull, autoIncrement, default, comment⟩
  | _ => none

/-- The row of these cells, if there are as many as an index has. -/
def IndexRow.ofCells? : List String → Option IndexRow
  | [name, type, columns] => some ⟨name, type, columns⟩
  | _ => none

theorem ColumnRow.ofCells?_cells (r : ColumnRow) : ofCells? r.cells = some r := rfl

theorem IndexRow.ofCells?_cells (r : IndexRow) : ofCells? r.cells = some r := rfl

namespace TableDefinition

/-- The name and the cells of a table. -/
def texts (t : TableDefinition) : List String :=
  t.name :: (t.columns.flatMap ColumnRow.cells ++ t.indexes.flatMap IndexRow.cells)

variable {t : TableDefinition}

theorem name_mem_texts : t.name ∈ t.texts := List.mem_cons_self

theorem mem_texts_of_column {r : ColumnRow} (hr : r ∈ t.columns) {s : String} (hs : s ∈ r.cells) :
    s ∈ t.texts :=
  List.mem_cons_of_mem _ (List.mem_append_left _ (List.mem_flatMap_of_mem hr hs))

theorem mem_texts_of_index {r : IndexRow} (hr : r ∈ t.indexes) {s : String} (hs : s ∈ r.cells) :
    s ∈ t.texts :=
  List.mem_cons_of_mem _ (List.mem_append_right _ (List.mem_flatMap_of_mem hr hs))

/-- A table whose name and cells show no bar and no line feed. -/
def Plain (t : TableDefinition) : Prop := ∀ s ∈ t.texts, Document.Plain s

instance : Decidable t.Plain := inferInstanceAs (Decidable (∀ s ∈ t.texts, Document.Plain s))

end TableDefinition

namespace Document

/-- The cells of a line that is a row. -/
def cellsOf (line : List Char) : List String := (endedBy '|' line).tail.map String.ofList

theorem cellsOf_rowLine {cells : List String} (h : ∀ s ∈ cells, Plain s) :
    cellsOf (rowLine cells).toList = cells := by
  have hbars : ∀ p ∈ [] :: cells.map String.toList, '|' ∉ p := by
    intro p hp
    rcases List.mem_cons.mp hp with rfl | hp
    · exact List.not_mem_nil
    · obtain ⟨s, hs, rfl⟩ := List.mem_map.mp hp
      exact (h s hs).1
  rw [cellsOf, toList_rowLine, endedBy_flatMap_of_not_mem hbars, List.tail_cons, List.map_map]
  exact (List.map_congr_left fun s _ => String.ofList_toList).trans (List.map_id _)

/-- Rows are read back from their lines. -/
theorem mapM_cellsOf {ρ : Type} {cells : ρ → List String} {ofCells? : List String → Option ρ}
    (hcells : ∀ r, ofCells? (cells r) = some r) {rows : List ρ}
    (h : ∀ r ∈ rows, ∀ s ∈ cells r, Plain s) :
    (rows.map fun r => (rowLine (cells r)).toList).mapM (fun l => ofCells? (cellsOf l)) =
      some rows := by
  induction rows with
  | nil => rfl
  | cons r rows ih =>
    rw [List.forall_mem_cons] at h
    rw [List.map_cons, List.mapM_cons, cellsOf_rowLine h.1, hcells, ih h.2]
    rfl

/-! ## Runs -/

/-- The four runs of lines that a block shows. -/
def runs (t : TableDefinition) : List (List String) :=
  [[t.name ++ " Table's Definition"], tableLines columnHeader (t.columns.map ColumnRow.cells),
   [t.name ++ " Table's Indexes"], tableLines indexHeader (t.indexes.map IndexRow.cells)]

/-- Behind every run of a block stands an empty line. -/
theorem shownLines_eq (t : TableDefinition) : shownLines t = (runs t).flatMap (· ++ [""]) := by
  simp [shownLines, blockLines, runs]

/-- The runs as lists of characters. -/
def runChars (t : TableDefinition) : List (List (List Char)) := (runs t).map (·.map String.toList)

theorem toList_shownLines (t : TableDefinition) :
    (shownLines t).map String.toList = (runChars t).flatMap (· ++ [[]]) := by
  rw [shownLines_eq, runChars, List.map_flatMap, List.flatMap_map]
  simp only [List.map_append]
  rfl

theorem mem_flatMap_runChars {ts : List TableDefinition} {run : List (List Char)}
    (h : run ∈ ts.flatMap runChars) :
    ∃ t ∈ ts, ∃ run' ∈ runs t, run'.map String.toList = run := by
  obtain ⟨t, ht, hrun⟩ := List.mem_flatMap.mp h
  exact ⟨t, ht, List.mem_map.mp hrun⟩

/-- What follows the name in the heading of a block. -/
def headingEnd : List Char := " Table's Definition".toList

/-- The name in the heading of a block. -/
def headingName (heading : List Char) : String :=
  String.ofList (heading.take (heading.length - headingEnd.length))

theorem headingName_heading (name : String) :
    headingName (name ++ " Table's Definition").toList = name := by
  have hlength : (name ++ " Table's Definition").toList.length - headingEnd.length =
      name.toList.length := by
    rw [String.toList_append, List.length_append]
    exact Nat.add_sub_cancel _ _
  rw [headingName, hlength, String.toList_append, List.take_left, String.ofList_toList]

/-! ## Decoding -/

/-- The tables that some runs of lines show. -/
def tablesOf? : List (List (List Char)) → Option (List TableDefinition)
  | [] => some []
  | [heading] :: (_ :: _ :: columns) :: [_] :: (_ :: _ :: indexes) :: rest => do
    let columnRows ← columns.mapM fun l => ColumnRow.ofCells? (cellsOf l)
    let indexRows ← indexes.mapM fun l => IndexRow.ofCells? (cellsOf l)
    let others ← tablesOf? rest
    return ⟨headingName heading, columnRows, indexRows⟩ :: others
  | _ => none

/-- The tables that a document shows. -/
def decode? (document : String) : Option (List TableDefinition) :=
  tablesOf? (endedBy [] (endedBy '\n' document.toList))

theorem tablesOf?_runs {ts : List TableDefinition} (h : ∀ t ∈ ts, t.Plain) :
    tablesOf? (ts.flatMap runChars) = some ts := by
  induction ts with
  | nil => rfl
  | cons t ts ih =>
    rw [List.forall_mem_cons] at h
    have hcolumns : ((t.columns.map ColumnRow.cells).map rowLine |>.map String.toList).mapM
        (fun l => ColumnRow.ofCells? (cellsOf l)) = some t.columns := by
      rw [List.map_map, List.map_map]
      exact mapM_cellsOf ColumnRow.ofCells?_cells fun r hr s hs =>
        h.1 s (TableDefinition.mem_texts_of_column hr hs)
    have hindexes : ((t.indexes.map IndexRow.cells).map rowLine |>.map String.toList).mapM
        (fun l => IndexRow.ofCells? (cellsOf l)) = some t.indexes := by
      rw [List.map_map, List.map_map]
      exact mapM_cellsOf IndexRow.ofCells?_cells fun r hr s hs =>
        h.1 s (TableDefinition.mem_texts_of_index hr hs)
    show (do
      let columnRows ← ((t.columns.map ColumnRow.cells).map rowLine |>.map String.toList).mapM
        fun l => ColumnRow.ofCells? (cellsOf l)
      let indexRows ← ((t.indexes.map IndexRow.cells).map rowLine |>.map String.toList).mapM
        fun l => IndexRow.ofCells? (cellsOf l)
      let others ← tablesOf? (ts.flatMap runChars)
      return ⟨headingName (t.name ++ " Table's Definition").toList, columnRows, indexRows⟩ ::
        others) = some (t :: ts)
    rw [hcolumns, hindexes, ih h.2, headingName_heading]
    rfl

/-- What follows the name in the headings of a block. -/
def headingEnds : List String := [" Table's Definition", " Table's Indexes"]

/-- The lines that every block shows. -/
def fixedLines : List String := [rowLine columnHeader, rule 6, rowLine indexHeader, rule 3]

theorem headingEnds_shown : ∀ s ∈ headingEnds, s.toList ≠ [] ∧ '\n' ∉ s.toList := by decide

theorem fixedLines_shown : ∀ l ∈ fixedLines, l.toList ≠ [] ∧ '\n' ∉ l.toList := by decide

/-- A line of a run is a heading, one that every block shows, or a row of cells of the table. -/
theorem mem_runs {t : TableDefinition} {run : List String} {l : String} (hrun : run ∈ runs t)
    (hl : l ∈ run) :
    (∃ s ∈ headingEnds, l = t.name ++ s) ∨ l ∈ fixedLines ∨
      ∃ cells, (∀ s ∈ cells, s ∈ t.texts) ∧ l = rowLine cells := by
  simp only [runs, List.mem_cons, List.not_mem_nil, or_false] at hrun
  rcases hrun with rfl | rfl | rfl | rfl
  · exact .inl ⟨_, by simp [headingEnds], List.mem_singleton.mp hl⟩
  · simp only [tableLines, List.mem_cons, List.mem_map, List.map_map, Function.comp_apply] at hl
    rcases hl with rfl | rfl | ⟨r, hr, rfl⟩
    · exact .inr (.inl (by simp [fixedLines]))
    · exact .inr (.inl (by simp [fixedLines, columnHeader]))
    · exact .inr (.inr ⟨_, fun s hs => TableDefinition.mem_texts_of_column hr hs, rfl⟩)
  · exact .inl ⟨_, by simp [headingEnds], List.mem_singleton.mp hl⟩
  · simp only [tableLines, List.mem_cons, List.mem_map, List.map_map, Function.comp_apply] at hl
    rcases hl with rfl | rfl | ⟨r, hr, rfl⟩
    · exact .inr (.inl (by simp [fixedLines]))
    · exact .inr (.inl (by simp [fixedLines, indexHeader]))
    · exact .inr (.inr ⟨_, fun s hs => TableDefinition.mem_texts_of_index hr hs, rfl⟩)

/-- No line inside a run is empty. -/
theorem ne_nil_of_mem_runs {t : TableDefinition} {run : List String} {l : String}
    (hrun : run ∈ runs t) (hl : l ∈ run) : l.toList ≠ [] := by
  rcases mem_runs hrun hl with ⟨s, hs, rfl⟩ | hfixed | ⟨cells, -, rfl⟩
  · rw [String.toList_append]
    exact List.append_ne_nil_of_right_ne_nil _ (headingEnds_shown s hs).1
  · exact (fixedLines_shown l hfixed).1
  · exact List.ne_nil_of_mem (mem_rowLine.mpr (.inl rfl))

/-- No line of a run is broken where the name and the cells of the table show no line feed. -/
theorem feed_not_mem_of_mem_runs {t : TableDefinition} {run : List String} {l : String}
    (h : t.Plain) (hrun : run ∈ runs t) (hl : l ∈ run) : '\n' ∉ l.toList := by
  rcases mem_runs hrun hl with ⟨s, hs, rfl⟩ | hfixed | ⟨cells, hcells, rfl⟩
  · rw [String.toList_append, List.mem_append, not_or]
    exact ⟨(h _ TableDefinition.name_mem_texts).2, (headingEnds_shown s hs).2⟩
  · exact (fixedLines_shown l hfixed).2
  · intro hfeed
    rcases mem_rowLine.mp hfeed with hbar | ⟨s, hs, hmem⟩
    · exact absurd hbar (by decide)
    · exact (h s (hcells s hs)).2 hmem

/-- A document whose names and cells show no bar and no line feed is read back. -/
theorem decode?_render {ts : List TableDefinition} (h : ∀ t ∈ ts, t.Plain) :
    decode? (render ts) = some ts := by
  have hruns : (ts.flatMap shownLines).map String.toList =
      (ts.flatMap runChars).flatMap (· ++ [[]]) := by
    rw [List.map_flatMap, List.flatMap_assoc]
    exact congrArg ts.flatMap (funext toList_shownLines)
  have hfeeds : ∀ p ∈ (ts.flatMap shownLines).map String.toList, '\n' ∉ p := by
    intro p hp
    rw [hruns] at hp
    obtain ⟨run, hrun, hp⟩ := List.mem_flatMap.mp hp
    rcases List.mem_append.mp hp with hp | hp
    · obtain ⟨t, ht, run', hrun', rfl⟩ := mem_flatMap_runChars hrun
      obtain ⟨l, hl, rfl⟩ := List.mem_map.mp hp
      exact feed_not_mem_of_mem_runs (h t ht) hrun' hl
    · rw [List.mem_singleton.mp hp]
      exact List.not_mem_nil
  have hempty : ∀ run ∈ ts.flatMap runChars, [] ∉ run := by
    intro run hrun hnil
    obtain ⟨t, ht, run', hrun', rfl⟩ := mem_flatMap_runChars hrun
    obtain ⟨l, hl, hl'⟩ := List.mem_map.mp hnil
    exact ne_nil_of_mem_runs hrun' hl hl'
  rw [decode?, toList_render, endedBy_flatMap_of_not_mem hfeeds, hruns,
    endedBy_flatMap_of_not_mem hempty, tablesOf?_runs h]

/-! ## Documents -/

/-- One decoder reads back every document whose names and cells show no bar and no line feed, and
two equal documents are of the same tables, or one of their names or cells shows one of the two. -/
theorem render_determines_tables :
    (∀ ts : List TableDefinition, (∀ t ∈ ts, t.Plain) → decode? (render ts) = some ts) ∧
    ∀ ts us : List TableDefinition, render ts = render us →
      ts = us ∨ ∃ t ∈ ts ++ us, ∃ s ∈ t.texts, '|' ∈ s.toList ∨ '\n' ∈ s.toList := by
  refine ⟨fun ts h => decode?_render h, fun ts us hrender => ?_⟩
  by_cases hshown : ∃ t ∈ ts ++ us, ∃ s ∈ t.texts, '|' ∈ s.toList ∨ '\n' ∈ s.toList
  · exact .inr hshown
  · have hplain : ∀ t ∈ ts ++ us, t.Plain := fun t ht s hs =>
      not_or.mp fun h => hshown ⟨t, ht, s, hs, h⟩
    rw [List.forall_mem_append] at hplain
    have hdecoded := decode?_render hplain.1
    rw [hrender, decode?_render hplain.2] at hdecoded
    exact .inl (Option.some.inj hdecoded).symm

/-- Tables with names and cells that are empty or look like parts of a block. -/
def oddTables : List TableDefinition :=
  [⟨"", [], []⟩, ⟨"x Table's Indexes", [⟨"", "", "", "", "", ""⟩], [⟨"---", "", ""⟩]⟩]

/-- A table with a cell that ends its row and begins another. -/
def brokenRow : TableDefinition := ⟨"t", [⟨"a||||||\n|b", "", "", "", "", ""⟩], []⟩

/-- The table whose two rows look the same. -/
def wholeRows : TableDefinition :=
  ⟨"t", [⟨"a", "", "", "", "", ""⟩, ⟨"b", "", "", "", "", ""⟩], []⟩

/-- Odd names and cells are read back; a cell with a line feed gives the document of another table
as well. -/
theorem render_determines_tables_odd :
    (∀ t ∈ oddTables, t.Plain) ∧ decode? (render oddTables) = some oddTables ∧
    render [brokenRow] = render [wholeRows] ∧
    ([brokenRow] = [wholeRows] ∨
      ∃ t ∈ [brokenRow] ++ [wholeRows], ∃ s ∈ t.texts, '|' ∈ s.toList ∨ '\n' ∈ s.toList) := by
  have hplain : ∀ t ∈ oddTables, t.Plain := by decide
  have hrender : render [brokenRow] = render [wholeRows] := by rfl
  exact ⟨hplain, render_determines_tables.1 _ hplain, hrender,
    render_determines_tables.2 _ _ hrender⟩

end Document

end TableDoc
