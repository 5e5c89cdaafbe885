import TableDoc.Proofs.Grid

/-!
# How a conversion ends

A script has a document unless an index of one of its tables has no columns. Rows are made table by
table and within a table index by index, so the first such index is the one that is told.

* **results** — a list of results stops at its first error (`mapM_eq_error_iff`) and comes out where
  there is none (`mapM_eq_ok_of_forall`);
* **tables** — a table has rows exactly when each of its indexes has columns
  (`TableSpec.toDefinition_eq_ok_iff`), otherwise the first index without them is its error
  (`TableSpec.toDefinition_eq_error_iff`);
* **scripts** — the same holds of all tables one after the other, and a document that comes out has
  one row for each column and each index (`document_outcome`).
-/

namespace TableDoc

/-! ## Lists of results -/

section Results

variable {α β ε : Type} {f : α → Except ε β} {as : List α}

/-- The first result that is an error is the error of the list. -/
theorem mapM_eq_error_iff {e : ε} :
    as.mapM f = .error e ↔
      ∃ before a after, as = before ++ a :: after ∧ (∀ b ∈ before, ∃ v, f b = .ok v) ∧
        f a = .error e := by
  induction as with
  | nil => exact iff_of_false (fun h => nomatch h) (by simp)
  | cons a as ih =>
    rw [List.mapM_cons]
    cases hfirst : f a with
    | error e' =>
      constructor
      · intro h
        cases h
        exact ⟨[], a, as, rfl, by simp, hfirst⟩
      · rintro ⟨before, b, after, hsplit, hbefore, hb⟩
        cases before with
        | nil =>
          obtain ⟨rfl, -⟩ := List.cons.inj hsplit
          cases hfirst.symm.trans hb
          rfl
        | cons b' before =>
          obtain ⟨rfl, -⟩ := List.cons.inj hsplit
          obtain ⟨v, hv⟩ := hbefore a List.mem_cons_self
          cases hfirst.symm.trans hv
    | ok v =>
      -- the error comes from the rest of the list, behind one more element
      have hrest : (Except.ok v >>= fun v => as.mapM f >>= fun vs => pure (v :: vs)) =
          .error e ↔ as.mapM f = .error e := by
        cases as.mapM f with
        | error e' => exact ⟨fun h => by cases h; rfl, fun h => by cases h; rfl⟩
        | ok vs => exact iff_of_false (fun h => nomatch h) (fun h => nomatch h)
      rw [hrest, ih]
      constructor
      · rintro ⟨before, b, after, rfl, hbefore, hb⟩
        exact ⟨a :: before, b, after, rfl, List.forall_mem_cons.mpr ⟨⟨v, hfirst⟩, hbefore⟩, hb⟩
      · rintro ⟨before, b, after, hsplit, hbefore, hb⟩
        cases before with
        | nil =>
          obtain ⟨rfl, -⟩ := List.cons.inj hsplit
          cases hfirst.symm.trans hb
        | cons b' before =>
          obtain ⟨-, rfl⟩ := List.cons.inj hsplit
          exact ⟨before, b, after, rfl, (List.forall_mem_cons.mp hbefore).2, hb⟩

/-- Where every element has a result, so has the list. -/
theorem mapM_eq_ok_of_forall {g : α → β} (h : ∀ a ∈ as, f a = .ok (g a)) :
    as.mapM f = .ok (as.map g) := by
  induction as with
  | nil => rfl
  | cons a as ih =>
    rw [List.forall_mem_cons] at h
    rw [List.mapM_cons, h.1, ih h.2]
    rfl

/-- A list of results comes out where each of its elements does, and then each was given. -/
theorem mapM_eq_ok_iff {p : α → Prop} {g : α → β}
    (hf : ∀ a b, f a = .ok b ↔ p a ∧ b = g a) {bs : List β} :
    as.mapM f = .ok bs ↔ (∀ a ∈ as, p a) ∧ bs = as.map g := by
  constructor
  · intro h
    have hresults := Sql.map_eq_of_mapM h
    refine ⟨fun a ha => ?_, eq_map_of_mapM (fun a b hab => ((hf a b).mp hab).2) h⟩
    have hmem : f a ∈ bs.map Except.ok := hresults ▸ List.mem_map_of_mem ha
    obtain ⟨b, -, hb⟩ := List.mem_map.mp hmem
    exact ((hf a b).mp hb.symm).1
  · rintro ⟨hp, rfl⟩
    exact mapM_eq_ok_of_forall fun a ha => (hf a (g a)).mpr ⟨hp a ha, rfl⟩

/-- What is made of a value leaves an error as it is. -/
theorem map_eq_error_iff {x : Except ε α} {g : α → β} {e : ε} :
    x.map g = .error e ↔ x = .error e := by
  cases x with
  | error e' => exact ⟨fun h => by cases h; rfl, fun h => by cases h; rfl⟩
  | ok a => exact iff_of_false (fun h => nomatch h) (fun h => nomatch h)

end Results

/-! ## Tables -/

/-- The first of some indexes that has no columns. -/
def FirstEmpty (is : List IndexSpec) (i : IndexSpec) : Prop :=
  i.columns = [] ∧ ∃ before after, is = before ++ i :: after ∧ ∀ j ∈ before, j.columns ≠ []

theorem IndexSpec.toRow_eq_ok_iff {i : IndexSpec} {r : IndexRow} :
    i.toRow = .ok r ↔ i.columns ≠ [] ∧ r = i.shownRow := by
  constructor
  · intro h
    refine ⟨?_, toRow_eq_ok h⟩
    rintro hempty
    rw [toRow, hempty] at h
    cases h
  · rintro ⟨hne, rfl⟩
    rw [toRow, if_neg (by simpa using hne)]
    rfl

theorem IndexSpec.toRow_eq_error_iff {i : IndexSpec} {e : EmptyIndex} :
    i.toRow = .error e ↔ i.columns = [] ∧ e = ⟨i.name⟩ := by
  by_cases hempty : i.columns = []
  · have herror : i.toRow = .error ⟨i.name⟩ := by rw [toRow, hempty]; rfl
    rw [herror, Except.error.injEq]
    exact ⟨fun h => ⟨hempty, h.symm⟩, fun h => h.2.symm⟩
  · have hok := toRow_eq_ok_iff.mpr ⟨hempty, rfl⟩
    rw [hok]
    exact iff_of_false (fun h => nomatch h) fun h => hempty h.1

/-- The indexes before the first one without columns have rows. -/
theorem mapM_toRow_eq_error_iff {is : List IndexSpec} {e : EmptyIndex} :
    is.mapM IndexSpec.toRow = .error e ↔ ∃ i, FirstEmpty is i ∧ e = ⟨i.name⟩ := by
  rw [mapM_eq_error_iff]
  constructor
  · rintro ⟨before, i, after, hsplit, hbefore, hi⟩
    obtain ⟨hempty, he⟩ := IndexSpec.toRow_eq_error_iff.mp hi
    refine ⟨i, ⟨hempty, before, after, hsplit, fun j hj => ?_⟩, he⟩
    obtain ⟨r, hr⟩ := hbefore j hj
    exact (IndexSpec.toRow_eq_ok_iff.mp hr).1
  · rintro ⟨i, ⟨hempty, before, after, hsplit, hbefore⟩, he⟩
    exact ⟨before, i, after, hsplit,
      fun j hj => ⟨_, IndexSpec.toRow_eq_ok_iff.mpr ⟨hbefore j hj, rfl⟩⟩,
      IndexSpec.toRow_eq_error_iff.mpr ⟨hempty, he⟩⟩

namespace TableSpec

/-- A table has rows where its indexes have them, and no other errors than theirs. -/
theorem toDefinition_eq_map (t : TableSpec) :
    t.toDefinition = (t.indexes.mapM IndexSpec.toRow).map fun rows =>
      ⟨t.name, t.columns.map ColumnSpec.toRow, rows⟩ := by
  unfold toDefinition
  cases t.indexes.mapM IndexSpec.toRow with
  | error e => rfl
  | ok rows => rfl

theorem toDefinition_eq_ok_iff {t : TableSpec} {D : TableDefinition} :
    t.toDefinition = .ok D ↔ (∀ i ∈ t.indexes, i.columns ≠ []) ∧ D = t.shown := by
  constructor
  · intro h
    refine ⟨?_, toDefinition_eq_ok h⟩
    rw [toDefinition_eq_map] at h
    cases hrows : t.indexes.mapM IndexSpec.toRow with
    | error e => rw [hrows] at h; cases h
    | ok rows => exact ((mapM_eq_ok_iff fun _ _ => IndexSpec.toRow_eq_ok_iff).mp hrows).1
  · rintro ⟨hindexes, rfl⟩
    rw [toDefinition_eq_map,
      (mapM_eq_ok_iff fun _ _ => IndexSpec.toRow_eq_ok_iff).mpr ⟨hindexes, rfl⟩]
    rfl

theorem toDefinition_eq_error_iff {t : TableSpec} {e : EmptyIndex} :
    t.toDefinition = .error e ↔ ∃ i, FirstEmpty t.indexes i ∧ e = ⟨i.name⟩ := by
  rw [toDefinition_eq_map, map_eq_error_iff, mapM_toRow_eq_error_iff]

end TableSpec

/-- The first index without columns of some tables is that of the first table that has one. -/
theorem firstEmpty_flatMap_iff {ts : List TableSpec} {i : IndexSpec} :
    FirstEmpty (ts.flatMap TableSpec.indexes) i ↔
      ∃ before t after, ts = before ++ t :: after ∧
        (∀ u ∈ before, ∀ j ∈ u.indexes, j.columns ≠ []) ∧ FirstEmpty t.indexes i := by
  constructor
  · rintro ⟨hempty, front, back, hsplit, hfront⟩
    induction ts generalizing front with
    | nil => simp at hsplit
    | cons t ts ih =>
      rw [List.flatMap_cons] at hsplit
      -- either the index belongs to the first table, or that table is all in front of it
      rcases List.append_eq_append_iff.mp hsplit with ⟨more, hfront', hlater⟩ | ⟨more, ht, hmore⟩
      · rw [hfront'] at hfront
        obtain ⟨before, u, after, rfl, hbefore, hu⟩ :=
          ih more hlater fun j hj => hfront j (List.mem_append_right _ hj)
        refine ⟨t :: before, u, after, rfl, List.forall_mem_cons.mpr ⟨?_, hbefore⟩, hu⟩
        exact fun j hj => hfront j (List.mem_append_left _ hj)
      · cases more with
        | nil =>
          rw [List.append_nil] at ht
          obtain ⟨before, u, after, rfl, hbefore, hu⟩ := ih [] hmore.symm (by simp)
          refine ⟨t :: before, u, after, rfl, List.forall_mem_cons.mpr ⟨?_, hbefore⟩, hu⟩
          exact fun j hj => hfront j (ht ▸ hj)
        | cons j more =>
          obtain ⟨rfl, -⟩ := List.cons.inj hmore
          exact ⟨[], t, ts, rfl, by simp, hempty, front, more, ht, hfront⟩
  · rintro ⟨before, t, after, rfl, hbefore, hempty, front, back, hsplit, hfront⟩
    refine ⟨hempty, before.flatMap TableSpec.indexes ++ front,
      back ++ after.flatMap TableSpec.indexes, ?_, ?_⟩
    · simp [List.flatMap_append, List.flatMap_cons, hsplit]
    · intro j hj
      rcases List.mem_append.mp hj with hj | hj
      · obtain ⟨u, hu, hju⟩ := List.mem_flatMap.mp hj
        exact hbefore u hu j hju
      · exact hfront j hj

/-! ## Scripts -/

namespace Script

variable {d : Dialect} {script : String}

theorem document_eq_map (d : Dialect) (script : String) :
    document d script =
      ((tables d script).mapM TableSpec.toDefinition).map Document.render := by
  unfold document
  cases (tables d script).mapM TableSpec.toDefinition with
  | error e => rfl
  | ok defs => rfl

theorem document_eq_ok_iff {text : String} :
    document d script = .ok text ↔
      (∀ t ∈ tables d script, ∀ i ∈ t.indexes, i.columns ≠ []) ∧
        text = Document.render ((tables d script).map TableSpec.shown) := by
  constructor
  · intro h
    refine ⟨?_, document_eq_ok h⟩
    rw [document_eq_map] at h
    cases hdefs : (tables d script).mapM TableSpec.toDefinition with
    | error e => rw [hdefs] at h; cases h
    | ok defs => exact ((mapM_eq_ok_iff fun _ _ => TableSpec.toDefinition_eq_ok_iff).mp hdefs).1
  · rintro ⟨hindexes, rfl⟩
    rw [document_eq_map,
      (mapM_eq_ok_iff fun _ _ => TableSpec.toDefinition_eq_ok_iff).mpr ⟨hindexes, rfl⟩]
    rfl

theorem document_eq_error_iff {e : EmptyIndex} :
    document d script = .error e ↔
      ∃ i, FirstEmpty ((tables d script).flatMap TableSpec.indexes) i ∧ e = ⟨i.name⟩ := by
  rw [document_eq_map, map_eq_error_iff, mapM_eq_error_iff]
  constructor
  · rintro ⟨before, t, after, hsplit, hbefore, ht⟩
    obtain ⟨i, hi, he⟩ := TableSpec.toDefinition_eq_error_iff.mp ht
    refine ⟨i, firstEmpty_flatMap_iff.mpr ⟨before, t, after, hsplit, fun u hu => ?_, hi⟩, he⟩
    obtain ⟨D, hD⟩ := hbefore u hu
    exact (TableSpec.toDefinition_eq_ok_iff.mp hD).1
  · rintro ⟨i, hi, he⟩
    obtain ⟨before, t, after, hsplit, hbefore, hi⟩ := firstEmpty_flatMap_iff.mp hi
    exact ⟨before, t, after, hsplit,
      fun u hu => ⟨_, TableSpec.toDefinition_eq_ok_iff.mpr ⟨hbefore u hu, rfl⟩⟩,
      TableSpec.toDefinition_eq_error_iff.mpr ⟨i, hi, he⟩⟩

end Script

/-! ## Blocks -/

namespace TableSpec

/-- The row of a column in a document. -/
def columnLine (c : ColumnSpec) : String := Document.rowLine c.toRow.cells

/-- The row of an index in a document. -/
def indexLine (i : IndexSpec) : String :=
  Document.rowLine [i.name, i.kind, String.intercalate ", " i.columns]

/-- The lines of the block of a table: two headings, and under each a header with one row for each
column or each index. -/
def blockLines (t : TableSpec) : List String :=
  [t.name ++ " Table's Definition", "", "|name|type|not null|auto_increment|default|comment|",
    "|---|---|---|---|---|---|"] ++ t.columns.map columnLine ++
  ["", t.name ++ " Table's Indexes", "", "|name|type|columns|", "|---|---|---|"] ++
    t.indexes.map indexLine ++ [""]

theorem shownLines_shown (t : TableSpec) : Document.shownLines t.shown = t.blockLines := by
  have hcolumns : Document.rowLine Document.columnHeader =
      "|name|type|not null|auto_increment|default|comment|" := by decide
  have hcolumnRule : Document.rule Document.columnHeader.length = "|---|---|---|---|---|---|" := by
    decide
  have hindexes : Document.rowLine Document.indexHeader = "|name|type|columns|" := by decide
  have hindexRule : Document.rule Document.indexHeader.length = "|---|---|---|" := by decide
  unfold Document.shownLines Document.blockLines Document.tableLines blockLines
  rw [hcolumns, hcolumnRule, hindexes, hindexRule]
  simp only [shown, List.map_map, List.append_assoc, List.cons_append, List.nil_append]
  rfl

end TableSpec

/-- A conversion fails exactly when some table has an index without columns; its error then names
the first of them, whatever follows. Otherwise the document is one block after the other, a block
for each table in the order of the script, with one row for each column and each index in the order
of their declaration. -/
theorem document_outcome (d : Dialect) (script : String) :
    ((∃ e, Script.document d script = .error e) ↔
      ∃ t ∈ Script.tables d script, ∃ i ∈ t.indexes, i.columns = []) ∧
    (∀ e, Script.document d script = .error e ↔
      ∃ i, FirstEmpty ((Script.tables d script).flatMap TableSpec.indexes) i ∧ e = ⟨i.name⟩) ∧
    ∀ text, Script.document d script = .ok text ↔
      (∀ t ∈ Script.tables d script, ∀ i ∈ t.indexes, i.columns ≠ []) ∧
      text.toList = ((Script.tables d script).flatMap TableSpec.blockLines).flatMap
        (·.toList ++ ['\n']) := by
  refine ⟨?_, fun e => Script.document_eq_error_iff, fun text => ?_⟩
  · cases hdocument : Script.document d script with
    | error e =>
      obtain ⟨i, ⟨hempty, before, after, hsplit, -⟩, -⟩ :=
        Script.document_eq_error_iff.mp hdocument
      have hmem : i ∈ (Script.tables d script).flatMap TableSpec.indexes := by simp [hsplit]
      obtain ⟨t, ht, hi⟩ := List.mem_flatMap.mp hmem
      exact iff_of_true ⟨e, rfl⟩ ⟨t, ht, i, hi, hempty⟩
    | ok text =>
      refine iff_of_false (fun ⟨e, h⟩ => nomatch h) ?_
      rintro ⟨t, ht, i, hi, hempty⟩
      exact (Script.document_eq_ok_iff.mp hdocument).1 t ht i hi hempty
  · have hlines : (Document.render ((Script.tables d script).map TableSpec.shown)).toList =
        ((Script.tables d script).flatMap TableSpec.blockLines).flatMap (·.toList ++ ['\n']) := by
      rw [Document.toList_render, List.flatMap_map, List.flatMap_map]
      simp only [TableSpec.shownLines_shown]
    rw [Script.document_eq_ok_iff, ← hlines, String.toList_inj]

end TableDoc
