import TableDoc.Script

/-!
# Scripts joined at a semicolon

Reading and converting are homomorphisms: a semicolon always cuts, whatever is left open in front
of it, so that what stands on one side of it never reaches the other.

* **cuts** — the fragments of two joined texts are those of the one and then those of the other
  (`fragments_join`), and so are the tables (`tables_join`, `tables_intercalate`);
* **documents** — two joined texts are converted one after the other, and the first error counts
  (`document_join`);
* **blocks** — a document is the blocks of its fragments in order (`document_eq_steps`);
* **conversion** — all of it in one statement, with the fragments that declare no table left out
  (`document_homomorphism`).
-/

namespace TableDoc

/-- The document of some tables and more is that of the first and then that of the others. -/
theorem Document.render_append (ts us : List TableDefinition) :
    Document.render (ts ++ us) = Document.render ts ++ Document.render us := by
  unfold Document.render
  rw [List.map_append, String.join_append]

namespace Script

variable {d : Dialect}

/-! ## Cuts -/

theorem cut_ne_nil (cs : List Char) : cut cs ≠ [] := by
  cases cs with
  | nil => exact List.cons_ne_nil _ _
  | cons c cs =>
    unfold cut
    split
    · exact List.cons_ne_nil _ _
    · split <;> exact List.cons_ne_nil _ _

/-- A semicolon ends the last fragment in front of it, and the next one begins behind it. -/
theorem cut_append (as bs : List Char) : cut (as ++ ';' :: bs) = cut as ++ cut bs := by
  induction as with
  | nil => rfl
  | cons c as ih =>
    rw [List.cons_append, cut, cut, ih]
    by_cases hc : (c == ';') = true
    · rw [if_pos hc, if_pos hc, List.cons_append]
    · rw [if_neg hc, if_neg hc]
      -- the character goes to the first fragment, which belongs to the text in front
      obtain ⟨first, others, hcut⟩ := List.exists_cons_of_ne_nil (cut_ne_nil as)
      rw [hcut]
      rfl

theorem cut_of_no_semicolon {cs : List Char} (h : ';' ∉ cs) : cut cs = [cs] := by
  induction cs with
  | nil => rfl
  | cons c cs ih =>
    rw [List.mem_cons, not_or] at h
    rw [cut, if_neg (by simpa using Ne.symm h.1), ih h.2]

theorem fragments_join (a b : String) : fragments (a ++ ";" ++ b) = fragments a ++ fragments b := by
  have hchars : (a ++ ";" ++ b).toList = a.toList ++ ';' :: b.toList := by simp
  unfold fragments
  rw [hchars, cut_append, List.map_append]

/-- A text without a semicolon is a fragment. -/
theorem fragments_of_no_semicolon {f : String} (h : ';' ∉ f.toList) : fragments f = [f] := by
  unfold fragments
  rw [cut_of_no_semicolon h, List.map_singleton, String.ofList_toList]

/-! ## Tables -/

theorem tables_join (a b : String) : tables d (a ++ ";" ++ b) = tables d a ++ tables d b := by
  unfold tables
  rw [fragments_join, List.filterMap_append]

theorem tables_of_no_semicolon {f : String} (h : ';' ∉ f.toList) :
    tables d f = (Fragment.table? d f).toList := by
  unfold tables
  rw [fragments_of_no_semicolon h]
  cases hf : Fragment.table? d f with
  | none => rw [List.filterMap_cons_none hf]; rfl
  | some t => rw [List.filterMap_cons_some hf]; rfl

/-- The tables of joined texts are those of the texts in order. -/
theorem tables_intercalate (texts : List String) :
    tables d (String.intercalate ";" texts) = texts.flatMap (tables d) := by
  induction texts with
  | nil => rfl
  | cons a texts ih =>
    cases texts with
    | nil => rw [String.intercalate_singleton, List.flatMap_singleton]
    | cons b texts =>
      rw [String.intercalate_cons_cons, tables_join, ih, ← List.flatMap_cons]

/-! ## Documents -/

/-- Joined texts are converted one after the other, and the first error counts. -/
theorem document_join (a b : String) :
    document d (a ++ ";" ++ b) = (do
      let front ← document d a
      let back ← document d b
      return front ++ back) := by
  unfold document
  rw [tables_join, List.mapM_append]
  simp only [bind_assoc, pure_bind, Document.render_append]

theorem document_of_tables_eq {a b : String} (h : tables d a = tables d b) :
    document d a = document d b := by
  unfold document
  rw [h]

/-! ## Blocks -/

theorem mapM_block (ts : List TableSpec) :
    ts.mapM (fun t => t.toDefinition.map Document.block) =
      List.map Document.block <$> ts.mapM TableSpec.toDefinition := by
  induction ts with
  | nil => rfl
  | cons t ts ih =>
    rw [List.mapM_cons, List.mapM_cons, ih]
    cases t.toDefinition with
    | error e => rfl
    | ok definition =>
      cases ts.mapM TableSpec.toDefinition with
      | error e => rfl
      | ok definitions => rfl

theorem filterMap_steps (script : String) :
    (steps d script).filterMap Step.table =
      (tables d script).map fun t => (t, t.toDefinition.map Document.block) := by
  unfold steps tables
  rw [List.filterMap_map, List.map_filterMap]
  rfl

/-- A document is the blocks of the fragments that declare a table, in order, and the first error
counts. -/
theorem document_eq_steps (script : String) :
    document d script =
      String.join <$> ((steps d script).filterMap Step.table).mapM Prod.snd := by
  have hblocks : ((tables d script).map fun t => (t, t.toDefinition.map Document.block)).mapM
      Prod.snd = (tables d script).mapM fun t => t.toDefinition.map Document.block :=
    List.mapM_map
  rw [filterMap_steps, hblocks, mapM_block, ← comp_map]
  rfl

/-! ## Conversion -/

/-- Two texts joined at a semicolon are read and converted one after the other, where the first
error counts. A document is the blocks of its fragments in order; a fragment that declares no table
may be left out from among any others. -/
theorem document_homomorphism (d : Dialect) :
    (∀ a b, tables d (a ++ ";" ++ b) = tables d a ++ tables d b) ∧
    (∀ a b, document d (a ++ ";" ++ b) = do
      let front ← document d a
      let back ← document d b
      return front ++ back) ∧
    (∀ script, document d script =
      String.join <$> ((steps d script).filterMap Step.table).mapM Prod.snd) ∧
    ∀ before f after, ';' ∉ f.toList → Fragment.table? d f = none →
      tables d (String.intercalate ";" (before ++ f :: after)) =
        tables d (String.intercalate ";" (before ++ after)) ∧
      document d (String.intercalate ";" (before ++ f :: after)) =
        document d (String.intercalate ";" (before ++ after)) := by
  refine ⟨tables_join, document_join, document_eq_steps, fun before f after hf hnone => ?_⟩
  have hempty : tables d f = [] := by rw [tables_of_no_semicolon hf, hnone]; rfl
  have htables : tables d (String.intercalate ";" (before ++ f :: after)) =
      tables d (String.intercalate ";" (before ++ after)) := by
    rw [tables_intercalate, tables_intercalate, List.flatMap_append, List.flatMap_append,
      List.flatMap_cons, hempty, List.nil_append]
  exact ⟨htables, document_of_tables_eq htables⟩

/-- A fragment with an open parenthesis leaves the tables around it alone. -/
theorem document_homomorphism_unreadable :
    ';' ∉ " CREATE TABLE (".toList ∧ Fragment.table? .mysql " CREATE TABLE (" = none ∧
    Script.tables .mysql "CREATE TABLE a (x int); CREATE TABLE (; CREATE TABLE b (y int)" =
      Script.tables .mysql "CREATE TABLE a (x int); CREATE TABLE b (y int)" ∧
    document .mysql "CREATE TABLE a (x int); CREATE TABLE (; CREATE TABLE b (y int)" =
      document .mysql "CREATE TABLE a (x int); CREATE TABLE b (y int)" := by
  have hchars : ';' ∉ " CREATE TABLE (".toList := by decide
  have hnone : Fragment.table? .mysql " CREATE TABLE (" = none := by decide +kernel
  exact ⟨hchars, hnone, (document_homomorphism .mysql).2.2.2 ["CREATE TABLE a (x int)"]
    " CREATE TABLE (" [" CREATE TABLE b (y int)"] hchars hnone⟩

end Script

end TableDoc
