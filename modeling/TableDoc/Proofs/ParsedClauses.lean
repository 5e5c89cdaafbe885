import TableDoc.Proofs.ReaderSteps

/-!
# Clauses of parsed tables

A property of every clause that is read behind its word is one of every clause about a parsed table.

* **entries** — a clause is read behind its word (`clauseAmong?_eq_some`); the clauses of an entry
  of a column list have the property (`listItem?_gives`), and so have those of the whole list at
  every level of nesting (`Rules.levels_all`);
* **statements** — `parse_all`: the clauses of the schema of a text have it, whatever else the text
  may be read as.
-/

namespace TableDoc.Sql

open Reader

/-! ## All clauses -/

variable {P : Clause → Prop} {d : Dialect} {r : Rules}

/-- The clauses of an entry that is no column have a property. -/
def Entry.All (P : Clause → Prop) : Entry → Prop
  | .clause c => P c
  | .constraint _ cs => ∀ c ∈ cs, P c
  | _ => True

/-- The clauses about a table have a property. -/
def TableSchema.All (P : Clause → Prop) (s : TableSchema) : Prop := ∀ e ∈ s.entries, e.All P

/-- The clauses about a table that a statement creates have a property. -/
def Statement.All (P : Clause → Prop) : Statement → Prop
  | .createTable s => s.All P
  | _ => True

/-- The clauses that some rules read behind their words have a property, and so have those of no
other meaning, for a call may stand in their place. -/
structure ClausesRead (P : Clause → Prop) (d : Dialect) (r : Rules) : Prop where
  behind : ∀ w ∈ columnWords d, Gives (Found P) (columnClauseAfter d r w)
  other : ∀ cls, P (.other cls)

/-! ## Entries -/

/-- A clause that was found begins with a token that is one of the words, and is read behind it; in a
column that of an index may be bare. -/
theorem clauseAmong?_eq_some {ws : List String} {inColumn : Bool} {cl : Clause} {c c' : Cursor}
    (h : clauseAmong? d r ws inColumn c = .ok (some cl, c')) :
    ∃ t rest start, c.rest = t :: rest ∧ t.kind ≠ .text ∧ t.capitals ∈ ws ∧
      (if inColumn && (t.capitals == "KEY" || t.capitals == "INDEX") then bareIndex? d r
        else columnClauseAfter d r t.capitals) start = .ok (some cl, c') := by
  obtain ⟨o, start, hword, h⟩ := bind_eq_ok_iff.mp (orBack_eq_some h)
  cases o with
  | none => cases (pure_eq_ok_iff.mp h).1
  | some w =>
    obtain ⟨t, rest, hrest, -, hkind, rfl, hmem⟩ := oneOf?_eq_some hword
    refine ⟨t, rest, start, hrest, hkind, hmem, ?_⟩
    dsimp only at h
    by_cases hbare : (inColumn && (t.capitals == "KEY" || t.capitals == "INDEX")) = true
    · rw [if_pos hbare] at h ⊢
      exact h
    · rw [if_neg hbare] at h ⊢
      obtain ⟨found, last, hread, h⟩ := bind_eq_ok_iff.mp h
      -- a clause that is missing was not found
      split at h
      · exact absurd h fail_ne_ok
      · obtain ⟨rfl, rfl⟩ := pure_eq_ok_iff.mp h
        exact hread

theorem clauseAmong?_gives (h : ClausesRead P d r) {ws : List String} (hws : ws ⊆ columnWords d) :
    Gives (Found P) (clauseAmong? d r ws false) := by
  rintro c (_ | cl) c' hread
  · exact found_none
  · obtain ⟨t, rest, start, -, -, hmem, hread⟩ := clauseAmong?_eq_some hread
    exact h.behind _ (hws hmem) _ _ _ hread

theorem tableClause?_gives (h : ClausesRead P d r) : Gives (Found P) (tableClause? d r) :=
  gives_bind fun _ => gives_ite (gives_pure found_none)
    (clauseAmong?_gives h fun _ hw => List.mem_append_left _ (List.mem_append_left _ hw))

theorem namedClause?_gives (h : ClausesRead P d r) : Gives (Found P) (namedClause? d r) := by
  have hnone : Gives (Found P) (pure none) := gives_pure found_none
  have hclause : Gives (Found P) (clauseAmong? d r (columnWords d) false) :=
    clauseAmong?_gives h (List.Subset.refl _)
  refine gives_bind fun quoted => gives_ite (hnone.bind ?_) (hclause.bind ?_)
  all_goals
    intro o ho
    cases o with
    | some c => exact gives_pure ho
    | none =>
      refine gives_bind fun t => gives_pure ?_
      cases t with
      | none => exact found_none
      | some t => exact found_some (h.other _)

/-- A clause about the table is an entry of its own. -/
theorem clauseEntry_gives (h : ClausesRead P d r) : Gives (Found (Entry.All P)) (do
    return (← tableClause? d r).map .clause) := by
  refine (tableClause?_gives h).bind fun o ho => gives_pure ?_
  cases o with
  | none => exact found_none
  | some c => exact found_some (ho c rfl)

theorem constraint?_gives (h : ClausesRead P d r) :
    Gives (Found (Entry.All P)) (constraint? d r) := by
  unfold constraint?
  refine gives_bind fun _ => gives_ite (gives_bind fun _ => gives_ite (clauseEntry_gives h)
    (gives_bind fun n => ?_)) (clauseEntry_gives h)
  refine (many_gives (namedClause?_gives h)).bind fun cs hcs => gives_ite (gives_fail _) ?_
  exact gives_pure (found_some hcs)

theorem listItem?_gives (h : ClausesRead P d r) : Gives (Found (Entry.All P)) (listItem? d r) := by
  unfold listItem?
  refine (constraint?_gives h).bind fun o ho => ?_
  cases o with
  | some e => exact gives_pure ho
  | none =>
    refine gives_bind fun o => gives_pure ?_
    cases o with
    | none => exact found_none
    | some t =>
      cases t with
      | inl t => exact found_some trivial
      | inr c => exact found_some trivial

/-- The clauses of the column lists that some rules read have a property. -/
def Rules.All (P : Clause → Prop) (r : Rules) : Prop :=
  Gives (Found fun es => ∀ e ∈ es, Entry.All P e) r.columns

theorem Rules.above_all (h : ClausesRead P d r) : (Rules.above d r).All P := by
  change Gives _ (columnList? d r)
  unfold columnList?
  refine gives_bind fun start => gives_bind fun _ => gives_ite (gives_bind fun _ => gives_ite ?_ ?_)
    (gives_pure found_none)
  · exact gives_bind fun _ => gives_pure found_none
  · exact (commaList_gives (listItem?_gives h)).bind fun es hes => gives_bind fun _ =>
      gives_pure (found_some hes)

/-- Below the deepest level nothing is read, and every other level is above one. -/
theorem Rules.levels_all (h : ∀ k, ClausesRead P d (Rules.levels d k)) (n : Nat) :
    (Rules.levels d n).All P := by
  cases n with
  | zero => exact gives_fail _
  | succ n => exact Rules.above_all (h n)

/-! ## Statements -/

theorem listedBody_gives (hr : r.All P) (kind : String) :
    Gives (Found fun s => (Statement.createTable s).All P) (listedBody d r kind) := by
  unfold listedBody
  dsimp only
  refine gives_bind fun path => gives_bind fun _ => gives_bind fun _ => hr.bind fun list hlist => ?_
  have hend : Gives (Found fun s => (Statement.createTable s).All P)
      (pure (list.map fun es => TableSchema.mk (tableName path) es)) := by
    cases list with
    | none => exact gives_pure found_none
    | some es => exact gives_pure (found_some (hlist es rfl))
  repeat' first
    | exact hend
    | refine gives_bind fun _ => ?_
    | with_reducible refine gives_when ?_
    | with_reducible refine gives_unless ?_
    | with_reducible refine gives_either ?_
    | refine gives_ite ?_ ?_

/-- Only after `CREATE` can a table stand; what follows another word gives a class. -/
theorem statementAfter_gives (hr : r.All P) (start : Cursor) (k : Keyword) :
    Gives (Statement.All P) (statementAfter d r start k) := by
  have hcommand : Gives (Statement.All P) asCommand := asCommand_gives trivial
  have hcreate : Gives (Statement.All P) (createAfter d r) :=
    createAfter_gives (fun _ => trivial) trivial (listedBody_gives hr)
  unfold statementAfter
  split
  all_goals
    try with_reducible exact hcreate
    -- each of the other rules ends in a class or in a command, whatever it reads on the way
    try delta alterAfter analyzeAfter beginAfter cacheAfter commentAfter deleteAfter
    try delta describeAfter dropAfter endAfter grantAfter insertAfter mergeAfter pivotAfter
    try delta callStatement showAfter truncateAfter uncacheAfter updateAfter useAfter orCommand
    try dsimp only
    repeat' first
      | exact gives_pure trivial
      | with_reducible exact hcommand
      | with_reducible exact gives_fail _
      | refine gives_bind fun _ => ?_
      | with_reducible refine gives_when ?_
      | with_reducible refine gives_unless ?_
      | with_reducible refine gives_either ?_
      | refine gives_ite ?_ ?_
      | split

theorem termStatement?_gives : Gives (Found (Statement.All P)) (termStatement? d r) := by
  refine gives_bind fun first => ?_
  cases first
  all_goals
    refine gives_bind fun t => ?_
    cases t with
    | none => exact gives_pure found_none
    | some t => exact gives_bind fun _ => gives_pure (found_some trivial)

theorem statement?_gives (hr : r.All P) : Gives (Found (Statement.All P)) (statement? d r) := by
  refine gives_bind fun start => gives_bind fun t => ?_
  cases t with
  | none => exact gives_pure found_none
  | some t =>
    dsimp only
    split
    · refine gives_ite (gives_bind fun _ => ?_)
        (gives_ite (gives_bind fun _ => ?_) termStatement?_gives)
      · exact (asCommand_gives trivial).bind fun s hs => gives_pure (found_some hs)
      · exact (statementAfter_gives hr start _).bind fun s hs => gives_pure (found_some hs)
    · exact gives_bind fun _ => gives_pure (found_some trivial)
    · exact termStatement?_gives

theorem firstStatement?_gives (hr : r.All P) :
    Gives (Found (Statement.All P)) (firstStatement? d r) := by
  have hcommand : Gives (Found (Statement.All P)) (do return some (← asCommand)) :=
    (asCommand_gives trivial).bind fun s hs => gives_pure (found_some hs)
  exact gives_bind fun conditional => gives_bind fun second =>
    gives_ite hcommand (statement?_gives hr)

/-! ## Texts -/

/-- A text that is read as a statement holds one that is read as it. -/
theorem readStatement_of_parse {sql : String} {s : Statement} (h : parse d sql = .ok (some s)) :
    ∃ ts, readStatement d ts = .ok (some s) := by
  unfold parse at h
  cases htokens : tokens d sql with
  | error e => rw [htokens] at h; cases h
  | ok ts =>
    rw [htokens] at h
    change (((cutStatements ts).mapM (readStatement d)).mapError Fault.syntactic >>=
      fun ss => pure (ss.findSome? id)) = _ at h
    cases hread : (cutStatements ts).mapM (readStatement d) with
    | error e => rw [hread] at h; cases h
    | ok ss =>
      rw [hread] at h
      have hfound : ss.findSome? id = some s := Except.ok.inj h
      obtain ⟨o, ho, hos⟩ := List.exists_of_findSome?_eq_some hfound
      have hos : o = some s := hos
      have hmem : Except.ok o ∈ (cutStatements ts).map (readStatement d) := by
        rw [map_eq_of_mapM hread]
        exact List.mem_map_of_mem ho
      obtain ⟨us, -, hus⟩ := List.mem_map.mp hmem
      exact ⟨us, by rw [hus, hos]⟩

/-- The clauses of the table that a text declares have every property that clauses are read with. -/
theorem parse_all (h : ∀ k, ClausesRead P d (Rules.levels d k)) {sql : String} {s : TableSchema}
    (hparse : parse d sql = .ok (some (.createTable s))) : s.All P := by
  obtain ⟨ts, hts⟩ := readStatement_of_parse hparse
  obtain ⟨c, hread⟩ := firstStatement?_of_readStatement hts
  exact firstStatement?_gives (Rules.levels_all h _) _ _ _ hread _ rfl

end TableDoc.Sql
