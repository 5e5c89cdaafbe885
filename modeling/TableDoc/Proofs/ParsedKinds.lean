import TableDoc.Proofs.ParsedClauses

/-!
# The kinds of parsed indexes

The grammar tells the kind of an index by one of two words or by none, and no statement declares a
table with an index of any other kind.

* **clauses** — what a clause declares is known from its word (`columnClauseAfter_gives`), which is
  the token that the clause begins with (`readFrom_of_clauseAmong?`), in no quotes where the clause
  is about a table (`tableClause?_eq_some`, `namedClause?_eq_some`);
* **tables** — the kinds are known of every clause about a table, and with that of its indexes
  (`parse_known`).
-/

namespace TableDoc.Sql

open Reader

/-! ## Known kinds -/

/-- The words for the kinds of index that the grammar tells apart. -/
def kindWords : List String := ["FULLTEXT", "SPATIAL"]

/-- What a clause that begins with a word, in capitals, may declare. -/
def Clause.ReadFrom (w : String) : Clause → Prop
  | .primaryKey _ => w = "PRIMARY KEY"
  | .uniqueKey _ _ => w = "UNIQUE"
  | .index kind _ _ => kind = some w ∧ w ∈ kindWords ∨ kind = none ∧ w ∈ ["INDEX", "KEY"]
  | .default _ _ => w = "DEFAULT"
  | _ => True

/-- An index, if the clause declares one, is of a known kind or of none. -/
def Clause.Known : Clause → Prop
  | .index kind _ _ => ∀ w ∈ kind, w ∈ kindWords
  | _ => True

theorem Clause.ReadFrom.known {w : String} {c : Clause} (h : c.ReadFrom w) : c.Known := by
  cases c with
  | index kind n members =>
    rcases h with ⟨rfl, hw⟩ | ⟨rfl, -⟩
    · intro v hv
      cases hv
      exact hw
    · exact fun v hv => nomatch hv
  | _ => trivial

/-- The indexes that an entry declares are of known kinds. -/
def Entry.Known (e : Entry) : Prop := e.All Clause.Known

/-- The indexes that a table declares are of known kinds. -/
def TableSchema.Known (s : TableSchema) : Prop := s.All Clause.Known

/-! ## Clauses -/

variable {d : Dialect} {r : Rules} {w : String}

theorem indexAfter_gives {kind : Option String}
    (h : ∀ n members, (Clause.index kind n members).ReadFrom w) :
    Gives (Clause.ReadFrom w) (indexAfter d r kind) := by
  unfold indexAfter
  dsimp only
  -- the name may be missing, and so may the word for the method
  have hend : ∀ n, Gives (Clause.ReadFrom w) (do
      let members ← wrappedList (keyMember? r)
      indexOptions d
      return .index kind n members) :=
    fun n => gives_bind fun members => gives_bind fun _ => gives_pure (h n members)
  exact gives_when (gives_bind fun _ => gives_ite
    (gives_bind fun n => gives_bind fun _ => gives_when (hend n))
    (gives_bind fun n => gives_bind fun _ => gives_when (hend n)))

theorem orderedUnique_gives : Gives (Clause.ReadFrom "UNIQUE") (orderedUnique d r) := by
  unfold orderedUnique
  dsimp only
  refine gives_bind fun _ => gives_bind fun n => gives_bind fun _ => gives_when
    (gives_bind fun _ => gives_ite ?_ (gives_pure trivial))
  exact gives_bind fun _ => gives_bind fun _ => gives_pure rfl

theorem listedUnique_gives : Gives (Clause.ReadFrom "UNIQUE") (listedUnique d r) := by
  refine gives_bind fun _ => gives_bind fun list => gives_bind fun _ => gives_bind fun _ => ?_
  cases list with
  | none => exact gives_pure trivial
  | some es => exact gives_pure rfl

theorem uniqueAfter_gives : Gives (Clause.ReadFrom "UNIQUE") (uniqueAfter d r) := by
  cases d with
  | mysql => exact orderedUnique_gives
  | postgres => exact listedUnique_gives

theorem primaryAfter_gives : Gives (Clause.ReadFrom "PRIMARY KEY") (primaryAfter d r) := by
  unfold primaryAfter
  dsimp only
  refine gives_bind fun _ => gives_bind fun _ => gives_when (gives_bind fun _ => gives_ite
    (gives_bind fun _ => gives_pure rfl) (gives_bind fun _ => gives_ite ?_ ?_))
  · exact gives_bind fun _ => gives_bind fun _ => gives_pure trivial
  · exact gives_pure trivial

theorem foreignAfter_gives : Gives (Clause.ReadFrom w) (foreignAfter d r) := by
  unfold foreignAfter
  dsimp only
  refine gives_bind fun _ => gives_when (gives_bind fun _ => gives_unless (gives_bind fun _ =>
    gives_when ?_))
  exact gives_bind fun _ => gives_pure trivial

theorem checkAfter_gives : Gives (Clause.ReadFrom w) (checkAfter r) :=
  gives_bind fun _ => gives_bind fun _ => gives_pure trivial

theorem countedAfter_gives : Gives (Clause.ReadFrom w) (countedAfter r) := by
  unfold countedAfter
  dsimp only
  have hend : ∀ bounds : List Term, Gives (Clause.ReadFrom w) (do
      let order ← oneOf? ["ORDER", "NOORDER"]
      return if bounds.isEmpty && order.isNone then .autoIncrement else .identity) :=
    fun bounds => gives_bind fun order => gives_pure (by split <;> trivial)
  refine gives_bind fun _ => gives_ite (gives_bind hend) (gives_bind fun _ => gives_ite ?_ ?_)
  · exact gives_bind fun _ => gives_bind fun _ => gives_bind fun _ => gives_bind hend
  · exact gives_bind hend

theorem generatedAfter_gives : Gives (Clause.ReadFrom w) (generatedAfter d r) := by
  unfold generatedAfter
  dsimp only
  have hend : ∀ row computed : Bool, Gives (Clause.ReadFrom w) (do
      if ← accept fun t => t.isWord "STORED" || (d == .mysql && t.isWord "VIRTUAL") then
        if computed then return .other "computedcolumnconstraint" else fail (.missing "expression")
      else return if row then .other "generatedasrowcolumnconstraint" else .identity) :=
    fun row computed => gives_bind fun _ => gives_ite
      (gives_ite (gives_pure trivial) (gives_fail _)) (gives_pure (by split <;> trivial))
  refine gives_bind fun _ => gives_either (gives_bind fun _ => gives_bind fun row => gives_ite
    (gives_bind fun _ => gives_unless ?_) ?_)
  · exact gives_bind fun _ => gives_bind (hend row)
  · exact gives_bind fun _ => gives_bind (hend row)

theorem notAfter?_gives : Gives (Found (Clause.ReadFrom w)) notAfter? :=
  gives_bind fun _ => gives_ite (gives_pure (found_some trivial)) (gives_bind fun _ =>
    gives_ite (gives_pure (found_some trivial)) (gives_bind fun _ =>
      gives_ite (gives_pure (found_some trivial)) (gives_pure found_none)))

theorem onAfter_gives : Gives (Clause.ReadFrom w) (onAfter d r) :=
  gives_bind fun _ => gives_ite (gives_bind fun _ => gives_pure trivial)
    (gives_bind fun _ => gives_pure trivial)

theorem cutBy?_gives (cls : String) : Gives (Found (Clause.ReadFrom w)) (cutBy? d r cls) :=
  gives_bind fun _ => gives_ite
    (gives_bind fun _ => gives_ite (gives_fail _) (gives_pure (found_some trivial)))
    (gives_pure found_none)

theorem defaultAfter_gives : Gives (Clause.ReadFrom "DEFAULT") (defaultAfter r) :=
  gives_bind fun _ => gives_bind fun _ => gives_bind fun _ => gives_pure rfl

/-- A clause that is read whole is found with what the reader gives. -/
theorem found_gives {P : Clause → Prop} {p : Reader Clause} (h : Gives P p) :
    Gives (Found P) (do return some (← p)) :=
  h.bind fun _ hc => gives_pure (found_some hc)

theorem columnClauseAfter_gives (w : String) :
    Gives (Found (Clause.ReadFrom w)) (columnClauseAfter d r w) := by
  unfold columnClauseAfter
  dsimp only
  split
  all_goals
    first
      | with_reducible exact found_gives (indexAfter_gives fun _ _ => by simp [Clause.ReadFrom, kindWords])
      | with_reducible exact found_gives uniqueAfter_gives
      | with_reducible exact found_gives primaryAfter_gives
      | with_reducible exact found_gives foreignAfter_gives
      | with_reducible exact found_gives checkAfter_gives
      | with_reducible exact found_gives countedAfter_gives
      | with_reducible exact found_gives generatedAfter_gives
      | with_reducible exact found_gives defaultAfter_gives
      | with_reducible exact found_gives onAfter_gives
      | with_reducible exact notAfter?_gives
      | with_reducible exact cutBy?_gives _
      | skip
  -- every other word leads to a clause that declares no index
  all_goals
    repeat' first
      | exact gives_pure (found_some trivial)
      | exact gives_pure found_none
      | refine gives_bind fun _ => ?_
      | refine gives_ite ?_ ?_
      | split

theorem bareIndex?_gives (hw : w ∈ ["INDEX", "KEY"]) :
    Gives (Found (Clause.ReadFrom w)) (bareIndex? d r) := by
  refine (attempt_gives (found_gives (indexAfter_gives fun _ _ => .inr ⟨rfl, hw⟩))).bind
    fun o ho => ?_
  cases o with
  | none => exact gives_pure (found_some trivial)
  | some c => exact gives_pure ho

/-- A clause that was found begins with an unquoted token that is its word. -/
theorem readFrom_of_clauseAmong? {ws : List String} {inColumn : Bool} {cl : Clause} {c c' : Cursor}
    (h : clauseAmong? d r ws inColumn c = .ok (some cl, c')) :
    ∃ t rest, c.rest = t :: rest ∧ t.kind ≠ .text ∧ cl.ReadFrom t.capitals := by
  obtain ⟨t, rest, start, hrest, hkind, -, hread⟩ := clauseAmong?_eq_some h
  refine ⟨t, rest, hrest, hkind, ?_⟩
  by_cases hbare : (inColumn && (t.capitals == "KEY" || t.capitals == "INDEX")) = true
  · rw [if_pos hbare] at hread
    simp only [Bool.and_eq_true, Bool.or_eq_true, beq_iff_eq] at hbare
    exact bareIndex?_gives (by simpa [or_comm] using hbare.2) _ _ _ hread cl rfl
  · rw [if_neg hbare] at hread
    exact columnClauseAfter_gives _ _ _ _ hread cl rfl

/-- A clause is read from its word on, which stands in no quotes. -/
def Clause.BeginsAt (cl : Clause) (ts : List Token) : Prop :=
  ∃ w rest, ts = w :: rest ∧ w.isQuoted = false ∧ cl.ReadFrom w.capitals

theorem beginsAt_of_clauseAmong? {cl : Clause} {ws : List String} {inColumn : Bool} {c c' : Cursor}
    (hquoted : c.rest.head?.any (·.kind == .quotedName) = false)
    (h : clauseAmong? d r ws inColumn c = .ok (some cl, c')) : cl.BeginsAt c.rest := by
  obtain ⟨w, rest, hrest, htext, hread⟩ := readFrom_of_clauseAmong? h
  rw [hrest] at hquoted ⊢
  exact ⟨w, rest, rfl, by simpa [Token.isQuoted, htext] using hquoted, hread⟩

theorem tableClause?_eq_some {cl : Clause} {c c' : Cursor}
    (h : tableClause? d r c = .ok (some cl, c')) : cl.BeginsAt c.rest := by
  obtain ⟨quoted, between, hsees, h⟩ := bind_eq_ok_iff.mp h
  obtain ⟨hquoted, rfl⟩ := sees_eq_ok_iff.mp hsees
  cases quoted with
  | true => cases (pure_eq_ok_iff.mp h).1
  | false => exact beginsAt_of_clauseAmong? hquoted h

/-- A call may stand for a clause, but it declares nothing. -/
theorem namedClause?_eq_some {cl : Clause} {c c' : Cursor}
    (h : namedClause? d r c = .ok (some cl, c')) :
    cl.BeginsAt c.rest ∨ ∃ cls, cl = .other cls := by
  obtain ⟨quoted, between, hsees, h⟩ := bind_eq_ok_iff.mp h
  obtain ⟨hquoted, rfl⟩ := sees_eq_ok_iff.mp hsees
  have hcall : ∀ {start : Cursor}, (do
      return (← call? d r {}).map fun t => Clause.other t.className : Reader (Option Clause))
        start = .ok (some cl, c') → ∃ cls, cl = .other cls := by
    intro start h
    obtain ⟨t, later, -, h⟩ := bind_eq_ok_iff.mp h
    cases t with
    | none => cases (pure_eq_ok_iff.mp h).1
    | some t => exact ⟨_, (Option.some.inj (pure_eq_ok_iff.mp h).1).symm⟩
  cases quoted with
  | true =>
    obtain ⟨o, between, hnone, h⟩ := bind_eq_ok_iff.mp h
    obtain ⟨rfl, -⟩ := pure_eq_ok_iff.mp hnone
    exact .inr (hcall h)
  | false =>
    obtain ⟨o, between, hclause, h⟩ := bind_eq_ok_iff.mp h
    cases o with
    | none => exact .inr (hcall h)
    | some found =>
      cases (pure_eq_ok_iff.mp h).1
      exact .inl (beginsAt_of_clauseAmong? hquoted hclause)

/-! ## Tables -/

/-- Every clause about a table is of a known kind. -/
theorem clausesRead_known : ClausesRead Clause.Known d r where
  behind w _ := fun c o c' hread cl hcl => (columnClauseAfter_gives w c o c' hread cl hcl).known
  other _ := trivial

/-- The table that a text declares has only indexes of known kinds. -/
theorem parse_known {sql : String} {s : TableSchema}
    (h : parse d sql = .ok (some (.createTable s))) : s.Known :=
  parse_all (fun _ => clausesRead_known) h

end TableDoc.Sql
