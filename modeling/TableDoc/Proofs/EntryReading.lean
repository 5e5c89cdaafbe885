import TableDoc.Extraction
import TableDoc.Proofs.ParsedKinds

/-!
# How entries begin

What the grammar found tells how the tokens that it read begin.

* **entries** — before the first clause stands nothing, `CONSTRAINT`, or `CONSTRAINT` and a name
  (`constraint?_eq_some`), which is one token unless a sign begins it (`anyName?_eq_some`);
* **indexes** — only such an entry declares an index (`listItem?_eq_some`), and its first clause the
  only one if it declares any (`Entry.index?_first`).
-/

namespace TableDoc.Sql

open Reader

variable {d : Dialect} {r : Rules} {table : String} {index : IndexSpec}

/-! ## Entries -/

/-- An entry begins with the word of its clause, with `CONSTRAINT` before it, or with a name between
the two. -/
theorem constraint?_eq_some {e : Entry} {c c' : Cursor}
    (h : constraint? d r c = .ok (some e, c')) :
    (∃ cl, e = .clause cl ∧ (cl.BeginsAt c.rest ∨
        ∃ t rest, c.rest = t :: rest ∧ t.isKeyword .constraint = true ∧ cl.BeginsAt rest)) ∨
      ∃ t rest n between cs, c.rest = t :: rest ∧ t.isKeyword .constraint = true ∧
        anyName? ⟨some t, rest⟩ = .ok (some n, between) ∧
        many (namedClause? d r) between = .ok (cs, c') ∧ e = .constraint n.label cs := by
  have hclause : ∀ {start : Cursor}, (do
      return (← tableClause? d r).map Entry.clause : Reader (Option Entry)) start =
        .ok (some e, c') → ∃ cl, e = .clause cl ∧ cl.BeginsAt start.rest := by
    intro start h
    obtain ⟨o, between, hclause, h⟩ := bind_eq_ok_iff.mp h
    cases o with
    | none => cases (pure_eq_ok_iff.mp h).1
    | some cl =>
      cases (pure_eq_ok_iff.mp h).1
      exact ⟨cl, rfl, tableClause?_eq_some hclause⟩
  -- with the keyword taken or not, and with a name behind it or not
  obtain ⟨b, between, haccept, hread⟩ := bind_eq_ok_iff.mp h
  rcases accept_eq_ok haccept with ⟨rfl, t, rest, hrest, ht, rfl⟩ | ⟨rfl, -, rfl⟩
  · obtain ⟨unnamed, between, hsees, h⟩ := bind_eq_ok_iff.mp hread
    obtain ⟨-, rfl⟩ := sees_eq_ok_iff.mp hsees
    cases unnamed with
    | true =>
      obtain ⟨cl, he, hbegins⟩ := hclause h
      exact .inl ⟨cl, he, .inr ⟨t, rest, hrest, ht, hbegins⟩⟩
    | false =>
      obtain ⟨n, named, hname, h⟩ := bind_eq_ok_iff.mp h
      obtain ⟨cs, last, hmany, h⟩ := bind_eq_ok_iff.mp h
      by_cases hempty : cs.isEmpty = true
      · rw [if_pos hempty] at h
        exact absurd h fail_ne_ok
      · rw [if_neg hempty] at h
        obtain ⟨he, rfl⟩ := pure_eq_ok_iff.mp h
        exact .inr ⟨t, rest, n, named, cs, hrest, ht, required_eq_ok hname, hmany,
          (Option.some.inj he).symm⟩
  · obtain ⟨cl, he, hbegins⟩ := hclause hread
    exact .inl ⟨cl, he, .inl hbegins⟩

/-- An entry that declares an index is a clause or a constraint. -/
theorem listItem?_eq_some {e : Entry} {c c' : Cursor} (h : listItem? d r c = .ok (some e, c'))
    (hindexes : e.plainIndexes d table ≠ []) : constraint? d r c = .ok (some e, c') := by
  obtain ⟨o, between, hconstraint, h⟩ := bind_eq_ok_iff.mp h
  cases o with
  | some found =>
    obtain ⟨hfound, rfl⟩ := pure_eq_ok_iff.mp h
    rw [hconstraint, hfound]
  | none =>
    obtain ⟨o, later, -, h⟩ := bind_eq_ok_iff.mp h
    rcases o with _ | t | definition
    · cases (pure_eq_ok_iff.mp h).1
    all_goals
      cases (pure_eq_ok_iff.mp h).1
      exact absurd rfl hindexes

/-- No placeholder stands where no sign does. -/
theorem placeholder?_of_no_sign {c : Cursor} (h : ∀ s, c.rest.head?.any (·.isSign s) = false) :
    placeholder? c = .ok (none, c) := by
  have haccept : ∀ s, sign s c = .ok (false, c) := fun s => accept_of_not (h s)
  refine bind_eq_ok_iff.mpr ⟨c, c, rfl, bind_eq_ok_iff.mpr ⟨none, c, ?_, rfl⟩⟩
  refine bind_eq_ok_iff.mpr ⟨false, c, haccept .question, ?_⟩
  refine bind_eq_ok_iff.mpr ⟨false, c, haccept .colon, ?_⟩
  refine bind_eq_ok_iff.mpr ⟨false, c, haccept .percent, ?_⟩
  exact bind_eq_ok_iff.mpr ⟨false, c, haccept .at, rfl⟩

/-- A name that is no sign is one token. -/
theorem anyName?_eq_some {t : Token} {rest : List Token} {prev : Option Token} {n : Term}
    {c' : Cursor} (hsign : ∀ s, t.isSign s = false)
    (h : anyName? ⟨prev, t :: rest⟩ = .ok (some n, c')) : c' = ⟨some t, rest⟩ := by
  obtain ⟨o, between, hquoted, h⟩ := bind_eq_ok_iff.mp h
  obtain ⟨taken, later, htake, ho⟩ := bind_eq_ok_iff.mp hquoted
  obtain ⟨rfl, rfl⟩ := pure_eq_ok_iff.mp ho
  rcases take?_eq_ok htake with ⟨t', rest', hrest, -, rfl, rfl⟩ | ⟨-, rfl, rfl⟩
  -- a name in quotes
  · obtain ⟨rfl, rfl⟩ := List.cons.inj hrest
    exact (pure_eq_ok_iff.mp h).2.symm
  -- a word, for a placeholder begins with a sign
  · obtain ⟨o, between, hread, h⟩ := bind_eq_ok_iff.mp h
    have hnone : placeholder? ⟨prev, t :: rest⟩ = .ok (none, ⟨prev, t :: rest⟩) :=
      placeholder?_of_no_sign hsign
    cases hnone.symm.trans hread
    obtain ⟨taken, later, htake, ho⟩ := bind_eq_ok_iff.mp h
    obtain ⟨ho, rfl⟩ := pure_eq_ok_iff.mp ho
    rcases take?_eq_ok htake with ⟨t', rest', hrest, -, rfl, rfl⟩ | ⟨-, rfl, -⟩
    · obtain ⟨rfl, rfl⟩ := List.cons.inj hrest
      rfl
    · cases ho

/-! ## Indexes -/

/-- The clauses of an entry that is no column. -/
def Entry.clauses : Entry → List Clause
  | .clause cl => [cl]
  | .constraint _ cs => cs
  | _ => []

theorem Clause.index?_isSome (d : Dialect) (table : String) (cl : Clause) (n m : Option String) :
    (cl.index? d table n).isSome = (cl.index? d table m).isSome := by
  cases cl <;> rfl

/-- Where the first clause of an entry declares an index, it declares the one that the entry has. -/
theorem Entry.index?_first {e : Entry} {first : Clause} {others : List Clause}
    (hindexes : e.plainIndexes d table = [index]) (hclauses : e.clauses = first :: others)
    (hfirst : (first.index? d table none).isSome = true) :
    ∃ n, first.index? d table n = some index := by
  cases e with
  | clause cl =>
    obtain ⟨rfl, -⟩ := List.cons.inj hclauses
    exact ⟨none, by simpa [Entry.plainIndexes, Option.toList_eq_singleton_iff] using hindexes⟩
  | constraint n cs =>
    cases hclauses
    refine ⟨if n.isEmpty then none else some n, ?_⟩
    rw [first.index?_isSome d table none (if n.isEmpty then none else some n)] at hfirst
    obtain ⟨found, hfound⟩ := Option.isSome_iff_exists.mp hfirst
    change (first :: others).filterMap _ = [index] at hindexes
    rw [List.filterMap_cons_some hfound] at hindexes
    rw [hfound, (List.cons.inj hindexes).1]
  | _ => cases hclauses

end TableDoc.Sql
