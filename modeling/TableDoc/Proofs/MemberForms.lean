import TableDoc.Proofs.MemberNames

/-!
# Members in their written forms

What the reader of a member makes of a column that is written plainly, with the number of characters
that count behind it, with an order, or with both, up to where the list goes on or closes.

* **prefixes** — one dialect reads a name for the member wherever a number may follow
  (`memberPrefix_eq_some`), and else an operand with its order (`keyMember?_alone`);
* **ends** — nothing that a column definition goes on with stands behind a member (`Halts`), so what
  is no clause there is a term (`columnAfter_of_halts`);
* **items** — the other reads an entry of a column list, which is a clause for the words that begin
  one and a field for all others (`listItem?_of_name`).
-/

namespace TableDoc.Sql

open Reader

variable {d : Dialect} {r : Rules} {prev last : Option Token}
  {c opening number close next stop fence : Token} {u rest : List Token} {e : Cursor} {t v : Term}
  {en : Entry}

/-! ## Names and prefixes -/

/-- A name is the member, whatever follows it. -/
theorem memberPrefix_eq_some (h : WritesName d c)
    (hread : memberPrefix ⟨prev, c :: u⟩ = .ok (some t, e)) :
    t = .name ⟨c.text, c.kind == .quotedName⟩ := by
  have hname : anyName? ⟨prev, c :: u⟩ =
        .ok (some (.name ⟨c.text, c.kind == .quotedName⟩), ⟨some c, u⟩) ∨
      anyName? ⟨prev, c :: u⟩ = .ok (none, ⟨prev, c :: u⟩) := h.fieldName? prev u true
  unfold memberPrefix at hread
  rcases hname with hname | hname
  · simp only [bind_apply, hname, ok_bind] at hread
    obtain ⟨⟨sized, between⟩, -, hread⟩ := exists_of_bind hread
    cases sized with
    | true =>
      obtain ⟨_, _, -, hread⟩ := bind_eq_ok_iff.mp hread
      obtain ⟨_, _, -, hread⟩ := bind_eq_ok_iff.mp hread
      exact (Option.some.inj (pure_eq_ok_iff.mp hread).1).symm
    | false => exact (Option.some.inj (pure_eq_ok_iff.mp hread).1).symm
  · simp only [bind_apply, hname, ok_bind] at hread
    cases hread

/-- What is read with its order is the term without it. -/
theorem ordered?_eq_some {item : Reader (Option Term)} {start : Cursor}
    (hread : ordered? r item start = .ok (some t, e)) :
    ∃ a between, item start = .ok (some a, between) ∧ t.unordered = a := by
  obtain ⟨o, between, hitem, hread⟩ := bind_eq_ok_iff.mp hread
  cases o with
  | none => cases hread
  | some a =>
    refine ⟨a, between, hitem, ?_⟩
    obtain ⟨ascending, _, -, hread⟩ := bind_eq_ok_iff.mp hread
    obtain ⟨descending, _, -, hread⟩ := bind_eq_ok_iff.mp hread
    obtain ⟨first, _, -, hread⟩ := bind_eq_ok_iff.mp hread
    obtain ⟨last, _, -, hread⟩ := bind_eq_ok_iff.mp hread
    obtain ⟨filled, _, -, hread⟩ := bind_eq_ok_iff.mp hread
    cases filled with
    | true =>
      obtain ⟨_, _, -, hread⟩ := bind_eq_ok_iff.mp hread
      cases (pure_eq_ok_iff.mp hread).1
      rfl
    | false =>
      cases (pure_eq_ok_iff.mp hread).1
      rfl

/-- With a parenthesis behind it a name is read with the number of characters that count. -/
theorem keyMember?_of_parens (h : WritesName d c) (hopened : opening.kind = .sign .lParen)
    (hread : keyMember? r ⟨prev, c :: opening :: u⟩ = .ok (some t, e)) :
    t.unordered = .name ⟨c.text, c.kind == .quotedName⟩ := by
  have hopen : opening.isSign .lParen = true := by simp [Token.isSign, hopened]
  have hmember : ordered? r memberPrefix ⟨prev, c :: opening :: u⟩ = .ok (some t, e) := by
    simpa [keyMember?, h.isSign, hopen] using hread
  obtain ⟨a, between, hitem, ha⟩ := ordered?_eq_some hmember
  exact ha.trans (memberPrefix_eq_some h hitem)

/-- Without one it is read as an operand. -/
theorem keyMember?_eq_some (hnext : next.isSign .lParen = false)
    (hread : keyMember? r ⟨prev, c :: next :: u⟩ = .ok (some t, e)) :
    ∃ a between, r.disjunction ⟨prev, c :: next :: u⟩ = .ok (some a, between) ∧
      t.unordered = a := by
  have hmember : ordered? r r.disjunction ⟨prev, c :: next :: u⟩ = .ok (some t, e) := by
    simpa [keyMember?, hnext] using hread
  exact ordered?_eq_some hmember

/-- A name that stands alone, or with an order behind it, is listed as what it is alone. -/
theorem keyMember?_alone (h : WritesName d c) (hfence : Fences fence) (k : Nat)
    (hread : keyMember? (Rules.levels d k) ⟨prev, c :: fence :: rest⟩ = .ok (some t, e)) :
    t.unordered = asColumn (aloneTerm d c) ∧
      ∃ k', ReadAlone d (Rules.levels d k') c (fence :: rest) := by
  have hopen : fence.isSign .lParen = false := hfence.ends.isSign (by simp) (by simp)
  obtain ⟨a, between, hdisjunction, ha⟩ := keyMember?_eq_some hopen hread
  cases k with
  | zero => cases hdisjunction
  | succ k =>
    obtain ⟨rfl, -, halone⟩ :=
      disjunction?_of_ends h hfence.ends (quiet_of_fences hfence k) hdisjunction
    exact ⟨ha, k, halone⟩

theorem keyMember?_ordered {order : Token} {k' : Nat} {rest' : List Token} {fence' : Token}
    (h : WritesName d c) (horder : Orders order) (hname : WritesName d order)
    (hfence : Fences fence) (hfence' : Fences fence') (k : Nat)
    (halone : ReadAlone d (Rules.levels d k') c (fence' :: rest'))
    (hread : keyMember? (Rules.levels d k) ⟨prev, c :: order :: fence :: rest⟩ =
      .ok (some t, e)) :
    t.unordered = asColumn (aloneTerm d c) := by
  have hopen : order.isSign .lParen = false := horder.ends.isSign (by simp) (by simp)
  obtain ⟨a, between, hdisjunction, ha⟩ := keyMember?_eq_some hopen hread
  cases k with
  | zero => cases hdisjunction
  | succ k =>
    have hquiet : Quiet d (Rules.levels d k) c (order :: fence :: rest) :=
      quiet_of_orders horder hname hfence k halone.negation halone.bytes
        (forms_of_formsEmpty hfence' k' halone.form)
    obtain ⟨rfl, -, -⟩ := disjunction?_of_ends h horder.ends hquiet hdisjunction
    exact ha

/-! ## Items -/

/-- The words that begin a clause where a name could stand alone. -/
def itemWords : List String :=
  ["CHECK", "EXCLUDE", "FOREIGN KEY", "LIKE", "PRIMARY KEY", "UNIQUE"]

/-- Whether a name is taken for the word that begins a clause. -/
def BeginsClause (c : Token) : Prop := c.kind ≠ .quotedName ∧ c.capitals ∈ itemWords

/-- After its word such a clause is read, or reading stops with a fault. -/
theorem columnClauseAfter_isSome {w : String} {o : Option Clause} {start : Cursor}
    (hw : w ∈ itemWords) (hread : columnClauseAfter d r w start = .ok (o, e)) :
    o.isSome = true := by
  have hsome : ∀ {R : Reader Clause} {start : Cursor},
      (do return some (← R) : Reader (Option Clause)) start = .ok (o, e) → o.isSome = true := by
    intro R start h
    obtain ⟨cl, between, -, h⟩ := bind_eq_ok_iff.mp h
    rw [← (pure_eq_ok_iff.mp h).1]
    rfl
  simp only [itemWords, List.mem_cons, List.not_mem_nil, or_false] at hw
  rcases hw with rfl | rfl | rfl | rfl | rfl | rfl
  · exact hsome hread
  · obtain ⟨_, _, -, hread⟩ := bind_eq_ok_iff.mp hread
    rw [← (pure_eq_ok_iff.mp hread).1]
    rfl
  · exact hsome hread
  · obtain ⟨_, _, -, hread⟩ := bind_eq_ok_iff.mp hread
    rw [← (pure_eq_ok_iff.mp hread).1]
    rfl
  · exact hsome hread
  · exact hsome hread

/-- A name begins a clause about the table or leaves all as it is. -/
theorem tableClause?_of_name (h : WritesName .postgres c) (hnext : next.isWord "FOR" = false)
    (hcut : ∀ cls, cutBy? .postgres r cls ⟨some c, next :: rest⟩ =
        .ok (none, ⟨some c, next :: rest⟩) ∨
      ∃ f, cutBy? .postgres r cls ⟨some c, next :: rest⟩ = .error f) {o : Option Clause}
    (hread : tableClause? .postgres r ⟨prev, c :: next :: rest⟩ = .ok (o, e)) :
    (o.isSome = true ∧ BeginsClause c) ∨
      (o = none ∧ e = ⟨prev, c :: next :: rest⟩ ∧ ¬BeginsClause c) := by
  have hperiod : words ["FOR", "SYSTEM_TIME"] ⟨some c, next :: rest⟩ =
      .ok (false, ⟨some c, next :: rest⟩) := words_of_not _ hnext
  unfold tableClause? at hread
  simp only [bind_apply, sees_cons, ok_bind] at hread
  by_cases hquoted : c.kind = .quotedName
  · simp [hquoted] at hread
    exact .inr ⟨hread.1.symm, hread.2.symm, fun hclause => hclause.1 hquoted⟩
  rw [if_neg (by simpa using hquoted)] at hread
  have hfirst : c.capitals ∈ tableWords .postgres → oneOf? (tableWords .postgres)
      ⟨prev, c :: next :: rest⟩ = .ok (some c.capitals, ⟨some c, next :: rest⟩) := by
    intro hmem
    simp [oneOf?, h.kind_ne_text, hmem]
  cases o with
  | some cl =>
    refine .inl ⟨rfl, hquoted, ?_⟩
    have hbody := orBack_eq_some hread
    by_cases hmem : c.capitals ∈ tableWords .postgres
    · simp only [bind_apply, hfirst hmem, ok_bind, Bool.false_and, Bool.and_false,
        Bool.false_eq_true, if_false] at hbody
      obtain ⟨⟨found, between⟩, hclause, hbody⟩ := exists_of_bind hbody
      cases hbody
      refine Decidable.byContradiction fun hnot => ?_
      -- the other words of a table need more than what follows here
      have hother : c.capitals = "BUCKET" ∨ c.capitals = "PERIOD" ∨ c.capitals = "TRUNCATE" := by
        simp [tableWords] at hmem
        simp [itemWords] at hnot
        grind
      rcases hother with hword | hword | hword <;> rw [hword] at hclause
      · rcases hcut "partitionedbybucket" with hr | ⟨f, hr⟩ <;> cases hr.symm.trans hclause
      · obtain ⟨system, later, hsystem, hclause⟩ := bind_eq_ok_iff.mp hclause
        cases hperiod.symm.trans hsystem
        cases hclause
      · rcases hcut "partitionbytruncate" with hr | ⟨f, hr⟩ <;> cases hr.symm.trans hclause
    · simp [oneOf?_of_not hmem] at hbody
  | none =>
    obtain ⟨rfl, between, hbody⟩ := orBack_eq_none hread
    refine .inr ⟨rfl, rfl, fun hclause => ?_⟩
    have hmem : c.capitals ∈ tableWords .postgres :=
      (by decide : itemWords ⊆ tableWords .postgres) hclause.2
    simp only [bind_apply, hfirst hmem, ok_bind, Bool.false_and, Bool.and_false,
      Bool.false_eq_true, if_false] at hbody
    obtain ⟨⟨found, between⟩, hfound, hbody⟩ := exists_of_bind hbody
    cases hbody
    exact absurd (columnClauseAfter_isSome hclause.2 hfound) (by simp)

/-- A cut by a function of a column has more arguments than a number. -/
theorem cutBy?_of_parens (hparens : Parenthesized opening number close) (cls : String) :
    ∃ f, cutBy? d r cls ⟨prev, opening :: number :: close :: rest⟩ = .error f := by
  have hopen : opening.isSign .lParen = true := by simp [Token.isSign, hparens.opened]
  have hcounts := hparens.counts
  have hprimary : primary? d r ⟨some opening, number :: close :: rest⟩ =
      .ok (some (.number number.text), ⟨some number, close :: rest⟩) := by
    simp [primary?, literal?, singleLiteral?, tokenLiteral?, hcounts.kind]
  have hlist : commaList (firstOf [primary? d r, r.column])
      ⟨some opening, number :: close :: rest⟩ =
        .ok ([.number number.text], ⟨some number, close :: rest⟩) :=
    commaList_of_one (by simp [firstOf, hprimary]) hcounts.isSign_comma
  exact ⟨.missing "argument",
    by simp [cutBy?, wrappedList, wrapped, must, sign, hopen, hlist, hcounts.closing]⟩

/-! ## What follows a column -/

/-- A token that no column definition goes on with: a sign of the list, or the word for an order. -/
structure Halts (t : Token) : Prop where
  kind : t.kind ∈ TokenKind.sign .lParen :: endKinds
  capitals : t.capitals ∈ ["(", ")", ",", "ASC", "DESC"]

namespace Halts

theorem kind_ne (h : Halts next) {k : TokenKind} (hk : k ∉ TokenKind.sign .lParen :: endKinds) :
    next.kind ≠ k := fun he => hk (he ▸ h.kind)

theorem isKeyword (h : Halts next) {k : Keyword} (hasc : k ≠ .asc) (hdesc : k ≠ .desc) :
    next.isKeyword k = false := by
  have hne : next.kind ≠ .keyword k := h.kind_ne (by simp [endKinds, hasc, hdesc])
  simpa [Token.isKeyword] using hne

theorem isWord (h : Halts next) {w : String} (hw : w ∉ ["(", ")", ",", "ASC", "DESC"]) :
    next.isWord w = false := by
  have hne : next.capitals ≠ w := fun he => hw (he ▸ h.capitals)
  simp [Token.isWord, hne]

theorem not_mem (h : Halts next) {ws : List String}
    (hws : ws.all fun w => !(["(", ")", ",", "ASC", "DESC"].contains w)) : next.capitals ∉ ws := by
  intro hmem
  have hnot := List.all_eq_true.mp hws _ hmem
  simp [h.capitals] at hnot

theorem dataType (h : Halts next) (p : TypePlace) :
    dataType d r p ⟨prev, next :: rest⟩ = .ok (none, ⟨prev, next :: rest⟩) := by
  have hkind := h.kind
  simp only [endKinds, List.mem_cons, List.not_mem_nil, or_false] at hkind
  have htype : next.typeName? d = none := by
    rcases hkind with hkind | hkind | hkind | hkind | hkind <;> simp [Token.typeName?, hkind]
  refine dataType_of_no_type htype (h.kind_ne (by simp [endKinds])) (h.kind_ne (by simp [endKinds]))
    (h.isWord (by simp)) (fun s hs => ?_) p
  rcases hkind with hkind | hkind | hkind | hkind | hkind <;>
    (simp at hs; rcases hs with rfl | rfl | rfl | rfl <;> simp [Token.isSign, hkind])

end Halts

theorem Fences.halts (h : Fences fence) : Halts fence where
  kind := List.mem_cons_of_mem _ h.ends.kind
  capitals := h.ends.capitals

theorem Orders.halts {order : Token} (h : Orders order) : Halts order where
  kind := List.mem_cons_of_mem _ h.ends.kind
  capitals := h.ends.capitals

theorem Parenthesized.halts (h : Parenthesized opening number close) : Halts opening where
  kind := by simp [h.opened]
  capitals := List.mem_append_left ["ASC", "DESC"] h.spelled

/-- No clause of a column begins here. -/
theorem columnClause?_of_halts (h : Halts next) :
    columnClause? d r ⟨prev, next :: rest⟩ = .ok (none, ⟨prev, next :: rest⟩) := by
  have hwords : next.capitals ∉ columnWords d :=
    h.not_mem (by cases d <;> decide)
  have hclause : clauseAmong? d r (columnWords d) true ⟨prev, next :: rest⟩ =
      .ok (none, ⟨prev, next :: rest⟩) :=
    orBack_of_none (show _ = Except.ok (none, ⟨prev, next :: rest⟩) by simp [oneOf?_of_not hwords])
  simp [columnClause?, keyword, h.isKeyword, hclause]

/-- Where no definition goes on, a term stands alone. -/
theorem columnAfter_of_halts (h : Halts next) (k : Nat) (n : Option Term) {o e}
    (hread : columnAfter d (Rules.levels d k) n ⟨prev, next :: rest⟩ = .ok (o, e)) :
    o = n.map .inl ∧ e = ⟨prev, next :: rest⟩ := by
  have hordinality : words ["FOR", "ORDINALITY"] ⟨prev, next :: rest⟩ =
      .ok (false, ⟨prev, next :: rest⟩) := words_of_not _ (h.isWord (by simp))
  have hcomputed : computed? (Rules.levels d k) false ⟨prev, next :: rest⟩ =
      .ok (none, ⟨prev, next :: rest⟩) := by
    have hwords : next.capitals ∉ ["ALIAS", "MATERIALIZED"] := h.not_mem (by decide)
    simp [computed?, h.isKeyword, oneOf?_of_not hwords]
  have hdirection : direction? (Rules.levels d k) ⟨prev, next :: rest⟩ =
      .ok (none, ⟨prev, next :: rest⟩) := by
    simp [direction?, h.isKeyword]
  have hclauses : many (columnClause? d (Rules.levels d k)) ⟨prev, next :: rest⟩ =
      .ok ([], ⟨prev, next :: rest⟩) := many_of_none (columnClause?_of_halts h)
  cases k with
  | zero => cases hread
  | succ k =>
    have htypes : (Rules.levels d (k + 1)).types ⟨false, true, true⟩ ⟨prev, next :: rest⟩ =
        .ok (none, ⟨prev, next :: rest⟩) := h.dataType _
    unfold columnAfter at hread
    simp [htypes, hordinality, hcomputed, hdirection, hclauses] at hread
    exact ⟨hread.1.symm, hread.2.symm⟩

/-- Without a name there is no definition. -/
theorem columnAfter_none {start : Cursor} {x : Term ⊕ ColumnDefinition} :
    columnAfter d r none start ≠ .ok (some x, e) := by
  intro hread
  obtain ⟨type, _, -, hread⟩ := bind_eq_ok_iff.mp hread
  obtain ⟨ordinality, _, -, hread⟩ := bind_eq_ok_iff.mp hread
  cases ordinality with
  | true => exact fail_ne_ok hread
  | false =>
    obtain ⟨first, _, -, hread⟩ := bind_eq_ok_iff.mp hread
    have hend : ∀ {directed : Option (Option Term)} {start : Cursor}, (do
        let clauses ← many (columnClause? d r)
        let type := (directed.getD none).or type
        if type.isNone && first.isNone && directed.isNone && clauses.isEmpty then
          return (none : Option Term).map .inl
        else
          columnPlace r
          fail (.missing "column name") : Reader (Option (Term ⊕ ColumnDefinition))) start ≠
            .ok (some x, e) := by
      intro directed start hread
      obtain ⟨clauses, _, -, hread⟩ := bind_eq_ok_iff.mp hread
      split at hread
      · cases (pure_eq_ok_iff.mp hread).1
      · obtain ⟨_, _, -, hread⟩ := bind_eq_ok_iff.mp hread
        exact fail_ne_ok hread
    split at hread
    all_goals
      obtain ⟨directed, _, -, hread⟩ := bind_eq_ok_iff.mp hread
      exact hend hread

/-! ## Entries -/

/-- The keyword before a name needs one, and something that it names. -/
theorem constraint_ne_of_fences (hfence : Fences fence)
    (hread : listItem? .postgres r ⟨prev, c :: fence :: rest⟩ = .ok (some en, e)) :
    c.isKeyword .constraint = false := by
  refine Bool.eq_false_iff.mpr fun hconstraint => ?_
  have hname : anyName? ⟨some c, fence :: rest⟩ = .ok (none, ⟨some c, fence :: rest⟩) :=
    hfence.nameOf? (by simp [hfence.isReserved])
  simp [listItem?, constraint?, keyword, hconstraint, seesUnnamed, required, hname] at hread

/-- An entry that begins with a name is a clause, for the words that begin one, or a term that is
read as a field. -/
theorem listItem?_of_name (h : WritesName .postgres c) (hnext : Halts next)
    (hcut : ∀ cls, cutBy? .postgres (Rules.levels .postgres k) cls ⟨some c, next :: rest⟩ =
        .ok (none, ⟨some c, next :: rest⟩) ∨
      ∃ f, cutBy? .postgres (Rules.levels .postgres k) cls ⟨some c, next :: rest⟩ = .error f)
    (hconstraint : c.isKeyword .constraint = false)
    (hfield : ∀ v between, field? .postgres (Rules.levels .postgres k) true
      ⟨prev, c :: next :: rest⟩ = .ok (some v, between) →
        ∃ p stop rest', between = ⟨p, stop :: rest'⟩ ∧ Halts stop)
    (hread : listItem? .postgres (Rules.levels .postgres k) ⟨prev, c :: next :: rest⟩ =
      .ok (some en, e)) :
    ((∃ cl, en = .clause cl) ∧ BeginsClause c) ∨
      (¬BeginsClause c ∧ ∃ v, en = .term v ∧
        field? .postgres (Rules.levels .postgres k) true ⟨prev, c :: next :: rest⟩ =
          .ok (some v, e)) := by
  obtain ⟨o, between, hclause, hread⟩ := bind_eq_ok_iff.mp hread
  simp only [constraint?, keyword, bind_apply, accept_cons, hconstraint, Bool.false_eq_true,
    if_false, ok_bind] at hclause
  obtain ⟨⟨cl, later⟩, htable, hclause⟩ := exists_of_bind hclause
  cases hclause
  rcases tableClause?_of_name h (hnext.isWord (by simp)) hcut htable with
    ⟨hsome, hbegins⟩ | ⟨rfl, rfl, hbegins⟩
  · obtain ⟨cl, rfl⟩ := Option.isSome_iff_exists.mp hsome
    cases hread
    exact .inl ⟨⟨cl, rfl⟩, hbegins⟩
  · obtain ⟨x, later, hcolumn, hread⟩ := bind_eq_ok_iff.mp hread
    obtain ⟨n, between, hname, hafter⟩ := bind_eq_ok_iff.mp hcolumn
    refine .inr ⟨hbegins, ?_⟩
    cases x with
    | none => cases hread
    | some x =>
      cases n with
      | none => exact absurd hafter columnAfter_none
      | some v =>
        obtain ⟨p, stop, rest', rfl, hstop⟩ := hfield v between hname
        obtain ⟨hx, rfl⟩ := columnAfter_of_halts hstop k (some v) hafter
        cases hx
        cases hread
        exact ⟨v, rfl, hname⟩

end TableDoc.Sql
