import TableDoc.Proofs.MemberForms
import TableDoc.Proofs.ParsedKinds

/-!
# How lists read members

A member of an index may have a number behind its name that says how many of its characters count,
and a word for its order (`MemberSuffix`). What the list of a key makes of such a member, and the
name that it is listed under.

* **lists** — the members of a key are what its list reads (`parse_listsMembers`), each from a run
  of tokens (`MemberRead`); which run that is, results on members take as an assumption;
* **alone** — a name is listed under itself unless it is a word for a constant, or for a clause
  (`MemberRead.alone`);
* **suffixes** — what stands behind a name changes that only where the name with a number is a call
  (`MemberRead.suffix`).
-/

namespace TableDoc.Sql

open Reader

/-! ## What stands behind a name -/

/-- How many characters of a member count: a number in parentheses. -/
structure MemberSize where
  opening : Token
  number : Token
  close : Token
  opened : opening.kind = .sign .lParen
  counted : number.kind = .number
  closed : close.kind = .sign .rParen

/-- The order in which a member counts: a word for it. -/
structure MemberOrder where
  token : Token
  kind : token.kind = .keyword .asc ∨ token.kind = .keyword .desc

/-- What stands behind the name of a member. -/
structure MemberSuffix where
  size : Option MemberSize
  order : Option MemberOrder

/-- The tokens of the order. -/
def MemberSuffix.orderTokens (s : MemberSuffix) : List Token :=
  s.order.toList.map MemberOrder.token

/-- The tokens behind the name. -/
def MemberSuffix.tokens (s : MemberSuffix) : List Token :=
  s.size.toList.flatMap (fun z => [z.opening, z.number, z.close]) ++ s.orderTokens

variable {d : Dialect} {r : Rules} {prev last : Option Token} {c fence : Token}
  {s : MemberSuffix} {after ts : List Token} {e : Cursor} {t v : Term} {primary : Bool}

/-- A name with what stands behind it, up to where the list goes on or closes, spelled as what they
are. -/
structure WritesMember (d : Dialect) (c : Token) (s : MemberSuffix) (fence : Token) : Prop where
  name : WritesName d c
  size : ∀ z ∈ s.size, Parenthesized z.opening z.number z.close
  order : ∀ o ∈ s.order, Orders o.token ∧ WritesName d o.token
  fence : Fences fence

theorem fences_of_spells (h : Spells d fence.kind fence.text)
    (hfence : (fence.isSign .comma || fence.isSign .rParen) = true) : Fences fence :=
  ⟨by simpa [Token.isSign] using hfence, capitals_of_fence h hfence⟩

theorem writesMember_of_spells (hc : c.isNamed = true)
    (hfence : (fence.isSign .comma || fence.isSign .rParen) = true)
    (h : ∀ u ∈ c :: s.tokens ++ fence :: after, Spells d u.kind u.text) :
    WritesMember d c s fence where
  name := ⟨hc, h c (by simp)⟩
  size := by
    intro z hz
    have hmem : ∀ u ∈ [z.opening, z.number, z.close], Spells d u.kind u.text := by
      intro u hu
      refine h u ?_
      simp only [Option.mem_def.mp hz, MemberSuffix.tokens, Option.toList_some]
      simp at hu ⊢
      grind
    have hopened : z.opening.isSign .lParen = true := by simp [Token.isSign, z.opened]
    have hclosed : z.close.isSign .rParen = true := by simp [Token.isSign, z.closed]
    exact {
      opened := z.opened
      spelled := capitals_of_sign (hmem z.opening (by simp)) hopened (by simp [listSigns])
      counts := {
        kind := z.counted
        capitals := capitals_ne_of_number (hmem z.number (by simp)) z.counted
        closed := z.closed
        fences := fences_of_spells (hmem z.close (by simp)) (by simp [hclosed]) } }
  order := by
    intro o ho
    have hspelled : Spells d o.token.kind o.token.text :=
      h o.token (by simp [MemberSuffix.tokens, MemberSuffix.orderTokens, Option.mem_def.mp ho])
    have hcapitals : o.token.capitals ∈ ["ASC", "DESC"] := by
      rcases o.kind with hk | hk
      · exact capitals_of_order hspelled (k := .asc) (by simp [Token.isKeyword, hk]) (.inl rfl)
      · exact capitals_of_order hspelled (k := .desc) (by simp [Token.isKeyword, hk]) (.inr rfl)
    have hnamed : o.token.isNamed = true := by
      rcases o.kind with hk | hk <;> simp [Token.isNamed, hk]
    exact ⟨⟨o.kind, hcapitals⟩, hnamed, hspelled⟩
  fence := fences_of_spells (h fence (by simp)) hfence

/-! ## Fields -/

section Fields

variable (h : WritesMember .postgres c s fence)

include h

/-- A name with an order, or with none, stops at a token that no column goes on with. -/
theorem WritesMember.halts_order (after : List Token) :
    ∃ stop rest, s.orderTokens ++ fence :: after = stop :: rest ∧ Ends stop ∧ Halts stop := by
  unfold MemberSuffix.orderTokens
  cases ho : s.order with
  | none => exact ⟨fence, after, rfl, h.fence.ends, h.fence.halts⟩
  | some o => exact ⟨o.token, fence :: after, rfl, (h.order o ho).1.ends, (h.order o ho).1.halts⟩

theorem WritesMember.halts (after : List Token) :
    ∃ stop rest, s.tokens ++ fence :: after = stop :: rest ∧ Halts stop := by
  unfold MemberSuffix.tokens
  cases hz : s.size with
  | none =>
    obtain ⟨stop, rest, hsplit, -, hstop⟩ := h.halts_order after
    exact ⟨stop, rest, hsplit, hstop⟩
  | some z => exact ⟨z.opening, _, rfl, (h.size z hz).halts⟩

/-- A field ends behind its name, as what the name is alone, or behind the number, as a call. -/
theorem WritesMember.field?_eq_some {k : Nat} {anyWord : Bool}
    (hprev : prev.any (fun u => u.isKeyword .like || u.isKeyword .ilike) = false)
    (hforms : s.tokens ≠ [] → ∀ body ∈ formOf? .postgres (Rules.levels .postgres k) c,
      c.capitals ∈ ["IF", "NEXT"])
    (hread : field? .postgres (Rules.levels .postgres k) anyWord
      ⟨prev, c :: (s.tokens ++ fence :: after)⟩ = .ok (some v, e)) :
    (e = ⟨some c, s.tokens ++ fence :: after⟩ ∧ (s.size = none → v = aloneTerm .postgres c)) ∨
      ∃ z, s.size = some z ∧ calledTerm? c z.number = some v ∧
        e = ⟨some z.close, s.orderTokens ++ fence :: after⟩ := by
  obtain ⟨stop, rest, hsplit, hstop, -⟩ := h.halts_order after
  cases hz : s.size with
  | some z =>
    have htokens : s.tokens ++ fence :: after =
        z.opening :: z.number :: z.close :: stop :: rest := by
      simp [MemberSuffix.tokens, hz, ← hsplit]
    have hne : s.tokens ≠ [] := by simp [MemberSuffix.tokens, hz]
    rw [htokens] at hread ⊢
    rcases field?_of_parens (h.size z hz) hstop k h.name hprev (hforms hne) hread with
      ⟨hcalled, rfl⟩ | rfl
    · exact .inr ⟨z, rfl, hcalled, by rw [hsplit]⟩
    · exact .inl ⟨rfl, by simp⟩
  | none =>
    have htokens : s.tokens = s.orderTokens := by simp [MemberSuffix.tokens, hz]
    have hquiet : FormsQuiet .postgres (Rules.levels .postgres k) c
        (s.orderTokens ++ fence :: after) := by
      rw [htokens] at hforms
      unfold MemberSuffix.orderTokens at hforms ⊢
      cases ho : s.order with
      | none => exact (quiet_of_fences h.fence k).form
      | some o =>
        obtain ⟨horder, hname⟩ := h.order o ho
        exact formsQuiet_of_orders horder hname h.fence k (hforms (by simp [ho]))
    rw [htokens]
    rw [htokens, hsplit] at hread
    rw [hsplit] at hquiet ⊢
    rcases (field?_of_ends h.name hstop hquiet hread).1 with ⟨hv, he⟩ | ⟨hnone, -⟩
    · exact .inl ⟨he, fun _ => Option.some.inj hv⟩
    · cases hnone

/-- A list that reads fields has the name alone, or a call of it with the number. -/
theorem WritesMember.eq_of_field? {k : Nat} {anyWord : Bool}
    (hprev : prev.any (fun u => u.isKeyword .like || u.isKeyword .ilike) = false)
    (hforms : s.tokens ≠ [] → ∀ body ∈ formOf? .postgres (Rules.levels .postgres k) c,
      c.capitals ∈ ["IF", "NEXT"])
    (hread : field? .postgres (Rules.levels .postgres k) anyWord
      ⟨prev, c :: (s.tokens ++ fence :: after)⟩ = .ok (some v, ⟨last, fence :: after⟩)) :
    (s.size = none ∧ v = aloneTerm .postgres c) ∨
      ∃ z, s.size = some z ∧ calledTerm? c z.number = some v := by
  rcases h.field?_eq_some hprev hforms hread with ⟨he, hv⟩ | ⟨z, hz, hcalled, -⟩
  · have htokens : s.tokens = [] := by simpa using (congrArg Cursor.rest he).symm
    have hsize : s.size = none := by
      cases hz : s.size with
      | none => rfl
      | some z => simp [MemberSuffix.tokens, hz] at htokens
    exact .inl ⟨hsize, hv hsize⟩
  · exact .inr ⟨z, hz, hcalled⟩

/-- A cut by a function of a column does not go on with what stands behind a name. -/
theorem WritesMember.cutBy? (r : Rules) (after : List Token) (cls : String) :
    cutBy? .postgres r cls ⟨some c, s.tokens ++ fence :: after⟩ =
        .ok (none, ⟨some c, s.tokens ++ fence :: after⟩) ∨
      ∃ f, cutBy? .postgres r cls ⟨some c, s.tokens ++ fence :: after⟩ = .error f := by
  cases hz : s.size with
  | some z =>
    have htokens : s.tokens ++ fence :: after =
        z.opening :: z.number :: z.close :: (s.orderTokens ++ fence :: after) := by
      simp [MemberSuffix.tokens, hz]
    rw [htokens]
    exact .inr (cutBy?_of_parens (h.size z hz) cls)
  | none =>
    obtain ⟨stop, rest, hsplit, hstop, -⟩ := h.halts_order after
    have htokens : s.tokens ++ fence :: after = stop :: rest := by
      simp [MemberSuffix.tokens, hz, ← hsplit]
    have hopen : stop.isSign .lParen = false := hstop.isSign (by simp) (by simp)
    rw [htokens]
    exact .inl (by simp [Sql.cutBy?, hopen])

/-- A list that reads entries takes a name for a clause, or reads a field. -/
theorem WritesMember.listItem?_eq_some {k : Nat} {en : Entry}
    (hprev : prev.any (fun u => u.isKeyword .like || u.isKeyword .ilike) = false)
    (hforms : s.tokens ≠ [] → ∀ body ∈ formOf? .postgres (Rules.levels .postgres k) c,
      c.capitals ∈ ["IF", "NEXT"])
    (hconstraint : s.tokens ≠ [] → c.isKeyword .constraint = false)
    (hread : listItem? .postgres (Rules.levels .postgres k)
      ⟨prev, c :: (s.tokens ++ fence :: after)⟩ = .ok (some en, e)) :
    ((∃ cl, en = .clause cl) ∧ BeginsClause c) ∨
      (¬BeginsClause c ∧ ∃ v, en = .term v ∧ field? .postgres (Rules.levels .postgres k) true
        ⟨prev, c :: (s.tokens ++ fence :: after)⟩ = .ok (some v, e)) := by
  have hnot : c.isKeyword .constraint = false := by
    by_cases htokens : s.tokens = []
    · rw [htokens] at hread
      exact constraint_ne_of_fences h.fence hread
    · exact hconstraint htokens
  have hcut := h.cutBy? (Rules.levels .postgres k) after
  have hfield : ∀ v between, field? .postgres (Rules.levels .postgres k) true
      ⟨prev, c :: (s.tokens ++ fence :: after)⟩ = .ok (some v, between) →
        ∃ p stop rest, between = ⟨p, stop :: rest⟩ ∧ Halts stop := by
    intro v between hv
    rcases h.field?_eq_some hprev hforms hv with ⟨rfl, -⟩ | ⟨z, -, -, rfl⟩
    · obtain ⟨stop, rest, hsplit, hstop⟩ := h.halts after
      exact ⟨_, stop, rest, by rw [hsplit], hstop⟩
    · obtain ⟨stop, rest, hsplit, -, hstop⟩ := h.halts_order after
      exact ⟨_, stop, rest, by rw [hsplit], hstop⟩
  obtain ⟨next, rest, hsplit, hnext⟩ := h.halts after
  rw [hsplit] at hread hcut hfield ⊢
  exact listItem?_of_name h.name hnext hcut hnot hfield hread

/-- Without a number the name is listed as what it is alone, and with one as the call. -/
theorem WritesMember.memberName_iff_of_field? {k : Nat} {anyWord : Bool}
    (hprev : prev.any (fun u => u.isKeyword .like || u.isKeyword .ilike) = false)
    (hforms : s.tokens ≠ [] → ∀ body ∈ formOf? .postgres (Rules.levels .postgres k) c,
      c.capitals ∈ ["IF", "NEXT"])
    (hread : field? .postgres (Rules.levels .postgres k) anyWord
      ⟨prev, c :: (s.tokens ++ fence :: after)⟩ = .ok (some v, ⟨last, fence :: after⟩)) :
    v.memberName .postgres = c.text ↔
      (s.size = none → shownAlone .postgres c = c.text) ∧ ∀ z ∈ s.size, KeepsCall c z.number := by
  rcases h.eq_of_field? hprev hforms hread with ⟨hz, rfl⟩ | ⟨z, hz, hcalled⟩
  · rw [(memberName_aloneTerm h.name).1, hz]
    simp
  · rw [memberName_calledTerm?_iff (h.size z hz).counts hcalled, hz]
    simp

end Fields

/-- A clause in a list is listed under no name. -/
theorem memberName_clause_ne (hbegins : BeginsClause c) (cl : Clause) :
    (Entry.clause cl).member.memberName .postgres ≠ c.text := by
  have hlisted : ∀ cls, (Term.phrase cls [""] []).memberName .postgres ∈ ["", "$"] := by
    intro cls
    by_cases hordered : cls = "ordered"
    · subst hordered
      have hname : (Term.phrase "ordered" [""] []).memberName .postgres = "" := rfl
      simp [hname]
    by_cases hparameter : cls = "parameter"
    · subst hparameter
      have hname : (Term.phrase "parameter" [""] []).memberName .postgres = "$" := rfl
      simp [hname]
    · rw [memberName_phrase (by simp [hordered, hparameter]) rfl]
      simp [interleave, Term.printAll]
  intro heq
  have hlisted : c.text ∈ ["", "$"] := heq ▸ hlisted cl.className
  have hcapitals : c.capitals ∈ ["", "$"] := by
    simp only [List.mem_cons, List.not_mem_nil, or_false] at hlisted
    rcases hlisted with htext | htext <;> rw [Token.capitals, htext] <;> decide
  have hnot : (itemWords.all fun w => !(["", "$"].contains w)) = true := by decide
  simpa [hcapitals] using List.all_eq_true.mp hnot _ hbegins.2

/-! ## Operands -/

theorem memberName_name {n : Name} : (Term.name n).memberName d = n.text := rfl

/-- Without a number a name is listed as what it is alone, and with one under itself. -/
theorem WritesMember.memberName_of_keyMember? {k : Nat} (h : WritesMember .mysql c s fence)
    (halone : s.order.isSome = true → ∃ k fence rest, Fences fence ∧
      ReadAlone .mysql (Rules.levels .mysql k) c (fence :: rest))
    (hread : keyMember? (Rules.levels .mysql k) ⟨prev, c :: (s.tokens ++ fence :: after)⟩ =
      .ok (some t, e)) :
    t.memberName .mysql = if s.size.isSome then c.text else shownAlone .mysql c := by
  have hshown := memberName_aloneTerm h.name
  unfold MemberSuffix.tokens MemberSuffix.orderTokens at hread
  cases hz : s.size with
  | some z =>
    rw [hz] at hread
    have ht := keyMember?_of_parens h.name (h.size z hz).opened hread
    rw [memberName_of_unordered ht rfl]
    rfl
  | none =>
    rw [hz] at hread
    have ht : t.unordered = asColumn (aloneTerm .mysql c) := by
      cases ho : s.order with
      | none =>
        rw [ho] at hread
        exact (keyMember?_alone h.name h.fence k hread).1
      | some o =>
        rw [ho] at hread
        obtain ⟨horder, hname⟩ := h.order o ho
        obtain ⟨k', fence', rest, hfence, hoperand⟩ := halone (by simp [ho])
        exact keyMember?_ordered h.name horder hname h.fence hfence k hoperand hread
    rw [memberName_of_unordered ht hshown.2.2, hshown.2.1]
    rfl

/-! ## Members of a list -/

/-- What a list of an index reads its members with. -/
def memberReader (d : Dialect) (r : Rules) (primary : Bool) : Reader (Option Term) :=
  match d with
  | .mysql => if primary then memberPrefix else keyMember? r
  | .postgres =>
    if primary then field? .postgres r false
    else do return (← listItem? .postgres r).map Entry.member

/-- Somewhere in a statement a list of an index reads a member from a run of tokens: behind the sign
that opens the list or goes on with it, and up to the one that goes on with it or closes it. -/
structure MemberRead (d : Dialect) (primary : Bool) (ts run : List Token) (t : Term) : Prop where
  read : ∃ k prev last fence after, prev :: (run ++ fence :: after) <:+ ts ∧
    (prev.isSign .lParen || prev.isSign .comma) = true ∧
    (fence.isSign .comma || fence.isSign .rParen) = true ∧
    memberReader d (Rules.levels d k) primary ⟨some prev, run ++ fence :: after⟩ =
      .ok (some t, ⟨last, fence :: after⟩)

/-- A term is what a list reads a member as. -/
def IsMember (d : Dialect) (primary : Bool) (t : Term) : Prop :=
  ∃ k start e, memberReader d (Rules.levels d k) primary start = .ok (some t, e)

/-- The members of a clause that declares an index are what a list reads. -/
def Clause.ListsMembers (d : Dialect) : Clause → Prop
  | .primaryKey members => ∀ t ∈ members, IsMember d true t
  | .uniqueKey _ members => ∀ t ∈ members, IsMember d false t
  | .index _ _ members => ∀ t ∈ members, IsMember d false t
  | _ => True

theorem memberReader_gives (d : Dialect) (k : Nat) (primary : Bool) :
    Gives (Found (IsMember d primary)) (memberReader d (Rules.levels d k) primary) := by
  intro start o e hread t ht
  cases ht
  exact ⟨k, start, e, hread⟩

theorem wrappedList_gives {P : Term → Prop} {item : Reader (Option Term)}
    (h : Gives (Found P) item) : Gives (fun members => ∀ t ∈ members, P t) (wrappedList item) :=
  gives_bind fun _ => (commaList_gives h).bind fun _ hall => gives_bind fun _ => gives_pure hall

theorem primaryAfter_listsMembers (k : Nat) :
    Gives (Clause.ListsMembers d) (primaryAfter d (Rules.levels d k)) := by
  have hmembers : Gives (fun members => ∀ t ∈ members, IsMember d true t)
      (primaryMembers d (Rules.levels d k)) := by
    have hlist : Gives (fun members => ∀ t ∈ members, IsMember d true t) (wrappedList (match d with
        | .mysql => memberPrefix
        | .postgres => field? d (Rules.levels d k) false)) := by
      have hitem := memberReader_gives d k true
      cases d <;> exact wrappedList_gives hitem
    unfold primaryMembers
    dsimp only
    exact hlist.bind fun members hall => gives_when (gives_when (gives_bind fun _ =>
      gives_bind fun _ => gives_when (gives_pure hall)))
  unfold primaryAfter
  dsimp only
  refine gives_bind fun _ => gives_bind fun _ => gives_when (gives_bind fun _ => gives_ite
    (hmembers.bind fun members hall => gives_pure hall) (gives_bind fun _ => gives_ite ?_ ?_))
  · exact gives_bind fun _ => gives_bind fun _ => gives_pure trivial
  · exact gives_pure trivial

theorem uniqueAfter_listsMembers (k : Nat) :
    Gives (Clause.ListsMembers d) (uniqueAfter d (Rules.levels d k)) := by
  cases d with
  | mysql =>
    have hlist := wrappedList_gives (memberReader_gives .mysql k false)
    show Gives _ (orderedUnique .mysql (Rules.levels .mysql k))
    unfold orderedUnique
    dsimp only
    refine gives_bind fun _ => gives_bind fun n => gives_bind fun _ => gives_when
      (gives_bind fun _ => gives_ite ?_ (gives_pure trivial))
    exact hlist.bind fun members hall => gives_bind fun _ => gives_pure hall
  | postgres =>
    have hlist : Gives (Found fun es : List Entry => ∀ e ∈ es, IsMember .postgres false e.member)
        (Rules.levels .postgres k).columns := by
      cases k with
      | zero => exact gives_fail _
      | succ k =>
        have hitem : Gives (Found fun e : Entry => IsMember .postgres false e.member)
            (listItem? .postgres (Rules.levels .postgres k)) := by
          intro start o e hread en hen
          cases hen
          refine ⟨k, start, e, bind_eq_ok_iff.mpr ⟨some en, e, hread, rfl⟩⟩
        show Gives _ (columnList? .postgres (Rules.levels .postgres k))
        unfold columnList?
        refine gives_bind fun _ => gives_bind fun _ => gives_ite (gives_bind fun _ => gives_ite
          (gives_bind fun _ => gives_pure found_none) ?_) (gives_pure found_none)
        exact (commaList_gives hitem).bind fun es hall => gives_bind fun _ =>
          gives_pure (found_some hall)
    refine gives_bind fun _ => hlist.bind fun list hall => gives_bind fun _ =>
      gives_bind fun _ => ?_
    cases list with
    | none => exact gives_pure trivial
    | some es => exact gives_pure (List.forall_mem_map.mpr (hall es rfl))

theorem indexAfter_listsMembers (k : Nat) (kind : Option String) :
    Gives (Clause.ListsMembers .mysql) (indexAfter .mysql (Rules.levels .mysql k) kind) := by
  have hlist := wrappedList_gives (memberReader_gives .mysql k false)
  have hend : ∀ n, Gives (Clause.ListsMembers .mysql) (do
      let members ← wrappedList (keyMember? (Rules.levels .mysql k))
      indexOptions .mysql
      return .index kind n members) :=
    fun n => hlist.bind fun members hall => gives_bind fun _ => gives_pure hall
  unfold indexAfter
  dsimp only
  exact gives_when (gives_bind fun _ => gives_ite
    (gives_bind fun n => gives_bind fun _ => gives_when (hend n))
    (gives_bind fun n => gives_bind fun _ => gives_when (hend n)))

/-- The words that a clause with members begins with. -/
def memberWords : List String := ["UNIQUE", "PRIMARY KEY"] ++ (kindWords ++ ["INDEX", "KEY"])

/-- Behind any other word no clause has members. -/
theorem Clause.ReadFrom.listsMembers {w : String} {cl : Clause} (h : cl.ReadFrom w)
    (hw : w ∉ memberWords) : cl.ListsMembers d := by
  cases cl with
  | primaryKey members => exact absurd (h ▸ by decide) hw
  | uniqueKey n members => exact absurd (h ▸ by decide) hw
  | index kind n members =>
    refine absurd (List.mem_append_right _ (List.mem_append.mpr ?_)) hw
    exact h.imp And.right And.right
  | _ => trivial

/-- Behind every word for a clause about a table stands one whose members its list reads. -/
theorem clausesRead_listsMembers (k : Nat) :
    ClausesRead (Clause.ListsMembers d) d (Rules.levels d k) where
  behind w hw := by
    by_cases hmembers : w ∈ memberWords
    · simp only [memberWords, kindWords, List.cons_append, List.nil_append, List.mem_cons,
        List.not_mem_nil, or_false] at hmembers
      rcases hmembers with rfl | rfl | hindex
      · exact found_gives (uniqueAfter_listsMembers k)
      · exact found_gives (primaryAfter_listsMembers k)
      · -- only one dialect has words for an index that need not be unique
        cases d with
        | mysql =>
          rcases hindex with rfl | rfl | rfl | rfl
          all_goals exact found_gives (indexAfter_listsMembers k _)
        | postgres =>
          rcases hindex with rfl | rfl | rfl | rfl
          all_goals simp [columnWords, tableWords] at hw
    · exact fun c o c' hread cl hcl =>
        (columnClauseAfter_gives w c o c' hread cl hcl).listsMembers hmembers
  other _ := trivial

/-- The members of every index of a table that a text declares are what their lists read. -/
theorem parse_listsMembers {sql : String} {schema : TableSchema}
    (h : parse d sql = .ok (some (.createTable schema))) : schema.All (Clause.ListsMembers d) :=
  parse_all clausesRead_listsMembers h

/-! ## Names in lists -/

/-- A name alone is listed under itself: it is no word for a constant, and none that begins a
clause. -/
structure KeepsAlone (d : Dialect) (primary : Bool) (c : Token) : Prop where
  constant : d = .postgres ∨ primary = false → shownAlone d c = c.text
  clause : d = .postgres → primary = false → ¬BeginsClause c

/-- What is known of a name that a list has read alone. -/
structure ListedAlone (d : Dialect) (primary : Bool) (c : Token) : Prop where
  forms : d = .postgres → ∀ r, ∀ body ∈ formOf? d r c, c.capitals ∈ ["IF", "NEXT"]
  constraint : d = .postgres → primary = false → c.isKeyword .constraint = false
  operand : d = .mysql → primary = false → ∃ k fence rest, Fences fence ∧
    ReadAlone d (Rules.levels d k) c (fence :: rest)

theorem not_like_of_sign {prev : Token}
    (h : (prev.isSign .lParen || prev.isSign .comma) = true) :
    (some prev).any (fun u => u.isKeyword .like || u.isKeyword .ilike) = false := by
  rcases Bool.or_eq_true_iff.mp h with hsign | hsign
  · have hkind : prev.kind = .sign .lParen := by simpa [Token.isSign] using hsign
    simp [Token.isKeyword, hkind]
  · have hkind : prev.kind = .sign .comma := by simpa [Token.isSign] using hsign
    simp [Token.isKeyword, hkind]

/-- A member is a name with what stands behind it, up to where the list goes on or closes. -/
theorem MemberRead.exists_read {sql : String} (hts : tokens d sql = .ok ts) (hc : c.isNamed = true)
    (h : MemberRead d primary ts (c :: s.tokens) t) :
    ∃ k prev last fence after, WritesMember d c s fence ∧
      (some prev).any (fun u => u.isKeyword .like || u.isKeyword .ilike) = false ∧
      memberReader d (Rules.levels d k) primary ⟨some prev, c :: (s.tokens ++ fence :: after)⟩ =
        .ok (some t, ⟨last, fence :: after⟩) := by
  obtain ⟨k, prev, last, fence, after, hsuffix, hprev, hfence, hread⟩ := h.read
  have hspells : ∀ u ∈ c :: s.tokens ++ fence :: after, Spells d u.kind u.text :=
    fun u hu => spells_of_mem hts (hsuffix.subset (List.mem_cons_of_mem prev hu))
  exact ⟨k, prev, last, fence, after, writesMember_of_spells hc hfence hspells,
    not_like_of_sign hprev, hread⟩

/-- An entry that is read as a member. -/
theorem listItem?_of_member {start : Cursor}
    (hread : (do return (← listItem? .postgres r).map Entry.member : Reader (Option Term)) start =
      .ok (some t, e)) :
    ∃ en, listItem? .postgres r start = .ok (some en, e) ∧ t = en.member := by
  obtain ⟨o, between, hitem, hread⟩ := bind_eq_ok_iff.mp hread
  obtain ⟨ho, rfl⟩ := pure_eq_ok_iff.mp hread
  obtain ⟨en, rfl, rfl⟩ := Option.map_eq_some_iff.mp ho
  exact ⟨en, hitem, rfl⟩

/-- A name alone that is read as a field shows what it shows alone, and no word that begins a form
of its own stands there, for such a form reads on or fails. -/
theorem WritesMember.alone_of_field? {k : Nat} {anyWord : Bool}
    (h : WritesMember .postgres c ⟨none, none⟩ fence)
    (hprev : prev.any (fun u => u.isKeyword .like || u.isKeyword .ilike) = false)
    (hread : field? .postgres (Rules.levels .postgres k) anyWord ⟨prev, c :: fence :: after⟩ =
      .ok (some v, ⟨last, fence :: after⟩)) :
    (v.memberName .postgres = c.text ↔ shownAlone .postgres c = c.text) ∧
      ∀ r, ∀ body ∈ formOf? .postgres r c, c.capitals ∈ ["IF", "NEXT"] := by
  have hempty :=
    (field?_of_ends h.name h.fence.ends (quiet_of_fences h.fence k).form hread).2
  have hname := h.memberName_iff_of_field? hprev (fun hne => absurd rfl hne) hread
  exact ⟨by simpa using hname, fun r => forms_of_formsEmpty h.fence k hempty⟩

/-- A name alone in a list is listed under itself exactly where it is neither a word for a constant
nor one for a clause. -/
theorem MemberRead.alone {sql : String} (hts : tokens d sql = .ok ts) (hc : c.isNamed = true)
    (h : MemberRead d primary ts [c] t) :
    (t.memberName d = c.text ↔ KeepsAlone d primary c) ∧
      (KeepsAlone d primary c → ListedAlone d primary c) := by
  obtain ⟨k, prev, last, fence, after, hwrites, hprev, hread⟩ :=
    MemberRead.exists_read (s := ⟨none, none⟩) hts hc h
  cases d with
  | mysql =>
    cases primary with
    | true =>
      have ht := memberPrefix_eq_some hwrites.name hread
      exact ⟨iff_of_true (by rw [ht, memberName_name]) ⟨by simp, by simp⟩,
        fun _ => ⟨by simp, by simp, by simp⟩⟩
    | false =>
      have ht : t.memberName .mysql = shownAlone .mysql c :=
        hwrites.memberName_of_keyMember? (by simp) hread
      obtain ⟨-, k', halone⟩ := keyMember?_alone hwrites.name hwrites.fence k hread
      rw [ht]
      exact ⟨⟨fun hkept => ⟨fun _ => hkept, by simp⟩, fun hkept => hkept.constant (.inr rfl)⟩,
        fun _ => ⟨by simp, by simp, fun _ _ => ⟨k', fence, after, hwrites.fence, halone⟩⟩⟩
  | postgres =>
    cases primary with
    | true =>
      obtain ⟨hname, hforms⟩ := hwrites.alone_of_field? hprev hread
      rw [hname]
      exact ⟨⟨fun hkept => ⟨fun _ => hkept, by simp⟩, fun hkept => hkept.constant (.inl rfl)⟩,
        fun _ => ⟨fun _ => hforms, by simp, by simp⟩⟩
    | false =>
      obtain ⟨en, hitem, rfl⟩ := listItem?_of_member hread
      have hnot : c.isKeyword .constraint = false := constraint_ne_of_fences hwrites.fence hitem
      rcases hwrites.listItem?_eq_some hprev (absurd rfl) (fun _ => hnot) hitem with
        ⟨⟨cl, rfl⟩, hbegins⟩ | ⟨hbegins, v, rfl, hread'⟩
      · have hlost : ¬KeepsAlone .postgres false c := fun hkept => hkept.clause rfl rfl hbegins
        exact ⟨iff_of_false (memberName_clause_ne hbegins cl) hlost,
          fun hkept => absurd hkept hlost⟩
      · obtain ⟨hname, hforms⟩ := hwrites.alone_of_field? hprev hread'
        have hiff : v.memberName .postgres = c.text ↔ KeepsAlone .postgres false c := by
          rw [hname]
          exact ⟨fun hkept => ⟨fun _ => hkept, fun _ _ => hbegins⟩,
            fun hkept => hkept.constant (.inl rfl)⟩
        exact ⟨hiff, fun _ => ⟨fun _ => hforms, fun _ _ => hnot, by simp⟩⟩

/-- A name that is listed under itself alone is listed so with what stands behind it as well, unless
the two are a call that shows another name. -/
theorem MemberRead.suffix {sql : String} (hts : tokens d sql = .ok ts) (hc : c.isNamed = true)
    (hkept : KeepsAlone d primary c) (halone : ListedAlone d primary c)
    (h : MemberRead d primary ts (c :: s.tokens) t) :
    t.memberName d = c.text ↔ (d = .postgres → ∀ z ∈ s.size, KeepsCall c z.number) := by
  obtain ⟨k, prev, last, fence, after, hwrites, hprev, hread⟩ := h.exists_read hts hc
  cases d with
  | mysql =>
    refine iff_of_true ?_ (by simp)
    cases primary with
    | true =>
      have ht := memberPrefix_eq_some hwrites.name hread
      rw [ht, memberName_name]
    | false =>
      rw [hwrites.memberName_of_keyMember? (fun _ => halone.operand rfl rfl) hread,
        hkept.constant (.inr rfl), ite_self]
  | postgres =>
    have hfield : ∀ {anyWord : Bool} {v : Term}, field? .postgres (Rules.levels .postgres k) anyWord
        ⟨some prev, c :: (s.tokens ++ fence :: after)⟩ = .ok (some v, ⟨last, fence :: after⟩) →
          (v.memberName .postgres = c.text ↔ ∀ z ∈ s.size, KeepsCall c z.number) := by
      intro anyWord v hfield
      rw [hwrites.memberName_iff_of_field? hprev (fun _ => halone.forms rfl _) hfield]
      exact and_iff_right fun _ => hkept.constant (.inl rfl)
    cases primary with
    | true => simpa using hfield hread
    | false =>
      obtain ⟨en, hitem, rfl⟩ := listItem?_of_member hread
      rcases hwrites.listItem?_eq_some hprev (fun _ => halone.forms rfl _)
        (fun _ => halone.constraint rfl rfl) hitem with ⟨-, hbegins⟩ | ⟨-, v, rfl, hread'⟩
      · exact absurd hbegins (hkept.clause rfl rfl)
      · simpa [Entry.member] using hfield hread'

end TableDoc.Sql
