import TableDoc.Sql.Grammar

/-!
# What readers give

A property of every value that a reader gives, whatever stands before it (`Reader.Gives`), and how
it is passed on: what comes last gives the value, and a list of items has only items that were read.

* **lists** — a list of items, and a list of results (`commaList_gives`, `map_eq_of_mapM`);
* **statements** — what a statement gives that creates something is known from what its kinds of
  statement give (`createAfter_gives`), and what some tokens are read as was given
  (`firstStatement?_of_readStatement`).
-/

namespace TableDoc.Sql

/-- Every value that a reader gives has a property. -/
def Reader.Gives {α : Type} (P : α → Prop) (r : Reader α) : Prop :=
  ∀ c v c', r c = .ok (v, c') → P v

namespace Reader

variable {α β : Type} {P : α → Prop}

/-! ## Sequences -/

theorem gives_pure {a : α} (h : P a) : Gives P (pure a) := by
  intro c v c' hr
  cases hr
  exact h

theorem gives_fail (f : SyntaxFault) : Gives P (fail f) := by
  intro c v c' hr
  cases hr

/-- What holds of all values holds of those that a reader gives. -/
theorem gives_of_forall (h : ∀ a, P a) (r : Reader α) : Gives P r := fun _ v _ _ => h v

theorem Gives.bind {Q : β → Prop} {r : Reader β} {f : β → Reader α} (hr : Gives Q r)
    (hf : ∀ b, Q b → Gives P (f b)) : Gives P (r >>= f) := by
  intro c v c' h
  change (r c >>= fun p => f p.1 p.2) = _ at h
  cases hfirst : r c with
  | error e => rw [hfirst] at h; cases h
  | ok p =>
    rw [hfirst] at h
    exact hf p.1 (hr c p.1 p.2 hfirst) p.2 v c' h

/-- What comes last gives the value. -/
theorem gives_bind {r : Reader β} {f : β → Reader α} (h : ∀ b, Gives P (f b)) :
    Gives P (r >>= f) :=
  Gives.bind (Q := fun _ => True) (fun _ _ _ _ => trivial) fun b _ => h b

theorem gives_ite {b : Prop} [Decidable b] {r s : Reader α} (hr : Gives P r) (hs : Gives P s) :
    Gives P (if b then r else s) := by
  split
  · exact hr
  · exact hs

section Branches

variable {γ : Type} {b : Prop} [Decidable b] {x : Reader β} {y : Reader γ} {next : Reader α}

/-- What follows a branch is looked at once. -/
theorem gives_when (h : Gives P next) : Gives P (if b then x >>= fun _ => next else next) :=
  gives_ite (gives_bind fun _ => h) h

theorem gives_unless (h : Gives P next) : Gives P (if b then next else x >>= fun _ => next) :=
  gives_ite h (gives_bind fun _ => h)

theorem gives_either (h : Gives P next) :
    Gives P (if b then x >>= fun _ => next else y >>= fun _ => next) :=
  gives_ite (gives_bind fun _ => h) (gives_bind fun _ => h)

end Branches

/-! ## Items -/

/-- A property of what is read where something stands. -/
abbrev Found (P : α → Prop) (o : Option α) : Prop := ∀ a ∈ o, P a

theorem found_none : Found P none := fun _ ha => nomatch ha

theorem found_some {a : α} (h : P a) : Found P (some a) := by
  intro b hb
  cases hb
  exact h

theorem attempt_gives {r : Reader (Option α)} (h : Gives (Found P) r) :
    Gives (Found P) (attempt r) := by
  intro c v c' hr
  unfold attempt at hr
  split at hr
  · rename_i hread
    cases hr
    exact h _ _ _ hread
  all_goals
    cases hr
    exact found_none

theorem manyFrom_gives {item : Reader (Option α)} (h : Gives (Found P) item) (fuel : Nat) :
    Gives (fun as => ∀ a ∈ as, P a) (manyFrom item fuel) := by
  induction fuel with
  | zero => exact gives_pure fun _ ha => nomatch ha
  | succ fuel ih =>
    unfold manyFrom
    refine h.bind fun o ho => ?_
    cases o with
    | none => exact gives_pure fun _ ha => nomatch ha
    | some a =>
      refine ih.bind fun as has => gives_pure ?_
      exact List.forall_mem_cons.mpr ⟨ho a rfl, has⟩

theorem many_gives {item : Reader (Option α)} (h : Gives (Found P) item) :
    Gives (fun as => ∀ a ∈ as, P a) (many item) :=
  gives_bind fun _ => manyFrom_gives h _

/-- Between commas stand items, or nothing. -/
theorem commaList_gives {item : Reader (Option α)} (h : Gives (Found P) item) :
    Gives (fun as => ∀ a ∈ as, P a) (commaList item) := by
  have hlater : Gives (fun os => ∀ o ∈ os, Found P o) (many (do
      if ← sign .comma then return some (← item) else return none)) :=
    many_gives (gives_bind fun _ => gives_ite
      (h.bind fun _ ho => gives_pure (found_some ho)) (gives_pure found_none))
  unfold commaList
  refine h.bind fun first hfirst => hlater.bind fun later hall => gives_pure fun a ha => ?_
  obtain ⟨o, ho, hoa⟩ := List.mem_filterMap.mp ha
  rcases List.mem_cons.mp ho with rfl | ho
  · exact hfirst a hoa
  · exact hall o ho a hoa

end Reader

open Reader

/-- Where a list of results comes out, each of its values is one of the results. -/
theorem map_eq_of_mapM {α β ε : Type} {f : α → Except ε β} {as : List α} {bs : List β}
    (h : as.mapM f = .ok bs) : as.map f = bs.map Except.ok := by
  induction as generalizing bs with
  | nil =>
    cases h
    rfl
  | cons a as ih =>
    rw [List.mapM_cons] at h
    cases hfirst : f a with
    | error e => rw [hfirst] at h; cases h
    | ok b =>
      cases hlater : as.mapM f with
      | error e => rw [hfirst, hlater] at h; cases h
      | ok later =>
        rw [hfirst, hlater] at h
        cases h
        rw [List.map_cons, List.map_cons, hfirst, ih hlater]

/-! ## Statements that create something -/

section Creation

variable {P : Statement → Prop}

theorem asCommand_gives (hcommand : P (.other "command")) : Gives P asCommand := by
  unfold asCommand
  exact gives_bind fun _ => gives_pure hcommand

/-- After the word for its kind a statement creates something of a kind or a table, or it is no such
statement. -/
theorem created?_gives {d : Dialect} {r : Rules} (hcreate : ∀ kind, P (.create kind))
    (htable : ∀ kind, Gives (Found fun s => P (.createTable s)) (listedBody d r kind))
    (kind : String) : Gives (Found P) (created? d r kind) := by
  have hsome : ∀ kind, Gives (Found P) (pure (some (Statement.create kind))) :=
    fun kind => gives_pure (found_some (hcreate kind))
  have hif : ∀ (found : Bool) (kind : String), Gives (Found P)
      (pure (if found then some (Statement.create kind) else none)) := by
    intro found kind
    cases found with
    | false => exact gives_pure found_none
    | true => exact hsome kind
  unfold created?
  dsimp only
  split
  · exact gives_bind fun _ => hsome _
  · exact gives_bind fun _ => hsome _
  · exact gives_bind fun found => gives_bind fun _ => gives_ite (gives_fail _) (hif found _)
  · exact gives_bind fun found => hif found _
  · exact gives_bind fun _ => gives_ite (gives_bind fun found => hif found _)
      (gives_bind fun _ => gives_ite (gives_fail _) (hif false _))
  · exact gives_bind fun _ => gives_ite (gives_fail _) (hif false _)
  · exact gives_bind fun _ => gives_ite (gives_fail _) (hif false _)
  · refine (htable _).bind fun list hlist => ?_
    split
    · exact gives_pure (found_some (hlist _ rfl))
    · exact hsome _

/-- A statement after `CREATE` creates something or is kept as a command. -/
theorem createAfter_gives {d : Dialect} {r : Rules} (hcreate : ∀ kind, P (.create kind))
    (hcommand : P (.other "command"))
    (htable : ∀ kind, Gives (Found fun s => P (.createTable s)) (listedBody d r kind)) :
    Gives P (createAfter d r) := by
  unfold createAfter
  dsimp only
  refine gives_bind fun _ => gives_ite ?_ (gives_bind fun _ => ?_)
  all_goals
    refine gives_bind fun _ => gives_bind fun _ => gives_bind fun _ => gives_bind fun found => ?_
    -- the word for the kind comes at once, behind properties, or not at all
    cases found
    case' some k => refine gives_bind ?_
    case' none => refine gives_bind fun _ => gives_ite (gives_bind ?_) (gives_bind ?_)
  all_goals
    intro kind
    cases kind with
    | none => exact asCommand_gives hcommand
    | some kind =>
      refine gives_bind fun _ => gives_bind fun _ =>
        (created?_gives hcreate htable kind).bind fun s hs =>
        gives_bind fun _ => gives_bind fun _ => ?_
      cases s with
      | none => exact asCommand_gives hcommand
      | some s => exact gives_ite (gives_pure (hs s rfl)) (asCommand_gives hcommand)

end Creation

/-- What the tokens of a statement are read as, the rule for statements gives. -/
theorem firstStatement?_of_readStatement {d : Dialect} {ts : List Token} {o : Option Statement}
    (h : readStatement d ts = .ok o) :
    ∃ c, firstStatement? d (Rules.forTokens d ts) ⟨none, ts⟩ = .ok (o, c) := by
  unfold readStatement at h
  change (firstStatement? d (Rules.forTokens d ts) ⟨none, ts⟩ >>= _) = _ at h
  cases hread : firstStatement? d (Rules.forTokens d ts) ⟨none, ts⟩ with
  | error e => rw [hread] at h; cases h
  | ok p =>
    obtain ⟨s, c⟩ := p
    rw [hread] at h
    change (if c.rest.isEmpty then Except.ok s else Except.error SyntaxFault.leftover) = _ at h
    split at h
    · cases h
      exact ⟨c, rfl⟩
    · cases h

end TableDoc.Sql
