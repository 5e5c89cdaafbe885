import TableDoc.Proofs.Contribution
import TableDoc.Proofs.Nesting
import TableDoc.Proofs.Places

/-!
# The extent of a default

A default that is no literal is shown as the statement writes it, and its text is found without the
grammar: from after the first `DEFAULT` outside parentheses to before the next word outside
parentheses that starts another attribute.

* **the scan** over indexes of tokens outside parentheses is one over tokens with a depth
  (`defaultTokens_eq`);
* **where it begins and ends** is said without the scan (`DefaultAt`, `EndsBefore`,
  `defaultTokens_eq_iff`);
* **fidelity** — hence a column shows its default as it was written exactly where the tokens that
  the grammar took for it begin and end there (`default_verbatim_iff`).
-/

namespace TableDoc

open Sql

namespace Declaration

/-! ## Words that begin and end a default -/

/-- Whether a token is the word before a default. -/
def startsDefault (t : Token) : Bool := t.step == 0 && isOneOf ["DEFAULT"] t

/-- Whether an attribute that ends a default starts here. -/
def startsAttribute : List Token → Bool
  | [] => false
  | t :: rest => t.step == 0 &&
    (isOneOf defaultTerminators t ||
      isOneOf ["CHARACTER"] t && rest.head?.any (isOneOf ["SET"]))

/-- The tokens `e` stand right after the first `DEFAULT` outside parentheses, and `post` follows. -/
structure DefaultAt (D : Declaration) (e post : List Token) : Prop where
  nonempty : e ≠ []
  split : ∃ pre w, D.tokens = pre ++ w :: (e ++ post) ∧ startsDefault w = true ∧ rise pre = 0 ∧
    ∀ a t b, pre = a ++ t :: b → rise a = 0 → startsDefault t = false

/-- No attribute starts outside parentheses inside `e`, its first token apart, and one starts after
`e` or nothing follows. -/
structure EndsBefore (e post : List Token) : Prop where
  uncut : ∀ a b, e = a ++ b → a ≠ [] → b ≠ [] → rise a = 0 → startsAttribute (b ++ post) = false
  ended : post = [] ∨ rise e = 0 ∧ startsAttribute post = true

/-! ## The scan -/

/-- What stands after the first `DEFAULT` outside parentheses. -/
def afterDefault? (k : Int) : List Token → Option (List Token)
  | [] => none
  | t :: rest => if k == 0 && startsDefault t then some rest else afterDefault? (k + t.step) rest

/-- What stands before the first attribute outside parentheses. -/
def upToAttribute (k : Int) : List Token → List Token
  | [] => []
  | t :: rest =>
    if k == 0 && startsAttribute (t :: rest) then [] else t :: upToAttribute (k + t.step) rest

/-- The tokens of the default of an entry. -/
def defaultRun (ts : List Token) : List Token :=
  match afterDefault? 0 ts with
  | some (x :: rest) => x :: upToAttribute x.step rest
  | _ => []

theorem outerFrom_cons (k : Int) (i : Nat) (t : Token) (rest : List Token) :
    outerFrom k i (t :: rest) =
      (if k == 0 && t.step == 0 then [(i, t)] else []) ++
        outerFrom (k + t.step) (i + 1) rest := by
  rw [outerFrom]
  by_cases hl : t.isSign .lParen = true
  · simp [hl]
  · by_cases hr : t.isSign .rParen = true
    · rw [if_neg hl, if_pos hr, Token.step_rParen hr]
      simp [Int.sub_eq_add_neg]
    · rw [if_neg hl, if_neg hr, Token.step_other (by simpa using hl) (by simpa using hr)]
      by_cases hk : k = 0 <;> simp [hk]

/-- The first `DEFAULT` outside parentheses, by index and by what follows it. -/
theorem dropWhile_outerFrom (ts : List Token) :
    ∀ (k : Int) (i : Nat),
      (afterDefault? k ts = none ∧
        (outerFrom k i ts).dropWhile (fun p => !isOneOf ["DEFAULT"] p.2) = []) ∨
      ∃ pre w post, ts = pre ++ w :: post ∧ afterDefault? k ts = some post ∧
        (outerFrom k i ts).dropWhile (fun p => !isOneOf ["DEFAULT"] p.2) =
          (i + pre.length, w) :: outerFrom 0 (i + pre.length + 1) post := by
  induction ts with
  | nil =>
    intro k i
    exact .inl ⟨rfl, rfl⟩
  | cons t ts ih =>
    intro k i
    rw [outerFrom_cons, afterDefault?]
    by_cases hw : (k == 0 && startsDefault t) = true
    · simp only [startsDefault, Bool.and_eq_true, beq_iff_eq] at hw
      obtain ⟨rfl, hstep, hword⟩ := hw
      refine .inr ⟨[], t, ts, rfl, by simp [startsDefault, hstep, hword], ?_⟩
      rw [hstep, if_pos (by rfl), List.singleton_append, List.dropWhile_cons,
        if_neg (by simp [hword])]
      rfl
    · -- the token is passed over, whether it stands outside parentheses or not
      have hdrop : ((if k == 0 && t.step == 0 then [(i, t)] else []) ++
            outerFrom (k + t.step) (i + 1) ts).dropWhile (fun p => !isOneOf ["DEFAULT"] p.2) =
          (outerFrom (k + t.step) (i + 1) ts).dropWhile fun p => !isOneOf ["DEFAULT"] p.2 := by
        split
        · rename_i hout
          have hword : isOneOf ["DEFAULT"] t = false := by
            simp only [startsDefault, ← Bool.and_assoc, hout, Bool.true_and] at hw
            simpa using hw
          rw [List.singleton_append, List.dropWhile_cons, if_pos (by simp [hword])]
        · rfl
      rw [if_neg hw, hdrop]
      rcases ih (k + t.step) (i + 1) with ⟨hnone, hlater⟩ | ⟨pre, w, post, rfl, hsome, hlater⟩
      · exact .inl ⟨hnone, hlater⟩
      · refine .inr ⟨t :: pre, w, post, rfl, hsome, ?_⟩
        rw [hlater, List.length_cons, Nat.add_right_comm, Nat.add_assoc i]

/-- The first attribute outside parentheses, by index and by what stands before it. -/
theorem find?_outerFrom (D : Declaration) (start : Nat) (ts : List Token) :
    ∀ (k : Int) (front : List Token), D.tokens = front ++ ts → start < front.length →
      ((outerFrom k front.length ts).find? fun p => p.1 != start && D.endsDefault p).elim
        D.tokens.length Prod.fst = front.length + (upToAttribute k ts).length := by
  induction ts with
  | nil =>
    intro k front h _
    rw [h, List.append_nil]
    rfl
  | cons t ts ih =>
    intro k front h hstart
    have hnext : D.tokens = (front ++ [t]) ++ ts := by rw [h]; simp
    have hih := ih (k + t.step) (front ++ [t]) hnext
      (by rw [List.length_append]; exact Nat.lt_add_right _ hstart)
    rw [List.length_append, List.length_singleton] at hih
    have hends : D.endsDefault (front.length, t) = (isOneOf defaultTerminators t ||
        isOneOf ["CHARACTER"] t && ts.head?.any (isOneOf ["SET"])) := by
      unfold endsDefault characterSetAt
      rw [h]
      cases ts <;> simp
    rw [outerFrom_cons, upToAttribute, startsAttribute]
    -- the index is not `start`, so the words alone decide
    by_cases hcut : (k == 0 && (t.step == 0 && (isOneOf defaultTerminators t ||
        isOneOf ["CHARACTER"] t && ts.head?.any (isOneOf ["SET"])))) = true
    · rw [if_pos hcut]
      rw [← hends, ← Bool.and_assoc, Bool.and_eq_true] at hcut
      rw [if_pos hcut.1, List.singleton_append, List.find?_cons_of_pos]
      · rfl
      · simp [hcut.2, Nat.ne_of_gt hstart]
    · rw [if_neg hcut, List.length_cons, ← Nat.add_assoc, Nat.add_right_comm, ← hih]
      rw [← hends, ← Bool.and_assoc] at hcut
      split
      · rename_i hout
        rw [hout, Bool.true_and] at hcut
        rw [List.singleton_append, List.find?_cons_of_neg (by simp [hcut])]
      · rfl

/-! ## Where the scan stops -/

/-- The scan finds no word exactly where none stands outside parentheses. -/
theorem afterDefault?_eq_none_iff {ts : List Token} :
    ∀ {k : Int}, afterDefault? k ts = none ↔ ¬Outside startsDefault k ts := by
  induction ts with
  | nil => simp [afterDefault?, not_outside_nil]
  | cons t ts ih =>
    intro k
    rw [afterDefault?, outside_cons, not_or]
    by_cases hw : k = 0 ∧ startsDefault t = true
    · simp [hw]
    · rw [if_neg (by simpa using hw), ih, and_iff_right hw]

/-- The scan goes on behind the first word outside parentheses. -/
theorem afterDefault?_eq_some_iff {q : List Token} :
    ∀ {ts : List Token} {k : Int}, afterDefault? k ts = some q ↔
      ∃ pre w, ts = pre ++ w :: q ∧ startsDefault w = true ∧ k + rise pre = 0 ∧
        ¬Outside startsDefault k pre := by
  intro ts
  induction ts with
  | nil => simp [afterDefault?]
  | cons t ts ih =>
    intro k
    rw [afterDefault?]
    by_cases hw : k = 0 ∧ startsDefault t = true
    · -- the word stands here, and a longer front would have passed over it
      rw [if_pos (by simpa using hw)]
      constructor
      · rintro ⟨rfl⟩
        exact ⟨[], t, rfl, hw.2, by simpa using hw.1, not_outside_nil⟩
      · rintro ⟨pre, w, hsplit, -, -, hfirst⟩
        cases pre with
        | nil => rw [(List.cons.inj hsplit).2]
        | cons p pre =>
          obtain ⟨rfl, -⟩ := List.cons.inj hsplit
          exact absurd (outside_cons.mpr (.inl hw)) hfirst
    · rw [if_neg (by simpa using hw), ih]
      constructor
      · rintro ⟨pre, w, rfl, hstart, hrise, hfirst⟩
        refine ⟨t :: pre, w, rfl, hstart, by rw [rise_cons]; omega, ?_⟩
        rw [outside_cons, not_or]
        exact ⟨hw, hfirst⟩
      · rintro ⟨pre, w, hsplit, hstart, hrise, hfirst⟩
        cases pre with
        | nil =>
          obtain ⟨rfl, -⟩ := List.cons.inj hsplit
          exact absurd ⟨by simpa using hrise, hstart⟩ hw
        | cons p pre =>
          obtain ⟨rfl, rfl⟩ := List.cons.inj hsplit
          rw [outside_cons, not_or] at hfirst
          rw [rise_cons] at hrise
          exact ⟨pre, w, rfl, hstart, by omega, hfirst.2⟩

/-- In a run that begins at depth `k`, with `post` behind it, an attribute starts outside
parentheses. -/
def IsCut (k : Int) (e post : List Token) : Prop :=
  ∃ a b, e = a ++ b ∧ b ≠ [] ∧ k + rise a = 0 ∧ startsAttribute (b ++ post) = true

theorem not_isCut_nil {k : Int} {post : List Token} : ¬IsCut k [] post := by
  rintro ⟨a, b, hab, hb, -⟩
  exact hb (List.append_eq_nil_iff.mp hab.symm).2

theorem isCut_cons {k : Int} {t : Token} {e post : List Token} :
    IsCut k (t :: e) post ↔
      (k = 0 ∧ startsAttribute (t :: (e ++ post)) = true) ∨ IsCut (k + t.step) e post := by
  constructor
  · rintro ⟨a, b, hab, hb, hdepth, hstarts⟩
    cases a with
    | nil =>
      rw [List.nil_append] at hab
      subst hab
      exact .inl ⟨by simpa using hdepth, hstarts⟩
    | cons p a =>
      obtain ⟨rfl, rfl⟩ := List.cons.inj hab
      rw [rise_cons, ← Int.add_assoc] at hdepth
      exact .inr ⟨a, b, rfl, hb, hdepth, hstarts⟩
  · rintro (⟨hk, hstarts⟩ | ⟨a, b, rfl, hb, hdepth, hstarts⟩)
    · exact ⟨[], t :: e, rfl, List.cons_ne_nil t e, by simpa using hk, hstarts⟩
    · refine ⟨t :: a, b, rfl, hb, ?_, hstarts⟩
      rw [rise_cons, ← Int.add_assoc]
      exact hdepth

/-- The run stops before an attribute or at the end, and nowhere before that could it have
stopped. -/
theorem upToAttribute_eq_iff {q : List Token} :
    ∀ {k : Int} {e : List Token}, upToAttribute k q = e ↔
      ∃ post, q = e ++ post ∧ ¬IsCut k e post ∧
        (post = [] ∨ k + rise e = 0 ∧ startsAttribute post = true) := by
  induction q with
  | nil =>
    intro k e
    constructor
    · rintro rfl
      exact ⟨[], rfl, not_isCut_nil, .inl rfl⟩
    · rintro ⟨post, hsplit, -, -⟩
      rw [(List.append_eq_nil_iff.mp hsplit.symm).1]
      rfl
  | cons t q ih =>
    intro k e
    rw [upToAttribute]
    by_cases hcut : k = 0 ∧ startsAttribute (t :: q) = true
    · -- an attribute starts here, and a longer run would have passed over it
      rw [if_pos (by simpa using hcut)]
      constructor
      · rintro rfl
        exact ⟨t :: q, rfl, not_isCut_nil, .inr ⟨by simpa using hcut.1, hcut.2⟩⟩
      · rintro ⟨post, hsplit, huncut, -⟩
        cases e with
        | nil => rfl
        | cons u e =>
          obtain ⟨rfl, rfl⟩ := List.cons.inj hsplit
          exact absurd (isCut_cons.mpr (.inl hcut)) huncut
    · rw [if_neg (by simpa using hcut)]
      constructor
      · rintro rfl
        obtain ⟨post, hsplit, huncut, hended⟩ := ih.mp (rfl : upToAttribute (k + t.step) q = _)
        refine ⟨post, by rw [List.cons_append, ← hsplit], ?_, ?_⟩
        · rw [isCut_cons, not_or, ← hsplit]
          exact ⟨hcut, huncut⟩
        · rw [rise_cons, ← Int.add_assoc]
          exact hended
      · rintro ⟨post, hsplit, huncut, hended⟩
        cases e with
        | nil =>
          rcases hended with rfl | ⟨hdepth, hstarts⟩
          · cases hsplit
          · rw [List.nil_append] at hsplit
            exact absurd ⟨by simpa using hdepth, hsplit ▸ hstarts⟩ hcut
        | cons u e =>
          obtain ⟨rfl, rfl⟩ := List.cons.inj hsplit
          rw [isCut_cons, not_or] at huncut
          rw [rise_cons, ← Int.add_assoc] at hended
          rw [ih.mpr ⟨post, rfl, huncut.2, hended⟩]

theorem upToAttribute_starts (k : Int) (q : List Token) : upToAttribute k q <+: q := by
  obtain ⟨post, hsplit, -, -⟩ := upToAttribute_eq_iff.mp (rfl : upToAttribute k q = _)
  exact ⟨post, hsplit.symm⟩

/-! ## The default of an entry -/

/-- The indexes of the scan are where the run stands. -/
theorem defaultRange?_eq (D : Declaration) :
    D.defaultRange? = (afterDefault? 0 D.tokens).bind fun q =>
      if q.isEmpty then none
      else some (D.tokens.length - q.length,
        D.tokens.length - q.length + (defaultRun D.tokens).length) := by
  unfold defaultRange? outer defaultRun
  rcases dropWhile_outerFrom D.tokens 0 0 with ⟨hnone, hdrop⟩ | ⟨pre, w, q, hts, hsome, hdrop⟩
  · rw [hdrop, hnone]
    rfl
  · rw [hdrop, hsome]
    simp only [Nat.zero_add, Option.bind_some]
    have hlength : D.tokens.length = pre.length + 1 + q.length := by
      rw [hts, List.length_append, List.length_cons]
      omega
    cases q with
    | nil =>
      rw [List.length_nil, Nat.add_zero] at hlength
      simp [outerFrom, hlength]
    | cons x q =>
      have hfront : D.tokens = (pre ++ [w, x]) ++ q := by rw [hts]; simp
      have hstop := find?_outerFrom D (pre.length + 1) q x.step (pre ++ [w, x]) hfront (by simp)
      -- the first token of a default is never taken for an attribute
      have hskip : (outerFrom 0 (pre.length + 1) (x :: q)).find?
            (fun p => p.1 != pre.length + 1 && D.endsDefault p) =
          (outerFrom x.step (pre ++ [w, x]).length q).find?
            fun p => p.1 != pre.length + 1 && D.endsDefault p := by
        rw [outerFrom_cons, Int.zero_add]
        split <;> simp
      rw [hskip]
      generalize (outerFrom x.step (pre ++ [w, x]).length q).find?
        (fun p => p.1 != pre.length + 1 && D.endsDefault p) = found at hstop
      simp only [List.length_append, List.length_cons, List.length_nil] at hstop
      have hstart : D.tokens.length - (q.length + 1) = pre.length + 1 := by
        rw [hlength, List.length_cons, Nat.add_sub_cancel]
      simp only [List.isEmpty_cons, List.length_cons, hstart]
      have hcount : ∀ n, n = pre.length + (0 + 1 + 1) + (upToAttribute x.step q).length →
          pre.length + 1 < n ∧ n = pre.length + 1 + ((upToAttribute x.step q).length + 1) := by
        omega
      cases found with
      | none =>
        obtain ⟨hlt, hn⟩ := hcount D.tokens.length hstop
        simp only [if_pos hlt, ← hn]
        rfl
      | some p =>
        obtain ⟨hlt, hn⟩ := hcount p.1 hstop
        simp only [if_pos hlt, ← hn]
        rfl

/-- The indexes of the scan stand for the run. -/
theorem defaultTokens_eq (D : Declaration) : D.defaultTokens = defaultRun D.tokens := by
  unfold defaultTokens
  rw [defaultRange?_eq]
  cases hafter : afterDefault? 0 D.tokens with
  | none =>
    rw [defaultRun, hafter]
    rfl
  | some q =>
    obtain ⟨pre, w, hts, -⟩ := afterDefault?_eq_some_iff.mp hafter
    cases q with
    | nil =>
      rw [defaultRun, hafter]
      rfl
    | cons x q =>
      have hrun : defaultRun D.tokens = x :: upToAttribute x.step q := by rw [defaultRun, hafter]
      have hstart : D.tokens.length - (x :: q).length = (pre ++ [w]).length := by
        rw [hts, List.length_append, List.length_append]
        simp only [List.length_cons, List.length_nil]
        omega
      have hdrop : D.tokens.drop (pre ++ [w]).length = x :: q := by
        rw [hts, List.append_cons pre w (x :: q), List.drop_left]
      show (D.tokens.drop _).take _ = _
      rw [hstart, hdrop, Nat.add_sub_cancel_left, hrun, List.length_cons, List.take_succ_cons,
        ← List.prefix_iff_eq_take.mp (upToAttribute_starts x.step q)]

/-- The first token of a default never ends it. -/
theorem endsBefore_cons_iff {x : Token} {e post : List Token} :
    EndsBefore (x :: e) post ↔
      ¬IsCut x.step e post ∧ (post = [] ∨ x.step + rise e = 0 ∧ startsAttribute post = true) := by
  constructor
  · rintro ⟨huncut, hended⟩
    rw [rise_cons] at hended
    refine ⟨?_, hended⟩
    rintro ⟨a, b, rfl, hb, hdepth, hstarts⟩
    rw [huncut (x :: a) b rfl (List.cons_ne_nil x a) hb hdepth] at hstarts
    cases hstarts
  · rintro ⟨huncut, hended⟩
    refine ⟨fun a b hab ha hb hdepth => ?_, by rwa [rise_cons]⟩
    cases a with
    | nil => exact absurd rfl ha
    | cons p a =>
      obtain ⟨rfl, he⟩ := List.cons.inj hab
      exact Bool.eq_false_iff.mpr fun hstarts => huncut ⟨a, b, he, hb, hdepth, hstarts⟩

/-- Some tokens stand right after the first `DEFAULT` outside parentheses. -/
theorem defaultAt_iff {D : Declaration} {e post : List Token} :
    D.DefaultAt e post ↔ e ≠ [] ∧ afterDefault? 0 D.tokens = some (e ++ post) := by
  rw [afterDefault?_eq_some_iff]
  simp only [not_outside_iff, Int.zero_add]
  exact ⟨fun h => ⟨h.nonempty, h.split⟩, fun h => ⟨h.1, h.2⟩⟩

/-- The tokens found for the default of an entry are `e` exactly where `e` begins after the first
`DEFAULT` and ends before an attribute. -/
theorem defaultTokens_eq_iff {D : Declaration} {e : List Token} (he : e ≠ []) :
    D.defaultTokens = e ↔ ∃ post, D.DefaultAt e post ∧ EndsBefore e post := by
  cases e with
  | nil => exact absurd rfl he
  | cons x e =>
    rw [defaultTokens_eq, defaultRun]
    constructor
    · intro h
      split at h
      · rename_i y q hafter
        obtain ⟨rfl, hrun⟩ := List.cons.inj h
        obtain ⟨post, rfl, hends⟩ := upToAttribute_eq_iff.mp hrun
        exact ⟨post, defaultAt_iff.mpr ⟨he, hafter⟩, endsBefore_cons_iff.mpr hends⟩
      · cases h
    · rintro ⟨post, hat, hends⟩
      rw [(defaultAt_iff.mp hat).2]
      show x :: upToAttribute x.step (e ++ post) = x :: e
      congr 1
      exact upToAttribute_eq_iff.mpr ⟨post, rfl, endsBefore_cons_iff.mp hends⟩

/-! ## The text of a default -/

theorem defaultTokens_sublist (D : Declaration) : D.defaultTokens.Sublist D.tokens := by
  unfold defaultTokens
  split
  · exact (List.take_sublist _ _).trans (List.drop_sublist _ _)
  · exact List.nil_sublist _

/-- What is found and `e` begin with the same token, so one of them goes on from the other. -/
theorem exists_defaultTokens_append {D : Declaration} {e post : List Token}
    (h : D.DefaultAt e post) :
    D.defaultTokens ≠ [] ∧ ∃ rest, D.defaultTokens ++ rest = e ++ post := by
  obtain ⟨he, hafter⟩ := defaultAt_iff.mp h
  cases e with
  | nil => exact absurd rfl he
  | cons x e =>
    rw [defaultTokens_eq, defaultRun, hafter]
    obtain ⟨rest, hrest⟩ := upToAttribute_starts x.step (e ++ post)
    refine ⟨List.cons_ne_nil _ _, rest, ?_⟩
    show x :: (upToAttribute x.step (e ++ post) ++ rest) = x :: (e ++ post)
    rw [hrest]

/-- A longer or shorter run would be another text. -/
theorem textOf_defaultTokens_eq_iff {D : Declaration} {sql : String} {e post : List Token}
    (hplaced : Placed 0 sql.toList.length D.tokens) (h : D.DefaultAt e post) :
    textOf sql D.defaultTokens = textOf sql e ↔ EndsBefore e post := by
  obtain ⟨he, hafter⟩ := defaultAt_iff.mp h
  have hends : D.defaultTokens = e ↔ EndsBefore e post := by
    rw [defaultTokens_eq_iff he]
    constructor
    · rintro ⟨post', hat, hends⟩
      have hpost := hafter.symm.trans (defaultAt_iff.mp hat).2
      rwa [List.append_cancel_left (Option.some.inj hpost)]
    · exact fun hends => ⟨post, h, hends⟩
  rw [← hends]
  refine ⟨fun htext => ?_, fun heq => by rw [heq]⟩
  obtain ⟨hne, rest, hrest⟩ := exists_defaultTokens_append h
  obtain ⟨pre, w, hsplit, -⟩ := h.split
  have he' : Placed 0 sql.toList.length e := by
    refine hplaced.sublist ?_
    rw [hsplit]
    exact ((List.sublist_append_left e post).cons w).trans (List.sublist_append_right pre _)
  -- what is found falls short of `e` or goes beyond it
  rcases List.append_eq_append_iff.mp hrest with ⟨v, hv, -⟩ | ⟨v, hv, -⟩
  · cases v with
    | nil => rw [hv, List.append_nil]
    | cons t v =>
      rw [hv] at htext he'
      exact absurd htext.symm (textOf_append_ne he' hne (List.cons_ne_nil t v))
  · cases v with
    | nil => rw [hv, List.append_nil]
    | cons t v =>
      have hfound := hplaced.sublist D.defaultTokens_sublist
      rw [hv] at htext hfound
      exact absurd htext (textOf_append_ne hfound he (List.cons_ne_nil t v))

/-- A default that is no literal is shown as its entry writes it. -/
theorem shown_wording {d : Dialect} {sql : String} {D : Declaration} {v : Term}
    (hplaced : Placed 0 sql.toList.length D.tokens) (hv : v.isLiteral = false)
    (hne : D.defaultTokens ≠ []) :
    some (v.shown d (D.wording sql)) = textOf sql D.defaultTokens := by
  have hfilter := textOf_filter (hplaced.sublist D.defaultTokens_sublist)
  unfold Term.shown wording defaultText?
  rw [hv, hfilter, textOf_eq sql hne]
  rfl

end Declaration

/-! ## Fidelity -/

open Declaration

/-- In a fragment whose declared texts are in use, a column with one default, no literal and read
from the tokens `e`, shows the text from the first to the last token of `e` exactly where `e`
begins right after the first `DEFAULT` of the entry and ends before the next attribute. -/
theorem default_verbatim_iff {d : Dialect} {f : String} {s : TableSchema}
    {declared : List Wording} {ts : List Token} {i : Nat} {c : ColumnDefinition} {v : Term}
    {e : List Token} (hread : Fragment.read d f = .table s declared)
    (hts : tokens d f = .ok ts) (hagrees : s.agrees declared = true)
    (hentry : s.entries[i]? = some (.column c)) (hdefault : c.defaults = [(v, e)])
    (hv : v.isLiteral = false) :
    ∃ D spec, (ofTokens ts)[i]? = some D ∧
      (s.contributions d declared)[i]? = some ⟨some spec, []⟩ ∧
      ((D.defaultTokens = e ∧ spec.default = textOf f e) ↔
        ∃ post, D.DefaultAt e post ∧ EndsBefore e post) ∧
      ∀ post, D.DefaultAt e post → (spec.default = textOf f e ↔ EndsBefore e post) := by
  obtain ⟨D, hD, hown⟩ := Fragment.exists_declaration hread hts hagrees hentry
  have hplaced := placed_of_mem hts (List.mem_of_getElem? hD)
  have hspec : (c.toSpec d (D.wording f)).default = some (v.shown d (D.wording f)) :=
    ColumnDefinition.toSpec_default hdefault
  refine ⟨D, c.toSpec d (D.wording f), hD, hown, ?_, ?_⟩
  · by_cases he : e = []
    · -- nothing was read for the default: there is no text that it could be
      subst he
      rw [hspec]
      refine iff_of_false (fun h => by cases h.2) ?_
      rintro ⟨post, hat, -⟩
      exact hat.nonempty rfl
    · rw [← defaultTokens_eq_iff he, and_iff_left_iff_imp]
      rintro rfl
      rw [hspec, shown_wording hplaced hv he]
  · intro post hat
    have hne := (exists_defaultTokens_append hat).1
    rw [hspec, shown_wording hplaced hv hne]
    exact textOf_defaultTokens_eq_iff hplaced hat

/-- An attribute that a listed word starts: the text ends before it. -/
theorem default_verbatim_not_null :
    ∃ f s declared ts c v e,
      f = "CREATE TABLE t (a timestamp DEFAULT current_timestamp NOT NULL)" ∧
      Fragment.read .mysql f = .table s declared ∧ tokens .mysql f = .ok ts ∧
      s.agrees declared = true ∧ s.entries[0]? = some (.column c) ∧ c.defaults = [(v, e)] ∧
      v.isLiteral = false ∧
      ∃ D spec, (ofTokens ts)[0]? = some D ∧
        (s.contributions .mysql declared)[0]? = some ⟨some spec, []⟩ ∧
        ((D.defaultTokens = e ∧ spec.default = textOf f e) ↔
          ∃ post, D.DefaultAt e post ∧ EndsBefore e post) ∧
        ∀ post, D.DefaultAt e post → (spec.default = textOf f e ↔ EndsBefore e post) := by
  have hruns : (Fragment.read .mysql
        "CREATE TABLE t (a timestamp DEFAULT current_timestamp NOT NULL)").schema?.map
          (·.entries.map fun entry => entry.defaults.map fun p => p.1.isLiteral) =
        some [[false]] ∧
      (tokens .mysql
        "CREATE TABLE t (a timestamp DEFAULT current_timestamp NOT NULL)").toOption.map
          (fun ts => (ofTokens ts).length) = some 1 := by decide +kernel
  obtain ⟨⟨name, entries⟩, declared, ts, hread, hts, hentries, hlength⟩ :=
    Fragment.exists_reading_and_tokens hruns
  obtain ⟨entry, others, rfl, hentry, hothers⟩ := List.map_eq_cons_iff.mp hentries
  cases List.map_eq_nil_iff.mp hothers
  obtain ⟨⟨v, e⟩, more, hdefault, hv, hmore⟩ := List.map_eq_cons_iff.mp hentry
  cases List.map_eq_nil_iff.mp hmore
  have hagrees : TableSchema.agrees ⟨name, [entry]⟩ declared = true :=
    (Fragment.agrees_iff hread hts).mpr hlength
  cases entry with
  | column c =>
    exact ⟨_, _, _, ts, c, v, e, rfl, hread, hts, hagrees, rfl, hdefault, hv,
      default_verbatim_iff hread hts hagrees rfl hdefault hv⟩
  | _ => cases hdefault

/-- `PRIMARY KEY` is one token and so none of the words that end a default. -/
theorem default_with_primary_key :
    ((Fragment.read .mysql
        "CREATE TABLE t (a timestamp DEFAULT current_timestamp PRIMARY KEY)").schema?.map
      fun s => (s.entries.flatMap Entry.defaults).map fun p => p.2.map Token.text) =
        some [["current_timestamp"]] ∧
    Fragment.events .mysql "CREATE TABLE t (a timestamp DEFAULT current_timestamp PRIMARY KEY)" =
      [.readTable "t" 1 0] ∧
    (Fragment.table? .mysql
        "CREATE TABLE t (a timestamp DEFAULT current_timestamp PRIMARY KEY)").map
      (·.columns.map ColumnSpec.default) = some [some "current_timestamp PRIMARY KEY"] := by
  decide +kernel

end TableDoc
