import TableDoc.Proofs.DefaultPlace
import TableDoc.Proofs.QuotedContent

/-!
# The bounds of a default

An entry that holds a default is written as some tokens, `DEFAULT`, the expression and further
attributes. A bare word is one that stands in no quotes of any kind. The scan of an entry finds the
expression by such words, but it also takes some literals for words.

* **bare words** — the word for a default is found where a bare one or such a literal stands
  (`startsDefault_eq`);
* **bounds** — the scan finds the expression of an entry where it goes on from the word and is not
  cut (`defaultRange?_eq_some_iff`);
* **entries** — hence it finds it exactly where no literal is taken for `DEFAULT` before the word
  or for an attribute inside the expression (`default_bounds_iff`).
-/

namespace TableDoc

open Sql

namespace Declaration

/-! ## Bare words -/

/-- The token is one of the words and stands in no quotes of any kind. -/
def isBare (words : List String) (t : Token) : Bool :=
  t.step == 0 && !literalKinds.contains t.kind && words.contains t.capitals

/-- The token is a literal that is taken for one of the words. -/
def isMistaken (words : List String) (t : Token) : Bool :=
  literalKinds.contains t.kind && isOneOf words t

/-- An attribute that ends a default starts here with bare words. -/
def startsBareAttribute : List Token → Bool
  | [] => false
  | t :: rest =>
    isBare defaultTerminators t || isBare ["CHARACTER"] t && rest.head?.any (isBare ["SET"])

/-- Behind the first token of a run and outside its parentheses stands what `p` says. -/
def BeginsWithin (p : List Token → Bool) (run : List Token) : Prop :=
  ∃ a b, run = a ++ b ∧ a ≠ [] ∧ rise a = 0 ∧ p b = true

variable {D : Declaration} {words : List String} {t : Token} {pre e post : List Token} {w : Token}

theorem isBare_iff : isBare words t = true ↔
    t.step = 0 ∧ t.kind ∉ literalKinds ∧ t.capitals ∈ words := by
  simp [isBare, and_assoc]

/-- A token outside parentheses is taken for one of the words where it is one of them, bare, or a
literal that is taken for one. -/
theorem isOneOf_eq (ht : t.step = 0) :
    isOneOf words t = (isBare words t || isMistaken words t) := by
  have hquoted : t.isQuoted = true → t.kind ∈ literalKinds := fun h =>
    List.mem_append_left _ (isQuoted_iff.mp h)
  by_cases hliteral : t.kind ∈ literalKinds
  · simp [isBare, isMistaken, hliteral]
  · have hfree : t.isQuoted = false := by simpa using mt hquoted hliteral
    simp [isBare, isMistaken, isOneOf, hliteral, hfree, ht]

theorem isOneOf_of_isBare (h : isBare words t = true) : isOneOf words t = true := by
  rw [isOneOf_eq (isBare_iff.mp h).1, h, Bool.true_or]

theorem startsDefault_eq (t : Token) :
    startsDefault t = (isBare ["DEFAULT"] t || isMistaken ["DEFAULT"] t) := by
  by_cases ht : t.step = 0
  · simp [startsDefault, ht, isOneOf_eq]
  · have hliteral : t.kind ∉ literalKinds := mt step_of_literal ht
    have hstep : (t.step == 0) = false := by simpa using ht
    simp [startsDefault, isBare, isMistaken, hstep, hliteral]

theorem outside_startsDefault_iff {k : Int} {run : List Token} :
    Outside startsDefault k run ↔
      Outside (isBare ["DEFAULT"]) k run ∨ Outside (isMistaken ["DEFAULT"]) k run := by
  rw [← outside_or, funext startsDefault_eq]

theorem startsAttribute_of_bare {run : List Token} (h : startsBareAttribute run = true) :
    startsAttribute run = true := by
  cases run with
  | nil => cases h
  | cons t rest =>
    rw [startsBareAttribute, Bool.or_eq_true, Bool.and_eq_true] at h
    rw [startsAttribute]
    rcases h with h | ⟨h, hset⟩
    · simp [(isBare_iff.mp h).1, isOneOf_of_isBare h]
    · cases rest with
      | nil => cases hset
      | cons u rest =>
        rw [List.head?_cons, Option.any_some] at hset ⊢
        simp [(isBare_iff.mp h).1, isOneOf_of_isBare h, isOneOf_of_isBare hset]

/-- No attribute begins with the second word of one. -/
theorem not_set_of_bare {run : List Token} (h : startsBareAttribute run = true) :
    run.head?.any (isOneOf ["SET"]) = false := by
  cases run with
  | nil => rfl
  | cons t rest =>
    rw [startsBareAttribute, Bool.or_eq_true, Bool.and_eq_true] at h
    rw [List.head?_cons, Option.any_some]
    rcases h with h | ⟨h, -⟩
    · exact isOneOf_disjoint (by decide) (isOneOf_of_isBare h)
    · exact isOneOf_disjoint (by decide) (isOneOf_of_isBare h)

/-- Where a run is cut is said by an index. -/
theorem beginsWithin_iff {p : List Token → Bool} {run : List Token} :
    BeginsWithin p run ↔
      ∃ i < run.length + 1, 0 < i ∧ rise (run.take i) = 0 ∧ p (run.drop i) = true := by
  constructor
  · rintro ⟨a, b, rfl, ha, hrise, hb⟩
    have hle : a.length < (a ++ b).length + 1 := by
      rw [List.length_append]
      omega
    refine ⟨a.length, hle, List.length_pos_iff.mpr ha, ?_, ?_⟩
    · rwa [List.take_left]
    · rwa [List.drop_left]
  · rintro ⟨i, hi, hpos, hrise, hp⟩
    refine ⟨run.take i, run.drop i, (List.take_append_drop i run).symm, ?_, hrise, hp⟩
    rw [← List.length_pos_iff, List.length_take]
    omega

instance (p : List Token → Bool) (run : List Token) : Decidable (BeginsWithin p run) :=
  decidable_of_iff _ beginsWithin_iff.symm

/-! ## Bounds -/

theorem startsAttribute_append {b : List Token} (hb : b ≠ [])
    (hpost : post.head?.any (isOneOf ["SET"]) = false) :
    startsAttribute (b ++ post) = startsAttribute b := by
  cases b with
  | nil => exact absurd rfl hb
  | cons x b =>
    cases b with
    | nil => simp [startsAttribute, hpost]
    | cons y b => rfl

/-- The scan goes on from a word behind a level run exactly where none stands before it. -/
theorem afterDefault?_eq_iff (hsplit : D.tokens = pre ++ w :: post) (hlevel : rise pre = 0)
    (hw : startsDefault w = true) :
    afterDefault? 0 D.tokens = some post ↔ ¬Outside startsDefault 0 pre := by
  rw [afterDefault?_eq_some_iff]
  constructor
  · rintro ⟨front, v, hfront, -, -, hfirst⟩
    obtain ⟨rfl, -⟩ := List.append_inj' (hsplit.symm.trans hfront) rfl
    exact hfirst
  · exact fun hnone => ⟨pre, w, hsplit, hw, by rw [hlevel]; rfl, hnone⟩

/-- Where the scan goes on with `q`, the range begins at the index of its first token. -/
theorem defaultRange?_of_after {q : List Token} (hsplit : D.tokens = pre ++ w :: q)
    (hafter : afterDefault? 0 D.tokens = some q) (hq : q ≠ []) :
    D.defaultRange? = some (pre.length + 1, pre.length + 1 + (defaultRun D.tokens).length) := by
  have hstart : D.tokens.length - q.length = pre.length + 1 := by
    rw [hsplit, List.length_append, List.length_cons]
    omega
  have hfull : q.isEmpty = false := by simp [hq]
  rw [defaultRange?_eq, hafter, Option.bind_some, hfull, hstart]
  rfl

theorem exists_of_defaultRange? {r : Nat × Nat} (h : D.defaultRange? = some r) :
    ∃ pre w q, D.tokens = pre ++ w :: q ∧ afterDefault? 0 D.tokens = some q ∧ q ≠ [] ∧
      r = (pre.length + 1, pre.length + 1 + (defaultRun D.tokens).length) := by
  obtain ⟨q, hafter, hfound⟩ := Option.bind_eq_some_iff.mp ((defaultRange?_eq D).symm.trans h)
  have hq : q ≠ [] := by
    rintro rfl
    cases hfound
  obtain ⟨pre, w, hsplit, -⟩ := afterDefault?_eq_some_iff.mp hafter
  have hrange := defaultRange?_of_after hsplit hafter hq
  exact ⟨pre, w, q, hsplit, hafter, hq, Option.some.inj (h.symm.trans hrange)⟩

/-- The range is that of `e` exactly where the scan goes on with `e` and is cut behind it. -/
theorem defaultRange?_eq_some_iff (hsplit : D.tokens = pre ++ w :: (e ++ post)) (he : e ≠ []) :
    D.defaultRange? = some (pre.length + 1, pre.length + 1 + e.length) ↔
      afterDefault? 0 D.tokens = some (e ++ post) ∧ EndsBefore e post := by
  constructor
  · intro h
    obtain ⟨front, v, q, hfront, hafter, -, hr⟩ := exists_of_defaultRange? h
    obtain ⟨hstart, hstop⟩ := Prod.mk.inj hr
    -- the two splits are the same, for they are made at the same index
    have hsame : front.length = pre.length := by omega
    obtain ⟨-, hback⟩ := List.append_inj (hfront.symm.trans hsplit) hsame
    obtain ⟨-, rfl⟩ := List.cons.inj hback
    have hat : D.DefaultAt e post := defaultAt_iff.mpr ⟨he, hafter⟩
    obtain ⟨-, rest, hrest⟩ := exists_defaultTokens_append hat
    have hlength : D.defaultTokens.length = e.length := by
      rw [defaultTokens_eq]
      omega
    have hrun := (List.append_inj hrest hlength).1
    obtain ⟨post', hat', hends⟩ := (defaultTokens_eq_iff he).mp hrun
    have hpost := hafter.symm.trans (defaultAt_iff.mp hat').2
    rw [← List.append_cancel_left (Option.some.inj hpost)] at hends
    exact ⟨hafter, hends⟩
  · rintro ⟨hafter, hends⟩
    have hrun := (defaultTokens_eq_iff he).mpr ⟨post, defaultAt_iff.mpr ⟨he, hafter⟩, hends⟩
    rw [defaultTokens_eq] at hrun
    rw [defaultRange?_of_after hsplit hafter (List.append_ne_nil_of_left_ne_nil he post), hrun]

/-- The range of a default lies within its entry and is not empty. -/
theorem defaultRange?_bounds {start stop : Nat} (h : D.defaultRange? = some (start, stop)) :
    start < stop ∧ stop ≤ D.tokens.length := by
  obtain ⟨pre, w, q, hsplit, hafter, hq, hr⟩ := exists_of_defaultRange? h
  obtain ⟨hstart, hstop⟩ := Prod.mk.inj hr
  have hat : D.DefaultAt q [] := defaultAt_iff.mpr ⟨hq, by rw [hafter, List.append_nil]⟩
  obtain ⟨hne, rest, hrest⟩ := exists_defaultTokens_append hat
  have hpos := List.length_pos_iff.mpr hne
  have hle := congrArg List.length hrest
  have hlength := congrArg List.length hsplit
  rw [defaultTokens_eq] at hpos hle
  simp only [List.length_append, List.length_cons, List.length_nil] at hle hlength
  omega

/-- The tokens outside parentheses stand at their indexes. -/
theorem getElem?_of_mem_outerFrom {p : Nat × Token} :
    ∀ (ts front : List Token) (k : Int), D.tokens = front ++ ts →
      p ∈ outerFrom k front.length ts → D.tokens[p.1]? = some p.2 := by
  intro ts
  induction ts with
  | nil =>
    intro front k _ hp
    cases hp
  | cons t ts ih =>
    intro front k hsplit hp
    rw [outerFrom_cons] at hp
    rcases List.mem_append.mp hp with hp | hp
    · split at hp
      · rw [List.mem_singleton.mp hp, hsplit]
        simp
      · cases hp
    · refine ih (front ++ [t]) (k + t.step) (by simp [hsplit]) ?_
      rwa [List.length_append, List.length_singleton]

/-! ## Entries -/

/-- An entry is written as `pre`, the bare word `DEFAULT`, the expression `e` and `post`. Both `pre`
and `e` close as many parentheses as they open. No other bare `DEFAULT` stands in `pre`, no
attribute begins with a bare word in `e`, its first token apart, and one does in `post` unless
nothing is there. -/
structure DefaultForm (D : Declaration) (pre : List Token) (w : Token) (e post : List Token) :
    Prop where
  split : D.tokens = pre ++ w :: (e ++ post)
  word : isBare ["DEFAULT"] w = true
  front : rise pre = 0
  first : ¬Outside (isBare ["DEFAULT"]) 0 pre
  nonempty : e ≠ []
  level : rise e = 0
  whole : ¬BeginsWithin startsBareAttribute e
  ended : post = [] ∨ startsBareAttribute post = true

/-- The expression of such an entry ends where it was written to end unless it is cut inside. -/
theorem DefaultForm.endsBefore_iff (h : D.DefaultForm pre w e post) :
    EndsBefore e post ↔ ¬BeginsWithin startsAttribute e := by
  have hset : post.head?.any (isOneOf ["SET"]) = false := by
    rcases h.ended with rfl | hpost
    · rfl
    · exact not_set_of_bare hpost
  constructor
  · rintro hends ⟨a, b, hab, ha, hrise, hb⟩
    have hne : b ≠ [] := by
      rintro rfl
      cases hb
    have hcut := hends.uncut a b hab ha hne hrise
    rw [startsAttribute_append hne hset, hb] at hcut
    cases hcut
  · intro hnone
    refine ⟨fun a b hab ha hb hrise => ?_, ?_⟩
    · rw [startsAttribute_append hb hset]
      by_contra hcut
      exact hnone ⟨a, b, hab, ha, hrise, by simpa using hcut⟩
    · exact h.ended.imp_right fun hpost => ⟨h.level, startsAttribute_of_bare hpost⟩

theorem DefaultForm.defaultRange?_iff (h : D.DefaultForm pre w e post) :
    D.defaultRange? = some (pre.length + 1, pre.length + 1 + e.length) ↔
      ¬Outside (isMistaken ["DEFAULT"]) 0 pre ∧ ¬BeginsWithin startsAttribute e := by
  have hw : startsDefault w = true := by rw [startsDefault_eq, h.word, Bool.true_or]
  rw [defaultRange?_eq_some_iff h.split h.nonempty, afterDefault?_eq_iff h.split h.front hw,
    outside_startsDefault_iff, or_iff_right h.first, h.endsBefore_iff]

/-- Of an entry with such a range the text is that of the expression. -/
theorem DefaultForm.defaultText?_eq {sql : String} (h : D.DefaultForm pre w e post)
    (hrange : D.defaultRange? = some (pre.length + 1, pre.length + 1 + e.length)) :
    D.defaultText? sql = some (String.ofList
      (Lexer.slice sql.toList (e.head h.nonempty).start (e.getLast h.nonempty).stop)) := by
  obtain ⟨hafter, hends⟩ := (defaultRange?_eq_some_iff h.split h.nonempty).mp hrange
  have hat : D.DefaultAt e post := defaultAt_iff.mpr ⟨h.nonempty, hafter⟩
  rw [defaultText?, (defaultTokens_eq_iff h.nonempty).mpr ⟨post, hat, hends⟩, textOf_eq]

/-- The default of an entry that is written in this form is found, first to last token, exactly
where no literal is taken for `DEFAULT` before the word or for an attribute in the expression;
parentheses may hold any words, and what stands behind the expression never matters. An entry has
no text for a default exactly where it has no bare `DEFAULT` outside parentheses, or the first one
is its last token, and no literal before its last token is taken for one. Every token that the scan
looks at is there. -/
theorem default_bounds_iff (D : Declaration) (sql : String) :
    (∀ pre w e post, D.DefaultForm pre w e post →
      (D.defaultRange? = some (pre.length + 1, pre.length + 1 + e.length) ↔
        ¬Outside (isMistaken ["DEFAULT"]) 0 pre ∧ ¬BeginsWithin startsAttribute e) ∧
      (D.defaultRange? = some (pre.length + 1, pre.length + 1 + e.length) →
        ∃ first ∈ e.head?, ∃ last ∈ e.getLast?, D.defaultText? sql =
          some (String.ofList (Lexer.slice sql.toList first.start last.stop)))) ∧
    (D.defaultText? sql = none ↔
      (¬Outside (isBare ["DEFAULT"]) 0 D.tokens ∨
        ∃ pre w, D.tokens = pre ++ [w] ∧ rise pre = 0 ∧ isBare ["DEFAULT"] w = true ∧
          ¬Outside (isBare ["DEFAULT"]) 0 pre) ∧
      ¬Outside (isMistaken ["DEFAULT"]) 0 D.tokens.dropLast) ∧
    (∀ start stop, D.defaultRange? = some (start, stop) →
      start < stop ∧ stop ≤ D.tokens.length) ∧
    ∀ p ∈ D.outer, D.tokens[p.1]? = some p.2 := by
  refine ⟨fun pre w e post h => ⟨h.defaultRange?_iff, fun hrange => ?_⟩, ?_,
    fun start stop => defaultRange?_bounds, fun p => getElem?_of_mem_outerFrom D.tokens [] 0 rfl⟩
  · exact ⟨e.head h.nonempty, List.head?_eq_some_head _, e.getLast h.nonempty,
      List.getLast?_eq_some_getLast _, h.defaultText?_eq hrange⟩
  · rw [defaultText?_eq_none_iff, holdsDefault_iff_outside, outside_startsDefault_iff, not_or,
      not_outside_dropLast_iff]
    simp only [Int.zero_add]

/-- Words that end a default, and a comma, in the parentheses of the expression. -/
theorem default_bounds_nullif :
    ∃ ts D, Sql.tokens .postgres
        "CREATE TABLE t (a numeric(10, 2) DEFAULT NULLIF(1, NULL) NOT NULL)" = .ok ts ∧
      ofTokens ts = [D] ∧
      D.defaultText? "CREATE TABLE t (a numeric(10, 2) DEFAULT NULLIF(1, NULL) NOT NULL)" =
        some "NULLIF(1, NULL)" := by
  let pre : List Token := [⟨.word, "a", 16, 17, false⟩,
    ⟨.typeName .decimal, "numeric", 18, 25, false⟩, ⟨.sign .lParen, "(", 25, 26, false⟩,
    ⟨.number, "10", 26, 28, false⟩, ⟨.sign .comma, ",", 28, 29, false⟩,
    ⟨.number, "2", 30, 31, false⟩, ⟨.sign .rParen, ")", 31, 32, false⟩]
  let w : Token := ⟨.keyword .default, "DEFAULT", 33, 40, false⟩
  let e : List Token := [⟨.word, "NULLIF", 41, 47, false⟩, ⟨.sign .lParen, "(", 47, 48, false⟩,
    ⟨.number, "1", 48, 49, false⟩, ⟨.sign .comma, ",", 49, 50, false⟩,
    ⟨.keyword .null, "NULL", 51, 55, false⟩, ⟨.sign .rParen, ")", 55, 56, false⟩]
  let post : List Token := [⟨.keyword .not, "NOT", 57, 60, false⟩,
    ⟨.keyword .null, "NULL", 61, 65, false⟩]
  let D : Declaration := ⟨pre ++ w :: (e ++ post)⟩
  have htokens : (Sql.tokens .postgres
      "CREATE TABLE t (a numeric(10, 2) DEFAULT NULLIF(1, NULL) NOT NULL)").toOption.map ofTokens =
        some [D] := by decide +kernel
  obtain ⟨ts, hts, hD⟩ := exists_ok_of_toOption htokens
  have hform : D.DefaultForm pre w e post :=
    ⟨rfl, by decide, by decide, by decide, by decide, by decide, by decide, .inr (by decide)⟩
  obtain ⟨hrange, htext⟩ := (default_bounds_iff D
    "CREATE TABLE t (a numeric(10, 2) DEFAULT NULLIF(1, NULL) NOT NULL)").1 pre w e post hform
  obtain ⟨first, hfirst, last, hlast, hshown⟩ := htext (hrange.mpr ⟨by decide, by decide⟩)
  cases hfirst
  cases hlast
  exact ⟨ts, D, hts, hD, hshown.trans (by decide +kernel)⟩

/-- A literal that reads like an attribute cuts a default, and one that reads `DEFAULT` makes one
where there is none. -/
theorem default_bounds_of_literals :
    (∃ ts D pre w e, Sql.tokens .postgres "CREATE TABLE t (a text DEFAULT 'x' || E'NOT')" = .ok ts ∧
      ofTokens ts = [D] ∧ D.DefaultForm pre w e [] ∧
      textOf "CREATE TABLE t (a text DEFAULT 'x' || E'NOT')" e = some "'x' || E'NOT'" ∧
      D.defaultText? "CREATE TABLE t (a text DEFAULT 'x' || E'NOT')" = some "'x' ||") ∧
    ∃ ts D, Sql.tokens .mysql "CREATE TABLE t (a int COMMENT N'DEFAULT' NOT NULL)" = .ok ts ∧
      ofTokens ts = [D] ∧ ¬Outside (isBare ["DEFAULT"]) 0 D.tokens ∧
      D.defaultText? "CREATE TABLE t (a int COMMENT N'DEFAULT' NOT NULL)" = some "NOT" := by
  constructor
  · let pre : List Token := [⟨.word, "a", 16, 17, false⟩, ⟨.typeName .text, "text", 18, 22, false⟩]
    let w : Token := ⟨.keyword .default, "DEFAULT", 23, 30, false⟩
    let e : List Token := [⟨.text, "x", 31, 34, false⟩, ⟨.sign .doublePipe, "||", 35, 37, false⟩,
      ⟨.byteText, "NOT", 38, 44, false⟩]
    have htokens : (Sql.tokens .postgres
        "CREATE TABLE t (a text DEFAULT 'x' || E'NOT')").toOption.map ofTokens =
          some [⟨pre ++ w :: (e ++ [])⟩] := by decide +kernel
    obtain ⟨ts, hts, hD⟩ := exists_ok_of_toOption htokens
    exact ⟨ts, _, pre, w, e, hts, hD,
      ⟨rfl, by decide, by decide, by decide, by decide, by decide, by decide, .inl rfl⟩,
      by decide +kernel, by decide +kernel⟩
  · let D : Declaration := ⟨[⟨.word, "a", 16, 17, false⟩, ⟨.typeName .int, "int", 18, 21, false⟩,
      ⟨.keyword .comment, "COMMENT", 22, 29, false⟩, ⟨.nationalText, "DEFAULT", 30, 40, false⟩,
      ⟨.keyword .not, "NOT", 41, 44, false⟩, ⟨.keyword .null, "NULL", 45, 49, false⟩]⟩
    have htokens : (Sql.tokens .mysql
        "CREATE TABLE t (a int COMMENT N'DEFAULT' NOT NULL)").toOption.map ofTokens =
          some [D] := by decide +kernel
    obtain ⟨ts, hts, hD⟩ := exists_ok_of_toOption htokens
    exact ⟨ts, D, hts, hD, by decide, by decide +kernel⟩

end Declaration

end TableDoc
