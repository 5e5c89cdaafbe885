import TableDoc.Proofs.OperandEnds

/-!
# Names that stand alone

What a name is read as where an operand may stand and the next token ends it. It is the name,
unless it is a word for a constant or for a function without parentheses (`aloneTerm`).

* **forms** — a word that begins a form of its own finds nothing to go on with (`Quiet`), so it is
  a name as well, or can not be read;
* **operands** — a name is read as a field (`field?_of_ends`), as a column (`column?_of_ends`) and
  as an operand at every level (`unary?_of_ends`).
-/

namespace TableDoc.Sql

open Reader

variable {d : Dialect} {r : Rules} {prev : Option Token} {c stop fence : Token}
  {rest : List Token} {e : Cursor} {v : Term}

/-- Whether a token is a name in quotes or a word, whatever else the word means. -/
def Token.isNamed (c : Token) : Bool :=
  match c.kind with
  | .quotedName | .word | .introducer | .keyword _ | .typeName _ => true
  | _ => false

/-- A token that the name of a column is written as, spelled as what it is. -/
structure WritesName (d : Dialect) (c : Token) : Prop where
  named : c.isNamed = true
  spelled : Spells d c.kind c.text

namespace WritesName

theorem isSign (h : WritesName d c) (s : Sign) : c.isSign s = false := by
  refine beq_false_of_ne fun hkind => ?_
  simpa [Token.isNamed, hkind] using h.named

theorem kind_ne_text (h : WritesName d c) : c.kind ≠ .text := by
  intro hkind
  simpa [Token.isNamed, hkind] using h.named

theorem nameOf? (h : WritesName d c) {p : Token → Bool} (hp : c.kind = .quotedName → p c = true) :
    nameOf? p ⟨prev, c :: rest⟩ =
      if p c then .ok (some (.name ⟨c.text, c.kind == .quotedName⟩), ⟨some c, rest⟩)
      else .ok (none, ⟨prev, c :: rest⟩) :=
  nameOf?_of_no_sign h.isSign h.kind_ne_text hp

/-- Where the name of a field is asked for, a name is taken for it or left. -/
theorem fieldName? (h : WritesName d c) (prev : Option Token) (rest : List Token)
    (anyWord : Bool) :
    (if anyWord then anyName? else plainName?) ⟨prev, c :: rest⟩ =
        .ok (some (.name ⟨c.text, c.kind == .quotedName⟩), ⟨some c, rest⟩) ∨
      (if anyWord then anyName? else plainName?) ⟨prev, c :: rest⟩ =
        .ok (none, ⟨prev, c :: rest⟩) := by
  obtain ⟨p, hp, hname⟩ : ∃ p : Token → Bool, (c.kind = .quotedName → p c = true) ∧
      (if anyWord then anyName? else plainName?) = Sql.nameOf? p := by
    cases anyWord with
    | true => exact ⟨_, fun hq => by simp [Token.isReserved, hq], rfl⟩
    | false => exact ⟨_, fun hq => by simp [Token.isName, hq], rfl⟩
  rw [hname, h.nameOf? hp]
  by_cases hpc : p c = true
  · exact .inl (if_pos hpc)
  · exact .inr (if_neg hpc)

end WritesName

/-! ## Constants -/

/-- What a word means that is a constant, or a function without parentheses. -/
def constant? (d : Dialect) (c : Token) : Option Term :=
  (tokenLiteral? d c).or (bareFunction? d c)

/-- The term that a name is read as alone. -/
def aloneTerm (d : Dialect) (c : Token) : Term :=
  (constant? d c).getD (.name ⟨c.text, c.kind == .quotedName⟩)

/-- The keywords for constants and for functions without parentheses. -/
def constantKeywords : List Keyword :=
  [.null, .trueValue, .falseValue, .currentTimestamp, .currentDate, .currentTime, .currentUser,
   .localTime, .localTimestamp, .sessionUser, .currentCatalog, .currentSchema]

/-- What a word for a constant shows is another word. -/
def IsConstant (c : Token) (t : Term) : Prop :=
  (∃ k ∈ constantKeywords, c.kind = .keyword k) ∧
    ∃ cls shown, t = .phrase cls [shown] [] ∧ cls ∉ ["ordered", "parameter", "star"]

theorem tokenLiteral?_eq_some (h : WritesName d c) (hc : tokenLiteral? d c = some v) :
    (c.kind = .keyword .null ∧ v = .phrase "null" ["NULL"] []) ∨
      (c.kind = .keyword .trueValue ∧ v = .phrase "boolean" ["TRUE"] []) ∨
      (c.kind = .keyword .falseValue ∧ v = .phrase "boolean" ["FALSE"] []) := by
  have hname := h.named
  unfold tokenLiteral? at hc
  split at hc
  case h_8 hkind => exact .inl ⟨hkind, (Option.some.inj hc).symm⟩
  case h_9 hkind => exact .inr (.inl ⟨hkind, (Option.some.inj hc).symm⟩)
  case h_10 hkind => exact .inr (.inr ⟨hkind, (Option.some.inj hc).symm⟩)
  case h_12 => cases hc
  -- the other literals are no names
  all_goals
    rename_i hkind
    simp [Token.isNamed, hkind] at hname

theorem isConstant_of_tokenLiteral? (h : WritesName d c) (hc : tokenLiteral? d c = some v) :
    IsConstant c v := by
  rcases tokenLiteral?_eq_some h hc with ⟨hkind, rfl⟩ | ⟨hkind, rfl⟩ | ⟨hkind, rfl⟩ <;>
    exact ⟨⟨_, by simp [constantKeywords], hkind⟩, _, _, rfl, by simp⟩

theorem isConstant_of_bareFunction? (hc : bareFunction? d c = some v) : IsConstant c v := by
  unfold bareFunction? at hc
  split at hc
  case h_10 => cases hc
  all_goals
    rename_i hkind
    refine ⟨⟨_, by simp [constantKeywords], hkind⟩, ?_⟩
    repeat' split at hc
    all_goals
      cases hc
      try exact ⟨_, _, rfl, by simp⟩

theorem isConstant_of_constant? (h : WritesName d c) (hc : constant? d c = some v) :
    IsConstant c v := by
  rcases Option.or_eq_some_iff.mp hc with hliteral | ⟨-, hbare⟩
  · exact isConstant_of_tokenLiteral? h hliteral
  · exact isConstant_of_bareFunction? hbare

/-! ## Forms -/

/-- What a word goes on with that begins a form of its own. The word for a character set is read as
a literal before it could begin one. -/
def formOf? (d : Dialect) (r : Rules) (c : Token) : Option (Reader (Option Term)) :=
  if c.isQuoted || c.kind == .introducer then none else wordFunction? d r c.capitals

theorem formOf?_of_kind_ne (hkind : c.kind ≠ .introducer) :
    (if true && !c.isQuoted then wordFunction? d r c.capitals else none) = formOf? d r c := by
  unfold formOf?
  cases c.isQuoted <;> simp [hkind]

/-- A form that a name begins finds nothing to go on with, or stops with a fault. -/
def FormsQuiet (d : Dialect) (r : Rules) (c : Token) (rest : List Token) : Prop :=
  ∀ body ∈ formOf? d r c, ∀ t e, body ⟨some c, rest⟩ ≠ .ok (some t, e)

/-- A name finds nothing behind it that it would go on with, whatever it may begin. -/
structure Quiet (d : Dialect) (r : Rules) (c : Token) (rest : List Token) : Prop where
  form : FormsQuiet d r c rest
  bytes : d = .mysql → c.kind = .typeName .binary →
    ∀ t e, column? d r ⟨some c, rest⟩ ≠ .ok (some t, e)
  interval : c.kind = .typeName .interval →
    ∀ t e, intervalAfter? d r ⟨some c, rest⟩ ≠ .ok (some t, e)
  negation : c.isKeyword .not = true → ∀ t e, r.equality ⟨some c, rest⟩ ≠ .ok (some t, e)

/-- A word for a constant begins no form of its own. -/
theorem formOf?_of_constant? (h : WritesName d c) (hc : (constant? d c).isSome = true) :
    formOf? d r c = none := by
  have hforms : (formWords.all fun w => (Keyword.ofWord? d w).all
      fun k => !constantKeywords.contains k) = true := by
    cases d <;> decide
  have hnot : c.capitals ∉ formWords := by
    intro hmem
    obtain ⟨v, hv⟩ := Option.isSome_iff_exists.mp hc
    obtain ⟨⟨k, hk, hkind⟩, -⟩ := isConstant_of_constant? h hv
    have hspelled := h.spelled
    rw [hkind] at hspelled
    have hword : Keyword.ofWord? d c.capitals = some k := hspelled
    have hall := List.all_eq_true.mp hforms c.capitals hmem
    simp [hword, hk] at hall
  unfold formOf?
  split
  · rfl
  · exact wordFunction?_eq_none hnot

/-- A form that a name begins finds nothing to go on with, and the name is a name. -/
def FormsEmpty (d : Dialect) (r : Rules) (c : Token) (rest : List Token) : Prop :=
  ∀ body ∈ formOf? d r c, ∃ e, body ⟨some c, rest⟩ = .ok (none, e)

/-- A name alone is no call, unless it is a function without parentheses. -/
theorem call?_of_ends (h : WritesName d c) (hkind : c.kind ≠ .introducer) (hstop : Ends stop)
    (hquiet : FormsQuiet d r c (stop :: rest)) {anyWord : Bool} {o : Option Term}
    (hcall : call? d r { anyWord := anyWord } ⟨prev, c :: stop :: rest⟩ = .ok (o, e)) :
    o = bareFunction? d c ∧
      e = (if o.isSome then ⟨some c, stop :: rest⟩ else ⟨prev, c :: stop :: rest⟩) ∧
      FormsEmpty d r c (stop :: rest) := by
  have hopen : stop.isSign .lParen = false := hstop.isSign (by simp) (by simp)
  unfold call? at hcall
  simp only [bind_apply, get_apply, ok_bind, peek_cons, formOf?_of_kind_ne hkind] at hcall
  cases hform : formOf? d r c with
  | none =>
    simp only [hform, bind_apply, peekSecond_cons, ok_bind, List.head?_cons, Option.any_some,
      hopen, Bool.not_false, if_true] at hcall
    refine ⟨?_, ?_, by simp [FormsEmpty, hform]⟩
    all_goals
      cases hbare : bareFunction? d c <;> simp [hbare] at hcall <;> simp [← hcall.1, ← hcall.2]
  | some body =>
    simp only [hform, bind_apply, skip_cons, ok_bind] at hcall
    obtain ⟨⟨x, between⟩, hbody, hcall⟩ := exists_of_bind hcall
    cases x with
    | some t => exact absurd hbody (hquiet body hform t between)
    | none =>
      cases hcall
      have hbare : bareFunction? d c = none := by
        cases hbare : bareFunction? d c with
        | none => rfl
        | some f =>
          have hsome : (constant? d c).isSome = true := by simp [constant?, hbare]
          rw [formOf?_of_constant? h hsome] at hform
          cases hform
      refine ⟨hbare.symm, rfl, ?_⟩
      intro _ hmem
      cases hform.symm.trans hmem
      exact ⟨between, hbody⟩

/-! ## Operands -/

theorem primary?_of_tokenLiteral? (h : WritesName d c) (hc : tokenLiteral? d c = some v) :
    primary? d r ⟨prev, c :: rest⟩ = .ok (some v, ⟨some c, rest⟩) := by
  rcases tokenLiteral?_eq_some h hc with ⟨-, rfl⟩ | ⟨-, rfl⟩ | ⟨-, rfl⟩ <;>
    simp [primary?, literal?, singleLiteral?, hc]

theorem primary?_of_name (h : WritesName d c) (hc : tokenLiteral? d c = none)
    (hkind : c.kind ≠ .introducer) :
    primary? d r ⟨prev, c :: rest⟩ = .ok (none, ⟨prev, c :: rest⟩) :=
  primary?_eq_none hc hkind fun s _ => h.isSign s

/-- The word for a character set that no literal follows is a name. -/
theorem primary?_of_introducer {next : Token} (hkind : c.kind = .introducer)
    (hnext : tokenLiteral? d next = none) :
    primary? d r ⟨prev, c :: next :: rest⟩ =
      .ok (some (.name ⟨c.text, false⟩), ⟨some c, next :: rest⟩) := by
  have hliteral : tokenLiteral? d c = none := by simp [tokenLiteral?, hkind]
  have hdot : c.isSign .dot = false := by simp [Token.isSign, hkind]
  simp [primary?, literal?, singleLiteral?, hliteral, hkind, hnext, sequence_of_not _ hdot]

/-- A call has no braces where there is none in front of it. -/
theorem braced?_of_no_sign (hsign : ∀ s, c.isSign s = false) (call : Reader (Option Term)) :
    braced? call ⟨prev, c :: rest⟩ = call ⟨prev, c :: rest⟩ := by
  have hbrace : sequence [(·.isSign .lBrace), (·.isWord "FN")] ⟨prev, c :: rest⟩ =
      .ok (false, ⟨prev, c :: rest⟩) := sequence_of_not _ (hsign _)
  unfold braced?
  rw [bind_apply, hbrace]
  cases hcall : call ⟨prev, c :: rest⟩ <;> simp [hcall]

/-- A name alone is a field, unless it is a word that names are told from. -/
theorem field?_of_ends (h : WritesName d c) (hstop : Ends stop)
    (hquiet : FormsQuiet d r c (stop :: rest)) {anyWord : Bool} {o : Option Term}
    (hfield : field? d r anyWord ⟨prev, c :: stop :: rest⟩ = .ok (o, e)) :
    ((o = some (aloneTerm d c) ∧ e = ⟨some c, stop :: rest⟩) ∨
        (o = none ∧ e = ⟨prev, c :: stop :: rest⟩ ∧ constant? d c = none)) ∧
      FormsEmpty d r c (stop :: rest) := by
  cases hliteral : tokenLiteral? d c with
  | some v =>
    have hconstant : constant? d c = some v := by simp [constant?, hliteral]
    have hform := formOf?_of_constant? (r := r) h (by simp [hconstant])
    simp only [field?, firstOf, bind_apply, primary?_of_tokenLiteral? h hliteral, ok_bind,
      pure_apply] at hfield
    cases hfield
    exact ⟨.inl ⟨by simp [aloneTerm, hconstant], rfl⟩, by simp [FormsEmpty, hform]⟩
  | none =>
    by_cases hkind : c.kind = .introducer
    · have hconstant : constant? d c = none := by simp [constant?, hliteral, bareFunction?, hkind]
      simp only [field?, firstOf, bind_apply, primary?_of_introducer hkind hstop.tokenLiteral?,
        ok_bind, pure_apply] at hfield
      cases hfield
      exact ⟨.inl ⟨by simp [aloneTerm, hconstant, hkind], rfl⟩,
        by simp [FormsEmpty, formOf?, hkind]⟩
    simp only [field?, firstOf, bind_apply, primary?_of_name h hliteral hkind, ok_bind,
      braced?_of_no_sign h.isSign] at hfield
    obtain ⟨⟨x, between⟩, hcall, hfield⟩ := exists_of_bind hfield
    obtain ⟨hbare, hbetween, hforms⟩ := call?_of_ends h hkind hstop hquiet hcall
    refine ⟨?_, hforms⟩
    cases x with
    | some f =>
      cases hfield
      exact .inl ⟨by simp [aloneTerm, constant?, hliteral, ← hbare], hbetween⟩
    | none =>
      have hconstant : constant? d c = none := by simp [constant?, hliteral, ← hbare]
      change between = ⟨prev, c :: stop :: rest⟩ at hbetween
      simp only [hbetween, bind_apply] at hfield
      rcases h.fieldName? prev (stop :: rest) anyWord with hname | hname
      · rw [hname] at hfield
        cases hfield
        exact .inl ⟨by simp [aloneTerm, hconstant], rfl⟩
      · rw [hname] at hfield
        cases hfield
        exact .inr ⟨rfl, rfl, hconstant⟩

/-- The word for a list of values is a name alone, in one dialect. -/
theorem valuesName?_of_ends (hstop : Ends stop) :
    valuesName? d ⟨prev, c :: stop :: rest⟩ =
      if d == .postgres && c.isKeyword .values then
        .ok (some (.name ⟨c.text, false⟩), ⟨some c, stop :: rest⟩)
      else .ok (none, ⟨prev, c :: stop :: rest⟩) := by
  unfold valuesName?
  cases d with
  | mysql => rfl
  | postgres => by_cases hvalues : c.isKeyword .values = true <;> simp [hvalues, hstop.isSign]

/-- A name alone is a column. -/
theorem column?_of_ends (h : WritesName d c) (hstop : Ends stop)
    (hquiet : FormsQuiet d r c (stop :: rest))
    (hcolumn : column? d r ⟨prev, c :: stop :: rest⟩ = .ok (some v, e)) :
    v = asColumn (aloneTerm d c) ∧ e = ⟨some c, stop :: rest⟩ ∧
      FormsEmpty d r c (stop :: rest) := by
  obtain ⟨o, between, hfirst, hcolumn⟩ := bind_eq_ok_iff.mp hcolumn
  obtain ⟨x, later, hfield, hfirst⟩ := bind_eq_ok_iff.mp hfirst
  obtain ⟨hx, hforms⟩ := field?_of_ends h hstop hquiet hfield
  have hread : o = some (aloneTerm d c) ∧ between = ⟨some c, stop :: rest⟩ := by
    rcases hx with ⟨rfl, rfl⟩ | ⟨rfl, rfl, hconstant⟩
    · cases hfirst
      exact ⟨rfl, rfl⟩
    · simp only [firstOf, bind_apply, valuesName?_of_ends hstop] at hfirst
      by_cases hvalues : (d == .postgres && c.isKeyword .values) = true
      · rw [if_pos hvalues] at hfirst
        cases hfirst
        have hkind : c.kind = .keyword .values := by
          simpa [Token.isKeyword] using (Bool.and_eq_true_iff.mp hvalues).2
        exact ⟨by simp [aloneTerm, hconstant, hkind], rfl⟩
      · rw [if_neg hvalues] at hfirst
        cases hfirst
        simp [sign, h.isSign] at hcolumn
  obtain ⟨rfl, rfl⟩ := hread
  simp only [bind_apply, withSuffixes_of_ends hstop, ok_bind, pure_apply] at hcolumn
  cases hcolumn
  exact ⟨rfl, rfl, hforms⟩

/-- What is known of a name that has been read alone: it negates nothing, is no operator on bytes
and goes on with no form. -/
structure ReadAlone (d : Dialect) (r : Rules) (c : Token) (rest : List Token) : Prop where
  negation : c.isKeyword .not = false
  bytes : ¬(d = .mysql ∧ c.kind = .typeName .binary)
  form : FormsEmpty d r c rest

/-- A name alone is no operator on bytes, for no column follows it. -/
theorem bytesOf?_of_ends (hstop : Ends stop) (hquiet : Quiet d r c (stop :: rest)) {o : Option Term}
    (hbytes : bytesOf? d r ⟨prev, c :: stop :: rest⟩ = .ok (o, e)) :
    o = none ∧ e = ⟨prev, c :: stop :: rest⟩ ∧ ¬(d = .mysql ∧ c.kind = .typeName .binary) := by
  unfold bytesOf? orBack at hbytes
  by_cases hkind : d = .mysql ∧ c.kind = .typeName .binary
  · obtain ⟨rfl, hbinary⟩ := hkind
    have htype := dataType_of_ends (d := .mysql) (r := r) hstop prev c rest false
    simp only [Token.typeName?, hbinary, reduceCtorEq, if_false] at htype
    simp only [bind_apply, get_apply, ok_bind, sees_cons, hbinary, beq_self_eq_true, Bool.and_self,
      if_true, htype] at hbytes
    obtain ⟨⟨x, between⟩, hcolumn, hbytes⟩ := exists_of_bind hbytes
    obtain ⟨⟨a, later⟩, hrequired, -⟩ := exists_of_bind hcolumn
    exact absurd (required_eq_ok hrequired) (hquiet.bytes rfl hbinary a later)
  · have hnone : (d == .mysql && c.kind == .typeName .binary) = false := by
      simpa using hkind
    simp [hnone] at hbytes
    exact ⟨hbytes.1.symm, hbytes.2.symm, hkind⟩

/-- A name alone is no interval, for no amount follows it. -/
theorem interval?_of_ends (hquiet : Quiet d r c rest) {o : Option Term}
    (hinterval : interval? d r ⟨prev, c :: rest⟩ = .ok (o, e)) :
    o = none ∧ e = ⟨prev, c :: rest⟩ := by
  cases o with
  | none => exact ⟨rfl, (orBack_eq_none hinterval).1⟩
  | some t =>
    have hbody := orBack_eq_some hinterval
    by_cases hkind : c.kind = .typeName .interval
    · simp only [bind_apply, accept_cons, hkind, beq_self_eq_true, if_true, ok_bind] at hbody
      obtain ⟨⟨y, later⟩, hafter, hbody⟩ := exists_of_bind hbody
      cases y with
      | none => cases hbody
      | some a => exact absurd hafter (hquiet.interval hkind a later)
    · simp [hkind] at hbody

/-- A name alone is an operand. -/
theorem typed?_of_ends (h : WritesName d c) (hstop : Ends stop)
    (hquiet : Quiet d r c (stop :: rest))
    (htyped : typed? d r ⟨prev, c :: stop :: rest⟩ = .ok (some v, e)) :
    v = asColumn (aloneTerm d c) ∧ e = ⟨some c, stop :: rest⟩ ∧
      ¬(d = .mysql ∧ c.kind = .typeName .binary) ∧ FormsEmpty d r c (stop :: rest) := by
  obtain ⟨x, between, hbytes, htyped⟩ := bind_eq_ok_iff.mp htyped
  obtain ⟨rfl, rfl, hbinary⟩ := bytesOf?_of_ends hstop hquiet hbytes
  obtain ⟨x, between, hinterval, htyped⟩ := bind_eq_ok_iff.mp htyped
  obtain ⟨rfl, rfl⟩ := interval?_of_ends hquiet hinterval
  simp only [bind_apply, typeLiteral?_of_ends hstop, ok_bind] at htyped
  obtain ⟨hv, he, hforms⟩ := column?_of_ends h hstop hquiet.form htyped
  exact ⟨hv, he, hbinary, hforms⟩

/-- A name alone is an operand, and no sign or word that negates one. -/
theorem unary?_of_ends (h : WritesName d c) (hstop : Ends stop)
    (hquiet : Quiet d r c (stop :: rest))
    (hunary : unary? d r ⟨prev, c :: stop :: rest⟩ = .ok (some v, e)) :
    unary? d r ⟨prev, c :: stop :: rest⟩ =
        .ok (some (asColumn (aloneTerm d c)), ⟨some c, stop :: rest⟩) ∧
      ReadAlone d r c (stop :: rest) := by
  rcases unary?_eq_some h.isSign hunary with ⟨hnot, a, later, hoperand⟩ | ⟨hnot, a, later, htyped⟩
  · exact absurd hoperand (hquiet.negation hnot a later)
  · obtain ⟨rfl, rfl, hbinary, hforms⟩ := typed?_of_ends h hstop hquiet htyped
    exact ⟨unary?_of_typed? hstop h.isSign hnot htyped, hnot, hbinary, hforms⟩

/-- Where a name alone is read at the loosest level, it is read as an operand. -/
theorem disjunction?_of_ends (h : WritesName d c) (hstop : Ends stop)
    (hquiet : Quiet d r c (stop :: rest))
    (hread : disjunction? d r ⟨prev, c :: stop :: rest⟩ = .ok (some v, e)) :
    v = asColumn (aloneTerm d c) ∧ e = ⟨some c, stop :: rest⟩ ∧
      ReadAlone d r c (stop :: rest) := by
  obtain ⟨a, later, hunary⟩ := disjunction?_eq_some hread
  obtain ⟨hunary, halone⟩ := unary?_of_ends h hstop hquiet hunary
  cases (disjunction?_of_unary? hstop hunary).symm.trans hread
  exact ⟨rfl, rfl, halone⟩

/-! ## Levels -/

/-- Nothing is read, and nothing taken, unless reading stops with a fault. -/
def Nothing (R : Reader (Option Term)) (c : Cursor) : Prop :=
  R c = .ok (none, c) ∨ ∃ f, R c = .error f

theorem Nothing.ne_some {R : Reader (Option Term)} {c : Cursor} (h : Nothing R c) (t : Term)
    (e : Cursor) : R c ≠ .ok (some t, e) := by
  intro hsome
  rcases h with h | ⟨f, h⟩
  · cases h.symm.trans hsome
  · cases h.symm.trans hsome

section Fenced

variable (hfence : Fences fence) (k : Nat)

include hfence

section Nothing

variable (prev rest)

theorem nothing_disjunction : Nothing (Rules.levels d k).disjunction ⟨prev, fence :: rest⟩ := by
  cases k with
  | zero => exact .inr ⟨_, rfl⟩
  | succ k => exact .inl hfence.disjunction?

theorem nothing_bitwise : Nothing (Rules.levels d k).bitwise ⟨prev, fence :: rest⟩ := by
  cases k with
  | zero => exact .inr ⟨_, rfl⟩
  | succ k => exact .inl hfence.bitwise?

theorem nothing_sum : Nothing (Rules.levels d k).sum ⟨prev, fence :: rest⟩ := by
  cases k with
  | zero => exact .inr ⟨_, rfl⟩
  | succ k => exact .inl hfence.sum?

theorem nothing_column : Nothing (Rules.levels d k).column ⟨prev, fence :: rest⟩ := by
  cases k with
  | zero => exact .inr ⟨_, rfl⟩
  | succ k => exact .inl hfence.column?

theorem nothing_equality : Nothing (Rules.levels d k).equality ⟨prev, fence :: rest⟩ := by
  cases k with
  | zero => exact .inr ⟨_, rfl⟩
  | succ k => exact .inl hfence.equality?

/-- A case without branches is none. -/
theorem caseTerm_of_fences : ∃ f, caseTerm (Rules.levels d k) ⟨prev, fence :: rest⟩ = .error f := by
  have hbranches : many (caseBranch? (Rules.levels d k)) ⟨prev, fence :: rest⟩ =
      .ok ([], ⟨prev, fence :: rest⟩) :=
    many_of_none (by simp [caseBranch?, keyword, hfence.isKeyword])
  rcases nothing_disjunction (d := d) prev rest hfence k with h | ⟨f, h⟩
  · exact ⟨.missing "branch", by simp [caseTerm, h, hbranches]⟩
  · exact ⟨f, by simp [caseTerm, h]⟩

end Nothing

/-- A form that a name may begin finds nothing to go on with. Two of the words for one are then
names. -/
theorem form_of_fences {body : Reader (Option Term)}
    (hform : formOf? d (Rules.levels d k) c = some body) :
    (∀ t e, body ⟨some c, fence :: rest⟩ ≠ .ok (some t, e)) ∧
      ∀ e, body ⟨some c, fence :: rest⟩ = .ok (none, e) → c.capitals ∈ ["IF", "NEXT"] := by
  have hdisjunction := nothing_disjunction (d := d) (some c) rest hfence k
  have hbitwise := nothing_bitwise (d := d) (some c) rest hfence k
  have hcolumn := nothing_column (d := d) (some c) rest hfence k
  have hdot : fence.isSign .dot = false := hfence.ends.isSign (by simp) (by simp)
  have hopen : fence.isSign .lParen = false := hfence.ends.isSign (by simp) (by simp)
  unfold formOf? wordFunction? at hform
  split at hform
  · cases hform
  split at hform
  case h_1 =>
    cases hform
    obtain ⟨f, hcase⟩ := caseTerm_of_fences (d := d) (some c) rest hfence k
    constructor <;> simp [hdot, hcase]
  case h_2 hword =>
    cases hform
    refine ⟨?_, fun e _ => by simp [hword]⟩
    rcases hdisjunction with h | ⟨f, h⟩ <;> simp [ifTerm?, sign, hopen, h]
  case h_3 =>
    cases hform
    rcases hbitwise with h | ⟨f, h⟩ <;> simp [required, h]
  case h_4 =>
    cases hform
    rcases hcolumn with h | ⟨f, h⟩ <;> simp [required, h]
  case h_5 hword =>
    cases hform
    have hwords : words ["VALUE", "FOR"] ⟨some c, fence :: rest⟩ =
        .ok (false, ⟨some c, fence :: rest⟩) := words_of_not _ (hfence.ends.isWord (by simp))
    refine ⟨?_, fun e _ => by simp [hword]⟩
    simp [hwords]
  case h_6 =>
    split at hform
    · cases hform
      rcases hbitwise with h | ⟨f, h⟩ <;> simp [required, h]
    · cases hform
  case h_7 => cases hform

/-- Whether a name begins a form does not depend on the level, and two of the words that do are
names where a list goes on or closes. -/
theorem forms_of_formsEmpty (hempty : FormsEmpty d (Rules.levels d k) c (fence :: rest)) :
    ∀ body ∈ formOf? d r c, c.capitals ∈ ["IF", "NEXT"] := by
  intro body hbody
  have hform : ∃ body', formOf? d (Rules.levels d k) c = some body' := by
    unfold formOf? at hbody ⊢
    split at hbody
    · cases hbody
    rename_i hplain
    rw [if_neg hplain]
    unfold wordFunction? at hbody
    split at hbody
    case h_7 => cases hbody
    case h_6 hword =>
      split at hbody
      · rename_i hd
        exact ⟨_, by rw [hword, wordFunction?, if_pos hd]⟩
      · cases hbody
    all_goals
      rename_i hword
      exact ⟨_, by rw [hword]; rfl⟩
  obtain ⟨body', hform⟩ := hform
  obtain ⟨e, he⟩ := hempty body' hform
  exact (form_of_fences hfence k hform).2 e he

/-- Where a list goes on or closes, a name finds nothing to go on with. -/
theorem quiet_of_fences : Quiet d (Rules.levels d k) c (fence :: rest) where
  form := fun _ hbody => (form_of_fences hfence k hbody).1
  bytes := fun _ _ t e => by simp [hfence.column?]
  interval := by
    intro hkind t e
    rcases nothing_sum (d := d) (some c) rest hfence k with h | ⟨f, h⟩ <;>
      simp [intervalAfter?, hfence.ends.kind_ne, endKinds, h]
  negation := fun _ => (nothing_equality _ _ hfence k).ne_some

end Fenced

/-! ## Orders -/

/-- A word for the order of a member. -/
structure Orders (t : Token) : Prop where
  kind : t.kind = .keyword .asc ∨ t.kind = .keyword .desc
  capitals : t.capitals ∈ ["ASC", "DESC"]

namespace Orders

variable {order : Token}

theorem ends (h : Orders order) : Ends order where
  kind := by rcases h.kind with h | h <;> simp [endKinds, h]
  capitals := List.mem_append_right ["(", ")", ","] h.capitals

theorem asColumn_aloneTerm (h : Orders order) :
    asColumn (aloneTerm d order) = .column [] (.name ⟨order.text, false⟩) := by
  rcases h.kind with h | h <;>
    simp [aloneTerm, constant?, tokenLiteral?, bareFunction?, asColumn, h]

end Orders

/-- An operand is asked for, and a name that the list ends behind is taken for it. -/
theorem disjunction_of_name (h : WritesName d c) (hfence : Fences fence) (k : Nat)
    (hread : (Rules.levels d k).disjunction ⟨prev, c :: fence :: rest⟩ = .ok (some v, e)) :
    e = ⟨some c, fence :: rest⟩ := by
  cases k with
  | zero => cases hread
  | succ k => exact (disjunction?_of_ends h hfence.ends (quiet_of_fences hfence k) hread).2.1

section Ordered

variable {order : Token} (horder : Orders order) (hname : WritesName d order)
  (hfence : Fences fence) (k : Nat)

include horder hname hfence

/-- The word for an order is a name where an operand is asked for. -/
theorem sum_of_orders
    (h : (Rules.levels d k).sum ⟨prev, order :: fence :: rest⟩ = .ok (some v, e)) :
    v = .column [] (.name ⟨order.text, false⟩) ∧ e = ⟨some order, fence :: rest⟩ := by
  cases k with
  | zero => cases h
  | succ k =>
    obtain ⟨a, later, hproduct⟩ := chain_eq_some h
    obtain ⟨a, later, hunary⟩ := product?_eq_some hproduct
    obtain ⟨hunary, -⟩ := unary?_of_ends hname hfence.ends (quiet_of_fences hfence k) hunary
    cases (sum?_of_unary? hfence.ends hunary).symm.trans h
    exact ⟨horder.asColumn_aloneTerm, rfl⟩

/-- Before an order a form finds nothing to go on with either, for the word for the order alone is
not enough for it. -/
theorem formsQuiet_of_orders
    (hform : ∀ body ∈ formOf? d (Rules.levels d k) c, c.capitals ∈ ["IF", "NEXT"]) :
    FormsQuiet d (Rules.levels d k) c (order :: fence :: rest) := by
  intro body hbody t e
  have hword := hform body hbody
  unfold formOf? at hbody
  split at hbody
  · cases hbody
  simp only [List.mem_cons, List.not_mem_nil, or_false] at hword
  rcases hword with hword | hword
  · -- the word for the order is the condition, and no value follows it
    rw [hword] at hbody
    cases hbody
    intro hif
    have hopen : order.isSign .lParen = false := horder.ends.isSign (by simp) (by simp)
    simp only [ifTerm?, sign, bind_apply, accept_cons, hopen, Bool.false_eq_true, if_false,
      ok_bind] at hif
    obtain ⟨⟨x, between⟩, hcondition, hif⟩ := exists_of_bind hif
    cases x with
    | none => cases hif
    | some a =>
      cases disjunction_of_name hname hfence k hcondition
      have hvalue := nothing_disjunction (d := d) (some order) rest hfence k
      rcases hvalue with h | ⟨f, h⟩ <;> simp [keyword, required, hfence.isKeyword, h] at hif
  · rw [hword] at hbody
    cases hbody
    have hwords : words ["VALUE", "FOR"] ⟨some c, order :: fence :: rest⟩ =
        .ok (false, ⟨some c, order :: fence :: rest⟩) :=
      words_of_not _ (horder.ends.isWord (by simp))
    simp [hwords]

/-- Before an order a name finds nothing to go on with. -/
theorem quiet_of_orders (hnot : c.isKeyword .not = false)
    (hbytes : ¬(d = .mysql ∧ c.kind = .typeName .binary))
    (hform : ∀ body ∈ formOf? d (Rules.levels d k) c, c.capitals ∈ ["IF", "NEXT"]) :
    Quiet d (Rules.levels d k) c (order :: fence :: rest) where
  form := formsQuiet_of_orders horder hname hfence k hform
  bytes := fun hd hkind => absurd ⟨hd, hkind⟩ hbytes
  interval := by
    intro hkind t e hinterval
    have htext : order.kind ≠ .text := horder.ends.kind_ne (by simp [endKinds])
    have hunit : TimeUnit.isUnit d fence.capitals = false := by
      have hall : (["(", ")", ","].all fun w => !TimeUnit.isUnit d w) = true := by
        cases d <;> decide
      simpa using List.all_eq_true.mp hall _ hfence.capitals
    simp only [intervalAfter?, bind_apply, sees_cons, beq_false_of_ne htext, ok_bind,
      Bool.false_eq_true, if_false] at hinterval
    obtain ⟨⟨x, between⟩, hsum, hinterval⟩ := exists_of_bind hinterval
    cases x with
    | none => cases hinterval
    | some a =>
      obtain ⟨rfl, rfl⟩ := sum_of_orders horder hname hfence k hsum
      simp [hunit] at hinterval
  negation := fun hnegates => by simp [hnot] at hnegates

end Ordered

end TableDoc.Sql
