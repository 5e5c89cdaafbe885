import TableDoc.Proofs.ReaderRuns
import TableDoc.Proofs.ReaderSteps
import TableDoc.Proofs.Spelling
import TableDoc.Sql.Grammar

/-!
# Where operands end

An operand of one token, when the next one is a comma, a closing parenthesis or the word for an
order: none of what might have followed the operand does.

* **ends** — such a token is no operator and no word that goes on with a term (`Ends`), so what has
  been read stays as it is (`withSuffixes_of_ends`, `arrayMarks_of_ends`);
* **operators** — an operand that is read alone is read so at every level
  (`disjunction?_of_unary?`), and what is read at the loosest level began with one
  (`disjunction?_eq_some`);
* **types** — a word for a type is one without arguments (`dataType_of_ends`), so no literal of it
  stands here (`typeLiteral?_of_ends`);
* **nothing** — where a list goes on or closes there is no operand (`disjunction?_of_fences`).
-/

namespace TableDoc.Sql

open Reader

variable {d : Dialect} {r : Rules} {prev : Option Token} {t stop : Token} {rest : List Token}
  {start stop' : Cursor} {v : Term}

/-! ## Ends -/

/-- The tokens that a member of a list ends at. -/
def endKinds : List TokenKind := [.sign .comma, .sign .rParen, .keyword .asc, .keyword .desc]

/-- A token that a member of a list ends at, spelled as what it is. -/
structure Ends (t : Token) : Prop where
  kind : t.kind ∈ endKinds
  capitals : t.capitals ∈ ["(", ")", ",", "ASC", "DESC"]

namespace Ends

theorem kind_ne (h : Ends t) {k : TokenKind} (hk : k ∉ endKinds) : t.kind ≠ k :=
  fun he => hk (he ▸ h.kind)

theorem isSign (h : Ends t) {s : Sign} (hcomma : s ≠ .comma) (hclose : s ≠ .rParen) :
    t.isSign s = false := by
  have hne : t.kind ≠ .sign s := h.kind_ne (by simp [endKinds, hcomma, hclose])
  simpa [Token.isSign] using hne

theorem isKeyword (h : Ends t) {k : Keyword} (hasc : k ≠ .asc) (hdesc : k ≠ .desc) :
    t.isKeyword k = false := by
  have hne : t.kind ≠ .keyword k := h.kind_ne (by simp [endKinds, hasc, hdesc])
  simpa [Token.isKeyword] using hne

theorem isWord (h : Ends t) {w : String} (hw : w ∉ ["(", ")", ",", "ASC", "DESC"]) :
    t.isWord w = false := by
  have hne : t.capitals ≠ w := fun he => hw (he ▸ h.capitals)
  simp [Token.isWord, hne]

theorem isOperator (h : Ends t) (shown : List String) : isOperator shown t = false := by
  simp [Sql.isOperator, h.isSign]

theorem typeName? (h : Ends t) : t.typeName? d = none := by
  have hkind := h.kind
  simp only [endKinds, List.mem_cons, List.not_mem_nil, or_false] at hkind
  rcases hkind with hkind | hkind | hkind | hkind <;> simp [Token.typeName?, hkind]

theorem tokenLiteral? (h : Ends t) : tokenLiteral? d t = none := by
  have hkind := h.kind
  simp only [endKinds, List.mem_cons, List.not_mem_nil, or_false] at hkind
  rcases hkind with hkind | hkind | hkind | hkind <;> simp [Sql.tokenLiteral?, hkind]

end Ends

theorem withSuffixes_of_ends (h : Ends stop) :
    withSuffixes d r v ⟨prev, stop :: rest⟩ = .ok (v, ⟨prev, stop :: rest⟩) := by
  apply extend_of_none
  simp [firstOf, bracketAfter?, pointAfter?, castAfter?, extractionAfter?, extraction?, sign,
    h.isSign]

/-! ## Operators -/

theorem chain_of_some {level : Level} {operand : Reader (Option Term)}
    (h : operand start = .ok (some v, ⟨prev, stop :: rest⟩)) (hstop : level stop = none) :
    chain level operand start = .ok (some v, ⟨prev, stop :: rest⟩) := by
  have hmore : extend (operatorAfter? level operand) v ⟨prev, stop :: rest⟩ =
      .ok (v, ⟨prev, stop :: rest⟩) := extend_of_none (by simp [operatorAfter?, hstop])
  simp [chain, h, hmore]

theorem chain_of_none {level : Level} {operand : Reader (Option Term)}
    (h : operand start = .ok (none, ⟨prev, stop :: rest⟩)) (hstop : level stop = none) :
    chain level operand start = .ok (none, ⟨prev, stop :: rest⟩) := by
  simp [chain, h, hstop]

theorem chain_eq_some {level : Level} {operand : Reader (Option Term)}
    (h : chain level operand start = .ok (some v, stop')) :
    ∃ a between, operand start = .ok (some a, between) := by
  obtain ⟨o, between, hoperand, h⟩ := bind_eq_ok_iff.mp h
  cases o with
  | some a => exact ⟨a, between, hoperand⟩
  | none =>
    obtain ⟨b, later, -, h⟩ := bind_eq_ok_iff.mp h
    cases b <;> cases h

section Levels

variable (hstop : Ends stop)

include hstop

theorem product?_of_unary? (h : unary? d r start = .ok (some v, ⟨prev, stop :: rest⟩)) :
    product? d r start = .ok (some v, ⟨prev, stop :: rest⟩) := by
  have hpower : power? d r start = .ok (some v, ⟨prev, stop :: rest⟩) := by
    cases d with
    | mysql => exact h
    | postgres => exact chain_of_some h (by simp [hstop.isSign])
  have hmore : extend (productAfter? (power? d r)) v ⟨prev, stop :: rest⟩ =
      .ok (v, ⟨prev, stop :: rest⟩) :=
    extend_of_none (by
      simp [productAfter?, productLevel, hstop.isSign, hstop.isKeyword, hstop.isOperator])
  simp [product?, hpower, hmore]

theorem sum?_of_unary? (h : unary? d r start = .ok (some v, ⟨prev, stop :: rest⟩)) :
    sum? d r start = .ok (some v, ⟨prev, stop :: rest⟩) :=
  chain_of_some (product?_of_unary? hstop h) (by simp [sumLevel, hstop.isSign, hstop.isKeyword])

theorem bitwise?_of_unary? (h : unary? d r start = .ok (some v, ⟨prev, stop :: rest⟩)) :
    bitwise? d r start = .ok (some v, ⟨prev, stop :: rest⟩) := by
  have hmore : extend (fun a => firstOf
      [operatorAfter? (bitwiseLevel d) (sum? d r) a, shiftAfter? (sum? d r) a]) v
        ⟨prev, stop :: rest⟩ = .ok (v, ⟨prev, stop :: rest⟩) :=
    extend_of_none (by
      simp [firstOf, operatorAfter?, bitwiseLevel, shiftAfter?, sequence_of_not, hstop.isSign])
  simp [bitwise?, sum?_of_unary? hstop h, hmore]

theorem range?_of_unary? (h : unary? d r start = .ok (some v, ⟨prev, stop :: rest⟩)) :
    range? d r start = .ok (some v, ⟨prev, stop :: rest⟩) := by
  simp [range?, range?.rangeEnd, rangeAfter?, operatorAfter?, patternLevel, nullTest?, keyword,
    bitwise?_of_unary? hstop h, hstop.isKeyword, hstop.isSign, hstop.isOperator]

theorem equality?_of_unary? (h : unary? d r start = .ok (some v, ⟨prev, stop :: rest⟩)) :
    equality? d r start = .ok (some v, ⟨prev, stop :: rest⟩) := by
  refine chain_of_some (chain_of_some (range?_of_unary? hstop h) ?_) ?_
  · simp [orderLevel, hstop.isSign]
  · simp [equalLevel, hstop.isSign]

theorem disjunction?_of_unary? (h : unary? d r start = .ok (some v, ⟨prev, stop :: rest⟩)) :
    disjunction? d r start = .ok (some v, ⟨prev, stop :: rest⟩) := by
  refine chain_of_some (chain_of_some (chain_of_some (equality?_of_unary? hstop h) ?_) ?_) ?_
  · simp [bothLevel, hstop.isSign, hstop.isKeyword]
  · simp [eitherLevel, hstop.isSign, hstop.isKeyword]
  · simp [hstop.isSign]

/-- A term that ends here has no sign in front and no time zone behind it. -/
theorem unary?_of_typed? {u : List Token} (hsign : ∀ s, t.isSign s = false)
    (hnot : t.isKeyword .not = false)
    (h : typed? d r ⟨prev, t :: u⟩ = .ok (some v, ⟨some t, stop :: rest⟩)) :
    unary? d r ⟨prev, t :: u⟩ = .ok (some v, ⟨some t, stop :: rest⟩) := by
  have hmore : extend (zoneAfter? d r) v ⟨some t, stop :: rest⟩ =
      .ok (v, ⟨some t, stop :: rest⟩) :=
    extend_of_none (by simp [zoneAfter?, words_of_not, hstop.isWord])
  simp [unary?, sign, isOperator, hsign, hnot, h, hmore]

end Levels

theorem unary?_eq_some {u : List Token} (hsign : ∀ s, t.isSign s = false)
    (h : unary? d r ⟨prev, t :: u⟩ = .ok (some v, stop')) :
    (t.isKeyword .not = true ∧ ∃ a c, r.equality ⟨some t, u⟩ = .ok (some a, c)) ∨
      (t.isKeyword .not = false ∧ ∃ a c, typed? d r ⟨prev, t :: u⟩ = .ok (some a, c)) := by
  simp only [unary?, bind_apply, ite_apply, sign, accept_cons, hsign, isOperator, Bool.false_and,
    Bool.and_false, Bool.or_false, Bool.false_eq_true, if_false, ok_bind] at h
  by_cases hnot : t.isKeyword .not = true
  · simp only [hnot, if_true, ok_bind] at h
    obtain ⟨p, hoperand, -⟩ := exists_of_bind h
    exact .inl ⟨hnot, p.1, p.2, required_eq_ok hoperand⟩
  · simp only [hnot, Bool.false_eq_true, if_false, ok_bind] at h
    obtain ⟨⟨o, between⟩, htyped, h⟩ := exists_of_bind h
    cases o with
    | some a => exact .inr ⟨by simpa using hnot, a, between, htyped⟩
    | none => cases h

theorem product?_eq_some (h : product? d r start = .ok (some v, stop')) :
    ∃ a between, unary? d r start = .ok (some a, between) := by
  obtain ⟨o, between, hpower, h⟩ := bind_eq_ok_iff.mp h
  cases o with
  | none =>
    obtain ⟨b, later, -, h⟩ := bind_eq_ok_iff.mp h
    cases b <;> cases h
  | some a =>
    cases d with
    | mysql => exact ⟨a, between, hpower⟩
    | postgres => exact chain_eq_some hpower

theorem bitwise?_eq_some (h : bitwise? d r start = .ok (some v, stop')) :
    ∃ a between, unary? d r start = .ok (some a, between) := by
  obtain ⟨o, between, hsum, h⟩ := bind_eq_ok_iff.mp h
  cases o with
  | none =>
    obtain ⟨b, later, -, h⟩ := bind_eq_ok_iff.mp h
    cases b <;> cases h
  | some a =>
    obtain ⟨a, between, hproduct⟩ := chain_eq_some hsum
    exact product?_eq_some hproduct

/-- What is read at the loosest level begins with an operand. -/
theorem disjunction?_eq_some (h : disjunction? d r start = .ok (some v, stop')) :
    ∃ a between, unary? d r start = .ok (some a, between) := by
  obtain ⟨a, between, heither⟩ := chain_eq_some h
  obtain ⟨a, between, hboth⟩ := chain_eq_some heither
  obtain ⟨a, between, hequality⟩ := chain_eq_some hboth
  obtain ⟨a, between, horder⟩ := chain_eq_some hequality
  obtain ⟨a, between, hrange⟩ := chain_eq_some horder
  obtain ⟨o, between, hbitwise, h⟩ := bind_eq_ok_iff.mp hrange
  cases o with
  | none => cases h
  | some a => exact bitwise?_eq_some hbitwise

/-! ## Names -/

theorem placeholder?_eq_none
    (hsign : ∀ s ∈ [Sign.question, .colon, .percent, .at], t.isSign s = false) :
    placeholder? ⟨prev, t :: rest⟩ = .ok (none, ⟨prev, t :: rest⟩) := by
  have hquestion := hsign .question (by simp)
  have hcolon := hsign .colon (by simp)
  have hpercent := hsign .percent (by simp)
  have hat := hsign .at (by simp)
  simp [placeholder?, orBack, sign, hquestion, hcolon, hpercent, hat]

/-- A token is a name where it is in quotes or of the kind that names are asked for. -/
theorem nameOf?_of_no_sign {p : Token → Bool} (hsign : ∀ s, t.isSign s = false)
    (htext : t.kind ≠ .text) (hp : t.kind = .quotedName → p t = true) :
    nameOf? p ⟨prev, t :: rest⟩ =
      if p t then .ok (some (.name ⟨t.text, t.kind == .quotedName⟩), ⟨some t, rest⟩)
      else .ok (none, ⟨prev, t :: rest⟩) := by
  have hplaceholder : placeholder? ⟨prev, t :: rest⟩ = .ok (none, ⟨prev, t :: rest⟩) :=
    placeholder?_eq_none fun s _ => hsign s
  by_cases hquoted : t.kind = .quotedName
  · simp [nameOf?, quotedName?, hquoted, hp hquoted]
  · have htexted : (t.kind == .text) = (t.kind == .quotedName) := by
      rw [beq_false_of_ne htext, beq_false_of_ne hquoted]
    by_cases hnamed : p t = true <;>
      simp [nameOf?, quotedName?, hquoted, hplaceholder, hnamed, htexted]

/-! ## Types -/

section Types

variable (hstop : Ends stop)

include hstop

theorem arrayMarks_of_ends (inSchema : Bool) :
    arrayMarks d r inSchema v ⟨prev, stop :: rest⟩ = .ok (v, ⟨prev, stop :: rest⟩) := by
  have hlist : extend (fun t => do
      if ← accept (fun u => u.typeName? d == some .list) then
        return some (.type (.builtin .list) [t] [])
      else return none) v ⟨prev, stop :: rest⟩ = .ok (v, ⟨prev, stop :: rest⟩) :=
    extend_of_none (by simp [hstop.typeName?])
  have hmark : extend (arrayMark d r inSchema ⟨prev, stop :: rest⟩) (v, false)
      ⟨prev, stop :: rest⟩ = .ok ((v, false), ⟨prev, stop :: rest⟩) :=
    extend_of_none (by simp [arrayMark, atEnd, afterArrayWord, last, sign, hstop.isSign])
  unfold arrayMarks
  rw [bind_apply, hlist]
  simp [hstop.typeName?, hmark]

theorem typeEnd?_of_ends (p : TypePlace) (n : TypeName) :
    typeEnd? d r p start (.builtin n) none ⟨prev, stop :: rest⟩ =
      if n = .nullable then .ok (none, start)
      else .ok (some (.type (.builtin n) [] []), ⟨prev, stop :: rest⟩) := by
  have hangle : angleArguments? d r p (.builtin n) ⟨prev, stop :: rest⟩ =
      .ok (none, ⟨prev, stop :: rest⟩) := by
    simp [angleArguments?, sign, hstop.isSign]
  have hzone : timeZone n ⟨prev, stop :: rest⟩ = .ok (none, ⟨prev, stop :: rest⟩) := by
    simp [timeZone, words_of_not, hstop.isWord]
  have hunit : intervalUnit? d ⟨prev, stop :: rest⟩ = .ok (none, ⟨prev, stop :: rest⟩) := by
    simp [intervalUnit?, hstop.kind_ne, endKinds]
  have hsigned : withSign (.builtin n) ⟨prev, stop :: rest⟩ =
      .ok (.builtin n, ⟨prev, stop :: rest⟩) := by
    simp [withSign, word, hstop.isWord]
  have hmarks : arrayMarks d r p.inSchema (.type (.builtin n) [] []) ⟨prev, stop :: rest⟩ =
      .ok (.type (.builtin n) [] [], ⟨prev, stop :: rest⟩) := arrayMarks_of_ends hstop p.inSchema
  by_cases hnull : n = .nullable
  · subst hnull
    simp [typeEnd?, hangle, hzone, hsigned]
  · unfold typeEnd?
    simp [hangle, hzone, hunit, hnull]
    -- the head stays what it is, also that of an interval, which has no sign
    cases n <;> simp_all

/-- The word for a type in front of a value is one without arguments. -/
theorem dataType_of_ends (prev : Option Token) (t : Token) (rest : List Token) (inSchema : Bool) :
    dataType d r ⟨true, inSchema, false⟩ ⟨prev, t :: stop :: rest⟩ =
      match t.typeName? d with
      | none => .ok (none, ⟨prev, t :: stop :: rest⟩)
      | some n =>
        if n = .nullable then .ok (none, ⟨prev, t :: stop :: rest⟩)
        else .ok (some (.type (.builtin n) [] []), ⟨some t, stop :: rest⟩) := by
  have hsystem : words ["SYSUDTLIB", "."] ⟨prev, t :: stop :: rest⟩ =
      .ok (false, ⟨prev, t :: stop :: rest⟩) := words_of_second_not _ (hstop.isWord (by simp))
  have hround : ∀ n, roundArguments? d r ⟨true, inSchema, false⟩ (.builtin n)
      ⟨some t, stop :: rest⟩ = .ok (some none, ⟨some t, stop :: rest⟩) := by
    intro n
    simp [roundArguments?, sign, hstop.isSign]
  cases hname : t.typeName? d with
  | none => simp [dataType, hsystem, typeBeginning?, hname]
  | some n =>
    by_cases hhandle : n.isHandle = true
    · have hne : n ≠ .nullable := by
        rintro rfl
        cases hhandle
      simp [dataType, hsystem, typeBeginning?, hname, hhandle, hne]
    · simp [dataType, hsystem, typeBeginning?, hname, hhandle, typeAfter?, hround,
        typeEnd?_of_ends hstop, hstop.isSign]

end Types

/-! ## Literals -/

/-- No type begins at most tokens, and no name that could be one. -/
theorem dataType_of_no_type (htype : t.typeName? d = none) (hword : t.kind ≠ .word)
    (hquoted : t.kind ≠ .quotedName) (hsystem : t.isWord "SYSUDTLIB" = false)
    (hsign : ∀ s ∈ [Sign.question, .colon, .percent, .at], t.isSign s = false) (p : TypePlace) :
    dataType d r p ⟨prev, t :: rest⟩ = .ok (none, ⟨prev, t :: rest⟩) := by
  have hname : nameOf? (·.kind == .word) ⟨prev, t :: rest⟩ = .ok (none, ⟨prev, t :: rest⟩) := by
    simp [nameOf?, quotedName?, hquoted, hword, placeholder?_eq_none hsign]
  have hwords : words ["SYSUDTLIB", "."] ⟨prev, t :: rest⟩ = .ok (false, ⟨prev, t :: rest⟩) :=
    words_of_not _ hsystem
  cases hbyName : p.byName <;> simp [dataType, hwords, typeBeginning?, htype, hbyName, hname]

theorem Ends.dataType (hstop : Ends stop) (p : TypePlace) :
    dataType d r p ⟨prev, stop :: rest⟩ = .ok (none, ⟨prev, stop :: rest⟩) :=
  dataType_of_no_type hstop.typeName? (hstop.kind_ne (by simp [endKinds]))
    (hstop.kind_ne (by simp [endKinds])) (hstop.isWord (by simp)) (by simp [hstop.isSign]) p

/-- No literal and nothing in parentheses begins at most tokens. -/
theorem primary?_eq_none (hliteral : tokenLiteral? d t = none) (hkind : t.kind ≠ .introducer)
    (hsign : ∀ s ∈ [Sign.dot, .doubleAt, .lParen], t.isSign s = false) :
    primary? d r ⟨prev, t :: rest⟩ = .ok (none, ⟨prev, t :: rest⟩) := by
  have hdot := hsign .dot (by simp)
  have hat := hsign .doubleAt (by simp)
  have hopen := hsign .lParen (by simp)
  simp [primary?, literal?, singleLiteral?, sign, hliteral, hkind, sequence_of_not _ hdot, hat,
    hopen]

theorem Ends.primary? (hstop : Ends stop) :
    primary? d r ⟨prev, stop :: rest⟩ = .ok (none, ⟨prev, stop :: rest⟩) := by
  refine primary?_eq_none hstop.tokenLiteral? (hstop.kind_ne (by simp [endKinds])) ?_
  simp [hstop.isSign]

/-- The word for a type stands before no literal here. -/
theorem typeLiteral?_of_ends (hstop : Ends stop) :
    typeLiteral? d r ⟨prev, t :: stop :: rest⟩ = .ok (none, ⟨prev, t :: stop :: rest⟩) := by
  have htype := dataType_of_ends (d := d) (r := r) hstop prev t rest false
  have hliteral : primary? d r ⟨some t, stop :: rest⟩ = .ok (none, ⟨some t, stop :: rest⟩) :=
    hstop.primary?
  cases hname : t.typeName? d with
  | none =>
    rw [hname] at htype
    simp [typeLiteral?, orBack, htype]
  | some n =>
    rw [hname] at htype
    by_cases hnull : n = .nullable
    · simp [typeLiteral?, orBack, htype, hnull]
    · simp [typeLiteral?, orBack, htype, hnull, hliteral]

/-! ## Calls -/

/-- The words that begin a form of their own. -/
def formWords : List String := ["CASE", "IF", "ANY", "CONNECT_BY_ROOT", "NEXT", "VARIADIC"]

theorem wordFunction?_eq_none {w : String} (h : w ∉ formWords) : wordFunction? d r w = none := by
  unfold wordFunction?
  split <;> first | rfl | exact absurd (by simp [formWords]) h

/-! ## Nothing -/

/-- A token that goes on with a list or closes it. -/
structure Fences (t : Token) : Prop where
  kind : t.kind = .sign .comma ∨ t.kind = .sign .rParen
  capitals : t.capitals ∈ ["(", ")", ","]

namespace Fences

variable {fence : Token}

theorem ends (h : Fences fence) : Ends fence where
  kind := by rcases h.kind with h | h <;> simp [endKinds, h]
  capitals := List.mem_append_left ["ASC", "DESC"] h.capitals

theorem isKeyword (h : Fences fence) (k : Keyword) : fence.isKeyword k = false := by
  rcases h.kind with h | h <;> simp [Token.isKeyword, h]

theorem isName (h : Fences fence) : fence.isName = false := by
  rcases h.kind with h | h <;> simp [Token.isName, h]

theorem isReserved (h : Fences fence) : fence.isReserved = true := by
  rcases h.kind with h | h <;> simp [Token.isReserved, h]

theorem nameOf? (h : Fences fence) {p : Token → Bool} (hp : p fence = false) :
    nameOf? p ⟨prev, fence :: rest⟩ = .ok (none, ⟨prev, fence :: rest⟩) := by
  have hplaceholder : placeholder? ⟨prev, fence :: rest⟩ = .ok (none, ⟨prev, fence :: rest⟩) :=
    placeholder?_eq_none (by simp [h.ends.isSign])
  simp [Sql.nameOf?, quotedName?, h.ends.kind_ne, endKinds, hplaceholder, hp]

/-- No call begins here. -/
theorem call? (h : Fences fence) (place : CallPlace) :
    call? d r place ⟨prev, fence :: rest⟩ = .ok (none, ⟨prev, fence :: rest⟩) := by
  have hword : wordFunction? d r fence.capitals = none := by
    refine wordFunction?_eq_none fun hmem => ?_
    have hcapitals := h.capitals
    simp only [formWords, List.mem_cons, List.not_mem_nil, or_false] at hmem hcapitals
    rcases hcapitals with h | h | h <;> simp [h] at hmem
  have hbare : bareFunction? d fence = none := by
    rcases h.kind with h | h <;> simp [bareFunction?, h]
  have hcallable : fence.isCallable d = false := by
    rcases h.kind with h | h <;> simp [Token.isCallable, h]
  simp [Sql.call?, hword, hbare, hcallable, h.isReserved]

theorem field? (h : Fences fence) (anyWord : Bool) :
    field? d r anyWord ⟨prev, fence :: rest⟩ = .ok (none, ⟨prev, fence :: rest⟩) := by
  have hname : (if anyWord then anyName? else plainName?) ⟨prev, fence :: rest⟩ =
      .ok (none, ⟨prev, fence :: rest⟩) := by
    cases anyWord with
    | true => exact h.nameOf? (by simp [h.isReserved])
    | false => exact h.nameOf? h.isName
  have hbrace : sequence [(·.isSign .lBrace), (·.isWord "FN")] ⟨prev, fence :: rest⟩ =
      .ok (false, ⟨prev, fence :: rest⟩) := sequence_of_not _ (h.ends.isSign (by simp) (by simp))
  simp [Sql.field?, firstOf, braced?, h.ends.primary?, hbrace, h.call?, hname]

theorem column? (h : Fences fence) :
    column? d r ⟨prev, fence :: rest⟩ = .ok (none, ⟨prev, fence :: rest⟩) := by
  have hvalues : valuesName? d ⟨prev, fence :: rest⟩ = .ok (none, ⟨prev, fence :: rest⟩) := by
    unfold valuesName?
    simp [h.isKeyword]
  simp [Sql.column?, firstOf, h.field?, hvalues, sign, h.ends.isSign]

theorem typed? (h : Fences fence) :
    typed? d r ⟨prev, fence :: rest⟩ = .ok (none, ⟨prev, fence :: rest⟩) := by
  have htype : typeLiteral? d r ⟨prev, fence :: rest⟩ = .ok (none, ⟨prev, fence :: rest⟩) := by
    simp [typeLiteral?, orBack, h.ends.dataType]
  simp [Sql.typed?, bytesOf?, interval?, orBack, h.ends.kind_ne, endKinds, htype, h.column?]

theorem unary? (h : Fences fence) :
    unary? d r ⟨prev, fence :: rest⟩ = .ok (none, ⟨prev, fence :: rest⟩) := by
  simp [Sql.unary?, sign, h.ends.isSign, h.ends.isOperator, h.isKeyword, h.typed?]

theorem product? (h : Fences fence) :
    product? d r ⟨prev, fence :: rest⟩ = .ok (none, ⟨prev, fence :: rest⟩) := by
  have hpower : power? d r ⟨prev, fence :: rest⟩ = .ok (none, ⟨prev, fence :: rest⟩) := by
    cases d with
    | mysql => exact h.unary?
    | postgres => exact chain_of_none h.unary? (by simp [h.ends.isSign])
  simp [Sql.product?, hpower, h.ends.isSign]

theorem sum? (h : Fences fence) :
    sum? d r ⟨prev, fence :: rest⟩ = .ok (none, ⟨prev, fence :: rest⟩) :=
  chain_of_none h.product? (by simp [sumLevel, h.ends.isSign, h.isKeyword])

theorem bitwise? (h : Fences fence) :
    bitwise? d r ⟨prev, fence :: rest⟩ = .ok (none, ⟨prev, fence :: rest⟩) := by
  simp [Sql.bitwise?, h.sum?, bitwiseLevel, h.ends.isSign]

theorem equality? (h : Fences fence) :
    equality? d r ⟨prev, fence :: rest⟩ = .ok (none, ⟨prev, fence :: rest⟩) := by
  have hrange : range? d r ⟨prev, fence :: rest⟩ = .ok (none, ⟨prev, fence :: rest⟩) := by
    simp [range?, h.bitwise?]
  refine chain_of_none (chain_of_none hrange ?_) ?_
  · simp [orderLevel, h.ends.isSign]
  · simp [equalLevel, h.ends.isSign]

theorem disjunction? (h : Fences fence) :
    disjunction? d r ⟨prev, fence :: rest⟩ = .ok (none, ⟨prev, fence :: rest⟩) := by
  refine chain_of_none (chain_of_none (chain_of_none h.equality? ?_) ?_) ?_
  · simp [bothLevel, h.ends.isSign, h.isKeyword]
  · simp [eitherLevel, h.ends.isSign, h.isKeyword]
  · simp [h.ends.isSign]

end Fences

end TableDoc.Sql
