import TableDoc.Proofs.LoneNumbers

/-!
# Names with a number in parentheses

What a name with a number in parentheses is read as where a field is asked for, in the dialect that
reads the members of its indexes as fields: a call. Of a function that has a class of its own the
call shows as the dialect writes it; of any other it keeps the name (`calledTerm?`).

* **words of their own** — what the functions with words between the parentheses make of a number
  (`formedTerm?`);
* **calls** — a call ends with its parenthesis (`callAfter_of_number`);
* **fields** — a name that is no call leaves the parenthesis where it is (`field?_of_parens`).
-/

namespace TableDoc.Sql

open Reader

variable {d : Dialect} {r : Rules} {prev : Option Token} {c opening number close stop : Token}
  {rest : List Token} {e : Cursor} {v : Term}

/-! ## Words of their own -/

/-- The functions with words of their own between the parentheses. -/
def formedNames : List String :=
  ["CAST", "TRY_CAST", "SAFE_CAST", "CONVERT", "TRY_CONVERT", "CEIL", "FLOOR", "CHAR", "CHR",
   "DECODE", "EXTRACT", "JSON_OBJECT", "JSON_OBJECTAGG", "JSON_TABLE", "MATCH", "NORMALIZE",
   "OVERLAY", "POSITION", "STRING_AGG", "SUBSTRING", "TRIM", "XMLELEMENT", "XMLTABLE", "DATE_PART",
   "JSON_AGG", "JSONB_EXISTS"]

/-- The terms that some of them make of a number: a class, and the word that is written. -/
def formedCalls : List (String × String × String) :=
  [("CEIL", "ceil", "CEIL"), ("FLOOR", "floor", "FLOOR"), ("CHAR", "chr", "CHAR"),
   ("CHR", "chr", "CHAR"), ("JSON_TABLE", "jsontable", "JSON_TABLE"),
   ("NORMALIZE", "normalize", "NORMALIZE"), ("STRING_AGG", "groupconcat", "STRING_AGG"),
   ("SUBSTRING", "substring", "SUBSTRING"), ("TRIM", "trim", "TRIM"),
   ("JSON_AGG", "jsonarrayagg", "JSON_AGG")]

/-- What one of them makes of a number. -/
def formedTerm? (w : String) (number : Token) : Option Term :=
  if w = "XMLELEMENT" then
    some (.phrase "xmlelement" ["XMLELEMENT(NAME ", ")"] [.name ⟨number.text, false⟩])
  else (formedCalls.lookup w).map fun f => .call f.1 f.2 [.number number.text]

theorem specialBody?_isSome {w : String} (hw : w ∈ formedNames) :
    (specialBody? .postgres r w).isSome = true := by
  simp only [formedNames, List.mem_cons, List.not_mem_nil, or_false] at hw
  rcases hw with rfl | rfl | rfl | rfl | rfl | rfl | rfl | rfl | rfl | rfl | rfl | rfl | rfl | rfl |
    rfl | rfl | rfl | rfl | rfl | rfl | rfl | rfl | rfl | rfl | rfl | rfl <;> rfl

theorem readsNumber_of_specialBody? (rest : List Token) (h : Counts number close)
    (hstop : Ends stop) (k : Nat) {w : String} {body : Reader Term}
    (hbody : specialBody? .postgres (Rules.levels .postgres k) w = some body) :
    w ∈ formedNames ∧ ReadsNumber body (formedTerm? w number) number (close :: stop :: rest) := by
  unfold specialBody? at hbody
  -- the cases are in the order in which the words are tried
  split at hbody
  case h_1 | h_2 | h_3 =>
    cases hbody
    exact ⟨by decide, castBody_of_number h k _⟩
  case h_4 | h_5 =>
    cases hbody
    exact ⟨by decide, convertBody_of_number h k _⟩
  case h_6 | h_7 =>
    cases hbody
    exact ⟨by decide, roundingBody_of_number h k _⟩
  case h_8 | h_9 =>
    cases hbody
    exact ⟨by decide, charBody_of_number h k⟩
  case h_10 =>
    cases hbody
    exact ⟨by decide, decodeBody_of_number h k⟩
  case h_11 =>
    cases hbody
    exact ⟨by decide, extractBody_of_number h k⟩
  case h_12 | h_13 =>
    cases hbody
    exact ⟨by decide, objectBody_of_number h k _ _⟩
  case h_14 =>
    cases hbody
    exact ⟨by decide, documentTableBody_of_number h k⟩
  case h_15 =>
    cases hbody
    exact ⟨by decide, matchBody_of_number h k hstop⟩
  case h_16 =>
    cases hbody
    exact ⟨by decide, normalizeBody_of_number h k⟩
  case h_17 =>
    cases hbody
    exact ⟨by decide, overlayBody_of_number h k⟩
  case h_18 =>
    cases hbody
    exact ⟨by decide, positionBody_of_number h k⟩
  case h_19 =>
    cases hbody
    exact ⟨by decide, stringGroupBody_of_number h k hstop⟩
  case h_20 =>
    cases hbody
    exact ⟨by decide, substringBody_of_number h k⟩
  case h_21 =>
    cases hbody
    exact ⟨by decide, trimBody_of_number h k⟩
  case h_22 =>
    cases hbody
    exact ⟨by decide, elementBody_of_number h k⟩
  case h_23 =>
    cases hbody
    exact ⟨by decide, elementTableBody_of_number h k⟩
  case h_24 =>
    split at hbody
    case h_1 | h_2 | h_3 | h_4 => exact absurd ‹Dialect.postgres = Dialect.mysql› (by decide)
    case h_5 =>
      cases hbody
      exact ⟨by decide, datePartBody_of_number h k⟩
    case h_6 =>
      cases hbody
      exact ⟨by decide, documentGroupBody_of_number h k⟩
    case h_7 =>
      cases hbody
      exact ⟨by decide, documentTestBody_of_number h k⟩
    case h_8 => cases hbody

/-! ## Calls -/

/-- What a call of a name with a number is read as; `none` where it has too few arguments, or too
many. -/
def calledTerm? (c number : Token) : Option Term :=
  let fs := Function.ofName .postgres c.capitals
  let args := [Term.number number.text]
  if c.capitals ∈ formedNames then formedTerm? c.capitals number
  else if fs.isEmpty then some (.anonymous ⟨c.text, c.kind == .quotedName⟩ args)
  else (fs.find? (·.takes args)).map fun f => match f.style .postgres with
    | .call shown => .call f.cls shown args
    | .bare shown => .phrase f.cls [shown] []

theorem withWindow_of_ends (hstop : Ends stop) :
    withWindow r v ⟨prev, stop :: rest⟩ = .ok (v, ⟨prev, stop :: rest⟩) := by
  have hwords : words ["WITHIN", "GROUP"] ⟨prev, stop :: rest⟩ =
      .ok (false, ⟨prev, stop :: rest⟩) := words_of_not _ (hstop.isWord (by simp))
  have hkeyword : ∀ k, k ≠ .asc → k ≠ .desc → stop.isKeyword k = false :=
    fun k hasc hdesc => hstop.isKeyword hasc hdesc
  have hfilter : sequence [(·.isKeyword .filter), (·.isSign .lParen)] ⟨prev, stop :: rest⟩ =
      .ok (false, ⟨prev, stop :: rest⟩) := sequence_of_not _ (hstop.isKeyword (by simp) (by simp))
  have hnulls : withNulls (some v) ⟨prev, stop :: rest⟩ = .ok (some v, ⟨prev, stop :: rest⟩) := by
    simp [withNulls, words_of_not, hstop.isWord]
  have hover : keyword .overClause ⟨prev, stop :: rest⟩ = .ok (false, ⟨prev, stop :: rest⟩) := by
    simp [keyword, hstop.isKeyword]
  have hmore : extend (fun t => do
      if ← keyword .overClause then return some (← windowAfter r t) else return none) v
        ⟨prev, stop :: rest⟩ = .ok (v, ⟨prev, stop :: rest⟩) :=
    extend_of_none (by simp [hover])
  unfold withWindow
  simp only [bind_apply, hwords, ok_bind, Bool.false_eq_true, if_false, pure_apply, hfilter,
    hnulls, Option.getD_some, hover, hmore]

/-- Behind a number a call closes. -/
theorem closing_of_number (h : Counts number close) (hstop : Ends stop) (t : Term) :
    (do closing; withWindow r t : Reader Term) ⟨some number, close :: stop :: rest⟩ =
      .ok (t, ⟨some close, stop :: rest⟩) := by
  rw [bind_apply, h.closing, ok_bind, withWindow_of_ends hstop]

/-- A function without words of its own has the number for its one argument. -/
theorem plainCall_of_number (h : Counts number close) (hstop : Ends stop) (k : Nat)
    (hnot : c.capitals ∉ formedNames)
    (hread : ((do
      let args ← commaList (argument? .postgres (Rules.levels .postgres k)
        ((Function.ofName .postgres c.capitals).isEmpty || c.capitals == "STRUCT"))
      let t ← if (Function.ofName .postgres c.capitals).isEmpty then
          pure (.anonymous ⟨c.text, c.kind == .quotedName⟩ args)
        else knownCall .postgres (Function.ofName .postgres c.capitals) args
      closing
      withWindow (Rules.levels .postgres k) t : Reader Term)
        ⟨prev, number :: close :: stop :: rest⟩) = .ok (v, e)) :
    calledTerm? c number = some v ∧ e = ⟨some close, stop :: rest⟩ := by
  obtain ⟨args, between, hargs, hread⟩ := bind_eq_ok_iff.mp hread
  obtain ⟨rfl, rfl⟩ := h.commaList (h.takes_argument _ k _) hargs
  unfold calledTerm?
  by_cases hempty : (Function.ofName .postgres c.capitals).isEmpty = true
  · rw [if_pos hempty] at hread
    cases (closing_of_number h hstop _).symm.trans hread
    simp [hnot, hempty]
  · rw [if_neg hempty] at hread
    obtain ⟨t, between, hcall, hread⟩ := bind_eq_ok_iff.mp hread
    unfold knownCall at hcall
    cases hfind : (Function.ofName .postgres c.capitals).find? (·.takes [.number number.text]) with
    | none => simp [hfind] at hcall
    | some f =>
      rw [hfind] at hcall
      cases hcall
      cases (closing_of_number h hstop _).symm.trans hread
      cases hstyle : f.style .postgres <;> simp [hnot, hempty, hfind, hstyle]

/-- A call of a name with a number ends with its parenthesis. -/
theorem callAfter_of_number (h : Counts number close) (hstop : Ends stop) (k : Nat)
    (hread : callAfter .postgres (Rules.levels .postgres k) false false c
      ⟨prev, number :: close :: stop :: rest⟩ = .ok (v, e)) :
    calledTerm? c number = some v ∧ e = ⟨some close, stop :: rest⟩ := by
  unfold callAfter at hread
  cases hspecial : specialBody? .postgres (Rules.levels .postgres k) c.capitals with
  | some body =>
    simp only [Bool.false_eq_true, if_false, hspecial] at hread
    obtain ⟨t, between, hbody, hread⟩ := bind_eq_ok_iff.mp hread
    obtain ⟨hformed, hreads⟩ := readsNumber_of_specialBody? rest h hstop k hspecial
    obtain ⟨ht, rfl⟩ := hreads prev t between hbody
    cases (closing_of_number h hstop _).symm.trans hread
    exact ⟨by rw [calledTerm?, if_pos hformed, ht], rfl⟩
  | none =>
    have hnot : c.capitals ∉ formedNames := fun hmem => by
      simpa [hspecial] using specialBody?_isSome (r := Rules.levels .postgres k) hmem
    -- a number begins no query, so the arguments are read one by one
    have hquery : seesQuery ⟨prev, number :: close :: stop :: rest⟩ =
        .ok (false, ⟨prev, number :: close :: stop :: rest⟩) := by simp [seesQuery, h.isKeyword]
    simp only [Bool.false_eq_true, if_false, hspecial, bind_apply, hquery, ok_bind] at hread
    cases htest : queryTest? c <;> rw [htest] at hread <;>
      exact plainCall_of_number h hstop k hnot hread

/-! ## Fields -/

/-- A parenthesis that opens, a number and a parenthesis that closes. -/
structure Parenthesized (opening number close : Token) : Prop where
  opened : opening.kind = .sign .lParen
  spelled : opening.capitals ∈ ["(", ")", ","]
  counts : Counts number close

section Fields

variable (hparens : Parenthesized opening number close) (hstop : Ends stop) (k : Nat)

include hparens

/-- An `IF` has more arguments than a number. -/
theorem ifTerm?_of_parens (prev : Option Token) (rest : List Token) :
    ∃ f, ifTerm? d (Rules.levels d k) ⟨prev, opening :: number :: close :: rest⟩ = .error f := by
  have hopen : opening.isSign .lParen = true := by simp [Token.isSign, hparens.opened]
  have hcounts := hparens.counts
  cases k with
  | zero =>
    have hitem : (Rules.levels d 0).named d ⟨some opening, number :: close :: rest⟩ =
        .error .tooDeep := rfl
    exact ⟨.tooDeep, by simp [ifTerm?, sign, hopen, commaList, hitem]⟩
  | succ k =>
    have hread : (Rules.levels d (k + 1)).disjunction ⟨some opening, number :: close :: rest⟩ =
        .ok (some (.number number.text), ⟨some number, close :: rest⟩) :=
      disjunction?_of_number hcounts.kind hcounts.fences
    have hitem : (Rules.levels d (k + 1)).named d ⟨some opening, number :: close :: rest⟩ =
        .ok (some (.number number.text), ⟨some number, close :: rest⟩) := by
      simp [Rules.named, hread, withName_of_fences hcounts.fences]
    exact ⟨.argumentCount "if",
      by simp [ifTerm?, sign, hopen, commaList_of_one hitem hcounts.isSign_comma, hcounts.closing]⟩

/-- Of the words that begin a form of their own, `IF` fails there and `NEXT` reads nothing. -/
theorem form_of_parens {body : Reader (Option Term)} {x : Option Term}
    (hword : c.capitals ∈ ["IF", "NEXT"])
    (hbody : formOf? .postgres (Rules.levels .postgres k) c = some body)
    (hread : body ⟨some c, opening :: number :: close :: rest⟩ = .ok (x, e)) : x = none := by
  unfold formOf? at hbody
  split at hbody
  · cases hbody
  simp only [List.mem_cons, List.not_mem_nil, or_false] at hword
  rcases hword with hword | hword <;> rw [hword] at hbody <;> cases hbody
  · obtain ⟨f, hif⟩ := ifTerm?_of_parens (d := .postgres) hparens k (some c) rest
    cases hif.symm.trans hread
  · -- `NEXT` needs `VALUE FOR`, and a parenthesis is no such word
    have hne : opening.capitals ≠ "VALUE" := fun h => by simpa [h] using hparens.spelled
    have hwords : words ["VALUE", "FOR"] ⟨some c, opening :: number :: close :: rest⟩ =
        .ok (false, ⟨some c, opening :: number :: close :: rest⟩) :=
      words_of_not _ (by simp [Token.isWord, hne])
    simp [hwords] at hread
    exact hread.1.symm

include hstop

/-- A name with a number in parentheses is a call of it, or none. -/
theorem call?_of_parens (hkind : c.kind ≠ .introducer)
    (hprev : prev.any (fun u => u.isKeyword .like || u.isKeyword .ilike) = false)
    (hform : ∀ body ∈ formOf? .postgres (Rules.levels .postgres k) c, c.capitals ∈ ["IF", "NEXT"])
    {anyWord : Bool} {o : Option Term}
    (hcall : call? .postgres (Rules.levels .postgres k) { anyWord := anyWord }
      ⟨prev, c :: opening :: number :: close :: stop :: rest⟩ = .ok (o, e)) :
    (o.isSome = true ∧ o = calledTerm? c number ∧ e = ⟨some close, stop :: rest⟩) ∨
      o = none ∧ e = ⟨prev, c :: opening :: number :: close :: stop :: rest⟩ := by
  have hopen : opening.isSign .lParen = true := by simp [Token.isSign, hparens.opened]
  unfold call? at hcall
  simp only [bind_apply, get_apply, ok_bind, peek_cons, formOf?_of_kind_ne hkind] at hcall
  cases hbody : formOf? .postgres (Rules.levels .postgres k) c with
  | none =>
    simp only [hbody, bind_apply, peekSecond_cons, ok_bind, List.head?_cons, Option.any_some,
      hopen, Bool.not_true, Bool.false_eq_true, if_false] at hcall
    by_cases hkept : (if anyWord then c.isReserved else !c.isCallable .postgres) = true
    · rw [if_pos hkept] at hcall
      cases hcall
      exact .inr ⟨rfl, rfl⟩
    · rw [if_neg hkept] at hcall
      simp only [bind_apply, skip_cons, ok_bind, hprev] at hcall
      obtain ⟨⟨v, between⟩, hafter, hcall⟩ := exists_of_bind hcall
      cases hcall
      obtain ⟨hcalled, rfl⟩ := callAfter_of_number hparens.counts hstop k hafter
      exact .inl ⟨rfl, hcalled.symm, rfl⟩
  | some body =>
    simp only [hbody, bind_apply, skip_cons, ok_bind] at hcall
    obtain ⟨⟨x, between⟩, hread, hcall⟩ := exists_of_bind hcall
    cases form_of_parens hparens k (hform body hbody) hbody hread
    cases hcall
    exact .inr ⟨rfl, rfl⟩

/-- A name with a number in parentheses is a call, or leaves the parenthesis where it is. -/
theorem field?_of_parens (h : WritesName .postgres c)
    (hprev : prev.any (fun u => u.isKeyword .like || u.isKeyword .ilike) = false)
    (hform : ∀ body ∈ formOf? .postgres (Rules.levels .postgres k) c, c.capitals ∈ ["IF", "NEXT"])
    {anyWord : Bool}
    (hfield : field? .postgres (Rules.levels .postgres k) anyWord
      ⟨prev, c :: opening :: number :: close :: stop :: rest⟩ = .ok (some v, e)) :
    (calledTerm? c number = some v ∧ e = ⟨some close, stop :: rest⟩) ∨
      e = ⟨some c, opening :: number :: close :: stop :: rest⟩ := by
  cases hliteral : tokenLiteral? .postgres c with
  | some t =>
    simp only [field?, firstOf, bind_apply, primary?_of_tokenLiteral? h hliteral, ok_bind] at hfield
    cases hfield
    exact .inr rfl
  | none =>
    by_cases hkind : c.kind = .introducer
    · have hnext : tokenLiteral? .postgres opening = none := by
        simp [tokenLiteral?, hparens.opened]
      simp only [field?, firstOf, bind_apply, primary?_of_introducer hkind hnext, ok_bind,
        pure_apply] at hfield
      cases hfield
      exact .inr rfl
    simp only [field?, firstOf, bind_apply, primary?_of_name h hliteral hkind, ok_bind,
      braced?_of_no_sign h.isSign] at hfield
    obtain ⟨⟨x, between⟩, hcall, hfield⟩ := exists_of_bind hfield
    rcases call?_of_parens hparens hstop k hkind hprev hform hcall with
      ⟨hsome, hcalled, hbetween⟩ | ⟨hnone, hbetween⟩
    · obtain ⟨t, rfl⟩ := Option.isSome_iff_exists.mp hsome
      cases hfield
      exact .inl ⟨hcalled.symm, hbetween⟩
    · subst hnone
      subst hbetween
      simp only [bind_apply] at hfield
      have hname := h.fieldName? prev (opening :: number :: close :: stop :: rest) anyWord
      rcases hname with hname | hname
      · rw [hname] at hfield
        cases hfield
        exact .inr rfl
      · rw [hname] at hfield
        cases hfield

end Fields

end TableDoc.Sql
