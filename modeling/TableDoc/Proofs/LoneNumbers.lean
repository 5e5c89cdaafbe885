import TableDoc.Proofs.NamesAlone

/-!
# Numbers that stand alone in parentheses

What a number is read as that a closing parenthesis follows: the number, wherever an operand, an
argument or a list of them may stand.

* **arguments** — the number is the only argument (`argument?_of_number`) and a list of its own
  (`Counts.commaList`), at every level that has one below it;
* **bodies** — where a function has words of its own between the parentheses, those that need no
  more take the number and the others stop with a fault (`ReadsNumber`).
-/

namespace TableDoc.Sql

open Reader

variable {d : Dialect} {r : Rules} {prev : Option Token} {number close stop : Token}
  {rest : List Token} {e : Cursor} {v : Term}

/-! ## Arguments -/

section Arguments

variable (hnumber : number.kind = .number) (hclose : Fences close)

include hclose

theorem withName_of_fences :
    withName d r true (some v) ⟨prev, close :: rest⟩ = .ok (some v, ⟨prev, close :: rest⟩) := by
  simp [withName, seesLimit, keyword, hclose.isKeyword]

theorem unionAfter?_of_fences :
    extend (unionAfter? r) v ⟨prev, close :: rest⟩ = .ok (v, ⟨prev, close :: rest⟩) :=
  extend_of_none (by simp [unionAfter?, unionWord?, hclose.isKeyword])

theorem withNulls_of_fences :
    withNulls (some v) ⟨prev, close :: rest⟩ = .ok (some v, ⟨prev, close :: rest⟩) := by
  simp [withNulls, words_of_not, hclose.ends.isWord]

include hnumber

theorem column?_of_number :
    column? d r ⟨prev, number :: close :: rest⟩ =
      .ok (some (.number number.text), ⟨some number, close :: rest⟩) := by
  have hfield : field? d r false ⟨prev, number :: close :: rest⟩ =
      .ok (some (.number number.text), ⟨some number, close :: rest⟩) := by
    simp [field?, firstOf, primary?, literal?, singleLiteral?, tokenLiteral?, hnumber]
  simp [column?, firstOf, hfield, asColumn, withSuffixes_of_ends hclose.ends]

theorem typed?_of_number :
    typed? d r ⟨prev, number :: close :: rest⟩ =
      .ok (some (.number number.text), ⟨some number, close :: rest⟩) := by
  simp [typed?, bytesOf?, interval?, orBack, hnumber, typeLiteral?_of_ends hclose.ends,
    column?_of_number hnumber hclose]

theorem unary?_of_number :
    unary? d r ⟨prev, number :: close :: rest⟩ =
      .ok (some (.number number.text), ⟨some number, close :: rest⟩) := by
  have hsign : ∀ s, number.isSign s = false := fun s => by simp [Token.isSign, hnumber]
  have hnot : number.isKeyword .not = false := by simp [Token.isKeyword, hnumber]
  exact unary?_of_typed? hclose.ends hsign hnot (typed?_of_number hnumber hclose)

theorem disjunction?_of_number :
    disjunction? d r ⟨prev, number :: close :: rest⟩ =
      .ok (some (.number number.text), ⟨some number, close :: rest⟩) :=
  disjunction?_of_unary? hclose.ends (unary?_of_number hnumber hclose)

theorem query?_of_number :
    query? d r ⟨prev, number :: close :: rest⟩ = .ok (none, ⟨prev, number :: close :: rest⟩) := by
  have hkeyword : ∀ k, number.isKeyword k = false := fun k => by simp [Token.isKeyword, hnumber]
  simp [query?, plainQuery?, sources?, wholeTable?, keyword, hkeyword, hclose.isName]

theorem arrow?_of_number :
    arrow? r ⟨prev, number :: close :: rest⟩ = .ok (none, ⟨prev, number :: close :: rest⟩) := by
  have hsign : ∀ s, number.isSign s = false := fun s => by simp [Token.isSign, hnumber]
  have hname : anyName? ⟨prev, number :: close :: rest⟩ =
      .ok (some (.name ⟨number.text, false⟩), ⟨some number, close :: rest⟩) := by
    unfold anyName?
    rw [nameOf?_of_no_sign hsign (by simp [hnumber]) (by simp [hnumber])]
    simp [Token.isReserved, hnumber]
  exact orBack_of_none (show _ = Except.ok (none, ⟨some number, close :: rest⟩) by
    simp [arrowNames?, sign, hsign, hname, hclose.ends.isSign])

/-- A number is an argument, which nothing follows. -/
theorem argument?_of_number (mayName : Bool) :
    argument? d (.above d r) mayName ⟨prev, number :: close :: rest⟩ =
      .ok (some (.number number.text), ⟨some number, close :: rest⟩) := by
  have hkeyword : ∀ k, number.isKeyword k = false := fun k => by simp [Token.isKeyword, hnumber]
  have hdisjunction : (Rules.above d r).disjunction ⟨prev, number :: close :: rest⟩ =
      .ok (some (.number number.text), ⟨some number, close :: rest⟩) :=
    disjunction?_of_number hnumber hclose
  have hexpression : (if mayName then (Rules.above d r).named d else (Rules.above d r).disjunction)
      ⟨prev, number :: close :: rest⟩ =
        .ok (some (.number number.text), ⟨some number, close :: rest⟩) := by
    cases mayName with
    | true => simp [Rules.named, hdisjunction, withName_of_fences hclose]
    | false => exact hdisjunction
  have hquery : (Rules.above d r).query ⟨prev, number :: close :: rest⟩ =
      .ok (none, ⟨prev, number :: close :: rest⟩) := query?_of_number hnumber hclose
  have hvalue : queryOr? (.above d r)
      (if mayName then (Rules.above d r).named d else (Rules.above d r).disjunction)
        ⟨prev, number :: close :: rest⟩ =
          .ok (some (.number number.text), ⟨some number, close :: rest⟩) := by
    simp only [queryOr?, bind_apply, hquery, ok_bind, hexpression, unionAfter?_of_fences hclose,
      pure_apply]
  unfold argument?
  simp only [bind_apply, arrow?_of_number hnumber hclose, ok_bind, keyword, accept_cons, hkeyword,
    Bool.false_eq_true, if_false, hvalue]
  simp [withNulls_of_fences hclose, withBound, inOrder, ordering?, withLimit, limit?, keyword,
    hclose.isKeyword]

end Arguments

/-- A number in parentheses, after the parenthesis that opens. -/
structure Counts (number close : Token) : Prop where
  kind : number.kind = .number
  capitals : ∀ {w : String}, w.toList.head?.any Text.isDigit = false → number.capitals ≠ w
  closed : close.kind = .sign .rParen
  fences : Fences close

/-- A number is read, unless reading stops with a fault. -/
def TakesNumber (R : Reader (Option Term)) (number : Token) (rest : List Token) : Prop :=
  ∀ prev, R ⟨prev, number :: rest⟩ = .ok (some (.number number.text), ⟨some number, rest⟩) ∨
    ∃ f, R ⟨prev, number :: rest⟩ = .error f

namespace Counts

variable (h : Counts number close) (k : Nat)

include h

theorem isKeyword (w : Keyword) : number.isKeyword w = false := by
  simp [Token.isKeyword, h.kind]

theorem isSign (s : Sign) : number.isSign s = false := by
  simp [Token.isSign, h.kind]

theorem isSign_comma : close.isSign .comma = false := by
  simp [Token.isSign, h.closed]

/-- A number is no word. -/
theorem isWord {w : String} (hw : w.toList.head?.any Text.isDigit = false) :
    number.isWord w = false := by
  simp [Token.isWord, h.capitals hw]

theorem closing : closing ⟨some number, close :: rest⟩ = .ok ((), ⟨some close, rest⟩) := by
  simp [Reader.closing, must, sign, Token.isSign, h.closed]

section Takes

variable (rest)

theorem takes_column : TakesNumber (Rules.levels d k).column number (close :: rest) := by
  intro prev
  cases k with
  | zero => exact .inr ⟨_, rfl⟩
  | succ k => exact .inl (column?_of_number h.kind h.fences)

theorem takes_typed : TakesNumber (Rules.levels d k).typed number (close :: rest) := by
  intro prev
  cases k with
  | zero => exact .inr ⟨_, rfl⟩
  | succ k => exact .inl (typed?_of_number h.kind h.fences)

theorem takes_bitwise : TakesNumber (Rules.levels d k).bitwise number (close :: rest) := by
  intro prev
  cases k with
  | zero => exact .inr ⟨_, rfl⟩
  | succ k => exact .inl (bitwise?_of_unary? h.fences.ends (unary?_of_number h.kind h.fences))

theorem takes_disjunction : TakesNumber (Rules.levels d k).disjunction number (close :: rest) := by
  intro prev
  cases k with
  | zero => exact .inr ⟨_, rfl⟩
  | succ k => exact .inl (disjunction?_of_number h.kind h.fences)

theorem takes_argument (mayName : Bool) :
    TakesNumber (argument? d (Rules.levels d k) mayName) number (close :: rest) := by
  intro prev
  cases k with
  | zero =>
    refine .inr ⟨.tooDeep, ?_⟩
    simp [argument?, arrow?_of_number h.kind h.fences, keyword, h.isKeyword, queryOr?,
      Rules.levels, Rules.bottom]
  | succ k => exact .inl (argument?_of_number h.kind h.fences mayName)

end Takes

/-- A list of a number alone. -/
theorem commaList {R : Reader (Option Term)} (hitem : TakesNumber R number (close :: rest))
    {ts : List Term} (hlist : commaList R ⟨prev, number :: close :: rest⟩ = .ok (ts, e)) :
    ts = [.number number.text] ∧ e = ⟨some number, close :: rest⟩ := by
  rcases hitem prev with hitem | ⟨f, hitem⟩
  · cases (commaList_of_one hitem h.isSign_comma).symm.trans hlist
    exact ⟨rfl, rfl⟩
  · simp [Reader.commaList, hitem] at hlist

end Counts

/-! ## Bodies -/

/-- A body reads a number as a term and stops behind it, unless reading stops with a fault, as it
does where there is no term. -/
def ReadsNumber (body : Reader Term) (o : Option Term) (number : Token) (rest : List Token) :
    Prop :=
  ∀ prev v e, body ⟨prev, number :: rest⟩ = .ok (v, e) → o = some v ∧ e = ⟨some number, rest⟩

theorem onCase_of_fences (hfence : Fences fence) {case : String} {choices : List String}
    (hchoices : ∀ w ∈ choices, w ∉ ["(", ")", ",", "ASC", "DESC"]) :
    onCase r case choices ⟨prev, fence :: rest⟩ = .ok ((), ⟨prev, fence :: rest⟩) := by
  induction choices with
  | nil => simp [onCase, keyword, hfence.isKeyword]
  | cons w ws ih =>
    have hw : words [w, "ON", case] ⟨prev, fence :: rest⟩ = .ok (false, ⟨prev, fence :: rest⟩) :=
      words_of_not _ (hfence.ends.isWord (hchoices w List.mem_cons_self))
    have hlater := ih fun w' hw' => hchoices w' (List.mem_cons_of_mem w hw')
    unfold onCase at hlater ⊢
    simpa [hw] using hlater

section Bodies

variable (h : Counts number close) (k : Nat)

include h

theorem textLiteral?_of_number :
    textLiteral? ⟨prev, number :: rest⟩ = .ok (none, ⟨prev, number :: rest⟩) := by
  simp [textLiteral?, h.kind, placeholder?_eq_none fun s _ => h.isSign s]

theorem textLiteral?_of_close :
    textLiteral? ⟨prev, close :: rest⟩ = .ok (none, ⟨prev, close :: rest⟩) := by
  simp [textLiteral?, h.closed, placeholder?_eq_none (t := close) (by simp [h.fences.ends.isSign])]

theorem anyName?_of_number :
    anyName? ⟨prev, number :: rest⟩ =
      .ok (some (.name ⟨number.text, false⟩), ⟨some number, rest⟩) := by
  unfold anyName?
  rw [nameOf?_of_no_sign h.isSign (by simp [h.kind]) (by simp [h.kind])]
  simp [Token.isReserved, h.kind]

theorem castBody_of_number (cls : String) :
    ReadsNumber (castBody cls d (Rules.levels d k)) none number (close :: rest) := by
  intro prev v e hread
  rcases h.takes_disjunction (d := d) rest k prev with hr | ⟨f, hr⟩ <;>
    simp [castBody, required, hr, keyword, h.fences.isKeyword, sign, h.isSign_comma]
      at hread

theorem convertBody_of_number (cls : String) :
    ReadsNumber (convertBody cls d (Rules.levels d k)) none number (close :: rest) := by
  intro prev v e hread
  rcases h.takes_bitwise (d := d) rest k prev with hr | ⟨f, hr⟩ <;>
    simp [convertBody, required, hr, keyword, h.fences.isKeyword, must, sign,
      h.isSign_comma] at hread

theorem roundingBody_of_number (cls : String) :
    ReadsNumber (roundingBody d (Rules.levels d k) cls)
      (some (.call cls (Text.upper cls) [.number number.text])) number (close :: rest) := by
  intro prev v e hread
  obtain ⟨args, between, hargs, hread⟩ := bind_eq_ok_iff.mp hread
  obtain ⟨rfl, rfl⟩ := h.commaList (h.takes_argument _ k false) hargs
  simp [word, h.fences.ends.isWord] at hread
  exact ⟨congrArg some hread.1, hread.2.symm⟩

theorem charBody_of_number :
    ReadsNumber (charBody (Rules.levels d k)) (some (.call "chr" "CHAR" [.number number.text]))
      number (close :: rest) := by
  intro prev v e hread
  obtain ⟨args, between, hargs, hread⟩ := bind_eq_ok_iff.mp hread
  obtain ⟨rfl, rfl⟩ := h.commaList (h.takes_disjunction _ k) hargs
  simp [keyword, h.fences.isKeyword] at hread
  exact ⟨congrArg some hread.1, hread.2.symm⟩

theorem decodeBody_of_number :
    ReadsNumber (decodeBody (Rules.levels d k)) none number (close :: rest) := by
  intro prev v e hread
  obtain ⟨args, between, hargs, hread⟩ := bind_eq_ok_iff.mp hread
  obtain ⟨rfl, rfl⟩ := h.commaList (h.takes_disjunction _ k) hargs
  simp at hread

/-- No call begins at a number. -/
theorem call?_of_number :
    call? d (Rules.levels d k) {} ⟨prev, number :: close :: rest⟩ =
      .ok (none, ⟨prev, number :: close :: rest⟩) := by
  have hform : wordFunction? d (Rules.levels d k) number.capitals = none := by
    refine wordFunction?_eq_none fun hmem => ?_
    have hall : (formWords.all fun w => !w.toList.head?.any Text.isDigit) = true := by decide
    exact h.capitals (by simpa using List.all_eq_true.mp hall _ hmem) rfl
  have hopen : close.isSign .lParen = false := h.fences.ends.isSign (by simp) (by simp)
  simp [call?, hform, bareFunction?, h.kind, hopen]

theorem takes_no_call (prev : Option Token) (rest : List Token) :
    (Rules.levels d k).call ⟨prev, number :: close :: rest⟩ =
        .ok (none, ⟨prev, number :: close :: rest⟩) ∨
      ∃ f, (Rules.levels d k).call ⟨prev, number :: close :: rest⟩ = .error f := by
  cases k with
  | zero => exact .inr ⟨_, rfl⟩
  | succ k => exact .inl (call?_of_number h k)

theorem extractBody_of_number :
    ReadsNumber (extractBody (Rules.levels d k) (Rules.levels d k).call) none number
      (close :: rest) := by
  intro prev v e hread
  have hunit : wordOrText? ⟨prev, number :: close :: rest⟩ =
      .ok (some (.word number.text), ⟨some number, close :: rest⟩) := by
    simp [wordOrText?, firstOf, textLiteral?_of_number h, anyVariable?, anyWord?, Token.isReserved,
      h.kind]
  rcases takes_no_call (d := d) h k prev rest with hr | ⟨f, hr⟩ <;>
    simp [extractBody, required, firstOf, hr, hunit, h.fences.isKeyword, h.isSign_comma]
      at hread

theorem objectBody_of_number (cls shown : String) :
    ReadsNumber (objectBody (Rules.levels d k) cls shown (Rules.levels d k).column) none number
      (close :: rest) := by
  intro prev v e hread
  have hkey : number.isWord "KEY" = false := h.isWord (by decide)
  have hnothing := nothing_bitwise (d := d) (some number) rest h.fences k
  have hitem : ∃ f, keyValue? (Rules.levels d k) (Rules.levels d k).column
      ⟨prev, number :: close :: rest⟩ = .error f := by
    rcases h.takes_column (d := d) rest k prev with hr | ⟨f, hr⟩
    · rcases hnothing with hn | ⟨f, hn⟩
      · exact ⟨.missing "value", by
          simp [keyValue?, hkey, hr, hn, word, h.fences.isKeyword, h.isSign_comma,
            h.fences.ends.isSign, h.fences.ends.isWord, documentForm, words_of_not]⟩
      · exact ⟨f, by
          simp [keyValue?, hkey, hr, hn, word, h.fences.isKeyword, h.isSign_comma,
            h.fences.ends.isSign, h.fences.ends.isWord]⟩
    · exact ⟨f, by simp [keyValue?, word, hkey, hr]⟩
  obtain ⟨f, hitem⟩ := hitem
  simp [objectBody, sign, h.isSign, commaList, hitem] at hread

/-- A list of nothing takes nothing. -/
theorem commaList_of_close {α : Type} {item : Reader (Option α)} {items : List α}
    (hitem : item ⟨prev, close :: rest⟩ = .ok (none, ⟨prev, close :: rest⟩) ∨
      ∃ f, item ⟨prev, close :: rest⟩ = .error f)
    (hread : commaList item ⟨prev, close :: rest⟩ = .ok (items, e)) :
    e = ⟨prev, close :: rest⟩ := by
  have hmore : many (do if ← sign .comma then return some (← item) else return none)
      ⟨prev, close :: rest⟩ = .ok ([], ⟨prev, close :: rest⟩) :=
    many_of_none (by simp [sign, h.isSign_comma])
  rcases hitem with hitem | ⟨f, hitem⟩
  · simp only [commaList, bind_apply, hitem, ok_bind, hmore] at hread
    cases hread
    rfl
  · simp [commaList, hitem] at hread

/-- No column of a document is listed where the call closes. -/
theorem documentColumns_of_close {depth : Nat}
    (hread : documentColumns depth (Rules.levels d k) ⟨prev, close :: rest⟩ = .ok ((), e)) :
    e = ⟨prev, close :: rest⟩ := by
  cases depth with
  | zero => cases hread
  | succ depth =>
    have hends := h.fences.ends
    have hopen : close.isSign .lParen = false := hends.isSign (by simp) (by simp)
    have hname : anyName? ⟨prev, close :: rest⟩ = .ok (none, ⟨prev, close :: rest⟩) :=
      h.fences.nameOf? (by simp [h.fences.isReserved])
    have hwords : ∀ ws, words ("FOR" :: ws) ⟨prev, close :: rest⟩ =
        .ok (false, ⟨prev, close :: rest⟩) := fun ws => words_of_not ws (hends.isWord (by simp))
    have hform : documentForm ⟨prev, close :: rest⟩ = .ok ((), ⟨prev, close :: rest⟩) := by
      simp [documentForm, words_of_not, hends.isWord]
    have htypes : (Rules.levels d k).types ⟨false, false, false⟩ ⟨prev, close :: rest⟩ =
          .ok (none, ⟨prev, close :: rest⟩) ∨
        ∃ f, (Rules.levels d k).types ⟨false, false, false⟩ ⟨prev, close :: rest⟩ = .error f := by
      cases k with
      | zero => exact .inr ⟨_, rfl⟩
      | succ k => exact .inl (hends.dataType _)
    unfold documentColumns at hread
    simp only [bind_apply, word, accept_cons, hends.isWord (w := "COLUMNS") (by simp), ok_bind,
      sees_cons, hopen, Bool.false_eq_true, if_false] at hread
    obtain ⟨⟨items, between⟩, hitems, hread⟩ := exists_of_bind hread
    cases hread
    refine commaList_of_close h ?_ hitems
    rcases htypes with htypes | ⟨f, htypes⟩
    · exact .inl (by simp [hends.isWord, hname, hwords, htypes, hform])
    · exact .inr ⟨f, by simp [hends.isWord, hname, hwords, htypes]⟩

theorem documentTableBody_of_number :
    ReadsNumber (documentTableBody (Rules.levels d k))
      (some (.call "jsontable" "JSON_TABLE" [.number number.text])) number (close :: rest) := by
  intro prev v e hread
  obtain ⟨t, between, ht, hread⟩ := bind_eq_ok_iff.mp hread
  rcases h.takes_bitwise (d := d) rest k prev with hr | ⟨f, hr⟩
  · cases hr.symm.trans (required_eq_ok ht)
    simp [documentForm, words_of_not, h.fences.ends.isWord, sign, h.isSign_comma,
      onCase_of_fences h.fences] at hread
    cases hcolumns : documentColumns (rest.length + 1) (Rules.levels d k)
        ⟨some number, close :: rest⟩ with
    | error f => simp [hcolumns] at hread
    | ok p =>
      rw [hcolumns] at hread
      cases hread
      exact ⟨rfl, documentColumns_of_close h k hcolumns⟩
  · cases hr.symm.trans (required_eq_ok ht)

theorem matchBody_of_number (hstop : Ends stop) :
    ReadsNumber (matchBody (Rules.levels d k)) none number (close :: stop :: rest) := by
  intro prev v e hread
  obtain ⟨args, between, hargs, hread⟩ := bind_eq_ok_iff.mp hread
  obtain ⟨rfl, rfl⟩ := h.commaList (h.takes_typed _ k) hargs
  have hwords : words [")", "AGAINST", "("] ⟨some number, close :: stop :: rest⟩ =
      .ok (false, ⟨some number, close :: stop :: rest⟩) :=
    sequence_of_second_not _ (hstop.isWord (by simp))
  obtain ⟨found, between, hfound, hread⟩ := bind_eq_ok_iff.mp hread
  cases hwords.symm.trans hfound
  obtain ⟨text, between, htext, -⟩ := bind_eq_ok_iff.mp hread
  cases (textLiteral?_of_close h).symm.trans (required_eq_ok htext)

theorem normalizeBody_of_number :
    ReadsNumber (normalizeBody (Rules.levels d k))
      (some (.call "normalize" "NORMALIZE" [.number number.text])) number (close :: rest) := by
  intro prev v e hread
  rcases h.takes_bitwise (d := d) rest k prev with hr | ⟨f, hr⟩ <;>
    simp [normalizeBody, required, hr, sign, h.isSign_comma] at hread
  exact ⟨congrArg some hread.1, hread.2.symm⟩

theorem overlayBody_of_number :
    ReadsNumber (overlayBody (Rules.levels d k)) none number (close :: rest) := by
  intro prev v e hread
  rcases h.takes_bitwise (d := d) rest k prev with hr | ⟨f, hr⟩ <;>
    simp [overlayBody, required, hr, h.isSign_comma, h.fences.ends.isWord] at hread

theorem positionBody_of_number :
    ReadsNumber (positionBody d (Rules.levels d k)) none number (close :: rest) := by
  intro prev v e hread
  obtain ⟨args, between, hargs, hread⟩ := bind_eq_ok_iff.mp hread
  obtain ⟨rfl, rfl⟩ := h.commaList (h.takes_bitwise _ k) hargs
  simp [keyword, h.fences.isKeyword] at hread

theorem stringGroupBody_of_number (hstop : Ends stop) :
    ReadsNumber (stringGroupBody (Rules.levels d k))
      (some (.call "groupconcat" "STRING_AGG" [.number number.text])) number
      (close :: stop :: rest) := by
  intro prev v e hread
  have hclosed : close.isSign .rParen = true := by simp [Token.isSign, h.closed]
  simp only [stringGroupBody, bind_apply, keyword, accept_cons, h.isKeyword, Bool.false_eq_true,
    if_false, ok_bind] at hread
  obtain ⟨⟨args, between⟩, hargs, hread⟩ := exists_of_bind hread
  obtain ⟨rfl, rfl⟩ := h.commaList (h.takes_disjunction _ k) hargs
  have hgroup : sequence [(·.isSign .rParen), (·.isWord "WITHIN"), (·.isWord "GROUP")]
      ⟨some number, close :: stop :: rest⟩ = .ok (false, ⟨some number, close :: stop :: rest⟩) :=
    sequence_of_second_not _ (hstop.isWord (by simp))
  simp [words_of_not, h.fences.ends.isWord, hclosed, hgroup, inOrder, ordering?, keyword,
    h.fences.isKeyword, withLimit, limit?] at hread
  exact ⟨congrArg some hread.1, hread.2.symm⟩

theorem substringBody_of_number :
    ReadsNumber (substringBody (Rules.levels d k))
      (some (.call "substring" "SUBSTRING" [.number number.text])) number (close :: rest) := by
  intro prev v e hread
  obtain ⟨args, between, hargs, hread⟩ := bind_eq_ok_iff.mp hread
  obtain ⟨rfl, rfl⟩ := h.commaList (h.takes_bitwise _ k) hargs
  obtain ⟨bounds, between, hbounds, hread⟩ := bind_eq_ok_iff.mp hread
  rw [extend_of_none (by simp [keyword, h.fences.isKeyword])] at hbounds
  cases hbounds
  simp at hread
  exact ⟨congrArg some hread.1, hread.2.symm⟩

theorem trimBody_of_number :
    ReadsNumber (trimBody (Rules.levels d k))
      (some (.call "trim" "TRIM" [.number number.text])) number (close :: rest) := by
  intro prev v e hread
  have hside : oneOf? ["LEADING", "TRAILING", "BOTH"] ⟨prev, number :: close :: rest⟩ =
      .ok (none, ⟨prev, number :: close :: rest⟩) := by
    refine oneOf?_of_not ?_
    simp only [List.mem_cons, List.not_mem_nil, or_false, not_or]
    exact ⟨h.capitals (by decide), h.capitals (by decide), h.capitals (by decide)⟩
  rcases h.takes_bitwise (d := d) rest k prev with hr | ⟨f, hr⟩ <;>
    simp [trimBody, hside, hr, keyword, h.fences.isKeyword, sign, h.isSign_comma] at hread
  exact ⟨congrArg some hread.1, hread.2.symm⟩

theorem elementBody_of_number :
    ReadsNumber (elementBody (Rules.levels d k))
      (some (.phrase "xmlelement" ["XMLELEMENT(NAME ", ")"] [.name ⟨number.text, false⟩])) number
      (close :: rest) := by
  intro prev v e hread
  have hevaluated : number.isWord "EVALNAME" = false := h.isWord (by decide)
  have hmarked : number.isWord "NAME" = false := h.isWord (by decide)
  simp [elementBody, word, hevaluated, hmarked, required, anyName?_of_number h, sign,
    h.isSign_comma] at hread
  exact ⟨congrArg some hread.1, hread.2.symm⟩

theorem elementTableBody_of_number :
    ReadsNumber (elementTableBody (Rules.levels d k)) none number (close :: rest) := by
  intro prev v e hread
  have hwords : words ["XMLNAMESPACES", "("] ⟨prev, number :: close :: rest⟩ =
      .ok (false, ⟨prev, number :: close :: rest⟩) := words_of_not _ (h.isWord (by decide))
  simp [elementTableBody, hwords, required, textLiteral?_of_number h] at hread

theorem datePartBody_of_number :
    ReadsNumber (datePartBody (Rules.levels d k)) none number (close :: rest) := by
  intro prev v e hread
  have hnothing := nothing_bitwise (d := d) (some number) rest h.fences k
  rcases h.takes_typed (d := d) rest k prev with hr | ⟨f, hr⟩ <;>
    rcases hnothing with hn | ⟨f', hn⟩ <;>
      simp [datePartBody, required, hr, hn, sign, h.isSign_comma] at hread

theorem documentGroupBody_of_number :
    ReadsNumber (documentGroupBody d (Rules.levels d k))
      (some (.call "jsonarrayagg" "JSON_AGG" [.number number.text])) number (close :: rest) := by
  intro prev v e hread
  rcases h.takes_argument (d := d) rest k false prev with hr | ⟨f, hr⟩ <;>
    simp [documentGroupBody, required, hr, inOrder, ordering?, keyword, h.fences.isKeyword] at hread
  exact ⟨congrArg some hread.1, hread.2.symm⟩

theorem documentTestBody_of_number :
    ReadsNumber (documentTestBody (Rules.levels d k)) none number (close :: rest) := by
  intro prev v e hread
  rcases h.takes_bitwise (d := d) rest k prev with hr | ⟨f, hr⟩ <;>
    simp [documentTestBody, required, hr, must, sign, h.isSign_comma] at hread

end Bodies

end TableDoc.Sql
