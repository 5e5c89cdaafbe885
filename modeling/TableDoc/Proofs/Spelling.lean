import TableDoc.Proofs.LetterForms
import TableDoc.Proofs.Places

/-!
# How tokens are spelled

What a token is and what it is written with go together: a keyword is a word of its dialect, and
only the three signs that shape a list are written as they are.

* **lexemes** — one step of the lexer at a time (`spells_lexeme`);
* **tokens** — hence every token of a statement (`spells_of_mem`), so a keyword is known by its
  capitals (`capitals_of_keyword`), and a sign of a list and a number are no words
  (`capitals_of_sign`, `capitals_ne_of_number`).
-/

namespace TableDoc.Sql

/-- The signs that shape a list. -/
def listSigns : List Sign := [.lParen, .rParen, .comma]

/-- A keyword is a word of its dialect, a sign of a list is written as such, and a number begins
with a digit. -/
def Spells (d : Dialect) : TokenKind → String → Prop
  | .keyword k, text => Keyword.ofWord? d (Text.upper text) = some k
  | .sign s, text => s ∈ listSigns → text ∈ ["(", ")", ","]
  | .number, text => text.toList.head?.any Text.isDigit = true
  | _, _ => True

namespace Lexer

variable {d : Dialect}

/-! ## Words and signs -/

theorem spells_wordKind {w text : String} (h : Text.upper text = w) :
    Spells d ((Lexis.of d).wordKind w) text := by
  have hdialect : (Lexis.of d).dialect = d := by cases d <;> rfl
  unfold Lexis.wordKind
  rw [hdialect]
  split
  · rename_i k hk
    rw [← h] at hk
    exact hk
  · split
    · trivial
    · split <;> trivial

/-- Of the signs only a parenthesis or a comma shapes a list. -/
theorem spells_sign {c : Char} {s : Sign} (h : (Lexis.of d).sign? c = some s) :
    Spells d (.sign s) (String.singleton c) := by
  intro hs
  have hchar : Sign.ofChar? c = some s := by
    unfold Lexis.sign? at h
    split at h
    · cases h
      simp [listSigns] at hs
    · split at h
      · cases h
        simp [listSigns] at hs
      · exact h
  unfold Sign.ofChar? at hchar
  split at hchar <;> cases hchar <;> simp [listSigns] at hs
  all_goals decide

theorem spells_operator {cs : List Char} {kind : TokenKind} {text : String} {width : Nat}
    (h : operator? (Lexis.of d) cs = some (.token kind text, width)) : Spells d kind text := by
  unfold operator? at h
  obtain ⟨o, ho, hfound⟩ := List.exists_of_findSome?_eq_some h
  have hall : ((Lexis.of d).operators.all fun o => !listSigns.contains o.2) = true := by
    cases d <;> decide
  split at hfound
  · cases hfound
    intro hs
    have hnot := List.all_eq_true.mp hall o ho
    simp [hs] at hnot
  · cases hfound

theorem spells_phrase {cs : List Char} {kind : TokenKind} {text : String} {width : Nat}
    (h : phrase? (Lexis.of d) cs = some (.token kind text, width)) : Spells d kind text := by
  unfold phrase? at h
  obtain ⟨phrase, hphrase, hfound⟩ := List.exists_of_findSome?_eq_some h
  have hall : (((Lexis.of d).phrases ++ Lexis.signedPhrases).all
      fun phrase => Text.upper phrase == phrase) = true := by
    cases d <;> decide
  split at hfound
  · split at hfound
    · cases hfound
      exact spells_wordKind (by simpa using List.all_eq_true.mp hall _ hphrase)
    · cases hfound
  · cases hfound

/-! ## Lexemes -/

theorem spells_decimal {k : Bool} {c : Char} {cs : List Char} {kind : TokenKind} {text : String}
    {width : Nat} (hc : Text.isDigit c = true)
    (h : number.decimal (Lexis.of d) k (c :: cs) = (.token kind text, width)) :
    Spells d kind text := by
  unfold number.decimal at h
  dsimp only at h
  split at h
  · cases h
    trivial
  · cases h
    simp [Spells, hc]

theorem spells_number {k : Bool} {c : Char} {cs : List Char} {kind : TokenKind} {text : String}
    {width : Nat} (hc : Text.isDigit c = true)
    (h : number (Lexis.of d) k (c :: cs) = (.token kind text, width)) : Spells d kind text := by
  unfold number at h
  split at h
  · rename_i m rest hcons
    obtain ⟨rfl, rfl⟩ := List.cons.inj hcons
    split at h
    · dsimp only at h
      generalize (if m == 'x' || m == 'X' then 16 else 2) = base at h
      split at h
      · cases h
        split <;> trivial
      · cases h
        trivial
    · exact spells_decimal hc h
  · exact spells_decimal hc h

theorem spells_dollar {cs : List Char} {kind : TokenKind} {text : String} {width : Nat}
    (h : dollar cs = .ok (.token kind text, width)) : Spells d kind text := by
  have hlone : Spells d (.sign .at) "$" := fun hs => by simp [listSigns] at hs
  unfold dollar at h
  dsimp only at h
  split at h
  · split at h
    · cases h
    · cases h
      exact hlone
  · split at h
    · cases h
      exact hlone
    · split at h <;> cases h
      trivial

theorem spells_marked {kind' kind : TokenKind} {body : List Char} {base : Option Nat}
    {text : String} {width : Nat}
    (h : marked (Lexis.of d) kind' body base = .ok (.token kind text, width))
    (hkind : ∀ content, Spells d kind' content) : Spells d kind text := by
  unfold marked at h
  dsimp only at h
  split at h
  · cases h
  · split at h <;> cases h
    exact hkind _

theorem spells_marked? {cs : List Char} {kind : TokenKind} {text : String} {width : Nat}
    (h : marked? (Lexis.of d) cs = some (.ok (.token kind text, width))) : Spells d kind text := by
  unfold marked? at h
  split at h
  · split at h
    · have h := Option.some.inj h
      split at h <;> cases h
      trivial
    · split at h
      · cases h
      · repeat' split at h
        · exact spells_marked (Option.some.inj h) fun _ => trivial
        · exact spells_marked (Option.some.inj h) fun _ => trivial
        · exact spells_marked (Option.some.inj h) fun _ => trivial
        · cases h
  · cases h

theorem comment?_ne_token {cs : List Char} {kind : TokenKind} {text : String} {width : Nat} :
    comment? (Lexis.of d) cs ≠ some (.ok (.token kind text, width)) := by
  have hblock : ∀ f rest, block (Lexis.of d) f rest ≠ .ok (.token kind text, width) := by
    intro f rest h
    unfold block at h
    split at h <;> cases h
  intro h
  unfold comment? at h
  split at h
  · exact hblock _ _ (Option.some.inj h)
  · exact hblock _ _ (Option.some.inj h)
  · split at h <;> cases h
  · split at h <;> cases h
  · cases h

theorem spells_lexeme {k : Bool} {c : Char} {rest : List Char} {kind : TokenKind} {text : String}
    {width : Nat} (h : lexeme (Lexis.of d) k c rest = .ok (.token kind text, width)) :
    Spells d kind text := by
  unfold lexeme at h
  dsimp only at h
  split at h
  · cases h
  split at h
  · exact spells_number ‹_› (Except.ok.inj h)
  split at h
  · split at h <;> cases h
    trivial
  split at h
  · split at h <;> cases h
    trivial
  split at h
  · exact spells_dollar h
  split at h
  · rename_i scan hscan
    rw [h] at hscan
    exact spells_marked? hscan
  split at h
  · rename_i found hfound
    rw [Except.ok.inj h] at hfound
    exact spells_operator hfound
  split at h
  · rename_i scan hscan
    rw [h] at hscan
    exact absurd hscan comment?_ne_token
  split at h
  · rename_i found hfound
    rw [Except.ok.inj h] at hfound
    exact spells_phrase hfound
  split at h
  · rename_i s hs
    cases h
    exact spells_sign hs
  · have hword := Except.ok.inj h
    unfold word at hword
    cases hword
    split
    · trivial
    · exact spells_wordKind rfl

/-! ## Tokens -/

theorem spells_run {k : Nat} {passed : Passed} {start : Nat} {cs : List Char} {ts : List Token}
    (h : run (Lexis.of d) k passed start cs = .ok ts) : ∀ t ∈ ts, Spells d t.kind t.text := by
  induction k generalizing passed start cs ts with
  | zero => cases cs <;> cases h <;> simp
  | succ k ih =>
    cases cs with
    | nil =>
      cases h
      simp
    | cons c rest =>
      rw [run] at h
      cases hlex : lexeme (Lexis.of d) passed.parameter c rest with
      | error e => rw [hlex] at h; cases h
      | ok scan =>
        obtain ⟨found, width⟩ := scan
        rw [hlex] at h
        cases found with
        | blank => exact ih h
        | comment => exact ih h
        | token kind text =>
          change (run (Lexis.of d) k _ _ _ >>= _) = _ at h
          cases hlater : run (Lexis.of d) k ⟨kind == .sign .at, true, false⟩
              (start + max width 1) (rest.drop (max width 1 - 1)) with
          | error e => rw [hlater] at h; cases h
          | ok later =>
            rw [hlater] at h
            cases h
            exact List.forall_mem_cons.mpr ⟨spells_lexeme hlex, ih hlater⟩

/-- What is kept as text is a text literal. -/
theorem spells_keepAsText {x : Lexis} {cs : List Char} {k : Nat} {first : Bool} {ts : List Token}
    (h : ∀ t ∈ ts, Spells d t.kind t.text) :
    ∀ t ∈ keepAsText x cs k first ts, Spells d t.kind t.text := by
  induction k generalizing first ts with
  | zero => exact h
  | succ k ih =>
    cases ts with
    | nil => exact h
    | cons t rest =>
      obtain ⟨ht, hrest⟩ := List.forall_mem_cons.mp h
      rw [keepAsText]
      refine iteInduction (motive := fun us : List Token => ∀ t ∈ us, Spells d t.kind t.text)
        (fun _ => ?_) fun _ => List.forall_mem_cons.mpr ⟨ht, ih hrest⟩
      have hsplit := upToSemicolon_append cs rest
      generalize upToSemicolon cs rest = cut at hsplit
      obtain ⟨taken, left⟩ := cut
      dsimp only at hsplit ⊢
      have hleft : ∀ u ∈ keepAsText x cs k false left, Spells d u.kind u.text :=
        ih fun u hu => hrest u (by
          rw [← hsplit]
          exact List.mem_append_right taken hu)
      refine iteInduction (motive := fun us : List Token => ∀ t ∈ us, Spells d t.kind t.text)
        (fun _ => List.forall_mem_cons.mpr ⟨ht, hleft⟩) fun _ => ?_
      exact List.forall_mem_cons.mpr ⟨ht, List.forall_mem_cons.mpr ⟨trivial, hleft⟩⟩

end Lexer

/-- Every token of a statement is spelled as what it is. -/
theorem spells_of_mem {d : Dialect} {sql : String} {ts : List Token} (h : tokens d sql = .ok ts)
    {t : Token} (ht : t ∈ ts) : Spells d t.kind t.text := by
  unfold tokens at h
  cases hrun : Lexer.run (Lexis.of d) sql.toList.length {} 0 sql.toList with
  | error e => simp only [hrun] at h; cases h
  | ok found =>
    simp only [hrun] at h
    cases h
    exact Lexer.spells_keepAsText (Lexer.spells_run hrun) t ht

/-! ## Words and signs that are told apart -/

/-- The capitals of a keyword are one of the words for it. -/
theorem capitals_of_keyword {d : Dialect} {t : Token} {k : Keyword} (h : Spells d t.kind t.text)
    (ht : t.isKeyword k = true) :
    (t.capitals, k) ∈ Keyword.ownSpellings d ++ Keyword.commonSpellings := by
  have hkind : t.kind = .keyword k := by simpa [Token.isKeyword] using ht
  rw [hkind] at h
  have hword : Keyword.ofWord? d t.capitals = some k := h
  have hlookup : (Keyword.ownSpellings d ++ Keyword.commonSpellings).lookup t.capitals =
      some k := by
    rw [List.lookup_append, ← hword]
    unfold Keyword.ofWord?
    cases (Keyword.ownSpellings d).lookup t.capitals <;> rfl
  obtain ⟨front, back, hsplit, -⟩ := List.lookup_eq_some_iff.mp hlookup
  rw [hsplit]
  exact List.mem_append_right front List.mem_cons_self

/-- The keyword before the name of a constraint has one spelling. -/
theorem capitals_of_constraint {d : Dialect} {t : Token} (h : Spells d t.kind t.text)
    (ht : t.isKeyword .constraint = true) : t.capitals = "CONSTRAINT" := by
  have hall : ((Keyword.ownSpellings d ++ Keyword.commonSpellings).all fun e =>
      e.2 != .constraint || e.1 == "CONSTRAINT") = true := by
    cases d <;> decide
  simpa using List.all_eq_true.mp hall _ (capitals_of_keyword h ht)

/-- So have the keywords for an order. -/
theorem capitals_of_order {d : Dialect} {t : Token} {k : Keyword} (h : Spells d t.kind t.text)
    (ht : t.isKeyword k = true) (hk : k = .asc ∨ k = .desc) : t.capitals ∈ ["ASC", "DESC"] := by
  have hall : ((Keyword.ownSpellings d ++ Keyword.commonSpellings).all fun e =>
      !(e.2 == .asc || e.2 == .desc) || ["ASC", "DESC"].contains e.1) = true := by
    cases d <;> decide
  have hspelled := List.all_eq_true.mp hall _ (capitals_of_keyword h ht)
  rcases hk with rfl | rfl <;> simpa using hspelled

/-- A sign that shapes a list is no word. -/
theorem capitals_of_sign {d : Dialect} {t : Token} {s : Sign} (h : Spells d t.kind t.text)
    (ht : t.isSign s = true) (hs : s ∈ listSigns) : t.capitals ∈ ["(", ")", ","] := by
  have hkind : t.kind = .sign s := by simpa [Token.isSign] using ht
  rw [hkind] at h
  have htext : t.text ∈ ["(", ")", ","] := h hs
  simp only [List.mem_cons, List.not_mem_nil, or_false] at htext
  unfold Token.capitals
  rcases htext with h | h | h <;> rw [h] <;> decide

/-- Nor is one that ends an item of a list. -/
theorem capitals_of_fence {d : Dialect} {t : Token} (h : Spells d t.kind t.text)
    (ht : (t.isSign .comma || t.isSign .rParen) = true) : t.capitals ∈ ["(", ")", ","] := by
  rcases Bool.or_eq_true_iff.mp ht with hsign | hsign
  · exact capitals_of_sign h hsign (by simp [listSigns])
  · exact capitals_of_sign h hsign (by simp [listSigns])

/-- A number is no word. -/
theorem capitals_ne_of_number {d : Dialect} {t : Token} (h : Spells d t.kind t.text)
    (ht : t.kind = .number) {w : String} (hw : w.toList.head?.any Text.isDigit = false) :
    t.capitals ≠ w := by
  rw [ht] at h
  rintro rfl
  have hfirst : t.text.toList.head?.any Text.isDigit = true := h
  cases hchars : t.text.toList with
  | nil => simp [hchars] at hfirst
  | cons c cs =>
    have hc : Text.isDigit c = true := by simpa [hchars] using hfirst
    simp [Token.capitals, Text.upper, hchars, Text.upperChar_of_isDigit hc, hc] at hw

end TableDoc.Sql
