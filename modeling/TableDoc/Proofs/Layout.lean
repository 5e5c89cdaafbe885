import TableDoc.Proofs.ColumnList
import TableDoc.Proofs.Contribution

/-!
# The layout of a column list

Entries that are written between parentheses with a comma between each two are found again, each
with its own tokens, whatever else the statement holds.

* **pieces** — where no entry has a comma outside its parentheses, the pieces of a list are its
  entries (`pieces_of_joined`);
* **layout** — hence cutting a list undoes how it was laid out (`ofTokens_layout`).
-/

namespace TableDoc.Declaration

open Sql

/-! ## Pieces -/

/-- The pieces of a list are the entries that were joined to it. -/
theorem pieces_of_joined {es : List (List Token)} {content : List Token}
    (h : Joined es content) (hnested : ∀ u ∈ es, WellNested u)
    (hwhole : ∀ u ∈ es, ¬Outside (Token.isSign .comma) 0 u) : pieces 0 content = es := by
  induction h with
  | one u => exact pieces_eq_singleton_iff.mpr ⟨rfl, hwhole u (by simp)⟩
  | more hc _ ih =>
    -- the entry closes what it opens, so the comma behind it ends its piece
    have hlevel := (hnested _ List.mem_cons_self).level
    rw [pieces_append_comma hc _ _ _ (by simpa using hlevel),
      pieces_eq_singleton_iff.mpr ⟨rfl, hwhole _ List.mem_cons_self⟩,
      ih (fun u hu => hnested u (by simp [hu])) (fun u hu => hwhole u (by simp [hu]))]
    rfl

/-- One more comma at the end leaves an empty piece behind it. -/
theorem pieces_concat_comma {content : List Token} {m : Token} (hlevel : rise content = 0)
    (hm : m.isSign .comma = true) : pieces 0 (content ++ [m]) = pieces 0 content ++ [[]] := by
  rw [pieces_append_comma hm [] content 0 (by simpa using hlevel)]
  rfl

/-! ## Layout -/

/-- Entries in parentheses, with a comma between each two and a last one that is not empty, are the
declared entries of their statement, whatever follows the list. A comma behind the last entry
changes nothing, and an empty list has no entries. -/
theorem ofTokens_layout {before content : List Token} {o c : Token} {es : List (List Token)}
    (hbefore : ∀ t ∈ before, t.step = 0) (ho : o.isSign .lParen = true)
    (hc : c.isSign .rParen = true) (hjoined : Joined es content)
    (hnested : ∀ u ∈ es, WellNested u) (hwhole : ∀ u ∈ es, ¬Outside (Token.isSign .comma) 0 u)
    (hlast : ∀ u ∈ es.getLast?, u ≠ []) (after : List Token) :
    (ofTokens (before ++ o :: (content ++ c :: after))).map Declaration.tokens = es ∧
    (∀ m, m.isSign .comma = true →
      (ofTokens (before ++ o :: (content ++ m :: c :: after))).map Declaration.tokens = es) ∧
    ofTokens (before ++ o :: c :: after) = [] := by
  have hflat := wellNested_of_flat hbefore
  have hbefore' : Along (· ≤ 0) 0 before := fun p hp => by
    have hfront := wellNested_of_flat fun t ht => hbefore t (hp.subset ht)
    show 0 + rise p ≤ 0
    rw [hfront.level]
    omega
  have hcontent := hjoined.wellNested hnested
  have hpieces := pieces_of_joined hjoined hnested hwhole
  have htokens : ∀ us : List (List Token), (us.map Declaration.mk).map Declaration.tokens = us := by
    intro us
    rw [List.map_map]
    exact List.map_id us
  -- the last entry counts, for it is not empty
  obtain ⟨front, e, rfl⟩ : ∃ front e, es = front ++ [e] :=
    ⟨_, _, (List.dropLast_concat_getLast hjoined.ne_nil).symm⟩
  have he : e ≠ [] := hlast e (by simp)
  refine ⟨?_, ?_, ?_⟩
  · rw [ofTokens_list hbefore' hflat.level ho hcontent hc, hpieces, kept_concat he, htokens]
  · intro m hm
    have hstep := Token.step_of_isSign hm (by decide) (by decide)
    have hmore := hcontent.append (wellNested_singleton hstep)
    rw [List.append_cons content m (c :: after), ofTokens_list hbefore' hflat.level ho hmore hc,
      pieces_concat_comma hcontent.level hm, hpieces, kept_append (List.cons_ne_nil [] []), htokens]
    exact List.append_nil _
  · exact ofTokens_list hbefore' hflat.level ho wellNested_nil hc

/-- An empty entry in the middle, a comma inside an entry, and another list behind. -/
theorem ofTokens_layout_decimal :
    ∃ ts es,
      Sql.tokens .mysql "CREATE TABLE t (a int, , b decimal(10, 2)) PARTITION (p, q)" = .ok ts ∧
      es.map (List.map Token.text) =
        [["a", "int"], [], ["b", "decimal", "(", "10", ",", "2", ")"]] ∧
      (ofTokens ts).map Declaration.tokens = es := by
  let before : List Token := [⟨.keyword .create, "CREATE", 0, 6, false⟩,
    ⟨.keyword .table, "TABLE", 7, 12, false⟩, ⟨.word, "t", 13, 14, false⟩]
  let e₁ : List Token := [⟨.word, "a", 16, 17, false⟩, ⟨.typeName .int, "int", 18, 21, false⟩]
  let e₃ : List Token := [⟨.word, "b", 25, 26, false⟩,
    ⟨.typeName .decimal, "decimal", 27, 34, false⟩, ⟨.sign .lParen, "(", 34, 35, false⟩,
    ⟨.number, "10", 35, 37, false⟩, ⟨.sign .comma, ",", 37, 38, false⟩,
    ⟨.number, "2", 39, 40, false⟩, ⟨.sign .rParen, ")", 40, 41, false⟩]
  let comma (n : Nat) : Token := ⟨.sign .comma, ",", n, n + 1, false⟩
  let o : Token := ⟨.sign .lParen, "(", 15, 16, false⟩
  let c : Token := ⟨.sign .rParen, ")", 41, 42, false⟩
  have htokens : (Sql.tokens .mysql
      "CREATE TABLE t (a int, , b decimal(10, 2)) PARTITION (p, q)").toOption.map
        (fun ts => (ts.take 16, (ts.drop 16).map Token.text)) =
      some (before ++ o :: ((e₁ ++ comma 21 :: ([] ++ comma 23 :: e₃)) ++ [c]),
        ["PARTITION", "(", "p", ",", "q", ")"]) := by decide +kernel
  obtain ⟨ts, hts, hsplit⟩ := exists_ok_of_toOption htokens
  have htake := (Prod.mk.inj hsplit).1
  have hjoined : Joined [e₁, [], e₃] (e₁ ++ comma 21 :: ([] ++ comma 23 :: e₃)) :=
    .more rfl (.more rfl (.one e₃))
  have hbefore : ∀ t ∈ before, t.step = 0 := by simp [before, Token.step, Token.isSign]
  have hlayout := ofTokens_layout (o := o) (c := c) hbefore rfl rfl hjoined (by simp; decide)
    (by simp; decide) (by simp [e₃]) (ts.drop 16)
  have hall : before ++
      o :: ((e₁ ++ comma 21 :: ([] ++ comma 23 :: e₃)) ++ c :: ts.drop 16) = ts := by
    have hboth := List.take_append_drop 16 ts
    rw [htake] at hboth
    simpa using hboth
  rw [hall] at hlayout
  refine ⟨ts, [e₁, [], e₃], hts, rfl, ?_⟩
  exact hlayout.1

end TableDoc.Declaration
