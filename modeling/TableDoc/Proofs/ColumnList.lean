import TableDoc.Script
import TableDoc.Proofs.Entries

/-!
# Alignment of declared and read entries

The entries of a column list are found twice: a reader takes the list item by item, and
`Declaration.ofTokens` cuts it at its commas. Only their numbers are compared before the wording of
the one is given to the other.

* **reading** — `ListRead` is all that is assumed of the reader: it goes through the content of the
  list from left to right as items with commas between them, gives one entry for an item with
  tokens and none for an empty one, and a comma that an item has for itself lies inside it;
* **counting** — the pieces are those of the items (`kept_pieces_joined`), so there are at least as
  many as entries, and as many only where every piece is an item (`length_filter_le_flatMap`,
  `whole_of_length_eq`);
* **alignment** — hence equal numbers give every entry its own tokens, whatever the list and
  whatever follows it, exactly where nothing is open before the list (`declarations_aligned_iff`).
-/

namespace TableDoc.Sql

open Declaration

/-! ## Reading a list -/

/-- An item of a column list: its tokens and the entry that it gives, if any. -/
structure ListItem where
  tokens : List Token
  entry : Option Entry

/-- Runs of tokens with a comma between each two. -/
inductive Joined : List (List Token) → List Token → Prop
  | one (u) : Joined [u] u
  | more {u us c ts} : c.isSign .comma = true → Joined us ts → Joined (u :: us) (u ++ c :: ts)

/-- What is assumed of a reader that goes through the content of a list. -/
structure ListRead (content : List Token) (items : List ListItem) : Prop where
  joined : Joined (items.map ListItem.tokens) content
  nested : ∀ i ∈ items, WellNested i.tokens
  entry_iff : ∀ i ∈ items, i.entry.isSome = true ↔ i.tokens ≠ []
  inside : ∀ i ∈ items, ∀ t ∈ i.tokens.head?.toList ++ i.tokens.getLast?.toList,
    t.isSign .comma = false

/-- The entries that the items give, in order. -/
def entriesOf (items : List ListItem) : List Entry := items.filterMap ListItem.entry

/-- The items that give an entry, in order. -/
def giving (items : List ListItem) : List ListItem := items.filter (·.entry.isSome)

theorem length_entriesOf (items : List ListItem) :
    (entriesOf items).length = (giving items).length := by
  induction items with
  | nil => rfl
  | cons i items ih =>
    cases h : i.entry <;> simp [entriesOf, giving, h] at ih ⊢ <;> exact ih

theorem Joined.ne_nil {us : List (List Token)} {ts : List Token} (h : Joined us ts) : us ≠ [] := by
  cases h <;> simp

/-- Well nested runs with commas between them are well nested. -/
theorem Joined.wellNested {us : List (List Token)} {ts : List Token} (h : Joined us ts)
    (hus : ∀ u ∈ us, WellNested u) : WellNested ts := by
  induction h with
  | one u => exact hus u (by simp)
  | more hc _ ih =>
    have hstep := Token.step_of_isSign hc (by decide) (by decide)
    refine (hus _ (by simp)).append ?_
    exact (wellNested_singleton hstep).append (ih fun u hu => hus u (by simp [hu]))

/-- Items with tokens are the items that give an entry. -/
theorem ListRead.filter_tokens {content : List Token} {items : List ListItem}
    (h : ListRead content items) :
    (items.map ListItem.tokens).filter (· ≠ []) = (giving items).map ListItem.tokens := by
  rw [List.filter_map, giving]
  congr 1
  refine List.filter_congr fun i hi => ?_
  have := h.entry_iff i hi
  by_cases ht : i.tokens = [] <;> simp_all

/-! ## Counting pieces -/

/-- The pieces that count are those of the items that count. -/
theorem kept_pieces_joined {us : List (List Token)} {ts : List Token} (h : Joined us ts)
    (hnested : ∀ u ∈ us, WellNested u)
    (hlast : ∀ u ∈ us, ∀ t ∈ u.getLast?, t.isSign .comma = false) :
    kept (pieces 0 ts) = (kept us).flatMap (pieces 0) := by
  induction h with
  | one u =>
    -- the last piece of a run that has tokens is not empty
    rcases List.eq_nil_or_concat u with rfl | ⟨v, t, rfl⟩
    · simp [kept, pieces]
    · rw [List.concat_eq_append] at hlast ⊢
      have ht : t.isSign .comma = false := hlast (v ++ [t]) (by simp) t (by simp)
      obtain ⟨ps, q, hps⟩ := pieces_concat ht v 0
      rw [hps, kept_concat (by simp), show kept [v ++ [t]] = [v ++ [t]] by simp [kept]]
      simp [hps]
  | more hc hjoined ih =>
    -- the run closes all that it opens, so the comma after it stands at depth 0
    have hlevel := (hnested _ List.mem_cons_self).level
    rw [pieces_append_comma hc _ _ _ (by simpa using hlevel), kept_append (pieces_ne_nil _ _),
      ih (fun u hu => hnested u (by simp [hu])) (fun u hu => hlast u (by simp [hu])),
      kept_cons hjoined.ne_nil, List.flatMap_cons]

theorem pieces_length_pos (u : List Token) : 0 < (pieces 0 u).length :=
  List.length_pos_iff.mpr (pieces_ne_nil 0 u)

/-- A last run that is empty does not count as one with tokens either. -/
theorem filter_kept (us : List (List Token)) :
    (kept us).filter (· ≠ []) = us.filter (· ≠ []) := by
  induction us with
  | nil => rfl
  | cons u us ih =>
    cases us with
    | nil => cases u <;> simp [kept]
    | cons v us =>
      rw [kept_cons (by simp), List.filter_cons, List.filter_cons, ih]

/-- There are at least as many pieces as runs with tokens. -/
theorem length_filter_le_flatMap (us : List (List Token)) :
    (us.filter (· ≠ [])).length ≤ (us.flatMap (pieces 0)).length := by
  induction us with
  | nil => simp
  | cons u us ih =>
    have hpos := pieces_length_pos u
    rw [List.flatMap_cons, List.length_append, List.filter_cons]
    split
    · rw [List.length_cons]
      omega
    · omega

/-- Where there are as many pieces as runs with tokens, every run has tokens and is one piece. -/
theorem whole_of_length_eq {us : List (List Token)}
    (h : (us.flatMap (pieces 0)).length = (us.filter (· ≠ [])).length) :
    ∀ u ∈ us, u ≠ [] ∧ pieces 0 u = [u] := by
  induction us with
  | nil => simp
  | cons u us ih =>
    have hpos := pieces_length_pos u
    have hle := length_filter_le_flatMap us
    rw [List.flatMap_cons, List.length_append, List.filter_cons] at h
    -- a run without tokens or with two pieces would make more pieces than the others can lack
    by_cases hu : u = []
    · rw [if_neg (by simpa using hu)] at h
      omega
    · rw [if_pos (by simpa using hu), List.length_cons] at h
      obtain ⟨p, hp⟩ := List.length_eq_one_iff.mp (show (pieces 0 u).length = 1 by omega)
      intro v hv
      rcases List.mem_cons.mp hv with rfl | hv
      · exact ⟨hu, by rw [hp, (pieces_eq_singleton_iff.mp hp).1]⟩
      · exact ih (by omega) v hv

/-- Runs that have tokens and are one piece each are the pieces. -/
theorem flatMap_pieces_of_whole {us : List (List Token)}
    (h : ∀ u ∈ us, u ≠ [] ∧ pieces 0 u = [u]) :
    us.flatMap (pieces 0) = us ∧ us.filter (· ≠ []) = us := by
  refine ⟨?_, List.filter_eq_self.mpr fun u hu => by simpa using (h u hu).1⟩
  induction us with
  | nil => rfl
  | cons u us ih =>
    rw [List.flatMap_cons, (h u List.mem_cons_self).2,
      ih fun v hv => h v (List.mem_cons_of_mem u hv)]
    rfl

/-- The declared entries of a list, by the items that a reader takes. -/
theorem ofTokens_of_listRead {before content after : List Token} {o c : Token}
    {items : List ListItem} (hbefore : Along (· ≤ 0) 0 before) (hlevel : rise before = 0)
    (ho : o.isSign .lParen = true) (hc : c.isSign .rParen = true) (h : ListRead content items) :
    ofTokens (before ++ o :: (content ++ c :: after)) =
      ((kept (items.map ListItem.tokens)).flatMap (pieces 0)).map Declaration.mk := by
  have hnested : ∀ u ∈ items.map ListItem.tokens, WellNested u := by
    intro u hu
    obtain ⟨i, hi, rfl⟩ := List.mem_map.mp hu
    exact h.nested i hi
  have hlast : ∀ u ∈ items.map ListItem.tokens, ∀ t ∈ u.getLast?, t.isSign .comma = false := by
    intro u hu t ht
    obtain ⟨i, hi, rfl⟩ := List.mem_map.mp hu
    exact h.inside i hi t (by simp [Option.mem_def.mp ht])
  rw [ofTokens_list hbefore hlevel ho (h.joined.wellNested hnested) hc,
    kept_pieces_joined h.joined hnested hlast]

/-! ## Nothing open before the list -/

/-- Every entry that the reader gives has a declared entry. -/
theorem length_entries_le {before content after : List Token} {o c : Token}
    {items : List ListItem} (hbefore : Along (· ≤ 0) 0 before) (hlevel : rise before = 0)
    (ho : o.isSign .lParen = true) (hc : c.isSign .rParen = true) (h : ListRead content items) :
    (entriesOf items).length ≤ (ofTokens (before ++ o :: (content ++ c :: after))).length := by
  have hle := length_filter_le_flatMap (kept (items.map ListItem.tokens))
  rw [filter_kept, h.filter_tokens, List.length_map] at hle
  rw [ofTokens_of_listRead hbefore hlevel ho hc h, length_entriesOf, List.length_map]
  exact hle

/-- Equal numbers leave no room for a shift: every declared entry holds the tokens of its item. -/
theorem tokens_of_length_eq {before content after : List Token} {o c : Token}
    {items : List ListItem} (hbefore : Along (· ≤ 0) 0 before) (hlevel : rise before = 0)
    (ho : o.isSign .lParen = true) (hc : c.isSign .rParen = true) (h : ListRead content items)
    (hlen : (ofTokens (before ++ o :: (content ++ c :: after))).length =
      (entriesOf items).length) :
    (ofTokens (before ++ o :: (content ++ c :: after))).map Declaration.tokens =
      (giving items).map ListItem.tokens := by
  have hcount := congrArg List.length h.filter_tokens
  rw [List.length_map] at hcount
  rw [ofTokens_of_listRead hbefore hlevel ho hc h, length_entriesOf, List.length_map,
    ← hcount, ← filter_kept] at hlen
  rw [ofTokens_of_listRead hbefore hlevel ho hc h, List.map_map]
  show List.map id _ = _
  obtain ⟨hpieces, hfilter⟩ := flatMap_pieces_of_whole (whole_of_length_eq hlen)
  rw [List.map_id, hpieces, ← hfilter, filter_kept, h.filter_tokens]

/-! ## Something open before the list -/

/-- Deeper than the list, tokens only extend the current entry. -/
theorem entriesFrom_deep (rest : List Token) :
    ∀ (u : List Token) (k : Int) (reversed : List Token), Along (2 ≤ ·) k u →
      ∃ reversed', entriesFrom k reversed (u ++ rest) =
        entriesFrom (k + rise u) reversed' rest := by
  intro u
  induction u with
  | nil =>
    intro k reversed _
    exact ⟨reversed, by simp⟩
  | cons t u ih =>
    intro k reversed h
    obtain ⟨hk, hu⟩ := along_cons.mp h
    have hnext := hu.first
    rw [rise_cons, ← Int.add_assoc, List.cons_append,
      entriesFrom_inside _ _ (by omega) (by omega) (by simp; omega)]
    exact ih _ _ hu

/-- Tokens that open a list leave it closed, with its entries fixed, or open. -/
theorem entriesFrom_opened :
    ∀ (before : List Token) (k : Int) (reversed : List Token), ¬ Along (· ≤ 0) k before →
      ∃ es, (∀ rest, entriesFrom k reversed (before ++ rest) = es) ∨
        ∃ k' reversed', 1 ≤ k' ∧
          ∀ rest, entriesFrom k reversed (before ++ rest) = es ++ entriesFrom k' reversed' rest := by
  intro before
  induction before with
  | nil =>
    intro k reversed h
    have hk : 1 ≤ k := by
      rw [along_nil] at h
      omega
    exact ⟨[], .inr ⟨k, reversed, hk, fun rest => rfl⟩⟩
  | cons t before ih =>
    intro k reversed h
    simp only [List.cons_append]
    -- inside the list the rest of the tokens begins above 0, so it can not stay at 0 or below
    have hopen : ∀ k', 1 ≤ k' → ¬ Along (· ≤ 0) k' before := by
      intro k' hk' hall
      have := hall.first
      omega
    by_cases hk : k ≤ 0
    · have hlater : ¬ Along (· ≤ 0) (k + t.step) before := fun hall =>
        h (along_cons.mpr ⟨hk, hall⟩)
      by_cases hnext : k + t.step ≤ 0
      · simp only [entriesFrom_outside _ _ hk hnext]
        exact ih _ _ hlater
      · rcases Token.step_cases t with ⟨hl, hstep⟩ | ⟨-, hstep⟩ | hstep
        · have hzero : k = 0 := by omega
          subst hzero
          simp only [entriesFrom_opening _ _ hl]
          exact ih _ _ (hopen 1 (Int.le_refl 1))
        · omega
        · omega
    · by_cases hcomma : (t.isSign .comma && decide (k = 1)) = true
      · obtain ⟨ht, hone⟩ : t.isSign .comma = true ∧ k = 1 := by simpa using hcomma
        subst hone
        simp only [entriesFrom_comma _ _ ht]
        obtain ⟨es, hes⟩ := ih 1 [] (hopen 1 (Int.le_refl 1))
        refine ⟨⟨reversed.reverse⟩ :: es, ?_⟩
        rcases hes with hes | ⟨k', reversed', hk', hes⟩
        · exact .inl fun rest => by rw [hes]
        · exact .inr ⟨k', reversed', hk', fun rest => by rw [hes, List.cons_append]⟩
      · by_cases hnext : 1 ≤ k + t.step
        · simp only [entriesFrom_inside _ _ (show 1 ≤ k by omega) hnext (by simpa using hcomma)]
          exact ih _ _ (hopen _ hnext)
        · rcases Token.step_cases t with ⟨-, hstep⟩ | ⟨hr, hstep⟩ | hstep
          · omega
          · have hone : k = 1 := by omega
            subst hone
            simp only [entriesFrom_closing _ _ hr]
            exact ⟨lastEntry reversed, .inl fun _ => rfl⟩
          · omega

theorem length_lastEntry_le (reversed : List Token) : (lastEntry reversed).length ≤ 1 := by
  cases reversed <;> simp [lastEntry]

/-- Once a list is open before it, a further list adds at most one entry. -/
theorem exists_length_le {before : List Token} (h : ¬ Along (· ≤ 0) 0 before) :
    ∃ n, ∀ (o c : Token) (content : List Token), o.isSign .lParen = true →
      c.isSign .rParen = true → WellNested content →
      (ofTokens (before ++ o :: (content ++ [c]))).length ≤ n := by
  obtain ⟨es, hes⟩ := entriesFrom_opened before 0 [] h
  refine ⟨es.length + 1, ?_⟩
  intro o c content ho hc hcontent
  unfold ofTokens
  rcases hes with hes | ⟨k, reversed, hk, hes⟩
  · rw [hes]
    omega
  · have hdeep : Along (2 ≤ ·) (k + 1) content := fun p hp => by
      have := hcontent.floor p hp
      show 2 ≤ k + 1 + rise p
      omega
    obtain ⟨reversed', hread⟩ := entriesFrom_deep [c] content (k + 1) (o :: reversed) hdeep
    have hopening := Token.step_lParen ho
    have hclosing := Token.step_rParen hc
    have hoc : o.isSign .comma = false := Token.isSign_eq_false ho (by decide)
    have hcc : c.isSign .comma = false := Token.isSign_eq_false hc (by decide)
    rw [hes, entriesFrom_inside _ _ hk (by omega) (by simp [hoc]), hopening, hread,
      hcontent.level, Int.add_zero, entriesFrom_inside _ _ (by omega) (by omega) (by simp [hcc]),
      entriesFrom, List.length_append]
    exact Nat.add_le_add_left (length_lastEntry_le _) _

/-- A list of any number of items can be read. -/
theorem exists_listRead {i : ListItem} (hnested : WellNested i.tokens)
    (hsome : i.entry.isSome = true) (hne : i.tokens ≠ [])
    (hinside : ∀ t ∈ i.tokens.head?.toList ++ i.tokens.getLast?.toList, t.isSign .comma = false)
    (n : Nat) : ∃ content, ListRead content (List.replicate (n + 1) i) := by
  have hjoined : ∃ content, Joined ((List.replicate (n + 1) i).map ListItem.tokens) content := by
    induction n with
    | zero => exact ⟨_, .one i.tokens⟩
    | succ n ih =>
      obtain ⟨content, h⟩ := ih
      exact ⟨_, .more (c := ⟨.sign .comma, ",", 0, 1, false⟩) rfl h⟩
  obtain ⟨content, h⟩ := hjoined
  have hof : ∀ j ∈ List.replicate (n + 1) i, j = i := fun j hj => (List.mem_replicate.mp hj).2
  refine ⟨content, h, ?_, ?_, ?_⟩
  · intro j hj
    rwa [hof j hj]
  · intro j hj
    rw [hof j hj]
    exact ⟨fun _ => hne, fun _ => hsome⟩
  · intro j hj
    rwa [hof j hj]

/-- Where something is open before the list, some list gives more entries than are declared. -/
theorem exists_lost_entry {before : List Token}
    (h : ¬ (Along (· ≤ 0) 0 before ∧ rise before = 0)) :
    ∃ (o c : Token) (content : List Token) (items : List ListItem), o.isSign .lParen = true ∧
      c.isSign .rParen = true ∧ ListRead content items ∧
      (ofTokens (before ++ o :: (content ++ [c]))).length < (entriesOf items).length := by
  let o : Token := ⟨.sign .lParen, "(", 0, 1, false⟩
  let c : Token := ⟨.sign .rParen, ")", 0, 1, false⟩
  let word : Token := ⟨.word, "a", 0, 1, false⟩
  let i : ListItem := ⟨[word], some (.clause .autoIncrement)⟩
  have hlist : ∀ n, ∃ content, ListRead content (List.replicate (n + 1) i) :=
    exists_listRead (wellNested_singleton rfl) rfl (by simp [i]) (by simp [i]; rfl)
  have hcount : ∀ n, (entriesOf (List.replicate n i)).length = n := fun n => by
    simp [entriesOf, i]
  by_cases hlow : Along (· ≤ 0) 0 before
  · -- more is closed than is open: the list ends at depth 0 or below and nothing is taken up
    have hrise : rise before ≤ -1 := by
      have hlast := hlow.last
      have : rise before ≠ 0 := fun hzero => h ⟨hlow, hzero⟩
      omega
    refine ⟨o, c, [word], [i], rfl, rfl, ⟨.one [word], ?_, ?_, ?_⟩, ?_⟩
    · intro j hj
      rw [List.mem_singleton.mp hj]
      exact wellNested_singleton rfl
    · intro j hj
      rw [List.mem_singleton.mp hj]
      simp [i]
    · intro j hj
      rw [List.mem_singleton.mp hj]
      simp [i]
      rfl
    · have hwhole : Along (· ≤ 0) 0 (before ++ o :: ([word] ++ [c])) := by
        have ho : o.step = 1 := rfl
        have hw : word.step = 0 := rfl
        have hc : c.step = -1 := rfl
        refine along_append.mpr ⟨hlow, ?_⟩
        simp only [List.singleton_append, along_cons, along_nil, ho, hw, hc]
        omega
      have hread := entriesFrom_closed [] _ 0 hwhole
      rw [List.append_nil] at hread
      unfold ofTokens
      rw [hread]
      exact Nat.zero_lt_one
  · -- a list was open before: enough items outnumber what can be declared
    obtain ⟨n, hn⟩ := exists_length_le hlow
    obtain ⟨content, hcontent⟩ := hlist n
    refine ⟨o, c, content, _, rfl, rfl, hcontent, ?_⟩
    have hnested : WellNested content := hcontent.joined.wellNested fun u hu => by
      obtain ⟨j, hj, rfl⟩ := List.mem_map.mp hu
      exact hcontent.nested j hj
    rw [hcount]
    exact Nat.lt_succ_of_le (hn o c content rfl rfl hnested)

/-! ## Alignment -/

/-- For a statement with `before` in front of its list, whatever the list and whatever follows it,
no entry lacks a declared one and declared entries that are used hold the tokens of their own
entries: exactly where nothing is open in `before`. -/
theorem declarations_aligned_iff (before : List Token) :
    (∀ (sql : String) (s : TableSchema) (items : List ListItem) (o c : Token)
      (content after : List Token), o.isSign .lParen = true → c.isSign .rParen = true →
      ListRead content items → s.entries = entriesOf items →
      s.entries.length ≤ (ofTokens (before ++ o :: (content ++ c :: after))).length ∧
      (s.agrees ((ofTokens (before ++ o :: (content ++ c :: after))).map
          (Declaration.wording sql)) = true →
        (ofTokens (before ++ o :: (content ++ c :: after))).map Declaration.tokens =
          (giving items).map ListItem.tokens)) ↔
    Along (· ≤ 0) 0 before ∧ rise before = 0 := by
  constructor
  · intro h
    by_cases hclosed : Along (· ≤ 0) 0 before ∧ rise before = 0
    · exact hclosed
    · obtain ⟨o, c, content, items, ho, hc, hread, hlost⟩ := exists_lost_entry hclosed
      have := (h "" ⟨"", entriesOf items⟩ items o c content [] ho hc hread rfl).1
      exact absurd hlost (Nat.not_lt.mpr this)
  · rintro ⟨hbefore, hlevel⟩ sql s items o c content after ho hc hread hs
    rw [TableSchema.agrees, List.length_map, beq_iff_eq, hs]
    exact ⟨length_entries_le hbefore hlevel ho hc hread,
      tokens_of_length_eq hbefore hlevel ho hc hread⟩

/-- Properties may stand before the column list: of the two lists in parentheses the first gives
the declared entries, the second the entries, and with one each the property names the kind of the
index. -/
theorem kind_from_property :
    ((tokens .postgres "CREATE TABLE t WITH (key=1) (UNIQUE (a))").toOption.map fun ts =>
      (ofTokens ts).map (·.tokens.map Token.text)) = some [["key", "=", "1"]] ∧
    Fragment.table? .postgres "CREATE TABLE t WITH (key=1) (UNIQUE (a))" =
      some ⟨"t", [], [⟨"t_a_key", "key", ["a"]⟩]⟩ ∧
    Fragment.table? .postgres "CREATE TABLE t (UNIQUE (a))" =
      some ⟨"t", [], [⟨"t_a_key", "unique key", ["a"]⟩]⟩ := by
  decide +kernel

end TableDoc.Sql
