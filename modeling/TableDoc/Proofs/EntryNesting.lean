import TableDoc.Proofs.ColumnList
import TableDoc.Proofs.DefaultExtent

/-!
# How entries nest in their statement

The scan for the column list and the scan of an entry count parentheses each for themselves. For
every run of tokens, well nested or not, the two counts go together: an entry begins one
parenthesis deep in its statement and never closes that one.

* **places** — an entry begins behind the parenthesis that opens the list, or behind the comma that
  ends the entry before it (`EntryBegins`), always at depth 1 (`EntryBegins.level`), and goes on to
  the next comma or parenthesis at that depth or to the end of the statement (`EntryEnds`); every
  declared entry lies so (`lies_of_getElem?`);
* **the list** — once it is open it stays open up to the place where an entry begins
  (`EntryBegins.stays_open`), so an entry that closes less than it opens is cut off by the end of
  the statement (`Lies.level_of_closes`);
* **the scan of an entry** goes on from the depth that it has reached (`outerFrom_append`) and finds
  the tokens at depth 0 (`outerFrom_eq_filter`), which are those at depth 1 of the statement
  (`Lies.outer_eq`).

The results are put together in `entries_nested`.
-/

namespace TableDoc.Declaration

open Sql

/-! ## Where entries begin and end -/

/-- Behind `pre` and before `rest` begins entry number `i` of the list of a statement. The list
begins where the depth first rises above 0. -/
inductive EntryBegins (ts : List Token) : Nat → List Token → List Token → Prop
  | first {before rest : List Token} {o : Token} :
      ts = before ++ o :: rest → Along (· ≤ 0) 0 before → rise before = 0 →
      o.isSign .lParen = true → EntryBegins ts 0 (before ++ [o]) rest
  | next {i : Nat} {pre u rest : List Token} {c : Token} :
      EntryBegins ts i pre (u ++ c :: rest) → WellNested u → ¬Outside (Token.isSign .comma) 0 u →
      c.isSign .comma = true → EntryBegins ts (i + 1) (pre ++ (u ++ [c])) rest

/-- An entry of the tokens `u` ends before `rest`: with the statement, or before a comma or a
closing parenthesis at the depth at which it began. -/
inductive EntryEnds (u : List Token) : List Token → Prop
  | statement : EntryEnds u []
  | comma {c : Token} (rest : List Token) :
      rise u = 0 → c.isSign .comma = true → EntryEnds u (c :: rest)
  | list {c : Token} (rest : List Token) :
      rise u = 0 → c.isSign .rParen = true → EntryEnds u (c :: rest)

/-- The tokens `u` between `pre` and `rest` are entry number `i` of a statement. -/
structure Lies (ts : List Token) (i : Nat) (u pre rest : List Token) : Prop where
  begins : EntryBegins ts i pre (u ++ rest)
  floor : Along (0 ≤ ·) 0 u
  whole : ¬Outside (Token.isSign .comma) 0 u
  ends : EntryEnds u rest

/-- The list of a statement is open at some place and closed at a later one. -/
def ListCloses (ts : List Token) : Prop :=
  ∃ p q, p <+: q ∧ q <+: ts ∧ 0 < rise p ∧ rise q ≤ 0

namespace EntryBegins

variable {ts pre rest : List Token} {i : Nat}

theorem split (h : EntryBegins ts i pre rest) : ts = pre ++ rest := by
  induction h with
  | first hts => rw [hts, List.append_assoc, List.singleton_append]
  | next _ _ _ _ ih => rw [ih]; simp

/-- Entries begin at depth 1, the depth of the list. -/
theorem level (h : EntryBegins ts i pre rest) : rise pre = 1 := by
  induction h with
  | first _ _ hlevel ho => rw [rise_append, hlevel, rise_cons, Token.step_lParen ho]; rfl
  | next _ hu _ hc ih =>
    have hstep := Token.step_of_isSign hc (by decide) (by decide)
    rw [rise_append, ih, rise_append, hu.level, rise_cons, hstep]
    rfl

end EntryBegins

/-- A beginning of two runs is one of the first or goes on into the second. -/
theorem isPrefix_append_cases {p u v : List Token} (h : p <+: u ++ v) :
    p <+: u ∨ ∃ q, p = u ++ q ∧ q <+: v := by
  rcases List.prefix_or_prefix_of_prefix h (List.prefix_append u v) with hp | ⟨q, rfl⟩
  · exact .inl hp
  · exact .inr ⟨q, rfl, (List.prefix_append_right_inj u).mp h⟩

/-- A list that is open stays open up to where an entry begins. -/
theorem EntryBegins.stays_open {ts pre rest p q : List Token} {i : Nat}
    (h : EntryBegins ts i pre rest) (hp : p <+: q) (hq : q <+: pre) (hopen : 0 < rise p) :
    0 < rise q := by
  induction h with
  | @first before _ o _ hbefore hlevel ho =>
    rcases isPrefix_append_cases hq with hq | ⟨r, rfl, hr⟩
    · -- before the list nothing is open
      have := hbefore p (hp.trans hq)
      omega
    · rcases List.prefix_cons_iff.mp hr with rfl | ⟨r', rfl, hr'⟩
      · rw [List.append_nil] at hp
        have := hbefore p hp
        omega
      · rw [List.prefix_nil.mp hr', rise_append, hlevel, rise_cons, Token.step_lParen ho]
        decide
  | @next _ pre u _ c hbegins hu _ hc ih =>
    rcases isPrefix_append_cases hq with hq | ⟨r, rfl, hr⟩
    · exact ih hq
    · -- the entry and its comma stay at the depth of the list or above
      have hstep := Token.step_of_isSign hc (by decide) (by decide)
      have hfloor := (hu.append (wellNested_singleton hstep)).floor r hr
      rw [rise_append, hbegins.level]
      omega

/-! ## Declared entries -/

/-- A last entry is the current one. -/
theorem getElem?_lastEntry {u : List Token} {j : Nat} {e : Declaration}
    (h : (lastEntry u.reverse)[j]? = some e) : j = 0 ∧ e.tokens = u := by
  have hlength := length_lastEntry_le u.reverse
  obtain ⟨hj, -⟩ := List.getElem?_eq_some_iff.mp h
  refine ⟨by omega, ?_⟩
  rw [mem_lastEntry (List.mem_of_getElem? h), List.reverse_reverse]

/-- Behind the tokens `u` of an entry a comma ends the entry, a parenthesis ends the entry and the
list, both only at the depth of the list, and any other token goes to the entry. -/
theorem entriesFrom_step {u : List Token} (hdepth : 0 ≤ rise u) (t : Token) (rest : List Token) :
    (t.isSign .comma = true ∧ rise u = 0 ∧
        entriesFrom (1 + rise u) u.reverse (t :: rest) = ⟨u⟩ :: entriesFrom 1 [] rest) ∨
      (t.isSign .rParen = true ∧ rise u = 0 ∧
        entriesFrom (1 + rise u) u.reverse (t :: rest) = lastEntry u.reverse) ∨
      ((t.isSign .comma = true → rise u ≠ 0) ∧ 0 ≤ rise u + t.step ∧
        entriesFrom (1 + rise u) u.reverse (t :: rest) =
          entriesFrom (1 + rise (u ++ [t])) (u ++ [t]).reverse rest) := by
  by_cases hcomma : t.isSign .comma = true ∧ rise u = 0
  · obtain ⟨ht, hlevel⟩ := hcomma
    refine .inl ⟨ht, hlevel, ?_⟩
    rw [hlevel, Int.add_zero, entriesFrom_comma _ _ ht, List.reverse_reverse]
  · by_cases hclosing : t.isSign .rParen = true ∧ rise u = 0
    · obtain ⟨ht, hlevel⟩ := hclosing
      refine .inr (.inl ⟨ht, hlevel, ?_⟩)
      rw [hlevel, Int.add_zero, entriesFrom_closing _ _ ht]
    · have hnext : 0 ≤ rise u + t.step := by
        rcases Token.step_cases t with ⟨-, hstep⟩ | ⟨hr, hstep⟩ | hstep
        · omega
        · have hdeep : rise u ≠ 0 := fun hlevel => hclosing ⟨hr, hlevel⟩
          omega
        · omega
      have hinside : ¬(t.isSign .comma && decide (1 + rise u = 1)) = true := by
        rw [Bool.and_eq_true, decide_eq_true_eq]
        rintro ⟨ht, hone⟩
        exact hcomma ⟨ht, by omega⟩
      refine .inr (.inr ⟨fun ht hlevel => hcomma ⟨ht, hlevel⟩, hnext, ?_⟩)
      rw [entriesFrom_inside _ _ (by omega) (by omega) (by simpa using hinside), rise_append,
        rise_cons, rise_nil, Int.add_zero, Int.add_assoc, List.reverse_concat]

/-- From inside the list on, every entry lies in its statement, and each but the last closes all
that it opens. The entry that the scan has begun holds the tokens `u` so far. -/
theorem lies_of_entriesFrom {ts : List Token} :
    ∀ (rest u pre : List Token) (i : Nat), EntryBegins ts i pre (u ++ rest) →
      Along (0 ≤ ·) 0 u → ¬Outside (Token.isSign .comma) 0 u →
      ∀ {j : Nat} {e : Declaration}, (entriesFrom (1 + rise u) u.reverse rest)[j]? = some e →
        (∃ pre' rest', Lies ts (i + j) e.tokens pre' rest') ∧
        (j + 1 < (entriesFrom (1 + rise u) u.reverse rest).length → rise e.tokens = 0) := by
  intro rest
  induction rest with
  | nil =>
    intro u pre i hbegins hfloor hwhole j e he
    obtain ⟨rfl, rfl⟩ := getElem?_lastEntry he
    have hlength := length_lastEntry_le e.tokens.reverse
    exact ⟨⟨pre, [], hbegins, hfloor, hwhole, .statement⟩,
      fun hlt => absurd hlt (Nat.not_lt.mpr hlength)⟩
  | cons t rest ih =>
    intro u pre i hbegins hfloor hwhole j e he
    have hdepth : 0 ≤ rise u := by simpa using hfloor.last
    rcases entriesFrom_step hdepth t rest with ⟨ht, hlevel, hread⟩ | ⟨ht, hlevel, hread⟩ |
      ⟨hinner, hnext, hread⟩
    · -- the next entry begins behind the comma
      have hbehind := EntryBegins.next hbegins ⟨hfloor, hlevel⟩ hwhole ht
      rw [hread] at he ⊢
      cases j with
      | zero =>
        cases he
        exact ⟨⟨pre, t :: rest, hbegins, hfloor, hwhole, .comma rest hlevel ht⟩, fun _ => hlevel⟩
      | succ j =>
        obtain ⟨⟨pre', rest', hlies⟩, hlevels⟩ := ih [] (pre ++ (u ++ [t])) (i + 1) hbehind
          (along_nil.mpr (Int.le_refl 0)) not_outside_nil (j := j) (e := e) he
        rw [Nat.add_right_comm] at hlies
        exact ⟨⟨pre', rest', hlies⟩, fun hlt => hlevels (Nat.lt_of_succ_lt_succ hlt)⟩
    · rw [hread] at he
      obtain ⟨rfl, rfl⟩ := getElem?_lastEntry he
      exact ⟨⟨pre, t :: rest, hbegins, hfloor, hwhole, .list rest hlevel ht⟩, fun _ => hlevel⟩
    · -- the entry goes on with one more token
      have hfloor' : Along (0 ≤ ·) 0 (u ++ [t]) :=
        along_append.mpr ⟨hfloor, along_cons.mpr ⟨hfloor.last, along_nil.mpr (by omega)⟩⟩
      have hwhole' : ¬Outside (Token.isSign .comma) 0 (u ++ [t]) := by
        rw [outside_append, outside_cons, Int.zero_add]
        rintro (h | ⟨hlevel, ht⟩ | h)
        · exact hwhole h
        · exact hinner ht hlevel
        · exact not_outside_nil h
      rw [List.append_cons] at hbegins
      rw [hread] at he ⊢
      exact ih (u ++ [t]) pre i hbegins hfloor' hwhole' he

/-- Where the depth rises above 0, it does so from 0 at a parenthesis. -/
theorem exists_opening :
    ∀ {ts : List Token} {k : Int}, k ≤ 0 → ¬Along (· ≤ 0) k ts →
      ∃ before o rest, ts = before ++ o :: rest ∧ Along (· ≤ 0) k before ∧ k + rise before = 0 ∧
        o.isSign .lParen = true := by
  intro ts
  induction ts with
  | nil =>
    intro k hk h
    exact (h (along_nil.mpr hk)).elim
  | cons t ts ih =>
    intro k hk h
    rw [along_cons, not_and] at h
    by_cases hnext : k + t.step ≤ 0
    · obtain ⟨before, o, rest, rfl, hbefore, hlevel, ho⟩ := ih hnext (h hk)
      refine ⟨t :: before, o, rest, rfl, along_cons.mpr ⟨hk, hbefore⟩, ?_, ho⟩
      rw [rise_cons, ← Int.add_assoc, hlevel]
    · rcases Token.step_cases t with ⟨ht, hstep⟩ | ⟨-, hstep⟩ | hstep
      · exact ⟨[], t, ts, rfl, along_nil.mpr hk, by rw [rise_nil]; omega, ht⟩
      · omega
      · omega

/-- Every declared entry lies in its statement, and each but the last closes all that it opens. -/
theorem lies_of_getElem? {ts : List Token} {i : Nat} {e : Declaration}
    (h : (ofTokens ts)[i]? = some e) :
    (∃ pre rest, Lies ts i e.tokens pre rest) ∧
      (i + 1 < (ofTokens ts).length → rise e.tokens = 0) := by
  by_cases hclosed : Along (· ≤ 0) 0 ts
  · -- no list is ever open
    have hnone : ofTokens ts = [] := by
      have hread := entriesFrom_closed [] ts 0 hclosed
      rwa [List.append_nil] at hread
    rw [hnone] at h
    cases h
  · obtain ⟨before, o, rest, hts, hbefore, hlevel, ho⟩ :=
      exists_opening (Int.le_refl 0) hclosed
    have hread : ofTokens ts = entriesFrom 1 [] rest := by
      rw [ofTokens, hts, entriesFrom_closed _ _ _ hbefore, hlevel, entriesFrom_opening _ _ ho]
    rw [Int.zero_add] at hlevel
    have hlies := lies_of_entriesFrom rest [] (before ++ [o]) 0 (.first hts hbefore hlevel ho)
      (along_nil.mpr (Int.le_refl 0)) not_outside_nil (j := i) (e := e)
    rw [hread] at h ⊢
    rw [Nat.zero_add] at hlies
    exact hlies h

/-- Where the list is closed, an entry closes all that it opens. -/
theorem Lies.level_of_closes {ts u pre rest : List Token} {i : Nat} (h : Lies ts i u pre rest)
    (hcloses : ListCloses ts) : rise u = 0 := by
  obtain ⟨hbegins, hfloor, -, hends⟩ := h
  cases hends with
  | comma _ hlevel _ => exact hlevel
  | list _ hlevel _ => exact hlevel
  | statement =>
    -- the entry goes on to the end of the statement, so the list stays open
    exfalso
    obtain ⟨p, q, hpq, hq, hopen, hclosed⟩ := hcloses
    rw [hbegins.split, List.append_nil] at hq
    rcases isPrefix_append_cases hq with hq | ⟨r, rfl, hr⟩
    · have := hbegins.stays_open hpq hq hopen
      omega
    · have hdepth : 0 ≤ 0 + rise r := hfloor r hr
      rw [rise_append, hbegins.level] at hclosed
      omega

/-! ## The scan of an entry -/

/-- Behind some tokens the scan goes on at the depth and the index that it has reached. -/
theorem outerFrom_append (v : List Token) :
    ∀ (u : List Token) (k : Int) (i : Nat),
      outerFrom k i (u ++ v) = outerFrom k i u ++ outerFrom (k + rise u) (i + u.length) v := by
  intro u
  induction u with
  | nil =>
    intro k i
    simp [outerFrom]
  | cons t u ih =>
    intro k i
    rw [List.cons_append, outerFrom_cons, ih, outerFrom_cons, rise_cons, List.length_cons,
      List.append_assoc, Int.add_assoc, Nat.add_assoc, Nat.add_comm 1]

/-- The scan finds the tokens at depth 0 that are no parentheses, each with its index. -/
theorem outerFrom_eq_filter :
    ∀ (ts : List Token) (k : Int) (i : Nat),
      outerFrom k i ts = ((ts.zipIdx i).filter fun p =>
        k + rise (ts.take (p.2 - i)) == 0 && p.1.step == 0).map Prod.swap := by
  intro ts
  induction ts with
  | nil =>
    intro k i
    rfl
  | cons t ts ih =>
    intro k i
    -- behind the first token the depth has changed by its step
    have htail : (ts.zipIdx (i + 1)).filter (fun p =>
          k + rise ((t :: ts).take (p.2 - i)) == 0 && p.1.step == 0) =
        (ts.zipIdx (i + 1)).filter fun p =>
          k + t.step + rise (ts.take (p.2 - (i + 1))) == 0 && p.1.step == 0 := by
      refine List.filter_congr fun p hp => ?_
      have hindex := List.le_snd_of_mem_zipIdx hp
      rw [show p.2 - i = (p.2 - (i + 1)) + 1 by omega, List.take_succ_cons, rise_cons,
        Int.add_assoc]
    rw [outerFrom_cons, ih, List.zipIdx_cons, List.filter_cons, htail, Nat.sub_self,
      List.take_zero, rise_nil, Int.add_zero]
    split <;> rfl

/-- How deep in a statement the token of this index stands. -/
def depthAt (ts : List Token) (i : Nat) : Int := rise (ts.take i)

/-- The scan of an entry finds the tokens at the depth of the list that are no parentheses. -/
theorem Lies.outer_eq {ts pre rest : List Token} {i : Nat} {e : Declaration}
    (h : Lies ts i e.tokens pre rest) :
    e.outer = (e.tokens.zipIdx.filter fun p =>
      depthAt ts (pre.length + p.2) == 1 && p.1.step == 0).map Prod.swap := by
  rw [outer, outerFrom_eq_filter]
  congr 1
  refine List.filter_congr fun p hp => ?_
  have hindex : p.2 ≤ e.tokens.length := Nat.le_of_lt (List.snd_lt_of_mem_zipIdx hp)
  have hdepth : depthAt ts (pre.length + p.2) = 1 + rise (e.tokens.take p.2) := by
    rw [depthAt, h.begins.split, List.take_length_add_append, List.take_append_of_le_length hindex,
      rise_append, h.begins.level]
  rw [hdepth, Nat.sub_zero]
  congr 1
  rw [Bool.eq_iff_iff, beq_iff_eq, beq_iff_eq]
  omega

/-- How the declared entries of a statement nest in it. -/
structure Nested (ts : List Token) : Prop where
  /-- No beginning of an entry closes more parentheses than it opens. -/
  floor : ∀ e ∈ ofTokens ts, ∀ p, p <+: e.tokens → 0 ≤ rise p
  /-- Every entry but the last closes all that it opens. -/
  level : ∀ e ∈ (ofTokens ts).dropLast, rise e.tokens = 0
  /-- So does the last one where the list is closed. -/
  closed : ListCloses ts → ∀ e ∈ ofTokens ts, rise e.tokens = 0
  /-- Behind any beginning of an entry its scan goes on at a depth that is not below 0. -/
  counter : ∀ e ∈ ofTokens ts, ∀ p q, e.tokens = p ++ q →
    e.outer = outerFrom 0 0 p ++ outerFrom (rise p) p.length q ∧ 0 ≤ rise p
  /-- The scan of an entry, which lies behind `pre`, finds those of its tokens that stand at the
  depth of the list in the statement and are no parentheses, each with its index. -/
  outer : ∀ i e, (ofTokens ts)[i]? = some e → ∃ pre rest,
    Lies ts i e.tokens pre rest ∧ depthAt ts pre.length = 1 ∧
    e.outer = (e.tokens.zipIdx.filter fun p =>
      depthAt ts (pre.length + p.2) == 1 && p.1.step == 0).map Prod.swap

/-- The entries of any run of tokens nest in it. -/
theorem entries_nested (ts : List Token) : Nested ts := by
  have hfloor : ∀ e ∈ ofTokens ts, ∀ p, p <+: e.tokens → 0 ≤ rise p := by
    intro e he p hp
    obtain ⟨i, hi⟩ := List.mem_iff_getElem?.mp he
    obtain ⟨⟨pre, rest, hlies⟩, -⟩ := lies_of_getElem? hi
    have hdepth : 0 ≤ 0 + rise p := hlies.floor p hp
    omega
  constructor
  case floor => exact hfloor
  case level =>
    intro e he
    obtain ⟨i, hi⟩ := List.mem_iff_getElem?.mp he
    rw [List.getElem?_dropLast] at hi
    split at hi
    · exact (lies_of_getElem? hi).2 (by omega)
    · cases hi
  case closed =>
    intro hcloses e he
    obtain ⟨i, hi⟩ := List.mem_iff_getElem?.mp he
    obtain ⟨⟨pre, rest, hlies⟩, -⟩ := lies_of_getElem? hi
    exact hlies.level_of_closes hcloses
  case counter =>
    intro e he p q hsplit
    refine ⟨?_, hfloor e he p ⟨q, hsplit.symm⟩⟩
    rw [Declaration.outer, hsplit, outerFrom_append, Int.zero_add, Nat.zero_add]
  case outer =>
    intro i e hi
    obtain ⟨⟨pre, rest, hlies⟩, -⟩ := lies_of_getElem? hi
    refine ⟨pre, rest, hlies, ?_, hlies.outer_eq⟩
    rw [depthAt, hlies.begins.split, List.take_left, hlies.begins.level]

/-- A parenthesis that closes nothing needs one more to open the list; the end of the statement cuts
the last entry off. -/
example :
    let sign (s : Sign) : Token := ⟨.sign s, "", 0, 1, false⟩
    let a : Token := ⟨.word, "a", 0, 1, false⟩
    ofTokens [sign .rParen, sign .lParen, a, sign .lParen, a, sign .comma, a, sign .lParen, a] =
      [⟨[a]⟩, ⟨[a, sign .lParen, a]⟩] := by
  decide

end TableDoc.Declaration
