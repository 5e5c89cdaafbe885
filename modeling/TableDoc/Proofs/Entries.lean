import TableDoc.Proofs.Nesting

/-!
# Entries of a column list

What `entriesFrom` makes of a statement, said without its depth counter and its accumulator.

* **before the list**: tokens among which nothing is open are passed over (`entriesFrom_closed`);
* **the list**: the content of the list is cut at its commas outside parentheses (`pieces`), and
  only a last piece that is empty does not count (`kept`, `entriesFrom_content`, `ofTokens_list`);
  a run without such a comma is one piece (`pieces_eq_singleton_iff`);
* **joining**: a comma outside parentheses keeps the pieces on its two sides apart
  (`pieces_append_comma`).
-/

namespace TableDoc.Declaration

open Sql

/-! ## Pieces -/

/-- The runs of a token list between its commas at depth 0, the list beginning at depth `k`. -/
def pieces (k : Int) : List Token → List (List Token)
  | [] => [[]]
  | t :: rest =>
    if t.isSign .comma && k = 0 then [] :: pieces 0 rest
    else match pieces (k + t.step) rest with
      | [] => [[t]]
      | p :: ps => (t :: p) :: ps

/-- The runs with one more in front of the first. -/
def inFront (u : List Token) : List (List Token) → List (List Token)
  | [] => [u]
  | p :: ps => (u ++ p) :: ps

/-- The runs without a last one that is empty. -/
def kept : List (List Token) → List (List Token)
  | [] => []
  | [p] => if p.isEmpty then [] else [p]
  | p :: q :: ps => p :: kept (q :: ps)

theorem pieces_comma {t : Token} (h : t.isSign .comma = true) (rest : List Token) :
    pieces 0 (t :: rest) = [] :: pieces 0 rest := by
  simp [pieces, h]

theorem pieces_cons {k : Int} {t : Token} (h : (t.isSign .comma && k = 0) = false)
    (rest : List Token) : pieces k (t :: rest) = inFront [t] (pieces (k + t.step) rest) := by
  rw [pieces, if_neg (by simp [h])]
  cases pieces (k + t.step) rest <;> rfl

theorem pieces_ne_nil (k : Int) (ts : List Token) : pieces k ts ≠ [] := by
  cases ts with
  | nil => simp [pieces]
  | cons t rest =>
    by_cases h : (t.isSign .comma && decide (k = 0)) = true
    · rw [pieces, if_pos h]
      simp
    · rw [pieces_cons (by simpa using h)]
      cases pieces (k + t.step) rest <;> simp [inFront]

@[simp] theorem inFront_nil {ps : List (List Token)} (h : ps ≠ []) : inFront [] ps = ps := by
  cases ps with
  | nil => exact absurd rfl h
  | cons p ps => rfl

theorem inFront_append (u v : List Token) (ps : List (List Token)) :
    inFront u (inFront v ps) = inFront (u ++ v) ps := by
  cases ps <;> simp [inFront]

theorem inFront_append_right {u : List Token} {ps qs : List (List Token)} (h : ps ≠ []) :
    inFront u (ps ++ qs) = inFront u ps ++ qs := by
  cases ps with
  | nil => exact absurd rfl h
  | cons p ps => rfl

/-- A comma outside parentheses ends the last piece of what stands before it. -/
theorem pieces_append_comma {c : Token} (hc : c.isSign .comma = true) (v : List Token) :
    ∀ (u : List Token) (k : Int), k + rise u = 0 →
      pieces k (u ++ c :: v) = pieces k u ++ pieces 0 v := by
  intro u
  induction u with
  | nil =>
    intro k hk
    have hk : k = 0 := by simpa using hk
    subst hk
    exact pieces_comma hc v
  | cons t u ih =>
    intro k hk
    rw [rise_cons, ← Int.add_assoc] at hk
    -- a comma at depth 0 begins a piece, any other token goes in front of the first one
    by_cases h : (t.isSign .comma && decide (k = 0)) = true
    · simp only [Bool.and_eq_true, decide_eq_true_eq] at h
      obtain ⟨ht, rfl⟩ := h
      have hstep : t.step = 0 := Token.step_of_isSign ht (by decide) (by decide)
      rw [hstep] at hk
      rw [List.cons_append, pieces_comma ht, pieces_comma ht, ih 0 hk]
      rfl
    · have h : (t.isSign .comma && decide (k = 0)) = false := by simpa using h
      rw [List.cons_append, pieces_cons h, pieces_cons h, ih _ hk,
        inFront_append_right (pieces_ne_nil _ _)]

/-- A run is one piece, itself, exactly where it has no comma outside parentheses. -/
theorem pieces_eq_singleton_iff {u : List Token} :
    ∀ {p : List Token} {k : Int},
      pieces k u = [p] ↔ p = u ∧ ¬Outside (Token.isSign .comma) k u := by
  induction u with
  | nil =>
    intro p k
    simp [pieces, not_outside_nil, eq_comm]
  | cons t u ih =>
    intro p k
    by_cases hc : (t.isSign .comma && decide (k = 0)) = true
    · have hout : Outside (Token.isSign .comma) k (t :: u) :=
        outside_cons.mpr (.inl (by simpa [and_comm] using hc))
      refine iff_of_false (fun h => ?_) fun h => h.2 hout
      -- the comma would leave a second piece
      rw [pieces, if_pos hc] at h
      injection h with _ h
      exact absurd h (pieces_ne_nil 0 u)
    · have hc : (t.isSign .comma && decide (k = 0)) = false := by simpa using hc
      have hfirst : ¬(k = 0 ∧ t.isSign .comma = true) := by
        rintro ⟨rfl, ht⟩
        simp [ht] at hc
      rw [outside_cons, or_iff_right hfirst, pieces_cons hc]
      -- the token goes in front of the first piece
      cases hps : pieces (k + t.step) u with
      | nil => exact absurd hps (pieces_ne_nil _ _)
      | cons q qs =>
        constructor
        · intro h
          simp only [inFront, List.singleton_append, List.cons.injEq] at h
          obtain ⟨rfl, rfl⟩ := h
          obtain ⟨rfl, hout⟩ := ih.mp hps
          exact ⟨rfl, hout⟩
        · rintro ⟨rfl, hout⟩
          obtain ⟨rfl, rfl⟩ := List.cons.inj (hps.symm.trans (ih.mpr ⟨rfl, hout⟩))
          rfl

/-- The last piece of a run that does not end with a comma is not empty. -/
theorem pieces_concat {t : Token} (ht : t.isSign .comma = false) :
    ∀ (u : List Token) (k : Int), ∃ ps q, pieces k (u ++ [t]) = ps ++ [q ++ [t]] := by
  intro u
  induction u with
  | nil =>
    intro k
    exact ⟨[], [], by simp [pieces, ht]⟩
  | cons s u ih =>
    intro k
    by_cases h : (s.isSign .comma && decide (k = 0)) = true
    · obtain ⟨ps, q, hps⟩ := ih 0
      refine ⟨[] :: ps, q, ?_⟩
      rw [List.cons_append, pieces, if_pos h, hps]
      rfl
    · obtain ⟨ps, q, hps⟩ := ih (k + s.step)
      rw [List.cons_append, pieces_cons (by simpa using h), hps]
      cases ps with
      | nil => exact ⟨[], s :: q, rfl⟩
      | cons p ps => exact ⟨(s :: p) :: ps, q, rfl⟩

/-! ## Runs that count -/

theorem kept_cons {p : List Token} {ps : List (List Token)} (h : ps ≠ []) :
    kept (p :: ps) = p :: kept ps := by
  cases ps with
  | nil => exact absurd rfl h
  | cons q qs => rfl

theorem kept_append {ps qs : List (List Token)} (h : qs ≠ []) :
    kept (ps ++ qs) = ps ++ kept qs := by
  induction ps with
  | nil => rfl
  | cons p ps ih => rw [List.cons_append, kept_cons (by simp [h]), ih, List.cons_append]

/-- Every run counts where the last one is not empty. -/
theorem kept_concat {ps : List (List Token)} {p : List Token} (h : p ≠ []) :
    kept (ps ++ [p]) = ps ++ [p] := by
  rw [kept_append (by simp)]
  simp [kept, h]

theorem lastEntry_reverse (reversed : List Token) :
    lastEntry reversed = (kept [reversed.reverse]).map Declaration.mk := by
  cases reversed <;> simp [lastEntry, kept]

/-! ## One token -/

section

variable {t : Token} {k : Int}

/-- Outside parentheses tokens are passed over. -/
theorem entriesFrom_outside (reversed rest : List Token) (hk : k ≤ 0) (hnext : k + t.step ≤ 0) :
    entriesFrom k reversed (t :: rest) = entriesFrom (k + t.step) reversed rest := by
  rw [entriesFrom]
  by_cases hl : t.isSign .lParen = true
  · -- at depth 0 it would open the list, and the next depth would be 1
    rw [Token.step_lParen hl] at hnext ⊢
    rw [if_pos hl, if_neg (by omega), if_neg (by omega)]
  · rw [if_neg hl]
    by_cases hr : t.isSign .rParen = true
    · rw [Token.step_rParen hr, if_pos hr, if_neg (by omega), if_neg (by omega)]
      rfl
    · rw [Token.step_other (by simpa using hl) (by simpa using hr), if_neg hr,
        if_neg (by simp; omega), if_neg (by omega), Int.add_zero]

/-- The parenthesis that opens the list is no part of an entry. -/
theorem entriesFrom_opening (reversed rest : List Token) (h : t.isSign .lParen = true) :
    entriesFrom 0 reversed (t :: rest) = entriesFrom 1 reversed rest := by
  rw [entriesFrom, if_pos h, if_pos rfl]

/-- Inside the list a token goes to the current entry. -/
theorem entriesFrom_inside (reversed rest : List Token) (hk : 1 ≤ k) (hnext : 1 ≤ k + t.step)
    (hcomma : (t.isSign .comma && k = 1) = false) :
    entriesFrom k reversed (t :: rest) = entriesFrom (k + t.step) (t :: reversed) rest := by
  rw [entriesFrom]
  by_cases hl : t.isSign .lParen = true
  · rw [Token.step_lParen hl, if_pos hl, if_neg (by omega), if_pos (by omega)]
  · rw [if_neg hl]
    by_cases hr : t.isSign .rParen = true
    · rw [Token.step_rParen hr] at hnext ⊢
      rw [if_pos hr, if_neg (by omega), if_pos (by omega)]
      rfl
    · rw [Token.step_other (by simpa using hl) (by simpa using hr), if_neg hr,
        if_neg (ne_true_of_eq_false hcomma), if_pos hk, Int.add_zero]

/-- A comma of the list ends the current entry. -/
theorem entriesFrom_comma (reversed rest : List Token) (h : t.isSign .comma = true) :
    entriesFrom 1 reversed (t :: rest) = ⟨reversed.reverse⟩ :: entriesFrom 1 [] rest := by
  have hl : t.isSign .lParen = false := Token.isSign_eq_false h (by decide)
  have hr : t.isSign .rParen = false := Token.isSign_eq_false h (by decide)
  rw [entriesFrom, if_neg (ne_true_of_eq_false hl), if_neg (ne_true_of_eq_false hr),
    if_pos (by simp [h])]

/-- The parenthesis that closes the list ends the last entry. -/
theorem entriesFrom_closing (reversed rest : List Token) (h : t.isSign .rParen = true) :
    entriesFrom 1 reversed (t :: rest) = lastEntry reversed := by
  have hl : t.isSign .lParen = false := Token.isSign_eq_false h (by decide)
  rw [entriesFrom, if_neg (ne_true_of_eq_false hl), if_pos h, if_pos rfl]

end

/-! ## Before the list -/

/-- Nothing is taken up before a parenthesis opens at depth 0. -/
theorem entriesFrom_closed (rest : List Token) :
    ∀ (u : List Token) (k : Int), Along (· ≤ 0) k u →
      entriesFrom k [] (u ++ rest) = entriesFrom (k + rise u) [] rest := by
  intro u
  induction u with
  | nil =>
    intro k _
    simp
  | cons t u ih =>
    intro k h
    obtain ⟨hk, hu⟩ := along_cons.mp h
    rw [List.cons_append, entriesFrom_outside _ _ hk hu.first, ih _ hu, rise_cons, Int.add_assoc]

/-! ## The list -/

/-- From inside the list on, its content is cut into pieces up to the parenthesis that closes it;
the first piece goes on from the current entry. -/
theorem entriesFrom_content {c : Token} (hc : c.isSign .rParen = true) (after : List Token) :
    ∀ (u : List Token) (k : Int) (reversed : List Token), Along (0 ≤ ·) k u → k + rise u = 0 →
      entriesFrom (1 + k) reversed (u ++ c :: after) =
        (kept (inFront reversed.reverse (pieces k u))).map Declaration.mk := by
  intro u
  induction u with
  | nil =>
    intro k reversed _ hk
    have hk : k = 0 := by simpa using hk
    subst hk
    rw [List.nil_append, Int.add_zero, entriesFrom_closing _ _ hc, lastEntry_reverse]
    simp [pieces, inFront]
  | cons t u ih =>
    intro k reversed h hk
    obtain ⟨hk0, hu⟩ := along_cons.mp h
    have hnext := hu.first
    rw [rise_cons, ← Int.add_assoc] at hk
    rw [List.cons_append]
    -- the content is one level deeper in the statement than in itself
    by_cases hcomma : (t.isSign .comma && decide (k = 0)) = true
    · obtain ⟨ht, hk'⟩ : t.isSign .comma = true ∧ k = 0 := by simpa using hcomma
      subst hk'
      rw [Token.step_of_isSign ht (by decide) (by decide)] at hu hk
      have hih := ih 0 [] hu hk
      rw [Int.add_zero, List.reverse_nil, inFront_nil (pieces_ne_nil _ _)] at hih
      rw [Int.add_zero, entriesFrom_comma _ _ ht, hih, pieces_comma ht, inFront,
        kept_cons (pieces_ne_nil _ _), List.map_cons, List.append_nil]
    · have hcomma : (t.isSign .comma && decide (k = 0)) = false := by simpa using hcomma
      have hone : (t.isSign .comma && decide (1 + k = 1)) = false := by
        rw [← hcomma]
        congr 1
        exact decide_eq_decide.mpr (by omega)
      rw [entriesFrom_inside _ _ (by omega) (by omega) hone, Int.add_assoc, ih _ _ hu hk,
        pieces_cons hcomma, inFront_append, List.reverse_cons]

/-- The entries of a statement whose first parenthesis outside others opens the list. -/
theorem ofTokens_list {before content after : List Token} {o c : Token}
    (hbefore : Along (· ≤ 0) 0 before) (hlevel : rise before = 0)
    (ho : o.isSign .lParen = true) (hcontent : WellNested content)
    (hc : c.isSign .rParen = true) :
    ofTokens (before ++ o :: (content ++ c :: after)) =
      (kept (pieces 0 content)).map Declaration.mk := by
  unfold ofTokens
  rw [entriesFrom_closed _ _ _ hbefore, hlevel, Int.add_zero, entriesFrom_opening _ _ ho]
  have := entriesFrom_content hc after content 0 [] hcontent.floor
    (by rw [hcontent.level]; rfl)
  rw [show (1 : Int) = 1 + 0 from rfl, this, List.reverse_nil, inFront_nil (pieces_ne_nil _ _)]

end TableDoc.Declaration
