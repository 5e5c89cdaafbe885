import TableDoc.Declaration

/-!
# Depth of parentheses

How deep in parentheses a place of a token run lies. `rise` counts the parentheses that a run opens
and does not close; `Along` says what holds of the depth at every place of a run, the two ends
included.

* **composition**: depth and what holds along a run split at every cut (`rise_append`,
  `along_append`);
* **well nested runs**: a run that never closes what it has not opened and closes all it opens
  (`WellNested`); such runs may follow each other (`WellNested.append`);
* **outside parentheses**: what tokens stand outside the parentheses of a run (`Outside`).

All of it can be decided token by token.
-/

namespace TableDoc.Sql

/-- How a token changes the depth. -/
def Token.step (t : Token) : Int :=
  if t.isSign .lParen then 1 else if t.isSign .rParen then -1 else 0

/-- How much deeper a run ends than it begins. -/
def rise : List Token → Int
  | [] => 0
  | t :: ts => t.step + rise ts

/-- What holds of the depth at every place of a run that begins at depth `k`. -/
def Along (P : Int → Prop) (k : Int) (ts : List Token) : Prop :=
  ∀ p, p <+: ts → P (k + rise p)

/-- A run that never closes a parenthesis it has not opened and closes all that it opens. -/
structure WellNested (ts : List Token) : Prop where
  floor : Along (0 ≤ ·) 0 ts
  level : rise ts = 0

/-- In a run that begins at depth `k`, a token that is as `p` says stands outside parentheses. -/
def Outside (p : Token → Bool) (k : Int) (run : List Token) : Prop :=
  ∃ pre t post, run = pre ++ t :: post ∧ k + rise pre = 0 ∧ p t = true

/-! ## Steps -/

/-- A token is one sign at most. -/
theorem Token.isSign_unique {t : Token} {a b : Sign} (ha : t.isSign a = true)
    (hb : t.isSign b = true) : a = b := by
  simp only [Token.isSign, beq_iff_eq] at ha hb
  rw [ha] at hb
  injection hb

theorem Token.isSign_eq_false {t : Token} {a b : Sign} (h : t.isSign a = true) (hab : a ≠ b) :
    t.isSign b = false := by
  cases hb : t.isSign b with
  | false => rfl
  | true => exact absurd (Token.isSign_unique h hb) hab

@[simp] theorem Token.step_lParen {t : Token} (h : t.isSign .lParen = true) : t.step = 1 := by
  simp [Token.step, h]

@[simp] theorem Token.step_rParen {t : Token} (h : t.isSign .rParen = true) : t.step = -1 := by
  have hl : t.isSign .lParen = false := Token.isSign_eq_false h (by decide)
  simp [Token.step, hl, h]

theorem Token.step_other {t : Token} (hl : t.isSign .lParen = false)
    (hr : t.isSign .rParen = false) : t.step = 0 := by
  simp [Token.step, hl, hr]

/-- Only parentheses change the depth. -/
theorem Token.step_cases (t : Token) :
    t.isSign .lParen = true ∧ t.step = 1 ∨ t.isSign .rParen = true ∧ t.step = -1 ∨ t.step = 0 := by
  by_cases hl : t.isSign .lParen = true
  · exact .inl ⟨hl, Token.step_lParen hl⟩
  · by_cases hr : t.isSign .rParen = true
    · exact .inr (.inl ⟨hr, Token.step_rParen hr⟩)
    · exact .inr (.inr (Token.step_other (by simpa using hl) (by simpa using hr)))

/-- A sign that is no parenthesis keeps the depth. -/
theorem Token.step_of_isSign {t : Token} {s : Sign} (h : t.isSign s = true)
    (hl : s ≠ .lParen) (hr : s ≠ .rParen) : t.step = 0 := by
  unfold Token.step
  rw [if_neg fun h' => hl (Token.isSign_unique h h'),
    if_neg fun h' => hr (Token.isSign_unique h h')]

/-! ## Composition -/

@[simp] theorem rise_nil : rise [] = 0 := rfl

@[simp] theorem rise_cons (t : Token) (ts : List Token) : rise (t :: ts) = t.step + rise ts := rfl

@[simp] theorem rise_append (u v : List Token) : rise (u ++ v) = rise u + rise v := by
  induction u with
  | nil => simp
  | cons t u ih => rw [List.cons_append, rise_cons, rise_cons, ih, Int.add_assoc]

@[simp] theorem along_nil {P : Int → Prop} {k : Int} : Along P k [] ↔ P k := by
  refine ⟨fun h => by simpa using h [] (List.prefix_refl []), ?_⟩
  intro h p hp
  rw [List.prefix_nil.mp hp]
  simpa using h

theorem along_cons {P : Int → Prop} {k : Int} {t : Token} {ts : List Token} :
    Along P k (t :: ts) ↔ P k ∧ Along P (k + t.step) ts := by
  constructor
  · intro h
    refine ⟨by simpa using h [] List.nil_prefix, fun p hp => ?_⟩
    have := h (t :: p) ((List.prefix_cons_inj t).mpr hp)
    rwa [rise_cons, ← Int.add_assoc] at this
  · rintro ⟨hk, hts⟩ p hp
    -- a place of the longer run is its beginning or lies in the shorter one
    rcases List.prefix_cons_iff.mp hp with rfl | ⟨q, rfl, hq⟩
    · simpa using hk
    · rw [rise_cons, ← Int.add_assoc]
      exact hts q hq

theorem along_append {P : Int → Prop} {k : Int} {u v : List Token} :
    Along P k (u ++ v) ↔ Along P k u ∧ Along P (k + rise u) v := by
  induction u generalizing k with
  | nil =>
    refine ⟨fun h => ⟨along_nil.mpr ?_, by simpa using h⟩, fun h => by simpa using h.2⟩
    simpa using h [] List.nil_prefix
  | cons t u ih =>
    rw [List.cons_append, along_cons, ih, along_cons, rise_cons, Int.add_assoc, and_assoc]

/-- What holds along a run holds at its end. -/
theorem Along.last {P : Int → Prop} {k : Int} {ts : List Token} (h : Along P k ts) :
    P (k + rise ts) := h ts (List.prefix_refl ts)

/-- What holds along a run holds at its beginning. -/
theorem Along.first {P : Int → Prop} {k : Int} {ts : List Token} (h : Along P k ts) : P k := by
  simpa using h [] List.nil_prefix

/-! ## Well nested runs -/

theorem wellNested_nil : WellNested [] := ⟨along_nil.mpr (Int.le_refl 0), rfl⟩

/-- A token that is no parenthesis is well nested. -/
theorem wellNested_singleton {t : Token} (h : t.step = 0) : WellNested [t] :=
  ⟨along_cons.mpr ⟨Int.le_refl 0, along_nil.mpr (by simp [h])⟩, by simp [h]⟩

/-- Runs that follow each other are well nested together. -/
theorem WellNested.append {u v : List Token} (hu : WellNested u) (hv : WellNested v) :
    WellNested (u ++ v) := by
  refine ⟨along_append.mpr ⟨hu.floor, ?_⟩, by rw [rise_append, hu.level, hv.level]; rfl⟩
  rw [hu.level]
  exact hv.floor

/-- A run without parentheses is well nested. -/
theorem wellNested_of_flat {ts : List Token} (h : ∀ t ∈ ts, t.step = 0) : WellNested ts := by
  induction ts with
  | nil => exact wellNested_nil
  | cons t ts ih =>
    have ht := wellNested_singleton (h t List.mem_cons_self)
    exact ht.append (ih fun u hu => h u (List.mem_cons_of_mem t hu))

instance decidableAlong {P : Int → Prop} [DecidablePred P] :
    (k : Int) → (ts : List Token) → Decidable (Along P k ts)
  | _, [] => decidable_of_iff _ along_nil.symm
  | k, t :: ts =>
    have := decidableAlong (P := P) (k + t.step) ts
    decidable_of_iff _ along_cons.symm

instance (ts : List Token) : Decidable (WellNested ts) :=
  decidable_of_iff (Along (0 ≤ ·) 0 ts ∧ rise ts = 0)
    ⟨fun h => ⟨h.1, h.2⟩, fun h => ⟨h.floor, h.level⟩⟩

/-! ## Outside parentheses -/

section

variable {p q : Token → Bool} {k : Int} {run : List Token}

theorem not_outside_nil : ¬Outside p k [] := by
  rintro ⟨pre, t, post, hsplit, -⟩
  simp at hsplit

theorem outside_cons {t : Token} :
    Outside p k (t :: run) ↔ (k = 0 ∧ p t = true) ∨ Outside p (k + t.step) run := by
  constructor
  · rintro ⟨pre, u, post, hsplit, hrise, hu⟩
    cases pre with
    | nil =>
      obtain ⟨rfl, -⟩ := List.cons.inj hsplit
      exact .inl ⟨by simpa using hrise, hu⟩
    | cons v pre =>
      obtain ⟨rfl, rfl⟩ := List.cons.inj hsplit
      rw [rise_cons, ← Int.add_assoc] at hrise
      exact .inr ⟨pre, u, post, rfl, hrise, hu⟩
  · rintro (⟨hk, ht⟩ | ⟨pre, u, post, rfl, hrise, hu⟩)
    · exact ⟨[], t, run, rfl, by simpa using hk, ht⟩
    · refine ⟨t :: pre, u, post, rfl, ?_, hu⟩
      rw [rise_cons, ← Int.add_assoc]
      exact hrise

theorem outside_append {u v : List Token} :
    Outside p k (u ++ v) ↔ Outside p k u ∨ Outside p (k + rise u) v := by
  induction u generalizing k with
  | nil => simp [not_outside_nil]
  | cons t u ih =>
    rw [List.cons_append, outside_cons, ih, outside_cons, rise_cons, ← Int.add_assoc, or_assoc]

instance decidableOutside (p : Token → Bool) :
    (k : Int) → (run : List Token) → Decidable (Outside p k run)
  | _, [] => isFalse not_outside_nil
  | k, t :: run =>
    have := decidableOutside p (k + t.step) run
    decidable_of_iff _ outside_cons.symm

/-- Nowhere outside parentheses stands such a token. -/
theorem not_outside_iff : ¬Outside p k run ↔
    ∀ pre t post, run = pre ++ t :: post → k + rise pre = 0 → p t = false := by
  constructor
  · intro hnone pre t post hsplit hrise
    exact Bool.eq_false_iff.mpr fun ht => hnone ⟨pre, t, post, hsplit, hrise, ht⟩
  · rintro hnone ⟨pre, t, post, hsplit, hrise, ht⟩
    rw [hnone pre t post hsplit hrise] at ht
    cases ht

theorem Outside.mono (hpq : ∀ t, p t = true → q t = true) (h : Outside p k run) :
    Outside q k run := by
  obtain ⟨pre, t, post, hsplit, hrise, ht⟩ := h
  exact ⟨pre, t, post, hsplit, hrise, hpq t ht⟩

theorem outside_or :
    Outside (fun t => p t || q t) k run ↔ Outside p k run ∨ Outside q k run := by
  constructor
  · rintro ⟨pre, t, post, hsplit, hrise, ht⟩
    rcases Bool.or_eq_true_iff.mp ht with ht | ht
    · exact .inl ⟨pre, t, post, hsplit, hrise, ht⟩
    · exact .inr ⟨pre, t, post, hsplit, hrise, ht⟩
  · rintro (h | h)
    · exact h.mono fun t ht => by simp [ht]
    · exact h.mono fun t ht => by simp [ht]

/-- Before its last token a run has no such token exactly where it has none at all or the first one
is the last token. -/
theorem not_outside_dropLast_iff :
    ¬Outside p k run.dropLast ↔ ¬Outside p k run ∨
      ∃ pre t, run = pre ++ [t] ∧ k + rise pre = 0 ∧ p t = true ∧ ¬Outside p k pre := by
  constructor
  · intro hnone
    by_cases h : Outside p k run
    · obtain ⟨pre, t, post, rfl, hrise, ht⟩ := h
      -- a token behind it would leave it before the last one
      rcases List.eq_nil_or_concat post with rfl | ⟨front, last, rfl⟩
      · rw [List.dropLast_concat] at hnone
        exact .inr ⟨pre, t, rfl, hrise, ht, hnone⟩
      · refine absurd ⟨pre, t, front, ?_, hrise, ht⟩ hnone
        rw [List.concat_eq_append, ← List.cons_append, ← List.append_assoc, List.dropLast_concat]
    · exact .inl h
  · rintro (hnone | ⟨pre, t, rfl, -, -, hnone⟩)
    · rintro ⟨pre, t, post, hsplit, hrise, ht⟩
      have hne : run ≠ [] := by
        intro hnil
        simp [hnil] at hsplit
      refine hnone ⟨pre, t, post ++ [run.getLast hne], ?_, hrise, ht⟩
      rw [← List.cons_append, ← List.append_assoc, ← hsplit, List.dropLast_concat_getLast]
    · rwa [List.dropLast_concat]

end

end TableDoc.Sql
