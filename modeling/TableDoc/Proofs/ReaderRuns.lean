import TableDoc.Sql.Reader

/-!
# What readers do where they stand

A reader is run at a cursor, step by step. The equations here are for the steps that all readers are
made of, so that with what is known of the next token a reader comes down to its value and the place
that it stops at.

* **steps** — one after another, or one of two (`bind_apply`, `ite_apply`);
* **tokens** — the next token is taken or left (`take?_cons`, `accept_cons`, `sees_cons`), and words
  are left where the first of them does not stand (`words_of_not`);
* **repetition** — where nothing more follows, what has been read stays (`extend_of_none`,
  `many_of_none`, `commaList_of_one`), and a reader that found nothing has taken nothing
  (`orBack_of_none`).
-/

namespace TableDoc.Sql.Reader

variable {α β : Type} {c c' : Cursor} {prev : Option Token} {t u : Token} {rest : List Token}

/-! ## Steps -/

@[simp] theorem ok_bind {ε γ δ : Type} (a : γ) (f : γ → Except ε δ) :
    (Except.ok a).bind f = f a := rfl

@[simp] theorem error_bind {ε γ δ : Type} (e : ε) (f : γ → Except ε δ) :
    (Except.error e).bind f = .error e := rfl

@[simp] theorem ok_map {ε γ δ : Type} (a : γ) (f : γ → δ) :
    (Except.ok a : Except ε γ).map f = .ok (f a) := rfl

@[simp] theorem error_map {ε γ δ : Type} (e : ε) (f : γ → δ) :
    (Except.error e).map f = .error e := rfl

theorem exists_of_bind {ε γ δ : Type} {x : Except ε γ} {f : γ → Except ε δ} {b : δ}
    (h : x.bind f = .ok b) : ∃ a, x = .ok a ∧ f a = .ok b := by
  cases x with
  | error e => cases h
  | ok a => exact ⟨a, rfl, h⟩

@[simp] theorem bind_apply (x : Reader β) (f : β → Reader α) (c : Cursor) :
    (x >>= f) c = (x c).bind fun p => f p.1 p.2 := rfl

@[simp] theorem map_apply (f : β → α) (x : Reader β) (c : Cursor) :
    (f <$> x) c = (x c).map fun p => (f p.1, p.2) := by
  show (x c >>= fun p => pure (f p.1, p.2)) = _
  cases x c <;> rfl

@[simp] theorem pure_apply (a : α) (c : Cursor) : (pure a : Reader α) c = .ok (a, c) := rfl

@[simp] theorem get_apply (c : Cursor) : (get : Reader Cursor) c = .ok (c, c) := rfl

@[simp] theorem set_apply (c c' : Cursor) : (set c' : Reader PUnit) c = .ok (⟨⟩, c') := rfl

@[simp] theorem backTo_apply (c c' : Cursor) : backTo c' c = .ok ((), c') := rfl

@[simp] theorem fail_apply (f : SyntaxFault) (c : Cursor) : (fail f : Reader α) c = .error f := rfl

@[simp] theorem ite_apply {p : Prop} [Decidable p] (x y : Reader α) (c : Cursor) :
    (if p then x else y) c = if p then x c else y c := by
  split <;> rfl

/-! ## Tokens -/

@[simp] theorem take?_cons (p : Token → Bool) :
    take? p ⟨prev, t :: rest⟩ =
      if p t then .ok (some t, ⟨some t, rest⟩) else .ok (none, ⟨prev, t :: rest⟩) := by
  unfold take?
  simp

@[simp] theorem accept_cons (p : Token → Bool) :
    accept p ⟨prev, t :: rest⟩ =
      if p t then .ok (true, ⟨some t, rest⟩) else .ok (false, ⟨prev, t :: rest⟩) := by
  unfold accept
  by_cases ht : p t = true <;> simp [ht]

@[simp] theorem skip_cons : skip ⟨prev, t :: rest⟩ = .ok ((), ⟨some t, rest⟩) := by
  unfold skip
  simp

@[simp] theorem sees_cons (p : Token → Bool) :
    sees p ⟨prev, t :: rest⟩ = .ok (p t, ⟨prev, t :: rest⟩) := rfl

@[simp] theorem peek_cons : peek ⟨prev, t :: rest⟩ = .ok (some t, ⟨prev, t :: rest⟩) := rfl

@[simp] theorem peekSecond_cons :
    peekSecond ⟨prev, t :: rest⟩ = .ok (rest.head?, ⟨prev, t :: rest⟩) := by
  cases rest <;> rfl

theorem sequence_of_not {p : Token → Bool} (ps : List (Token → Bool)) (h : p t = false) :
    sequence (p :: ps) ⟨prev, t :: rest⟩ = .ok (false, ⟨prev, t :: rest⟩) := by
  rw [sequence]
  simp [h]

/-- Of two kinds the first is given back where the second does not follow. -/
theorem sequence_of_second_not {p q : Token → Bool} (ps : List (Token → Bool)) (h : q u = false) :
    sequence (p :: q :: ps) ⟨prev, t :: u :: rest⟩ = .ok (false, ⟨prev, t :: u :: rest⟩) := by
  by_cases ht : p t = true
  · rw [sequence, bind_apply]
    simp [ht, sequence_of_not ps h]
  · exact sequence_of_not (q :: ps) (by simpa using ht)

theorem words_of_not {w : String} (ws : List String) (h : t.isWord w = false) :
    words (w :: ws) ⟨prev, t :: rest⟩ = .ok (false, ⟨prev, t :: rest⟩) :=
  sequence_of_not _ h

theorem words_of_second_not {w : String} (w' : String) (h : u.isWord w = false) :
    words [w', w] ⟨prev, t :: u :: rest⟩ = .ok (false, ⟨prev, t :: u :: rest⟩) :=
  sequence_of_second_not [] h

theorem oneOf?_of_not {ws : List String} (h : t.capitals ∉ ws) :
    oneOf? ws ⟨prev, t :: rest⟩ = .ok (none, ⟨prev, t :: rest⟩) := by
  simp [oneOf?, h]

/-! ## Repetition -/

theorem extend_of_none {more : α → Reader (Option α)} {a : α} (h : more a c = .ok (none, c)) :
    extend more a c = .ok (a, c) := by
  unfold extend extendFrom
  simp [h]

theorem many_of_none {item : Reader (Option α)} (h : item c = .ok (none, c)) :
    many item c = .ok ([], c) := by
  unfold many manyFrom
  simp [h]

/-- A list of one item ends where no comma follows. -/
theorem commaList_of_one {item : Reader (Option α)} {a : α}
    (hitem : item c = .ok (some a, ⟨prev, t :: rest⟩)) (ht : t.isSign .comma = false) :
    commaList item c = .ok ([a], ⟨prev, t :: rest⟩) := by
  have hmore : many (do if ← sign .comma then return some (← item) else return none)
      ⟨prev, t :: rest⟩ = .ok ([], ⟨prev, t :: rest⟩) :=
    many_of_none (by simp [sign, ht])
  unfold commaList
  rw [bind_apply, hitem, ok_bind, bind_apply, hmore]
  rfl

theorem orBack_of_none {r : Reader (Option α)} (h : r c = .ok (none, c')) :
    orBack r c = .ok (none, c) := by
  unfold orBack
  simp [h]

/-- A reader that gives nothing back has taken nothing. -/
theorem orBack_eq_none {r : Reader (Option α)} (h : orBack r c = .ok (none, c')) :
    c' = c ∧ ∃ between, r c = .ok (none, between) := by
  unfold orBack at h
  cases hr : r c with
  | error e => simp [hr] at h
  | ok p =>
    obtain ⟨o, between⟩ := p
    cases o with
    | some a => simp [hr] at h
    | none =>
      simp only [bind_apply, get_apply, ok_bind, hr, backTo_apply, pure_apply] at h
      cases h
      exact ⟨rfl, between, rfl⟩

end TableDoc.Sql.Reader
