import TableDoc.Proofs.ReaderValues

/-!
# What readers take

A reader that came out tells which steps it was made of, and which tokens stood where it began.

* **sequences** — a sequence came out as its steps did (`bind_eq_ok_iff`, `pure_eq_ok_iff`);
* **tokens** — a token is taken where one of its kind comes next (`take?_eq_ok`), so what was
  taken for a word is a token of these capitals (`oneOf?_eq_some`);
* **choices** — a value that was found was read from the place where the search began
  (`orBack_eq_some`, `many_eq_cons`).
-/

namespace TableDoc.Sql.Reader

variable {α β : Type} {c c' : Cursor}

/-! ## Sequences -/

theorem bind_eq_ok_iff {x : Reader β} {f : β → Reader α} {a : α} :
    (x >>= f) c = .ok (a, c') ↔
      ∃ b between, x c = .ok (b, between) ∧ f b between = .ok (a, c') := by
  change (x c >>= fun p => f p.1 p.2) = _ ↔ _
  cases x c with
  | error e => simp [bind, Except.bind]
  | ok p =>
    constructor
    · exact fun h => ⟨p.1, p.2, rfl, h⟩
    · rintro ⟨b, between, hx, hf⟩
      cases hx
      exact hf

theorem pure_eq_ok_iff {a v : α} : (pure a : Reader α) c = .ok (v, c') ↔ a = v ∧ c = c' := by
  constructor
  · intro h
    cases h
    exact ⟨rfl, rfl⟩
  · rintro ⟨rfl, rfl⟩
    rfl

theorem fail_ne_ok {f : SyntaxFault} {a : α} : (fail f : Reader α) c ≠ .ok (a, c') := by
  intro h
  cases h

/-! ## Tokens -/

/-- A token is taken where one of its kind comes next. -/
theorem take?_eq_ok {p : Token → Bool} {o : Option Token} (h : take? p c = .ok (o, c')) :
    (∃ t rest, c.rest = t :: rest ∧ p t = true ∧ o = some t ∧ c' = ⟨some t, rest⟩) ∨
      c.rest.head?.any p = false ∧ o = none ∧ c' = c := by
  obtain ⟨prev, rest⟩ := c
  cases rest with
  | nil =>
    cases h
    exact .inr ⟨rfl, rfl, rfl⟩
  | cons t rest =>
    change (if p t = true then _ else _ : Reader (Option Token)) _ = _ at h
    by_cases ht : p t = true
    · rw [if_pos ht] at h
      cases h
      exact .inl ⟨t, rest, rfl, ht, rfl, rfl⟩
    · rw [if_neg ht] at h
      cases h
      exact .inr ⟨by simpa using ht, rfl, rfl⟩

/-- What was accepted is gone, and what was not is still there. -/
theorem accept_eq_ok {p : Token → Bool} {b : Bool} (h : accept p c = .ok (b, c')) :
    b = true ∧ (∃ t rest, c.rest = t :: rest ∧ p t = true ∧ c' = ⟨some t, rest⟩) ∨
      b = false ∧ c.rest.head?.any p = false ∧ c' = c := by
  obtain ⟨o, between, htake, hpure⟩ := bind_eq_ok_iff.mp h
  obtain ⟨rfl, rfl⟩ := pure_eq_ok_iff.mp hpure
  rcases take?_eq_ok htake with ⟨t, rest, hrest, ht, rfl, hc⟩ | ⟨hnot, rfl, hc⟩
  · exact .inl ⟨rfl, t, rest, hrest, ht, hc⟩
  · exact .inr ⟨rfl, hnot, hc⟩

theorem accept_of_not {p : Token → Bool} (h : c.rest.head?.any p = false) :
    accept p c = .ok (false, c) := by
  obtain ⟨prev, rest⟩ := c
  cases rest with
  | nil => rfl
  | cons t rest =>
    have hnot : p t = false := h
    have htake : take? p ⟨prev, t :: rest⟩ = .ok (none, ⟨prev, t :: rest⟩) := by
      show (if p t = true then _ else _ : Reader (Option Token)) _ = _
      rw [if_neg (by simp [hnot])]
      rfl
    exact bind_eq_ok_iff.mpr ⟨none, _, htake, rfl⟩

/-- Looking takes nothing. -/
theorem sees_eq_ok_iff {p : Token → Bool} {b : Bool} :
    sees p c = .ok (b, c') ↔ c.rest.head?.any p = b ∧ c = c' := pure_eq_ok_iff

/-- A word that was taken is a token of these capitals. -/
theorem oneOf?_eq_some {ws : List String} {w : String} (h : oneOf? ws c = .ok (some w, c')) :
    ∃ t rest, c.rest = t :: rest ∧ c' = ⟨some t, rest⟩ ∧ t.kind ≠ .text ∧ t.capitals = w ∧
      w ∈ ws := by
  obtain ⟨o, between, htake, hpure⟩ := bind_eq_ok_iff.mp h
  obtain ⟨ho, rfl⟩ := pure_eq_ok_iff.mp hpure
  rcases take?_eq_ok htake with ⟨t, rest, hrest, ht, rfl, rfl⟩ | ⟨-, rfl, -⟩
  · obtain ⟨hkind, hword⟩ := Bool.and_eq_true_iff.mp ht
    cases Option.some.inj ho
    exact ⟨t, rest, hrest, rfl, by simpa using hkind, rfl, by simpa using hword⟩
  · cases ho

/-! ## Choices -/

theorem orBack_eq_some {r : Reader (Option α)} {a : α} (h : orBack r c = .ok (some a, c')) :
    r c = .ok (some a, c') := by
  obtain ⟨start, between, hget, h⟩ := bind_eq_ok_iff.mp h
  cases hget
  obtain ⟨o, between, hr, h⟩ := bind_eq_ok_iff.mp h
  cases o with
  | none =>
    obtain ⟨u, later, -, h⟩ := bind_eq_ok_iff.mp h
    cases (pure_eq_ok_iff.mp h).1
  | some b =>
    obtain ⟨hb, rfl⟩ := pure_eq_ok_iff.mp h
    rw [hr, hb]

theorem required_eq_ok {what : String} {r : Reader (Option α)} {a : α}
    (h : required what r c = .ok (a, c')) : r c = .ok (some a, c') := by
  obtain ⟨o, between, hr, h⟩ := bind_eq_ok_iff.mp h
  cases o with
  | none => exact absurd h fail_ne_ok
  | some b =>
    obtain ⟨rfl, rfl⟩ := pure_eq_ok_iff.mp h
    exact hr

/-- The first of some items was read where they begin. -/
theorem many_eq_cons {item : Reader (Option α)} {a : α} {as : List α}
    (h : many item c = .ok (a :: as, c')) : ∃ between, item c = .ok (some a, between) := by
  obtain ⟨start, between, hget, h⟩ := bind_eq_ok_iff.mp h
  cases hget
  obtain ⟨o, between, hitem, h⟩ := bind_eq_ok_iff.mp h
  cases o with
  | none => cases (pure_eq_ok_iff.mp h).1
  | some b =>
    obtain ⟨bs, later, -, h⟩ := bind_eq_ok_iff.mp h
    cases (pure_eq_ok_iff.mp h).1
    exact ⟨between, hitem⟩

end TableDoc.Sql.Reader
