import TableDoc.Declaration

/-!
# Places of tokens

Where the tokens of a statement stand in it, and what follows for a text that is cut from it.

* **order**: every token takes at least one character of the statement and ends before the next
  one begins (`Placed`, `placed_run`, `placed_keepAsText`, `placed_tokens`);
* **entries** hold tokens of the statement in their order (`sublist_of_mem_entriesFrom`);
* **texts**: a run of tokens is written with at least one character, and a longer run from the
  same token on is written otherwise (`exists_textOf`, `textOf_append_ne`).
-/

namespace TableDoc

namespace Sql

/-- Tokens in their order at places from `lo` on in a statement of `size` characters. -/
structure Placed (lo size : Nat) (ts : List Token) : Prop where
  above : ∀ t ∈ ts, lo ≤ t.start
  apart : ts.Pairwise fun t u => t.stop ≤ u.start
  proper : ∀ t ∈ ts, t.start < t.stop ∧ t.start < size

theorem placed_nil {lo size : Nat} : Placed lo size [] := ⟨by simp, .nil, by simp⟩

theorem placed_cons {lo size : Nat} {t : Token} {ts : List Token} :
    Placed lo size (t :: ts) ↔
      lo ≤ t.start ∧ t.start < t.stop ∧ t.start < size ∧ Placed t.stop size ts := by
  constructor
  · rintro ⟨habove, hapart, hproper⟩
    obtain ⟨hhead, htail⟩ := List.pairwise_cons.mp hapart
    obtain ⟨hstop, hsize⟩ := hproper t List.mem_cons_self
    exact ⟨habove t List.mem_cons_self, hstop, hsize, hhead, htail,
      fun u hu => hproper u (List.mem_cons_of_mem t hu)⟩
  · rintro ⟨hlo, hstop, hsize, habove, hapart, hproper⟩
    refine ⟨?_, List.pairwise_cons.mpr ⟨habove, hapart⟩, ?_⟩
    · intro u hu
      rcases List.mem_cons.mp hu with rfl | hu
      · exact hlo
      · have := habove u hu
        omega
    · intro u hu
      rcases List.mem_cons.mp hu with rfl | hu
      · exact ⟨hstop, hsize⟩
      · exact hproper u hu

theorem Placed.sublist {lo size : Nat} {us ts : List Token} (h : Placed lo size ts)
    (hus : us.Sublist ts) : Placed lo size us :=
  ⟨fun t ht => h.above t (hus.subset ht), h.apart.sublist hus,
    fun t ht => h.proper t (hus.subset ht)⟩

theorem Placed.mono {lo lo' size : Nat} {ts : List Token} (h : Placed lo size ts)
    (hlo : lo' ≤ lo) : Placed lo' size ts :=
  ⟨fun t ht => Nat.le_trans hlo (h.above t ht), h.apart, h.proper⟩

/-- After a token the others stand from its end on. -/
theorem Placed.after {lo size : Nat} {u v : List Token} {t : Token}
    (h : Placed lo size (u ++ t :: v)) : Placed t.stop size v :=
  (placed_cons.mp (h.sublist (List.sublist_append_right u (t :: v)))).2.2.2

/-- A run begins before it ends. -/
theorem Placed.head_lt_getLast {lo size : Nat} {ts : List Token} (h : Placed lo size ts)
    (hts : ts ≠ []) : (ts.head hts).start < (ts.getLast hts).stop := by
  cases ts with
  | nil => exact absurd rfl hts
  | cons t ts =>
    obtain ⟨-, hstop, -, hafter⟩ := placed_cons.mp h
    cases ts with
    | nil => exact hstop
    | cons u us =>
      have hmem : (t :: u :: us).getLast hts ∈ u :: us := by
        rw [List.getLast_cons (List.cons_ne_nil u us)]
        exact List.getLast_mem _
      have habove := hafter.above _ hmem
      have hproper := (hafter.proper _ hmem).1
      show t.start < _
      omega

/-! ## Reading tokens -/

namespace Lexer

/-- Every lexeme takes a character and the tokens stand where their lexemes do. -/
theorem placed_run (x : Lexis) :
    ∀ (fuel : Nat) (passed : Passed) (start : Nat) (cs : List Char) (ts : List Token) (size : Nat),
      run x fuel passed start cs = .ok ts → cs.length ≤ size - start → Placed start size ts := by
  intro fuel
  induction fuel with
  | zero =>
    intro passed start cs ts size h _
    cases cs <;> cases h <;> exact placed_nil
  | succ fuel ih =>
    intro passed start cs ts size h hsize
    cases cs with
    | nil => cases h; exact placed_nil
    | cons c rest =>
      rw [List.length_cons] at hsize
      rw [run] at h
      cases hlex : lexeme x passed.parameter c rest with
      | error e => rw [hlex] at h; cases h
      | ok scan =>
        obtain ⟨found, width⟩ := scan
        rw [hlex] at h
        -- the next lexeme begins behind this one, which takes a character even if its width is 0
        have htail : (rest.drop (max width 1 - 1)).length ≤ size - (start + max width 1) := by
          rw [List.length_drop]
          omega
        cases found with
        | blank => exact (ih _ _ _ _ _ h htail).mono (by omega)
        | comment => exact (ih _ _ _ _ _ h htail).mono (by omega)
        | token kind text =>
          change (run x fuel _ _ _ >>= _) = _ at h
          cases hlater : run x fuel ⟨kind == .sign .at, true, false⟩ (start + max width 1)
              (rest.drop (max width 1 - 1)) with
          | error e => rw [hlater] at h; cases h
          | ok later =>
            rw [hlater] at h
            cases h
            refine placed_cons.mpr ⟨Nat.le_refl _, ?_, ?_, ih _ _ _ _ _ hlater htail⟩
            · show start < start + max width 1
              omega
            · show start < size
              omega

theorem upToSemicolon_append (cs : List Char) (ts : List Token) :
    (upToSemicolon cs ts).1 ++ (upToSemicolon cs ts).2 = ts := by
  induction ts with
  | nil => rfl
  | cons t ts ih =>
    rw [upToSemicolon]
    split
    · rfl
    · simpa using ih

/-- At least one token is taken if there is one. -/
theorem upToSemicolon_ne_nil (cs : List Char) (t : Token) (ts : List Token) :
    (upToSemicolon cs (t :: ts)).1 ≠ [] := by
  rw [upToSemicolon]
  split <;> simp

/-- A text token in place of some tokens, the last of which is `l`, ends where that one does or, if
no token follows, with the statement. -/
theorem placed_text {lo size : Nat} {front left later : List Token} {l : Token} {kept : String}
    {atEnd : Bool} (h : Placed lo size (front ++ l :: left)) (hend : atEnd = true → later = [])
    (hlater : Placed l.stop size later) :
    Placed lo size (⟨.text, kept, l.start, if atEnd then size else l.stop, false⟩ :: later) := by
  obtain ⟨hl, hproper, hsize, _⟩ :=
    placed_cons.mp (h.sublist (List.sublist_append_right front (l :: left)))
  refine placed_cons.mpr ⟨hl, ?_, hsize, ?_⟩ <;> cases atEnd
  · exact hproper
  · exact hsize
  · exact hlater
  · rw [hend rfl]
    exact placed_nil

theorem keepAsText_nil (x : Lexis) (cs : List Char) (fuel : Nat) (first : Bool) :
    keepAsText x cs fuel first [] = [] := by
  cases fuel <;> rfl

/-- The token for what is kept as text takes the places of those that it replaces. -/
theorem placed_keepAsText (x : Lexis) (cs : List Char) :
    ∀ (fuel : Nat) (first : Bool) (ts : List Token) (lo : Nat),
      Placed lo cs.length ts → Placed lo cs.length (keepAsText x cs fuel first ts) := by
  intro fuel
  induction fuel with
  | zero =>
    intro first ts lo h
    cases ts <;> exact h
  | succ fuel ih =>
    intro first ts lo h
    cases ts with
    | nil => exact h
    | cons t rest =>
      obtain ⟨hlo, hstop, hsize, hrest⟩ := placed_cons.mp h
      rw [keepAsText]
      refine iteInduction (motive := Placed lo cs.length) (fun _ => ?_) fun _ =>
        placed_cons.mpr ⟨hlo, hstop, hsize, ih _ rest _ hrest⟩
      -- the word that starts the statement stays; what it takes becomes one text
      have hsplit := upToSemicolon_append cs rest
      have hnil : (upToSemicolon cs rest).1 = [] → rest = [] := fun hnil => by
        cases rest with
        | nil => rfl
        | cons u rest => exact absurd hnil (upToSemicolon_ne_nil cs u rest)
      generalize upToSemicolon cs rest = cut at hsplit hnil
      obtain ⟨taken, left⟩ := cut
      dsimp only at hsplit hnil ⊢
      subst hsplit
      have hleft := ih false left _ (hrest.sublist (List.sublist_append_right taken left))
      refine iteInduction (motive := Placed lo cs.length)
        (fun _ => placed_cons.mpr ⟨hlo, hstop, hsize, hleft⟩) fun hkept => ?_
      refine placed_cons.mpr ⟨hlo, hstop, hsize, ?_⟩
      rcases List.eq_nil_or_concat taken with rfl | ⟨front, l, rfl⟩
      · -- nothing follows: the text is what is left of the statement
        have hleft : left = [] := by simpa using hnil rfl
        subst hleft
        have hlt : t.stop < cs.length := by
          refine Nat.lt_of_not_le fun hle => hkept ?_
          show (Text.trimChars (slice cs t.stop cs.length)).isEmpty = true
          rw [slice, List.drop_eq_nil_of_le hle, List.take_nil]
          rfl
        rw [keepAsText_nil]
        exact placed_cons.mpr ⟨Nat.le_refl _, hlt, hlt, placed_nil⟩
      · rw [List.concat_eq_append, List.append_assoc, List.singleton_append] at hrest
        simp only [List.concat_eq_append, List.getLast?_append, List.getLast?_singleton,
          Option.some_or, Option.map_some, Option.getD_some]
        refine placed_text hrest (fun hend => ?_) (ih _ _ _ hrest.after)
        have hnone : left = [] := by simpa using (Bool.and_eq_true_iff.mp hend).1
        rw [hnone, keepAsText_nil]

end Lexer

theorem placed_tokens {d : Dialect} {sql : String} {ts : List Token}
    (h : tokens d sql = .ok ts) : Placed 0 sql.toList.length ts := by
  unfold tokens at h
  cases hrun : Lexer.run (Lexis.of d) sql.toList.length {} 0 sql.toList with
  | error e => simp only [hrun] at h; cases h
  | ok found =>
    simp only [hrun] at h
    cases h
    exact Lexer.placed_keepAsText _ _ _ _ _ _
      (Lexer.placed_run _ _ _ _ _ _ _ hrun (Nat.le_refl _))

end Sql

namespace Declaration

open Sql

/-! ## Entries -/

theorem mem_lastEntry {D : Declaration} {reversed : List Token} (h : D ∈ lastEntry reversed) :
    D.tokens = reversed.reverse := by
  unfold lastEntry at h
  split at h
  · cases h
  · rw [List.mem_singleton.mp h]

/-- An entry holds tokens of the statement in their order. -/
theorem sublist_of_mem_entriesFrom {D : Declaration} :
    ∀ (ts : List Token) (k : Int) (reversed : List Token), D ∈ entriesFrom k reversed ts →
      D.tokens.Sublist (reversed.reverse ++ ts) := by
  intro ts
  induction ts with
  | nil =>
    intro k reversed h
    rw [mem_lastEntry h]
    exact List.sublist_append_left _ _
  | cons t ts ih =>
    intro k reversed h
    have hskip : ∀ {k'}, D ∈ entriesFrom k' reversed ts →
        D.tokens.Sublist (reversed.reverse ++ t :: ts) := fun h =>
      (ih _ _ h).trans ((List.sublist_cons_self t ts).append_left _)
    have htake : ∀ {k'}, D ∈ entriesFrom k' (t :: reversed) ts →
        D.tokens.Sublist (reversed.reverse ++ t :: ts) := fun h => by
      simpa using ih _ _ h
    have hlast : D.tokens = reversed.reverse →
        D.tokens.Sublist (reversed.reverse ++ t :: ts) := fun h =>
      h ▸ List.sublist_append_left _ _
    rw [entriesFrom] at h
    split at h
    · split at h
      · exact hskip h
      · split at h
        · exact htake h
        · exact hskip h
    · split at h
      · split at h
        · exact hlast (mem_lastEntry h)
        · split at h
          · exact htake h
          · exact hskip h
      · split at h
        · rcases List.mem_cons.mp h with rfl | h
          · exact hlast rfl
          · exact ((ih _ _ h).trans (List.sublist_cons_self t ts)).trans
              (List.sublist_append_right _ _)
        · split at h
          · exact htake h
          · exact hskip h

/-- The tokens of an entry stand in the order of the statement. -/
theorem placed_of_mem {d : Dialect} {sql : String} {ts : List Token} {D : Declaration}
    (hts : Sql.tokens d sql = .ok ts) (hD : D ∈ ofTokens ts) :
    Placed 0 sql.toList.length D.tokens :=
  (placed_tokens hts).sublist (sublist_of_mem_entriesFrom ts 0 [] hD)

/-! ## Texts -/

theorem textOf_eq (sql : String) {ts : List Token} (h : ts ≠ []) :
    textOf sql ts = some (String.ofList
      (Lexer.slice sql.toList (ts.head h).start (ts.getLast h).stop)) := by
  unfold textOf
  rw [List.head?_eq_some_head h, List.getLast?_eq_some_getLast h]

theorem length_slice (cs : List Char) (start stop : Nat) :
    (Lexer.slice cs start stop).length = min (stop - start) (cs.length - start) := by
  unfold Lexer.slice
  rw [List.length_take, List.length_drop]

/-- A run of tokens is written with at least one character. -/
theorem textOf_filter {sql : String} {ts : List Token} {lo : Nat}
    (h : Placed lo sql.toList.length ts) :
    (textOf sql ts).filter (!·.isEmpty) = textOf sql ts := by
  by_cases hts : ts = []
  · rw [hts]
    rfl
  · have hfirst := h.proper _ (List.head_mem hts)
    have hlast := h.head_lt_getLast hts
    have hlength : 0 < (Lexer.slice sql.toList (ts.head hts).start (ts.getLast hts).stop).length := by
      rw [length_slice]
      omega
    have hne := List.ne_nil_of_length_pos hlength
    rw [textOf_eq sql hts, Option.filter_some_pos]
    rw [Bool.not_eq_true', ← Bool.not_eq_true, String.isEmpty_iff]
    intro hempty
    exact hne (by simpa using congrArg String.toList hempty)

/-- Tokens that follow show in the text. -/
theorem textOf_append_ne {sql : String} {u v : List Token} {lo : Nat}
    (h : Placed lo sql.toList.length (u ++ v)) (hu : u ≠ []) (hv : v ≠ []) :
    textOf sql (u ++ v) ≠ textOf sql u := by
  have huv : u ++ v ≠ [] := by simp [hu]
  have hv' := h.proper _ (List.mem_append_right u (List.getLast_mem hv))
  have hapart : (u.getLast hu).stop ≤ (v.getLast hv).start :=
    (List.pairwise_append.mp h.apart).2.2 _ (List.getLast_mem hu) _ (List.getLast_mem hv)
  have hhead := (h.sublist (List.sublist_append_left u v)).head_lt_getLast hu
  intro heq
  rw [textOf_eq sql huv, textOf_eq sql hu, List.head_append_left hu,
    List.getLast_append_right hv] at heq
  -- the longer text reaches into `v`, which begins after the shorter one has ended
  have hlengths := congrArg (fun o => o.map fun t : String => t.toList.length) heq
  simp only [Option.map_some, String.toList_ofList, length_slice, Option.some.injEq] at hlengths
  omega

end Declaration

end TableDoc
