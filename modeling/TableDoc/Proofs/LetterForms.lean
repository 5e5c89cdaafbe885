import TableDoc.Text.LetterCase

/-!
# Letters of a word in capitals

Which texts have a word as their capital form, and what the small letters of such a text are.

* **letters** — a character whose capital is a letter of the alphabet is that letter, its small
  letter, or one of two stray ones (`upperChar_eq_capital`);
* **ligatures** — what becomes several capitals is no part of a word without certain pairs
  (`expansion_cases`), so such a word is spelled letter by letter (`spelled_of_flatMap`);
* **words** — the small letters of the text are those of the word, but for the stray letters
  (`respell_lower`);
* **letter case** — a text that spells a word with letters of the alphabet alone, in any letter
  case, has its capitals and its small letters (`upper_of_toUpper`, `lower_of_toUpper`).
-/

namespace TableDoc.Text

/-! ## Stray letters -/

/-- The small letters outside the alphabet with a capital in it: the i without a dot, the long s. -/
def strayLetters : List Char := ['ı', 'ſ']

/-- The letter of the alphabet with the same capital as a stray letter. -/
def respellLetter (c : Char) : Char :=
  if c = 'ı' then 'i' else if c = 'ſ' then 's' else c

/-- The text with letters of the alphabet in place of stray ones. -/
def respell (s : String) : String := s.map respellLetter

@[simp] theorem respell_append (s t : String) : respell (s ++ t) = respell s ++ respell t := by
  simp [respell, ← String.toList_inj]

theorem respellLetter_of_not_stray {c : Char} (h : c ∉ strayLetters) : respellLetter c = c := by
  simp only [strayLetters, List.mem_cons, List.not_mem_nil, or_false, not_or] at h
  simp [respellLetter, h.1, h.2]

theorem respellLetter_not_stray (c : Char) : respellLetter c ∉ strayLetters := by
  unfold respellLetter
  by_cases hi : c = 'ı'
  · simp [hi, strayLetters]
  · by_cases hs : c = 'ſ'
    · simp [hs, strayLetters]
    · simp [hi, hs, strayLetters]

/-- A text keeps its letters exactly when it has no stray one. -/
theorem respell_eq_self_iff (s : String) : respell s = s ↔ ∀ c ∈ s.toList, c ∉ strayLetters := by
  unfold respell
  rw [← String.toList_inj, String.toList_map]
  constructor
  · intro h c hc
    rw [← h] at hc
    obtain ⟨c', -, rfl⟩ := List.mem_map.mp hc
    exact respellLetter_not_stray c'
  · intro h
    have hletters : s.toList.map respellLetter = s.toList.map id :=
      List.map_congr_left fun c hc => respellLetter_of_not_stray (h c hc)
    rw [hletters, List.map_id]

/-! ## Letters -/

/-- What a run moves a character to. -/
theorem shift?_eq_some {runs : List CaseRun} {n : Nat} {u : Char} (h : shift? runs n = some u) :
    ∃ r ∈ runs, r.1 ≤ n ∧ n ≤ r.2.1 ∧ u = Char.ofNat (Int.toNat (Int.ofNat n + r.2.2.2)) := by
  obtain ⟨r, hr, rfl⟩ := Option.map_eq_some_iff.mp h
  have hin := List.find?_some hr
  simp only [Bool.and_eq_true, decide_eq_true_eq] at hin
  exact ⟨r, List.mem_of_find?_eq_some hr, hin.1.1, hin.1.2, rfl⟩

/-- The letters of the alphabet end at `Z`. -/
theorem toNat_le_of_isUpper {u : Char} (hu : u.isUpper = true) : u.toNat ≤ 0x5a := by
  have hrange : u.val ≥ 'A'.val ∧ u.val ≤ 'Z'.val := of_decide_eq_true hu
  exact UInt32.le_iff_toNat_le.mp hrange.2

/-- A code point far from the letters stands for none of them, also where it is no character. -/
theorem not_isUpper_ofNat {n : Nat} (h : 0x5b ≤ n) : (Char.ofNat n).isUpper = false := by
  by_cases hvalid : n.isValidChar
  · have hn : (Char.ofNat n).toNat = n := by
      rw [show Char.ofNat n = Char.ofNatAux n hvalid from dif_pos hvalid]
      rfl
    refine Bool.eq_false_iff.mpr fun hu => ?_
    have hlast := toNat_le_of_isUpper hu
    omega
  · rw [show Char.ofNat n = '\x00' from dif_neg hvalid]
    rfl

/-- But for two runs of one letter each, no run beyond ASCII leads to a letter of the alphabet. -/
theorem upperRuns_cases {r : CaseRun} (hr : r ∈ upperRuns) :
    r = (0x131, 0x131, 1, -232) ∨ r = (0x17f, 0x17f, 1, -300) ∨ 0x5b ≤ Int.ofNat r.1 + r.2.2.2 := by
  have hall : (upperRuns.all fun r => r == (0x131, 0x131, 1, -232) ||
      r == (0x17f, 0x17f, 1, -300) || decide (0x5b ≤ Int.ofNat r.1 + r.2.2.2)) = true := by decide
  simpa [or_assoc] using List.all_eq_true.mp hall r hr

/-- The letters beyond ASCII that a run moves into the alphabet. -/
theorem eq_stray_of_shift? {c u : Char} (h : shift? upperRuns c.toNat = some u)
    (hu : u.isUpper = true) : (c = 'ı' ∧ u = 'I') ∨ (c = 'ſ' ∧ u = 'S') := by
  obtain ⟨r, hr, hlow, hhigh, rfl⟩ := shift?_eq_some h
  rcases upperRuns_cases hr with rfl | rfl | hfar
  · have hc : c = 'ı' := Char.toNat_inj.mp (Nat.le_antisymm hhigh hlow)
    subst hc
    exact .inl ⟨rfl, rfl⟩
  · have hc : c = 'ſ' := Char.toNat_inj.mp (Nat.le_antisymm hhigh hlow)
    subst hc
    exact .inr ⟨rfl, rfl⟩
  · have hcode : 0x5b ≤ Int.toNat (Int.ofNat c.toNat + r.2.2.2) := by
      simp only [Int.ofNat_eq_natCast] at hfar ⊢
      omega
    rw [not_isUpper_ofNat hcode] at hu
    cases hu

/-- What a character becomes in capitals: one character, or the letters of an expansion. -/
theorem upperChar_cases (c : Char) :
    (∃ u, upperChar c = [u]) ∨
      ∃ e ∈ upperExpansions, upperChar c = e.2.map Char.ofNat := by
  unfold upperChar
  by_cases hascii : c.toNat < 0x80
  · exact .inl ⟨_, if_pos hascii⟩
  · rw [if_neg hascii]
    cases h : upperExpansions.lookup c.toNat with
    | none => exact .inl ⟨_, rfl⟩
    | some expansion =>
      obtain ⟨l₁, l₂, hl, -⟩ := List.lookup_eq_some_iff.mp h
      exact .inr ⟨(c.toNat, expansion), by simp [hl], rfl⟩

/-- No expansion is a single letter. -/
theorem two_le_length_expansion {e : Nat × List Nat} (he : e ∈ upperExpansions) :
    2 ≤ e.2.length := by
  have hall : (upperExpansions.all fun e => decide (2 ≤ e.2.length)) = true := by decide
  simpa using List.all_eq_true.mp hall e he

/-- A digit is its own capital form. -/
theorem upperChar_of_isDigit {c : Char} (h : isDigit c = true) : upperChar c = [c] := by
  unfold isDigit at h
  unfold upperChar
  by_cases hascii : c.toNat < 0x80
  · have hall : ((List.range 0x80).all fun n => !isDigit (Char.ofNat n) ||
        (Char.ofNat n).toUpper == Char.ofNat n) = true := by decide
    have hc := List.all_eq_true.mp hall c.toNat (List.mem_range.mpr hascii)
    simp only [Char.ofNat_toNat, isDigit, hascii, if_true] at hc h
    simpa [hascii, h] using hc
  · rw [if_neg hascii] at h ⊢
    obtain ⟨range, hrange, hin⟩ := List.any_eq_true.mp h
    simp only [Bool.and_eq_true, decide_eq_true_eq] at hin
    -- no letter lies among the digits
    have hall : (digitRanges.all fun range =>
        (upperExpansions.all fun e => decide (e.1 < range.1 ∨ range.2 < e.1)) &&
          upperRuns.all fun r => decide (r.2.1 < range.1 ∨ range.2 < r.1)) = true := by decide +kernel
    obtain ⟨hexpansions, hruns⟩ := Bool.and_eq_true_iff.mp (List.all_eq_true.mp hall range hrange)
    have hlookup : upperExpansions.lookup c.toNat = none := by
      refine List.lookup_eq_none_iff.mpr fun e he => ?_
      have hfar := of_decide_eq_true (List.all_eq_true.mp hexpansions e he)
      have hne : c.toNat ≠ e.1 := by omega
      simpa using hne
    have hshift : shift? upperRuns c.toNat = none := by
      refine Option.eq_none_iff_forall_ne_some.mpr fun u hu => ?_
      obtain ⟨r, hr, hlow, hhigh, -⟩ := shift?_eq_some hu
      have hfar := of_decide_eq_true (List.all_eq_true.mp hruns r hr)
      omega
    simp [hlookup, hshift]

/-- A character with a letter of the alphabet as its capital form is a letter of it or stray. -/
theorem upperChar_eq_capital {c u : Char} (h : upperChar c = [u]) (hu : u.isUpper = true) :
    (c.toNat < 0x80 ∧ c.toUpper = u) ∨ (c = 'ı' ∧ u = 'I') ∨ (c = 'ſ' ∧ u = 'S') := by
  have hlast := toNat_le_of_isUpper hu
  unfold upperChar at h
  by_cases hascii : c.toNat < 0x80
  · rw [if_pos hascii] at h
    exact .inl ⟨hascii, List.singleton_inj.mp h⟩
  · rw [if_neg hascii] at h
    cases hlookup : upperExpansions.lookup c.toNat with
    | some expansion =>
      rw [hlookup] at h
      obtain ⟨l₁, l₂, hl, -⟩ := List.lookup_eq_some_iff.mp hlookup
      have hmem : (c.toNat, expansion) ∈ upperExpansions := by simp [hl]
      have htwo := two_le_length_expansion hmem
      have hone : (expansion.map Char.ofNat).length = 1 := congrArg List.length h
      rw [List.length_map] at hone
      dsimp only at htwo
      omega
    | none =>
      rw [hlookup] at h
      cases hshift : shift? upperRuns c.toNat with
      | none =>
        -- a character that no run holds is its own capital
        rw [hshift] at h
        have hcu : c = u := List.singleton_inj.mp h
        rw [hcu] at hascii
        omega
      | some v =>
        rw [hshift] at h
        have hvu : v = u := List.singleton_inj.mp h
        rw [hvu] at hshift
        exact .inr (eq_stray_of_shift? hshift hu)

/-- The small form of a character with a letter of the alphabet as its capital form. -/
theorem respell_lowerChar {c u : Char} (h : upperChar c = [u]) (hu : u.isUpper = true) :
    (lowerChar c).map respellLetter = [u.toLower] ∧ c.toNat ≠ 0x3a3 := by
  rcases upperChar_eq_capital h hu with ⟨hascii, rfl⟩ | ⟨rfl, rfl⟩ | ⟨rfl, rfl⟩
  · have hall : ((List.range 0x80).all fun n => respellLetter (Char.ofNat n).toLower ==
        (Char.ofNat n).toUpper.toLower) = true := by decide
    have hletter := List.all_eq_true.mp hall c.toNat (List.mem_range.mpr hascii)
    rw [Char.ofNat_toNat, beq_iff_eq] at hletter
    rw [lowerChar, if_pos hascii, List.map_singleton, hletter]
    exact ⟨rfl, by omega⟩
  · decide
  · decide

/-! ## Ligatures -/

/-- The pairs of letters that some character becomes in capitals, or begins with. -/
def ligatures : List (Char × Char) := [('F', 'F'), ('F', 'I'), ('F', 'L'), ('S', 'S'), ('S', 'T')]

/-- A word of the alphabet in which no two neighbours are such a pair. -/
structure IsWord (us : List Char) : Prop where
  letters : ∀ u ∈ us, u.isUpper = true
  separate : ∀ p ∈ us.zip us.tail, p ∉ ligatures

instance (us : List Char) : Decidable (IsWord us) :=
  decidable_of_iff (us.all Char.isUpper = true ∧
      (us.zip us.tail).all (fun p => !ligatures.contains p) = true)
    ⟨fun h => ⟨by simpa using h.1, by simpa using h.2⟩,
      fun h => ⟨by simpa using h.letters, by simpa using h.separate⟩⟩

theorem IsWord.tail {u : Char} {us : List Char} (h : IsWord (u :: us)) : IsWord us where
  letters v hv := h.letters v (List.mem_cons_of_mem u hv)
  separate := by
    cases us with
    | nil => simp
    | cons v us =>
      intro p hp
      exact h.separate p (List.mem_cons_of_mem (u, v) hp)

/-- An expansion of letters of the alphabet alone begins with a pair. -/
theorem expansion_cases {e : Nat × List Nat} (he : e ∈ upperExpansions) :
    (∃ u v rest, e.2.map Char.ofNat = u :: v :: rest ∧ (u, v) ∈ ligatures) ∨
      ∃ u ∈ e.2.map Char.ofNat, u.isUpper = false := by
  have hall : (upperExpansions.all fun e =>
      ligatures.any (fun p => (e.2.map Char.ofNat).take 2 == [p.1, p.2]) ||
        (e.2.map Char.ofNat).any fun u => !u.isUpper) = true := by decide
  have hcases := List.all_eq_true.mp hall e he
  rw [Bool.or_eq_true, List.any_eq_true, List.any_eq_true] at hcases
  rcases hcases with ⟨⟨u, v⟩, hp, htake⟩ | ⟨u, hu, hother⟩
  · refine .inl ⟨u, v, (e.2.map Char.ofNat).drop 2, ?_, hp⟩
    rw [← List.take_append_drop 2 (e.2.map Char.ofNat), beq_iff_eq.mp htake]
    rfl
  · exact .inr ⟨u, hu, by simpa using hother⟩

/-- A text with a word as its capital form is spelled letter by letter. -/
theorem spelled_of_flatMap {cs us : List Char} (hw : IsWord us) (h : cs.flatMap upperChar = us) :
    cs.map upperChar = us.map fun u => [u] := by
  induction cs generalizing us with
  | nil =>
    rw [← h]
    rfl
  | cons c cs ih =>
    rw [List.flatMap_cons] at h
    rcases upperChar_cases c with ⟨u, hc⟩ | ⟨e, he, hc⟩
    · rw [hc] at h
      subst h
      rw [List.map_cons, hc, ih hw.tail rfl]
      rfl
    · -- an expansion would leave a pair in the word, or a character that is no letter of it
      rw [hc] at h
      exfalso
      rcases expansion_cases he with ⟨u, v, rest, hpair, hp⟩ | ⟨u, hu, hother⟩
      · refine hw.separate (u, v) ?_ hp
        rw [← h, hpair]
        exact List.mem_cons_self
      · have hletter := hw.letters u (h ▸ List.mem_append_left _ hu)
        rw [hother] at hletter
        cases hletter

/-! ## Words -/

/-- Without a capital sigma no place in a word counts. -/
theorem lowerFrom_eq_flatMap {cs : List Char} (h : ∀ c ∈ cs, c.toNat ≠ 0x3a3)
    (before : List Char) : lowerFrom before cs = cs.flatMap lowerChar := by
  induction cs generalizing before with
  | nil => rfl
  | cons c cs ih =>
    have hc : (c.toNat == 0x3a3) = false := beq_false_of_ne (h c List.mem_cons_self)
    rw [lowerFrom, ih (fun c' hc' => h c' (List.mem_cons_of_mem c hc'))]
    simp [hc]

theorem respell_lower_chars {cs us : List Char} (hletters : ∀ u ∈ us, u.isUpper = true)
    (h : cs.map upperChar = us.map fun u => [u]) :
    (cs.flatMap lowerChar).map respellLetter = us.map Char.toLower ∧ ∀ c ∈ cs, c.toNat ≠ 0x3a3 := by
  induction cs generalizing us with
  | nil =>
    cases us with
    | nil => simp
    | cons u us => simp at h
  | cons c cs ih =>
    cases us with
    | nil => simp at h
    | cons u us =>
      obtain ⟨hc, hcs⟩ := List.cons.inj h
      obtain ⟨hlower, hsigma⟩ := respell_lowerChar hc (hletters u List.mem_cons_self)
      obtain ⟨hlowers, hsigmas⟩ := ih (fun v hv => hletters v (List.mem_cons_of_mem u hv)) hcs
      rw [List.flatMap_cons, List.map_append, hlower, hlowers]
      exact ⟨rfl, List.forall_mem_cons.mpr ⟨hsigma, hsigmas⟩⟩

/-- The small letters of a text whose capital form is a word are those of the word, but for stray
letters. -/
theorem respell_lower {s w : String} (hw : IsWord w.toList) (h : upper s = w) :
    respell (lower s) = String.ofList (w.toList.map Char.toLower) := by
  have hspelled : s.toList.map upperChar = w.toList.map fun u => [u] := by
    refine spelled_of_flatMap hw ?_
    rw [← h, upper, String.toList_ofList]
  obtain ⟨hletters, hsigma⟩ := respell_lower_chars hw.letters hspelled
  rw [← String.toList_inj, respell, String.toList_map, lower, String.toList_ofList,
    String.toList_ofList, lowerFrom_eq_flatMap hsigma, hletters]

/-! ## Letter case -/

/-- A character with a capital below 128 is below 128 itself. -/
theorem toNat_lt_of_toUpper {c u : Char} (hu : u.toNat < 128) (hc : c.toUpper = u) :
    c.toNat < 128 := by
  unfold Char.toUpper at hc
  split at hc
  · rename_i hsmall
    have hz : c.toNat ≤ 'z'.toNat := hsmall.2
    exact Nat.lt_of_le_of_lt hz (by decide)
  · rwa [hc]

theorem upperChar_of_toUpper {c u : Char} (hu : u.toNat < 128) (hc : c.toUpper = u) :
    upperChar c = [u] := by
  rw [upperChar, if_pos (toNat_lt_of_toUpper hu hc), hc]

/-- The capitals of a word that is spelled in any letter case. -/
theorem upper_of_toUpper {cs : List Char} (word : String)
    (hascii : ∀ u ∈ word.toList, u.toNat < 128) (h : cs.map Char.toUpper = word.toList) :
    upper (String.ofList cs) = word := by
  have hchars : ∀ (cs us : List Char), (∀ u ∈ us, u.toNat < 128) → cs.map Char.toUpper = us →
      cs.flatMap upperChar = us := by
    intro cs us hus hcs
    induction cs generalizing us with
    | nil => rw [← hcs]; rfl
    | cons c cs ih =>
      subst hcs
      rw [List.flatMap_cons, upperChar_of_toUpper (hus c.toUpper List.mem_cons_self) rfl,
        ih _ (fun u hu => hus u (List.mem_cons_of_mem _ hu)) rfl]
      rfl
  unfold upper
  rw [String.toList_ofList, hchars cs _ hascii h, String.ofList_toList]

/-- The small letters of a word that is spelled in any letter case. -/
theorem lower_of_toUpper {cs : List Char} (word : String)
    (hletters : ∀ u ∈ word.toList, u.isUpper = true) (h : cs.map Char.toUpper = word.toList) :
    lower (String.ofList cs) = String.ofList (word.toList.map Char.toLower) := by
  have hascii : ∀ c ∈ cs, c.toNat < 128 := by
    intro c hc
    have hu : c.toUpper ∈ word.toList := h ▸ List.mem_map_of_mem hc
    have hlast := toNat_le_of_isUpper (hletters _ hu)
    exact toNat_lt_of_toUpper (by omega) rfl
  have hletter : ∀ c ∈ cs, lowerChar c = [c.toUpper.toLower] := by
    intro c hc
    have hall : ((List.range 0x80).all fun n =>
        (Char.ofNat n).toLower == (Char.ofNat n).toUpper.toLower) = true := by decide
    have hsmall := List.all_eq_true.mp hall c.toNat (List.mem_range.mpr (hascii c hc))
    rw [Char.ofNat_toNat, beq_iff_eq] at hsmall
    rw [lowerChar, if_pos (hascii c hc), hsmall]
  have hsigma : ∀ c ∈ cs, c.toNat ≠ 0x3a3 := by
    intro c hc
    have hlt := hascii c hc
    omega
  have hchars : cs.flatMap lowerChar = cs.map fun c => c.toUpper.toLower := by
    rw [List.map_eq_flatMap, List.flatMap_def, List.flatMap_def, List.map_congr_left hletter]
  unfold lower
  rw [String.toList_ofList, lowerFrom_eq_flatMap hsigma, hchars, ← h, List.map_map]
  rfl

end TableDoc.Text
