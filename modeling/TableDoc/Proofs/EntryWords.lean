import TableDoc.Declaration

/-!
# The words of an entry

Which unquoted words of an entry tell what its index is called.

* **words** — a token is taken for a word of a list, and then also of a longer one
  (`isOneOf_mono`) and of none that has other words (`isOneOf_disjoint`);
* **leading words** — quoted tokens are passed over, and so are `CONSTRAINT` and an unquoted name
  (`wordsAfterName_of_filter`, `wordsAfterName_of_constraint`);
* **wordings** — the wording follows from the leading word and the one behind it
  (`indexWording?_eq`, `indexWording?_cases`).
-/

namespace TableDoc

open Sql

namespace Declaration

variable {D : Declaration}

/-! ## Words -/

section

variable {words others : List String} {t : Token}

theorem isQuoted_of_isOneOf (h : isOneOf words t = true) : t.isQuoted = false := by
  simp only [isOneOf, Bool.and_eq_true, Bool.not_eq_true'] at h
  exact h.1

theorem isOneOf_disjoint (h : ∀ w ∈ words, w ∉ others) (ht : isOneOf words t = true) :
    isOneOf others t = false := by
  simp only [isOneOf, Bool.and_eq_true, List.contains_iff_mem] at ht
  simp [isOneOf, h _ ht.2]

theorem isOneOf_mono (h : words ⊆ others) (ht : isOneOf words t = true) :
    isOneOf others t = true := by
  simp only [isOneOf, Bool.and_eq_true, List.contains_iff_mem] at ht ⊢
  exact ⟨ht.1, h ht.2⟩

end

/-! ## Leading words -/

/-- Without `CONSTRAINT` in front every unquoted token counts. -/
theorem wordsAfterName_of_filter {first : Token} {rest : List Token}
    (h : D.tokens.filter (!·.isQuoted) = first :: rest)
    (hfirst : isOneOf ["CONSTRAINT"] first = false) : D.wordsAfterName = first :: rest := by
  unfold wordsAfterName
  rw [h]
  dsimp only
  rw [if_neg (by simp [hfirst])]

/-- Behind `CONSTRAINT` a word counts that may stand where no name is given. -/
theorem wordsAfterName_of_constraint {first name : Token} {later : List Token}
    (h : D.tokens.filter (!·.isQuoted) = first :: name :: later)
    (hfirst : isOneOf ["CONSTRAINT"] first = true) :
    D.wordsAfterName = if isOneOf definingWords name then name :: later else later := by
  unfold wordsAfterName
  rw [h]
  dsimp only
  rw [if_pos hfirst]

/-! ## Wordings -/

/-- The word for an index behind one for its kind, `key` where it is left out. -/
def secondWord (rest : List Token) : String :=
  ((rest.head?.filter (isOneOf indexWords)).map fun t => Text.lower t.text).getD "key"

section

variable {first t : Token} {rest : List Token}

theorem secondWord_of_index (h : isOneOf indexWords t = true) :
    secondWord (t :: rest) = Text.lower t.text := by
  unfold secondWord
  rw [List.head?_cons, Option.filter_some, if_pos h, Option.map_some, Option.getD_some]

theorem secondWord_of_other (h : isOneOf indexWords t = false) :
    secondWord (t :: rest) = "key" := by
  unfold secondWord
  rw [List.head?_cons, Option.filter_some, if_neg (by simp [h]), Option.map_none, Option.getD_none]

theorem secondWord_cases (rest : List Token) :
    secondWord rest = "key" ∨
      ∃ u, isOneOf indexWords u = true ∧ secondWord rest = Text.lower u.text := by
  cases rest with
  | nil => exact .inl rfl
  | cons u rest =>
    cases hu : isOneOf indexWords u with
    | true => exact .inr ⟨u, hu, secondWord_of_index hu⟩
    | false => exact .inl (secondWord_of_other hu)

theorem append_key (s : String) : s ++ " key" = s ++ " " ++ "key" := by
  rw [String.append_assoc]
  exact congrArg _ (by decide : " key" = " " ++ "key")

/-- The wording that the leading word and the one behind it make. -/
theorem indexWording?_eq (h : D.wordsAfterName = first :: rest) :
    D.indexWording? =
      if isOneOf indexWords first then some (Text.lower first.text)
      else if isOneOf indexPrefixes first then
        some (Text.lower first.text ++ " " ++ secondWord rest)
      else none := by
  unfold indexWording?
  rw [h]
  dsimp only
  congr 2
  cases rest with
  | nil => exact congrArg some (append_key _)
  | cons second rest =>
    dsimp only
    by_cases hsecond : isOneOf indexWords second = true
    · rw [if_pos hsecond, secondWord_of_index hsecond]
    · rw [if_neg hsecond, secondWord_of_other (by simpa using hsecond), append_key]

theorem indexWording?_of_none (h : D.wordsAfterName = []) : D.indexWording? = none := by
  unfold indexWording?
  rw [h]

theorem indexWording?_of_index (h : D.wordsAfterName = first :: rest)
    (hfirst : isOneOf indexWords first = true) :
    D.indexWording? = some (Text.lower first.text) := by
  rw [indexWording?_eq h, if_pos hfirst]

theorem indexWording?_of_worded (h : D.wordsAfterName = first :: rest)
    (hfirst : isOneOf indexPrefixes first = true) :
    D.indexWording? = some (Text.lower first.text ++ " " ++ secondWord rest) := by
  have hindex : isOneOf indexWords first = false := isOneOf_disjoint (by decide) hfirst
  rw [indexWording?_eq h, if_neg (by simp [hindex]), if_pos hfirst]

theorem indexWording?_eq_none (h : D.wordsAfterName = first :: rest)
    (hindex : isOneOf indexWords first = false) (hworded : isOneOf indexPrefixes first = false) :
    D.indexWording? = none := by
  rw [indexWording?_eq h, if_neg (by simp [hindex]), if_neg (by simp [hworded])]

end

/-- A wording is the leading word for an index, or the leading word for a kind of index and a word
for an index behind it, which is `key` if none is written. -/
theorem indexWording?_cases {k : String} (h : D.indexWording? = some k) :
    (∃ t, D.wordsAfterName.head? = some t ∧ isOneOf indexWords t = true ∧
        k = Text.lower t.text) ∨
      ∃ t, D.wordsAfterName.head? = some t ∧ isOneOf indexWords t = false ∧
        isOneOf indexPrefixes t = true ∧ (k = Text.lower t.text ++ " key" ∨
          ∃ u, isOneOf indexWords u = true ∧
            k = Text.lower t.text ++ " " ++ Text.lower u.text) := by
  cases hwords : D.wordsAfterName with
  | nil =>
    rw [indexWording?_of_none hwords] at h
    cases h
  | cons first rest =>
    by_cases hindex : isOneOf indexWords first = true
    · rw [indexWording?_of_index hwords hindex] at h
      exact .inl ⟨first, rfl, hindex, (Option.some.inj h).symm⟩
    · have hother : isOneOf indexWords first = false := by simpa using hindex
      by_cases hworded : isOneOf indexPrefixes first = true
      · rw [indexWording?_of_worded hwords hworded] at h
        refine .inr ⟨first, rfl, hother, hworded, ?_⟩
        rcases secondWord_cases rest with hsecond | ⟨u, hu, hsecond⟩
        · rw [hsecond, ← append_key] at h
          exact .inl (Option.some.inj h).symm
        · rw [hsecond] at h
          exact .inr ⟨u, hu, (Option.some.inj h).symm⟩
      · rw [indexWording?_eq_none hwords hother (by simpa using hworded)] at h
        cases h

end Declaration

end TableDoc
