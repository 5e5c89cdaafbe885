import Mathlib.Computability.Language
import TableDoc.Proofs.Opening

/-!
# The pattern of the words that create a table

A fragment that can not be read is warned about where its text begins with the words that create a
table. The words are found by taking one piece after another off the front of the text, and what is
found first is kept. As a language the pattern is `creation`, which says nothing about an order of
search.

* **pieces** — what is left of a text behind a blank, a run of blanks or a word is the one text that
  can be left (`mem_blank_mul`, `mem_blanks_mul`, `mem_word_mul`), so no search has to go back;
* **words** — the two searches for a word are these pieces one after another
  (`mem_word_gap_mul`, `mem_word_end`);
* **the pattern** — a fragment is found to begin with the words exactly where its text is in the
  language (`announcesTable_iff`).
-/

namespace TableDoc

open scoped Computability

namespace Pattern

/-! ## Pieces -/

/-- One blank. -/
def blank : Language Char := {cs | ∃ c, cs = [c] ∧ Text.isBlank c = true}

/-- A word given in capitals, in any letter case. -/
def word (w : String) : Language Char := {cs | cs.map Char.toUpper = w.toList}

/-- What follows the end of a word. -/
def wordEnd : Language Char := {cs | ∀ c ∈ cs.head?, Text.isWordChar c = false}

/-- The words that create a table, perhaps a temporary one, and whatever follows them. -/
def creation : Language Char :=
  blank∗ * word "CREATE" * (blank * blank∗) * (1 + word "TEMPORARY" * (blank * blank∗)) *
    word "TABLE" * wordEnd

/-- No text of the language begins with a blank. -/
def BeginsPlain (l : Language Char) : Prop :=
  ∀ cs ∈ l, ∀ c ∈ cs.head?, Text.isBlank c = false

variable {l m : Language Char} {cs : List Char}

theorem mem_word {w : String} : cs ∈ word w ↔ cs.map Char.toUpper = w.toList := Iff.rfl

theorem mem_wordEnd : cs ∈ wordEnd ↔ ∀ c ∈ cs.head?, Text.isWordChar c = false := Iff.rfl

/-- A run of blanks is a text of blanks only. -/
theorem mem_blanks : cs ∈ blank∗ ↔ ∀ c ∈ cs, Text.isBlank c = true := by
  rw [Language.mem_kstar]
  constructor
  · rintro ⟨pieces, rfl, hpieces⟩ c hc
    obtain ⟨piece, hpiece, hc⟩ := List.mem_flatten.mp hc
    obtain ⟨b, rfl, hb⟩ := hpieces piece hpiece
    rw [List.mem_singleton.mp hc]
    exact hb
  · intro hall
    have hflatten : cs = (cs.map fun c => [c]).flatten := by
      rw [← List.flatMap_def, List.flatMap_singleton']
    refine ⟨_, hflatten, fun piece hpiece => ?_⟩
    obtain ⟨c, hc, rfl⟩ := List.mem_map.mp hpiece
    exact ⟨c, rfl, hall c hc⟩

/-! ## What is left behind a piece -/

theorem mem_blank_mul :
    cs ∈ blank * l ↔ ∃ c rest, cs = c :: rest ∧ Text.isBlank c = true ∧ rest ∈ l := by
  rw [Language.mem_mul]
  constructor
  · rintro ⟨piece, ⟨c, rfl, hc⟩, rest, hrest, rfl⟩
    exact ⟨c, rest, rfl, hc, hrest⟩
  · rintro ⟨c, rest, rfl, hc, hrest⟩
    exact ⟨[c], ⟨c, rfl, hc⟩, rest, hrest, rfl⟩

/-- Behind a run of blanks comes what is left when all blanks in front are gone. -/
theorem mem_blanks_mul (hl : BeginsPlain l) : cs ∈ blank∗ * l ↔ cs.dropWhile Text.isBlank ∈ l := by
  rw [Language.mem_mul]
  constructor
  · rintro ⟨front, hfront, rest, hrest, rfl⟩
    have hplain : rest.dropWhile Text.isBlank = rest := by
      cases rest with
      | nil => rfl
      | cons c rest => rw [List.dropWhile_cons, hl _ hrest c rfl, if_neg Bool.false_ne_true]
    rw [List.dropWhile_append_of_pos (mem_blanks.mp hfront), hplain]
    exact hrest
  · intro hrest
    have hfront : cs.takeWhile Text.isBlank ∈ blank∗ :=
      mem_blanks.mpr (List.all_eq_true.mp List.all_takeWhile)
    exact ⟨_, hfront, _, hrest, List.takeWhile_append_dropWhile⟩

/-- Behind a word comes what is left without as many characters. -/
theorem mem_word_mul {w : String} :
    cs ∈ word w * l ↔
      (cs.take w.length).map Char.toUpper = w.toList ∧ cs.drop w.length ∈ l := by
  rw [Language.mem_mul]
  constructor
  · rintro ⟨letters, hletters, rest, hrest, rfl⟩
    have hlength : letters.length = w.length := by
      rw [← String.length_toList, ← mem_word.mp hletters, List.length_map]
    rw [← hlength, List.take_left, List.drop_left]
    exact ⟨hletters, hrest⟩
  · rintro ⟨hletters, hrest⟩
    exact ⟨_, hletters, _, hrest, List.take_append_drop _ _⟩

theorem BeginsPlain.add (hl : BeginsPlain l) (hm : BeginsPlain m) : BeginsPlain (l + m) := by
  rintro cs (hcs | hcs)
  · exact hl cs hcs
  · exact hm cs hcs

/-- A word of the pattern begins with a letter. -/
theorem beginsPlain_word {w : String} {u : Char} {us : List Char} (hw : w.toList = u :: us)
    (hu : u ∈ "CREATMPOYBL".toList) : BeginsPlain (word w * l) := by
  rintro cs hcs c hc
  have hletters := (mem_word_mul.mp hcs).1
  have hlength : w.length = us.length + 1 := by
    rw [← String.length_toList, hw, List.length_cons]
  cases cs with
  | nil => cases hc
  | cons c' cs =>
    cases hc
    rw [hlength, hw, List.take_succ_cons, List.map_cons] at hletters
    exact (continuesWord_of_letter (d := .mysql) hu (List.cons.inj hletters).1).2

/-! ## Words -/

/-- A word with blanks behind it is found with what follows them. -/
theorem mem_word_gap_mul {w : String} (hl : BeginsPlain l) :
    cs ∈ word w * (blank * blank∗ * l) ↔
      ∃ rest, Fragment.afterWord? w cs = some rest ∧ rest ∈ l := by
  rw [mem_word_mul, mul_assoc, mem_blank_mul]
  simp only [mem_blanks_mul hl]
  unfold Fragment.afterWord?
  by_cases hletters : (cs.take w.length).map Char.toUpper = w.toList
  · rw [if_pos (by simpa using hletters)]
    cases cs.drop w.length with
    | nil => simp
    | cons c rest =>
      by_cases hc : Text.isBlank c = true <;> simp [hletters, hc]
  · rw [if_neg (by simpa using hletters)]
    exact iff_of_false (fun h => hletters h.1) (by simp)

theorem mem_word_end {w : String} :
    cs ∈ word w * wordEnd ↔ Fragment.startsWithWord w cs = true := by
  rw [mem_word_mul, mem_wordEnd]
  unfold Fragment.startsWithWord
  cases (cs.drop w.length).head? <;> simp

end Pattern

/-! ## The pattern -/

namespace Fragment

open Pattern

theorem letters_of_afterWord? {w : String} {cs rest : List Char}
    (h : afterWord? w cs = some rest) : (cs.take w.length).map Char.toUpper = w.toList := by
  unfold afterWord? at h
  split at h
  · rename_i hletters
    exact beq_iff_eq.mp hletters
  · cases h

/-- `TEMPORARY` is not taken for `TABLE`: the second letters differ. -/
theorem not_table_of_temporary {cs rest : List Char} (h : afterWord? "TEMPORARY" cs = some rest) :
    startsWithWord "TABLE" cs = false := by
  have hne := letters_ne (letters_of_afterWord? h) "TABLE" 2 (by decide) (by decide) (by decide)
  rw [startsWithWord, beq_eq_false_iff_ne.mpr hne, Bool.false_and]

/-- A fragment is found to begin with the words exactly where its text is in the language. -/
theorem announcesTable_iff {f : String} : announcesTable f = true ↔ f.toList ∈ creation := by
  have htable : BeginsPlain (word "TABLE" * wordEnd) :=
    beginsPlain_word (show "TABLE".toList = 'T' :: "ABLE".toList by decide) (by decide)
  have htemporary : BeginsPlain (word "TEMPORARY" * (blank * blank∗ * (word "TABLE" * wordEnd))) :=
    beginsPlain_word (show "TEMPORARY".toList = 'T' :: "EMPORARY".toList by decide) (by decide)
  have hcreate : BeginsPlain (word "CREATE" * (blank * blank∗ *
      (word "TABLE" * wordEnd + word "TEMPORARY" * (blank * blank∗ * (word "TABLE" * wordEnd))))) :=
    beginsPlain_word (show "CREATE".toList = 'C' :: "REATE".toList by decide) (by decide)
  -- the pieces are taken from the front, so the product is read from the right
  rw [show creation = blank∗ * (word "CREATE" * (blank * blank∗ *
      (word "TABLE" * wordEnd + word "TEMPORARY" * (blank * blank∗ * (word "TABLE" * wordEnd))))) by
    simp only [creation, mul_assoc, add_mul, one_mul]]
  rw [mem_blanks_mul hcreate, mem_word_gap_mul (htable.add htemporary)]
  unfold announcesTable
  cases afterWord? "CREATE" (f.toList.dropWhile Text.isBlank) with
  | none => simp
  | some cs =>
    simp only [Option.some.injEq, exists_eq_left', Language.mem_add, mem_word_gap_mul htable,
      mem_word_end]
    cases hafter : afterWord? "TEMPORARY" cs with
    | none => simp
    | some rest => simp [not_table_of_temporary hafter]

end Fragment

end TableDoc
