import TableDoc.Proofs.LetterForms
import TableDoc.Script

/-!
# The words that open a table

When a fragment opens with the words that create a table, said of its characters, and the two ways
in which a program sees it: by the pattern on the raw text and by the tokens.

* **gaps** — blanks and comments before and between the words; `Gap` tells whether there is a
  comment among them, and no gap gives a token (`run_gap`);
* **the pattern** passes over blanks only, so it finds the words exactly where no gap before `TABLE`
  holds a comment (`announcesTable_eq`);
* **the tokens** begin with the keyword either way (`OpensTable.head_tokens`).
-/

namespace TableDoc

open Sql

/-! ## Gaps and words -/

/-- Blanks and comments in front of `out`, and whether there is a comment among them. -/
inductive Gap (x : Lexis) : Bool → List Char → List Char → Prop
  | done (out : List Char) : Gap x false out out
  | blank {k : Bool} {c : Char} {rest out : List Char} :
      Text.isBlank c = true → Gap x k rest out → Gap x k (c :: rest) out
  | comment {k : Bool} {c : Char} {rest out : List Char} {width : Nat} :
      Lexer.lexeme x false c rest = .ok (.comment, width) →
      Gap x k (rest.drop (width - 1)) out → Gap x true (c :: rest) out

/-- A word in any letter case, given in capitals, stands at the front of `cs` and ends there. -/
structure Spelled (x : Lexis) (word : String) (cs rest : List Char) : Prop where
  letters : (cs.take word.length).map Char.toUpper = word.toList
  after : cs.drop word.length = rest
  ends : ∀ c ∈ rest.head?, x.continuesWord c = false

/-- A text begins, after a gap, with the words that create a table, perhaps a temporary one, and
whether one of the gaps before the last of them holds a comment. -/
inductive OpensTable (x : Lexis) : Bool → List Char → Prop
  | plain {a b : Bool} {cs cs₁ cs₂ cs₃ rest : List Char} :
      Gap x a cs cs₁ → Spelled x "CREATE" cs₁ cs₂ → Gap x b cs₂ cs₃ → Spelled x "TABLE" cs₃ rest →
      OpensTable x (a || b) cs
  | temporary {a b c : Bool} {cs cs₁ cs₂ cs₃ cs₄ cs₅ rest : List Char} :
      Gap x a cs cs₁ → Spelled x "CREATE" cs₁ cs₂ → Gap x b cs₂ cs₃ →
      Spelled x "TEMPORARY" cs₃ cs₄ → Gap x c cs₄ cs₅ → Spelled x "TABLE" cs₅ rest →
      OpensTable x (a || b || c) cs

theorem OpensTable.create {x : Lexis} {k : Bool} {cs : List Char} (h : OpensTable x k cs) :
    ∃ a cs₁ cs₂, Gap x a cs cs₁ ∧ Spelled x "CREATE" cs₁ cs₂ := by
  cases h with
  | plain hgap hcreate _ _ => exact ⟨_, _, _, hgap, hcreate⟩
  | temporary hgap hcreate _ _ _ _ => exact ⟨_, _, _, hgap, hcreate⟩

/-! ## Characters -/

/-- The characters that comments begin with. -/
def commentFronts : List Char := ['/', '\x7b', '-', '#']

/-- The code points of blanks. -/
def blankCodes : List Nat :=
  [0x9, 0xa, 0xb, 0xc, 0xd, 0x1c, 0x1d, 0x1e, 0x1f, 0x20, 0x85, 0xa0, 0x1680, 0x2000, 0x2001,
   0x2002, 0x2003, 0x2004, 0x2005, 0x2006, 0x2007, 0x2008, 0x2009, 0x200a, 0x2028, 0x2029, 0x202f,
   0x205f, 0x3000]

theorem toNat_mem_blankCodes {c : Char} (h : Text.isBlank c = true) : c.toNat ∈ blankCodes := by
  unfold Text.isBlank at h
  dsimp only at h
  simp only [blankCodes, List.mem_cons, List.not_mem_nil, or_false]
  split at h <;> simp at h <;> omega

/-- A blank is no part of a word. -/
theorem isWordChar_of_isBlank {c : Char} (h : Text.isBlank c = true) :
    Text.isWordChar c = false := by
  have hcodes : ∀ n ∈ blankCodes, Text.isWordChar (Char.ofNat n) = false := by decide +kernel
  rw [← Char.ofNat_toNat c]
  exact hcodes _ (toNat_mem_blankCodes h)

/-- A sign is no part of a word. -/
theorem isWordChar_of_sign {c : Char} {s : Sign} (h : Sign.ofChar? c = some s) :
    Text.isWordChar c = false := by
  unfold Sign.ofChar? at h
  split at h <;> first | decide | cases h

/-- Where a word ends for the tokens it ends for the pattern. -/
theorem isWordChar_of_not_continuesWord {d : Dialect} {c : Char}
    (h : (Lexis.of d).continuesWord c = false) : Text.isWordChar c = false := by
  cases hblank : Text.isBlank c with
  | true => exact isWordChar_of_isBlank hblank
  | false =>
    cases hsign : Sign.ofChar? c with
    | some s => exact isWordChar_of_sign hsign
    | none =>
      by_cases hpercent : c = '%'
      · rw [hpercent]
        decide
      · -- no sign of a dialect's own is left: the dollar sign goes on with a word
        exfalso
        by_cases hdollar : c = '$'
        · rw [hdollar] at h
          cases d <;> exact absurd h (by decide)
        · cases d <;> simp [Lexis.continuesWord, Lexis.of, Lexis.mysql, Lexis.postgres, Lexis.sign?,
            hblank, hsign, hpercent, hdollar] at h

/-! ## Comments -/

namespace Sql.Lexer

variable {x : Lexis} {width : Nat}

theorem number_ne_comment (k : Bool) (cs : List Char) : number x k cs ≠ (.comment, width) := by
  have hdecimal : ∀ cs, number.decimal x k cs ≠ (.comment, width) := by
    intro cs
    unfold number.decimal
    dsimp only
    split <;> simp
  unfold number
  split
  · split
    · dsimp only
      refine iteInduction (motive := (· ≠ (Lexeme.comment, width))) (fun _ => ?_) fun _ => ?_ <;> simp
    · exact hdecimal _
  · exact hdecimal _

theorem dollar_ne_comment (cs : List Char) : dollar cs ≠ .ok (.comment, width) := by
  unfold dollar
  dsimp only
  split
  · split <;> simp
  · split
    · simp
    · split <;> simp

theorem marked_ne_comment (kind : TokenKind) (body : List Char) (base : Option Nat) :
    marked x kind body base ≠ .ok (.comment, width) := by
  unfold marked
  dsimp only
  split
  · simp
  · split <;> simp

theorem marked?_ne_comment {cs : List Char} : marked? x cs ≠ some (.ok (.comment, width)) := by
  unfold marked?
  split
  · split
    · split <;> simp
    · split
      · simp
      · split
        · simp [marked_ne_comment]
        · split
          · simp [marked_ne_comment]
          · split <;> simp [marked_ne_comment]
  · simp

theorem operator?_ne_comment {cs : List Char} : operator? x cs ≠ some (.comment, width) := by
  intro h
  obtain ⟨o, -, ho⟩ := List.exists_of_findSome?_eq_some h
  split at ho <;> simp at ho

theorem phrase?_ne_comment {cs : List Char} : phrase? x cs ≠ some (.comment, width) := by
  intro h
  obtain ⟨p, -, hp⟩ := List.exists_of_findSome?_eq_some h
  split at hp
  · split at hp <;> simp at hp
  · cases hp

theorem front_of_comment? {c : Char} {rest : List Char} {scan : Scan}
    (h : comment? x (c :: rest) = some scan) : c ∈ commentFronts := by
  unfold comment? at h
  split at h
  · rename_i heq; rw [(List.cons.inj heq).1]; decide
  · rename_i heq; rw [(List.cons.inj heq).1]; decide
  · rename_i heq; rw [(List.cons.inj heq).1]; decide
  · rename_i heq; rw [(List.cons.inj heq).1]; decide
  · cases h

/-- A comment begins with one of few characters. -/
theorem front_of_comment {k : Bool} {c : Char} {rest : List Char}
    (h : lexeme x k c rest = .ok (.comment, width)) : c ∈ commentFronts := by
  unfold lexeme at h
  dsimp only at h
  split at h
  · cases h
  split at h
  · exact absurd (Except.ok.inj h) (number_ne_comment k _)
  split at h
  · split at h <;> cases h
  split at h
  · split at h <;> cases h
  split at h
  · exact absurd h (dollar_ne_comment _)
  split at h
  · rename_i scan hmarked
    exact absurd (h ▸ hmarked) marked?_ne_comment
  split at h
  · rename_i found hoperator
    exact absurd (Except.ok.inj h ▸ hoperator) operator?_ne_comment
  split at h
  · rename_i scan hcomment
    exact front_of_comment? hcomment
  split at h
  · rename_i found hphrase
    exact absurd (Except.ok.inj h ▸ hphrase) phrase?_ne_comment
  split at h <;> cases h

end Sql.Lexer

/-! ## The pattern on the text -/

/-- A comment is in the way of every word. -/
theorem not_word_of_front {c : Char} (h : c ∈ commentFronts) :
    Text.isBlank c = false ∧ c.toUpper = c ∧ c ≠ 'C' ∧ c ≠ 'T' := by
  simp only [commentFronts, List.mem_cons, List.not_mem_nil, or_false] at h
  rcases h with rfl | rfl | rfl | rfl <;> decide

/-- Without a comment a gap is nothing but blanks. -/
theorem Gap.dropWhile_of_plain {x : Lexis} {cs out : List Char} (h : Gap x false cs out)
    (hout : ∀ c ∈ out.head?, Text.isBlank c = false) : cs.dropWhile Text.isBlank = out := by
  generalize hk : false = k at h
  induction h with
  | done out =>
    cases out with
    | nil => rfl
    | cons c out => rw [List.dropWhile_cons, if_neg (by simp [hout c rfl])]
  | blank hc _ ih =>
    rw [List.dropWhile_cons, if_pos hc]
    exact ih hout hk
  | comment => cases hk

/-- With a comment the first character that is no blank begins one. -/
theorem Gap.dropWhile_of_commented {x : Lexis} {cs out : List Char} (h : Gap x true cs out) :
    ∃ c rest, cs.dropWhile Text.isBlank = c :: rest ∧ c ∈ commentFronts := by
  generalize hk : true = k at h
  induction h with
  | done => cases hk
  | blank hc _ ih =>
    rw [List.dropWhile_cons, if_pos hc]
    exact ih hk
  | @comment k c rest out width hlex _ _ =>
    have hfront := Sql.Lexer.front_of_comment hlex
    refine ⟨c, rest, ?_, hfront⟩
    rw [List.dropWhile_cons, if_neg (by simp [(not_word_of_front hfront).1])]

/-- A gap stands in front of what follows it. -/
theorem Gap.suffix {x : Lexis} {k : Bool} {cs out : List Char} (h : Gap x k cs out) :
    out <:+ cs := by
  induction h with
  | done out => exact List.suffix_refl out
  | @blank _ c _ _ _ _ ih => exact ih.trans (List.suffix_cons c _)
  | @comment _ c rest _ width _ _ ih =>
    exact (ih.trans (List.drop_suffix (width - 1) rest)).trans (List.suffix_cons c rest)

/-- A word stands where its first letter does. -/
theorem Spelled.head {x : Lexis} {word : String} {cs rest : List Char} {u : Char} {us : List Char}
    (h : Spelled x word cs rest) (hword : word.toList = u :: us) :
    ∃ c cs', cs = c :: cs' ∧ c.toUpper = u := by
  have hletters := h.letters
  rw [hword] at hletters
  cases cs with
  | nil => simp at hletters
  | cons c cs' =>
    refine ⟨c, cs', rfl, ?_⟩
    cases hlen : word.length with
    | zero => rw [hlen] at hletters; cases hletters
    | succ n =>
      rw [hlen] at hletters
      exact (List.cons.inj hletters).1

/-- Two words that differ do not stand at one place. -/
theorem letters_ne {word : String} {cs : List Char}
    (h : (cs.take word.length).map Char.toUpper = word.toList)
    (other : String) (n : Nat) (hn : n ≤ word.length) (hm : n ≤ other.length)
    (hne : word.toList.take n ≠ other.toList.take n) :
    (cs.take other.length).map Char.toUpper ≠ other.toList := by
  intro hother
  apply hne
  rw [← h, ← hother, ← List.map_take, ← List.map_take, List.take_take, List.take_take,
    Nat.min_eq_left hn, Nat.min_eq_left hm]

namespace Fragment

/-- A pattern of a word fails where a comment begins. -/
theorem not_word_at_comment {word : String} {u : Char} {us : List Char} {c : Char}
    (rest : List Char) (hword : word.toList = u :: us) (hu : u = 'C' ∨ u = 'T')
    (hc : c ∈ commentFronts) :
    afterWord? word (c :: rest) = none ∧ startsWithWord word (c :: rest) = false := by
  have hlen : word.length = us.length + 1 := by
    rw [← String.length_toList, hword, List.length_cons]
  have hfront := not_word_of_front hc
  have hno : (((c :: rest).take word.length).map Char.toUpper == word.toList) = false := by
    rw [hlen, hword, List.take_succ_cons, List.map_cons, beq_eq_false_iff_ne]
    intro heq
    have := (List.cons.inj heq).1
    rw [hfront.2.1] at this
    rcases hu with rfl | rfl
    · exact hfront.2.2.1 this
    · exact hfront.2.2.2 this
  unfold afterWord? startsWithWord
  rw [hno, if_neg Bool.false_ne_true, Bool.false_and]
  exact ⟨rfl, rfl⟩

/-- After a word comes what follows the blanks, if there is a blank. -/
theorem afterWord?_of_spelled {x : Lexis} {word : String} {cs rest : List Char}
    (h : Spelled x word cs rest) :
    afterWord? word cs =
      if rest.head?.any Text.isBlank then some (rest.dropWhile Text.isBlank) else none := by
  unfold afterWord?
  rw [h.letters, if_pos (by simp), h.after]
  cases rest with
  | nil => rfl
  | cons c rest =>
    by_cases hc : Text.isBlank c = true <;> simp [hc]

/-- After a gap of blanks the next word is found. -/
theorem afterWord?_of_plain {x : Lexis} {word next : String} {u : Char} {us cs rest out later :
    List Char} (h : Spelled x word cs rest) (hgap : Gap x false rest out)
    (hnext : Spelled x next out later) (hu : next.toList = u :: us)
    (hcontinues : ∀ c : Char, c.toUpper = u → x.continuesWord c = true ∧ Text.isBlank c = false) :
    afterWord? word cs = some out := by
  obtain ⟨c, out', rfl, hc⟩ := hnext.head hu
  have hdrop := hgap.dropWhile_of_plain (fun b hb => by
    cases hb
    exact (hcontinues c hc).2)
  rw [afterWord?_of_spelled h, hdrop]
  cases hgap with
  | done =>
    -- the words would be one
    have := h.ends c rfl
    rw [(hcontinues c hc).1] at this
    cases this
  | blank hb _ => exact if_pos hb

/-- After a gap with a comment nothing is found, or the comment. -/
theorem afterWord?_of_commented {x : Lexis} {word : String} {cs rest out : List Char}
    (h : Spelled x word cs rest) (hgap : Gap x true rest out) :
    afterWord? word cs = none ∨
      ∃ c later, afterWord? word cs = some (c :: later) ∧ c ∈ commentFronts := by
  obtain ⟨c, later, hdrop, hc⟩ := hgap.dropWhile_of_commented
  rw [afterWord?_of_spelled h, hdrop]
  split
  · exact .inr ⟨c, later, rfl, hc⟩
  · exact .inl rfl

theorem startsWithWord_of_spelled {d : Dialect} {word : String} {cs rest : List Char}
    (h : Spelled (Lexis.of d) word cs rest) : startsWithWord word cs = true := by
  unfold startsWithWord
  rw [h.letters, h.after]
  cases rest with
  | nil => simp
  | cons c rest => simp [isWordChar_of_not_continuesWord (h.ends c rfl)]

end Fragment

/-! ## Letters of the words -/

/-- A character is its capital or the small letter to it. -/
theorem eq_or_of_toUpper {c u : Char} (h : c.toUpper = u) :
    c = u ∨ c = Char.ofNat (u.toNat + 32) := by
  unfold Char.toUpper at h
  split at h
  · rename_i hsmall
    have hlow : 97 ≤ c.val.toNat := hsmall.1
    have hhigh : c.val.toNat ≤ 122 := hsmall.2
    have hval : u.val = c.val + ('A'.val - 'a'.val) := by rw [← h]
    have hcode : u.toNat = (c.val.toNat + ('A'.val - 'a'.val).toNat) % 2 ^ 32 := by
      rw [← UInt32.toNat_add, ← hval]
      rfl
    rw [show ('A'.val - 'a'.val).toNat = 2 ^ 32 - 32 by decide] at hcode
    have hnat : u.toNat + 32 = c.toNat := by
      show u.toNat + 32 = c.val.toNat
      omega
    exact .inr (by rw [hnat, Char.ofNat_toNat])
  · exact .inl h

/-- The letters of the words are below 128. -/
theorem letter_lt {u : Char} (hu : u ∈ "CREATMPOYBL".toList) : u.toNat < 128 := by
  have hall : ("CREATMPOYBL".toList.all fun u => u.toNat < 128) = true := by decide
  simpa using List.all_eq_true.mp hall u hu

/-- The letters of the words are no blanks and go on with a word. -/
theorem continuesWord_of_letter {d : Dialect} {u c : Char} (hu : u ∈ "CREATMPOYBL".toList)
    (hc : c.toUpper = u) :
    (Lexis.of d).continuesWord c = true ∧ Text.isBlank c = false := by
  have hall : ("CREATMPOYBL".toList.all fun u => [u, Char.ofNat (u.toNat + 32)].all fun c =>
      (Lexis.of d).continuesWord c && !Text.isBlank c) = true := by
    cases d <;> decide
  have hmem : c ∈ [u, Char.ofNat (u.toNat + 32)] := by
    simpa using eq_or_of_toUpper hc
  simpa using List.all_eq_true.mp (List.all_eq_true.mp hall u hu) c hmem

/-! ## The pattern and the gaps -/

/-- What a pattern can not go on from: nothing, or a comment. -/
def Blocked (left : Option (List Char)) : Prop :=
  left = none ∨ ∃ c rest, left = some (c :: rest) ∧ c ∈ commentFronts

/-- What the pattern finds after `CREATE`, by the gaps around it. -/
theorem afterWord?_create {d : Dialect} {a b : Bool} {cs cs₁ cs₂ cs₃ later us : List Char}
    {next : String} (hgap : Gap (Lexis.of d) a cs cs₁)
    (hcreate : Spelled (Lexis.of d) "CREATE" cs₁ cs₂) (hgap' : Gap (Lexis.of d) b cs₂ cs₃)
    (hnext : Spelled (Lexis.of d) next cs₃ later) (hword : next.toList = 'T' :: us) :
    if a || b then Blocked (Fragment.afterWord? "CREATE" (cs.dropWhile Text.isBlank))
    else Fragment.afterWord? "CREATE" (cs.dropWhile Text.isBlank) = some cs₃ := by
  have hletters : "CREATE".toList = 'C' :: "REATE".toList := by decide
  -- the first gap with a comment is where the pattern stops
  cases a with
  | true =>
    obtain ⟨c, rest, hdrop, hc⟩ := hgap.dropWhile_of_commented
    rw [hdrop, if_pos (by rfl)]
    exact .inl (Fragment.not_word_at_comment rest hletters (.inl rfl) hc).1
  | false =>
    obtain ⟨c, cs', rfl, hc⟩ := hcreate.head hletters
    have hdrop := hgap.dropWhile_of_plain fun b hb => by
      cases hb
      exact (continuesWord_of_letter (d := d) (by decide) hc).2
    rw [hdrop]
    cases b with
    | true => exact Fragment.afterWord?_of_commented hcreate hgap'
    | false =>
      exact Fragment.afterWord?_of_plain hcreate hgap' hnext hword
        fun c hc => continuesWord_of_letter (by decide) hc

/-- A pattern of the words that is blocked after the first of them fails. -/
theorem not_announced_of_blocked {f : String}
    (h : Blocked (Fragment.afterWord? "CREATE" (f.toList.dropWhile Text.isBlank))) :
    Fragment.announcesTable f = false := by
  unfold Fragment.announcesTable
  rcases h with hnone | ⟨c, rest, hsome, hc⟩
  · rw [hnone]
  · have htemporary := Fragment.not_word_at_comment rest
      (show "TEMPORARY".toList = 'T' :: "EMPORARY".toList by decide) (.inr rfl) hc
    have htable := Fragment.not_word_at_comment rest
      (show "TABLE".toList = 'T' :: "ABLE".toList by decide) (.inr rfl) hc
    simp only [hsome, htemporary.1, Option.getD_none, htable.2]

/-- After `CREATE` the pattern looks for the other words. -/
theorem announcesTable_of_create {f : String} {cs : List Char}
    (h : Fragment.afterWord? "CREATE" (f.toList.dropWhile Text.isBlank) = some cs) :
    Fragment.announcesTable f =
      Fragment.startsWithWord "TABLE" ((Fragment.afterWord? "TEMPORARY" cs).getD cs) := by
  unfold Fragment.announcesTable
  rw [h]

/-- The pattern finds the words exactly where no gap before the last of them holds a comment. -/
theorem announcesTable_eq {d : Dialect} {k : Bool} {f : String}
    (h : OpensTable (Lexis.of d) k f.toList) : Fragment.announcesTable f = !k := by
  have htable : "TABLE".toList = 'T' :: "ABLE".toList := by decide
  have htemporary : "TEMPORARY".toList = 'T' :: "EMPORARY".toList := by decide
  cases h with
  | @plain a b _ cs₁ cs₂ cs₃ rest hgap hcreate hgap' hword =>
    have hleft := afterWord?_create hgap hcreate hgap' hword htable
    cases hk : a || b with
    | true =>
      rw [hk, if_pos rfl] at hleft
      exact not_announced_of_blocked hleft
    | false =>
      rw [hk, if_neg Bool.false_ne_true] at hleft
      -- `TABLE` is not taken for `TEMPORARY`: the second letters differ
      have hno : Fragment.afterWord? "TEMPORARY" cs₃ = none := by
        unfold Fragment.afterWord?
        rw [if_neg]
        simpa using letters_ne hword.letters "TEMPORARY" 2 (by decide) (by decide) (by decide)
      rw [announcesTable_of_create hleft, hno]
      exact Fragment.startsWithWord_of_spelled hword
  | @temporary a b c _ cs₁ cs₂ cs₃ cs₄ cs₅ rest hgap hcreate hgap' htemp hgap'' hword =>
    have hleft := afterWord?_create hgap hcreate hgap' htemp htemporary
    cases hk : a || b with
    | true =>
      rw [hk, if_pos rfl] at hleft
      exact not_announced_of_blocked hleft
    | false =>
      rw [hk, if_neg Bool.false_ne_true] at hleft
      rw [Bool.false_or, announcesTable_of_create hleft]
      cases c with
      | false =>
        rw [Fragment.afterWord?_of_plain htemp hgap'' hword htable
          fun c hc => continuesWord_of_letter (by decide) hc]
        exact Fragment.startsWithWord_of_spelled hword
      | true =>
        -- without the gap `TEMPORARY` is tried as `TABLE`, behind it the comment is
        rcases Fragment.afterWord?_of_commented htemp hgap'' with hnone | ⟨c, later, hsome, hc⟩
        · rw [hnone]
          unfold Fragment.startsWithWord
          rw [Option.getD_none, Bool.not_true, Bool.and_eq_false_iff]
          left
          simpa using letters_ne htemp.letters "TABLE" 2 (by decide) (by decide) (by decide)
        · rw [hsome]
          exact (Fragment.not_word_at_comment later htable (.inr rfl) hc).2

/-- A text that opens with the words is not blank. -/
theorem OpensTable.not_blank {d : Dialect} {k : Bool} {f : String}
    (h : OpensTable (Lexis.of d) k f.toList) : Text.isBlankText f = false := by
  obtain ⟨a, cs₁, cs₂, hgap, hcreate⟩ := h.create
  obtain ⟨c, cs', rfl, hc⟩ := hcreate.head (show "CREATE".toList = 'C' :: "REATE".toList by decide)
  have hmem : c ∈ f.toList := hgap.suffix.subset List.mem_cons_self
  unfold Text.isBlankText
  rw [← Bool.not_eq_true, List.all_eq_true]
  intro hall
  have := hall c hmem
  rw [(continuesWord_of_letter (d := d) (by decide) hc).2] at this
  cases this

/-! ## The tokens -/

namespace Sql.Lexer

/-- No gap gives a token. -/
theorem run_gap {x : Lexis} {k : Bool} {cs out : List Char} (h : Gap x k cs out) :
    ∀ (fuel : Nat) (passed : Passed) (start : Nat), passed.parameter = false →
      cs.length ≤ fuel → ∃ fuel' passed' start', passed'.parameter = false ∧
        out.length ≤ fuel' ∧ run x fuel passed start cs = run x fuel' passed' start' out := by
  induction h with
  | done out =>
    intro fuel passed start hpassed hfuel
    exact ⟨fuel, passed, start, hpassed, hfuel, rfl⟩
  | @blank k c rest out hc _ ih =>
    intro fuel passed start hpassed hfuel
    cases fuel with
    | zero => cases hfuel
    | succ fuel =>
      have hlex : lexeme x passed.parameter c rest = .ok (.blank, 1) := by
        unfold lexeme
        rw [if_pos hc]
      obtain ⟨fuel', passed', start', hpassed', hfuel', hrun⟩ :=
        ih fuel { passed with sameLine := passed.sameLine && !Text.isBreak c } (start + 1) hpassed
          (by simpa using hfuel)
      refine ⟨fuel', passed', start', hpassed', hfuel', ?_⟩
      rw [← hrun, run, hlex]
      rfl
  | @comment k c rest out width hlex _ ih =>
    intro fuel passed start hpassed hfuel
    cases fuel with
    | zero => cases hfuel
    | succ fuel =>
      rw [← hpassed] at hlex
      obtain ⟨fuel', passed', start', hpassed', hfuel', hrun⟩ :=
        ih fuel { passed with comment := passed.comment || !passed.sameLine }
          (start + max width 1) hpassed (by
            rw [List.length_cons] at hfuel
            rw [List.length_drop]
            omega)
      refine ⟨fuel', passed', start', hpassed', hfuel', ?_⟩
      rw [← hrun, run, hlex]
      show run x fuel _ _ (rest.drop (max width 1 - 1)) = _
      rw [show max width 1 - 1 = width - 1 by omega]

/-- No operator begins like `CREATE`. -/
theorem operator?_create {d : Dialect} {c : Char} {rest : List Char} (h : c.toUpper = 'C') :
    operator? (Lexis.of d) (c :: rest) = none := by
  have hoperators : ((Lexis.of d).operators.all fun o =>
      o.1.toList.head?.any fun f => f != 'C' && f != 'c') = true := by
    cases d <;> decide
  refine List.findSome?_eq_none_iff.mpr fun o ho => ?_
  have hfront := List.all_eq_true.mp hoperators o ho
  cases hchars : o.1.toList with
  | nil => rw [hchars] at hfront; cases hfront
  | cons f chars =>
    rw [hchars] at hfront
    simp only [List.head?_cons, Option.any_some, Bool.and_eq_true, bne_iff_ne] at hfront
    rw [List.isPrefixOf, if_neg]
    rcases eq_or_of_toUpper h with rfl | rfl <;> simp [hfront]

theorem phraseWidth?_cons {p c : Char} (hp : p ≠ ' ') (ps cs : List Char) :
    phraseWidth? (p :: ps) (c :: cs) =
      if Text.upperChar c == [p] then (phraseWidth? ps cs).map (· + 1) else none := by
  rw [phraseWidth?]
  intro heq
  exact hp heq

/-- No phrase begins like `CREATE`. -/
theorem phrase?_create {d : Dialect} {c₁ c₂ : Char} {rest : List Char} (h₁ : c₁.toUpper = 'C')
    (h₂ : c₂.toUpper = 'R') : phrase? (Lexis.of d) (c₁ :: c₂ :: rest) = none := by
  have hphrases : (((Lexis.of d).phrases ++ Lexis.signedPhrases).all fun p =>
      (p.toList.take 2).length == 2 && !(p.toList.take 2).contains ' ' &&
        p.toList.take 2 != ['C', 'R']) = true := by
    cases d <;> decide
  refine List.findSome?_eq_none_iff.mpr fun p hp => ?_
  have hfront := List.all_eq_true.mp hphrases p hp
  have hnone : phraseWidth? p.toList (c₁ :: c₂ :: rest) = none := by
    simp only [Bool.and_eq_true, beq_iff_eq, bne_iff_ne, Bool.not_eq_true'] at hfront
    obtain ⟨⟨hlength, hblank⟩, hdiffer⟩ := hfront
    cases hchars : p.toList with
    | nil => simp [hchars] at hlength
    | cons p₁ chars =>
      cases chars with
      | nil => simp [hchars] at hlength
      | cons p₂ chars =>
        simp only [hchars, List.take_succ_cons, List.take_zero] at hblank hdiffer
        have hp₁ : p₁ ≠ ' ' := by rintro rfl; simp at hblank
        have hp₂ : p₂ ≠ ' ' := by rintro rfl; simp at hblank
        rw [phraseWidth?_cons hp₁, phraseWidth?_cons hp₂, Text.upperChar_of_toUpper (by decide) h₁,
          Text.upperChar_of_toUpper (by decide) h₂]
        by_cases hc : p₁ = 'C'
        · have hr : 'R' ≠ p₂ := by rintro rfl; exact hdiffer (by rw [hc])
          simp [hr]
        · simp [Ne.symm hc]
  rw [hnone]

/-- Two letters like those of `CREATE` begin a word. -/
theorem lexeme_of_create {d : Dialect} {k : Bool} {c₁ c₂ : Char} {rest : List Char}
    (h₁ : c₁.toUpper = 'C') (h₂ : c₂.toUpper = 'R') :
    lexeme (Lexis.of d) k c₁ (c₂ :: rest) = .ok (word (Lexis.of d) k c₁ (c₂ :: rest)) := by
  have hc : c₁ = 'C' ∨ c₁ = 'c' := eq_or_of_toUpper h₁
  have hmarked : marked? (Lexis.of d) (c₁ :: c₂ :: rest) = none := by
    unfold marked?
    rcases hc with rfl | rfl <;> simp
  have hcomment : comment? (Lexis.of d) (c₁ :: c₂ :: rest) = none := by
    unfold comment?
    rcases hc with rfl | rfl <;> rfl
  unfold lexeme
  dsimp only
  rw [hmarked, operator?_create h₁, hcomment, phrase?_create h₁ h₂]
  rcases hc with rfl | rfl <;> cases d <;> rfl

/-- The word `CREATE` is read as the keyword. -/
theorem lexeme_create {d : Dialect} {cs out : List Char}
    (h : Spelled (Lexis.of d) "CREATE" cs out) :
    ∃ c rest text width, cs = c :: rest ∧
      lexeme (Lexis.of d) false c rest = .ok (.token (.keyword .create) text, width) := by
  -- the six letters are taken off one by one, to see the word as the lexer does
  have hsplit : cs = cs.take 6 ++ out := by
    rw [← h.after]
    exact (List.take_append_drop 6 cs).symm
  have hletters : (cs.take 6).map Char.toUpper = ['C', 'R', 'E', 'A', 'T', 'E'] := h.letters
  generalize cs.take 6 = own at hsplit hletters
  obtain ⟨c₁, own, rfl, h₁, hletters⟩ := List.map_eq_cons_iff.mp hletters
  obtain ⟨c₂, own, rfl, h₂, hletters⟩ := List.map_eq_cons_iff.mp hletters
  have hown : (c₁ :: c₂ :: own).map Char.toUpper = "CREATE".toList := by
    rw [List.map_cons, List.map_cons, h₁, h₂, hletters]
    decide
  have hletter : ∀ u ∈ "CREATE".toList, u ∈ "CREATMPOYBL".toList := by
    intro u hu
    have hall : "CREATE".toList.all "CREATMPOYBL".toList.contains = true := by decide
    simpa using List.all_eq_true.mp hall u hu
  have hcontinues : ∀ c ∈ c₁ :: c₂ :: own, (Lexis.of d).continuesWord c = true := by
    intro c hc
    have hu : c.toUpper ∈ "CREATE".toList := hown ▸ List.mem_map_of_mem hc
    exact (continuesWord_of_letter (hletter _ hu) rfl).1
  have hout : out.takeWhile (Lexis.of d).continuesWord = [] := by
    cases out with
    | nil => rfl
    | cons c out => rw [List.takeWhile_cons, if_neg (by simp [h.ends c rfl])]
  have hwritten : c₁ :: (c₂ :: (own ++ out)).takeWhile (Lexis.of d).continuesWord =
      c₁ :: c₂ :: own := by
    rw [← List.cons_append, List.takeWhile_append_of_pos
      fun c hc => hcontinues c (List.mem_cons_of_mem c₁ hc), hout, List.append_nil]
  have hkind : (Lexis.of d).wordKind "CREATE" = .keyword .create := by
    cases d <;> decide
  have hupper := Text.upper_of_toUpper "CREATE" (fun u hu => letter_lt (hletter u hu)) hown
  refine ⟨c₁, c₂ :: (own ++ out), String.ofList (c₁ :: c₂ :: own),
    (String.ofList (c₁ :: c₂ :: own)).length, hsplit, ?_⟩
  rw [lexeme_of_create h₁ h₂, word]
  simp only [hwritten, hupper, hkind]
  rfl

/-- The tokens of a text that begins with `CREATE` begin with the keyword. -/
theorem head_run {d : Dialect} {k : Bool} {cs cs₁ cs₂ : List Char} {ts : List Token}
    (hgap : Gap (Lexis.of d) k cs cs₁) (hcreate : Spelled (Lexis.of d) "CREATE" cs₁ cs₂)
    (hrun : run (Lexis.of d) cs.length {} 0 cs = .ok ts) :
    ∃ t later, ts = t :: later ∧ t.kind = .keyword .create := by
  obtain ⟨fuel, passed, start, hpassed, hfuel, heq⟩ :=
    run_gap hgap cs.length {} 0 rfl (Nat.le_refl _)
  rw [heq] at hrun
  obtain ⟨c, rest, text, width, rfl, hlex⟩ := lexeme_create hcreate
  cases fuel with
  | zero => cases hfuel
  | succ fuel =>
    rw [run, hpassed, hlex] at hrun
    change (run (Lexis.of d) fuel _ _ _ >>= _) = _ at hrun
    cases hlater : run (Lexis.of d) fuel ⟨TokenKind.keyword .create == .sign .at, true, false⟩
        (start + max width 1) (rest.drop (max width 1 - 1)) with
    | error e => rw [hlater] at hrun; cases hrun
    | ok later =>
      rw [hlater] at hrun
      cases hrun
      exact ⟨_, later, rfl, rfl⟩

/-- A statement that creates something is not kept as text. -/
theorem head_keepAsText (x : Lexis) (cs : List Char) {t : Token} (rest : List Token) (fuel : Nat)
    (first : Bool) (ht : t.kind = .keyword .create) :
    ∃ later, keepAsText x cs fuel first (t :: rest) = t :: later := by
  cases fuel with
  | zero => exact ⟨rest, rfl⟩
  | succ fuel =>
    rw [keepAsText, ht]
    have hopens : Keyword.create.isOpaque x.dialect = false := rfl
    simp only [hopens, Bool.and_false, Bool.false_and, Bool.false_eq_true, if_false]
    exact ⟨_, rfl⟩

end Sql.Lexer

/-- The tokens of a fragment that opens with the words begin with the keyword. -/
theorem OpensTable.head_tokens {d : Dialect} {k : Bool} {f : String} {ts : List Token}
    (h : OpensTable (Lexis.of d) k f.toList) (hts : tokens d f = .ok ts) :
    ∃ t later, ts = t :: later ∧ t.kind = .keyword .create := by
  obtain ⟨a, cs₁, cs₂, hgap, hcreate⟩ := h.create
  unfold tokens at hts
  cases hrun : Lexer.run (Lexis.of d) f.toList.length {} 0 f.toList with
  | error e => simp only [hrun] at hts; cases hts
  | ok found =>
    simp only [hrun] at hts
    obtain ⟨t, rest, rfl, ht⟩ := Lexer.head_run hgap hcreate hrun
    obtain ⟨later, hkept⟩ := Lexer.head_keepAsText (Lexis.of d) f.toList rest
      (t :: rest).length true ht
    change Except.ok (Lexer.keepAsText _ _ _ _ _) = Except.ok ts at hts
    rw [hkept] at hts
    cases hts
    exact ⟨t, later, rfl, ht⟩

end TableDoc
