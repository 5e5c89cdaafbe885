import Mathlib.Data.List.Forall2
import TableDoc.Proofs.DefaultExtent
import TableDoc.Proofs.IndexWording

/-!
# Contents in quotes

Whether what stands in quotes is ever taken for a word. The scans of an entry look for words among
tokens that are not quoted, but only plain texts and names count as quoted: other literals, such as
national texts, are read like words.

* **two runs** — the scans of two entries do the same where their tokens are alike, that is where
  the scans take them for the same words (`defaultRange?_alike`, `indexWording?_alike`);
* **contexts** — tokens that can stand for each other in every entry are alike
  (`Interchangeable.sameWords`);
* **contents** — hence the content of a literal is never seen exactly where its kind counts as
  quoted or its contents are taken for the same words (`contents_unseen_iff`).
-/

namespace TableDoc

open Sql

namespace Declaration

/-! ## Literals and words -/

/-- The kinds of token that count as quoted. -/
def quotedKinds : List TokenKind := [.text, .quotedName]

/-- The kinds of token that can be written in quotes. -/
def literalKinds : List TokenKind :=
  quotedKinds ++ [.nationalText, .byteText, .dollarText, .hexText, .bitText]

theorem isQuoted_iff {t : Token} : t.isQuoted = true ↔ t.kind ∈ quotedKinds := by
  simp [Token.isQuoted, quotedKinds]

/-- No literal is a parenthesis. -/
theorem step_of_literal {t : Token} (h : t.kind ∈ literalKinds) : t.step = 0 := by
  have hnoSign : ∀ s, t.isSign s = false := by
    intro s
    simp only [Token.isSign, beq_eq_false_iff_ne]
    rintro hkind
    simp [hkind, literalKinds, quotedKinds] at h
  exact Token.step_other (hnoSign .lParen) (hnoSign .rParen)

/-- The words that the scans of an entry look for, those that have the same effect together. -/
def soughtWords : List (List String) :=
  [["DEFAULT"], defaultTerminators, ["CHARACTER"], ["SET"], ["CONSTRAINT"], indexWords,
    indexPrefixes, definingWords]

/-- Two contents that are taken for the same words, and shown alike where words are shown. -/
structure SameWords (a b : String) : Prop where
  sought : ∀ words ∈ soughtWords, words.contains (Text.upper a) = words.contains (Text.upper b)
  shown : Text.upper a ∈ indexPrefixes ++ indexWords → Text.lower a = Text.lower b

theorem SameWords.refl (a : String) : SameWords a a := ⟨fun _ _ => rfl, fun _ => rfl⟩

/-- Two tokens that the scans of an entry can not tell apart. -/
structure Alike (t u : Token) : Prop where
  step : t.step = u.step
  quoted : t.isQuoted = u.isQuoted
  words : t.isQuoted = false → SameWords t.text u.text

/-! ## Two runs -/

section

variable {t u : Token} {ts us : List Token}

theorem Alike.isOneOf (h : Alike t u) (words : List String) (hwords : words ∈ soughtWords) :
    isOneOf words t = isOneOf words u := by
  unfold Declaration.isOneOf
  rw [← h.quoted]
  cases hq : t.isQuoted with
  | true => rfl
  | false => exact congrArg _ ((h.words hq).sought words hwords)

theorem Alike.startsDefault (h : Alike t u) : startsDefault t = startsDefault u := by
  unfold Declaration.startsDefault
  rw [h.step, h.isOneOf _ (by simp [soughtWords])]

theorem startsAttribute_alike (h : List.Forall₂ Alike ts us) :
    startsAttribute ts = startsAttribute us := by
  cases h with
  | nil => rfl
  | cons ht hrest =>
    have hnext : ∀ {vs ws : List Token}, List.Forall₂ Alike vs ws →
        vs.head?.any (isOneOf ["SET"]) = ws.head?.any (isOneOf ["SET"]) := by
      intro vs ws hvs
      cases hvs with
      | nil => rfl
      | cons hv _ => exact hv.isOneOf _ (by simp [soughtWords])
    rw [startsAttribute, startsAttribute, ht.step,
      ht.isOneOf defaultTerminators (by simp [soughtWords]),
      ht.isOneOf ["CHARACTER"] (by simp [soughtWords]), hnext hrest]

theorem afterDefault?_alike (h : List.Forall₂ Alike ts us) :
    ∀ k, Option.Rel (List.Forall₂ Alike) (afterDefault? k ts) (afterDefault? k us) := by
  induction h with
  | nil =>
    intro k
    exact .none
  | cons ht hrest ih =>
    intro k
    rw [afterDefault?, afterDefault?, ht.startsDefault, ht.step]
    split
    · exact .some hrest
    · exact ih _

theorem upToAttribute_alike (h : List.Forall₂ Alike ts us) :
    ∀ k, List.Forall₂ Alike (upToAttribute k ts) (upToAttribute k us) := by
  induction h with
  | nil =>
    intro k
    exact .nil
  | cons ht hrest ih =>
    intro k
    rw [upToAttribute, upToAttribute, startsAttribute_alike (.cons ht hrest), ht.step]
    split
    · exact .nil
    · exact .cons ht (ih _)

/-- Entries of tokens that are alike have their defaults at the same places. -/
theorem defaultRange?_alike {D D' : Declaration} (h : List.Forall₂ Alike D.tokens D'.tokens) :
    D.defaultRange? = D'.defaultRange? := by
  rw [defaultRange?_eq, defaultRange?_eq, defaultRun, defaultRun, h.length_eq]
  have hafter := afterDefault?_alike h 0
  generalize afterDefault? 0 D.tokens = found at hafter
  generalize afterDefault? 0 D'.tokens = found' at hafter
  cases hafter with
  | none => rfl
  | some hq =>
    cases hq with
    | nil => rfl
    | @cons x x' _ _ hx hq =>
      have hrun := (upToAttribute_alike hq x'.step).length_eq
      simp only [Option.bind_some, List.isEmpty_cons, List.length_cons, hq.length_eq, hx.step, hrun]

theorem wordsAfterName_alike {D D' : Declaration} (h : List.Forall₂ Alike D.tokens D'.tokens) :
    List.Forall₂ Alike D.wordsAfterName D'.wordsAfterName := by
  have hfilter : List.Forall₂ Alike (D.tokens.filter (!·.isQuoted))
      (D'.tokens.filter (!·.isQuoted)) :=
    List.rel_filter (fun t u htu => by simp [htu.quoted]) h
  unfold wordsAfterName
  revert hfilter
  generalize D.tokens.filter (!·.isQuoted) = ws
  generalize D'.tokens.filter (!·.isQuoted) = ws'
  intro hws
  cases hws with
  | nil => exact .nil
  | cons hfirst hrest =>
    dsimp only
    rw [hfirst.isOneOf ["CONSTRAINT"] (by simp [soughtWords])]
    split
    · cases hrest with
      | nil => exact .nil
      | cons hname hlater =>
        dsimp only
        rw [hname.isOneOf definingWords (by simp [soughtWords])]
        split
        · exact .cons hname hlater
        · exact hlater
    · exact .cons hfirst hrest

/-- The words that are shown are shown alike. -/
theorem Alike.lower_eq (h : Alike t u)
    (ht : Declaration.isOneOf indexWords t = true ∨ Declaration.isOneOf indexPrefixes t = true) :
    Text.lower t.text = Text.lower u.text := by
  have hquoted : t.isQuoted = false := ht.elim isQuoted_of_isOneOf isQuoted_of_isOneOf
  refine (h.words hquoted).shown ?_
  simp only [Declaration.isOneOf, Bool.and_eq_true, List.contains_iff_mem] at ht
  exact List.mem_append.mpr (ht.symm.imp And.right And.right)

theorem secondWord_alike (h : List.Forall₂ Alike ts us) : secondWord ts = secondWord us := by
  cases h with
  | nil => rfl
  | cons ht _ =>
    have hsame := ht.isOneOf indexWords (by simp [soughtWords])
    cases hword : isOneOf indexWords _ with
    | true =>
      rw [hword] at hsame
      rw [secondWord_of_index hword, secondWord_of_index hsame.symm, ht.lower_eq (.inl hword)]
    | false =>
      rw [hword] at hsame
      rw [secondWord_of_other hword, secondWord_of_other hsame.symm]

/-- Entries of tokens that are alike have the same wording. -/
theorem indexWording?_alike {D D' : Declaration} (h : List.Forall₂ Alike D.tokens D'.tokens) :
    D.indexWording? = D'.indexWording? := by
  have hwords := wordsAfterName_alike h
  generalize hws : D.wordsAfterName = ws at hwords
  generalize hws' : D'.wordsAfterName = ws' at hwords
  cases hwords with
  | nil => rw [indexWording?_of_none hws, indexWording?_of_none hws']
  | cons hfirst hrest =>
    rw [indexWording?_eq hws, indexWording?_eq hws', ← secondWord_alike hrest,
      ← hfirst.isOneOf indexWords (by simp [soughtWords]),
      ← hfirst.isOneOf indexPrefixes (by simp [soughtWords])]
    split
    · rename_i hindex
      rw [hfirst.lower_eq (.inl hindex)]
    · split
      · rename_i hworded
        rw [hfirst.lower_eq (.inr hworded)]
      · rfl

end

/-! ## Contexts -/

/-- In every entry the one token can stand for the other. -/
def Interchangeable (t u : Token) : Prop :=
  ∀ pre post,
    (⟨pre ++ t :: post⟩ : Declaration).defaultRange? =
      (⟨pre ++ u :: post⟩ : Declaration).defaultRange? ∧
    (⟨pre ++ t :: post⟩ : Declaration).indexWording? =
      (⟨pre ++ u :: post⟩ : Declaration).indexWording?

/-- A token that is a word. -/
def wordToken (w : String) : Token := ⟨.word, w, 0, 1, false⟩

section

variable {t u : Token}

theorem Interchangeable.symm (h : Interchangeable t u) : Interchangeable u t :=
  fun pre post => ⟨(h pre post).1.symm, (h pre post).2.symm⟩

/-- A default shows where the token stands for its word. -/
theorem defaultRange?_pair (ht : t.step = 0) :
    (⟨[t, wordToken "X"]⟩ : Declaration).defaultRange?.isSome = isOneOf ["DEFAULT"] t := by
  have hx : startsDefault (wordToken "X") = false := by decide
  rw [defaultRange?_eq, afterDefault?, afterDefault?, afterDefault?, hx]
  simp only [startsDefault, ht]
  cases isOneOf ["DEFAULT"] t <;> simp

/-- Where a default ends shows what the tokens behind its first one stand for. -/
theorem defaultRange?_behind (q : List Token) :
    (⟨wordToken "DEFAULT" :: wordToken "X" :: q⟩ : Declaration).defaultRange? =
      some (1, 2 + (upToAttribute 0 q).length) := by
  have hw : startsDefault (wordToken "DEFAULT") = true := by decide
  have hx : (wordToken "X").step = 0 := rfl
  rw [defaultRange?_eq, defaultRun, afterDefault?, hw]
  simp [hx]
  omega

theorem upToAttribute_eq_nil_iff {q : List Token} (hq : q ≠ []) :
    (upToAttribute 0 q).length = 0 ↔ startsAttribute q = true := by
  cases q with
  | nil => exact absurd rfl hq
  | cons x q =>
    rw [upToAttribute]
    by_cases h : startsAttribute (x :: q) = true <;> simp [h]

namespace Interchangeable

/-- Tokens that can stand for each other start the same attributes. -/
theorem startsAttribute (h : Interchangeable t u) (a b : List Token) :
    startsAttribute (a ++ t :: b) = Declaration.startsAttribute (a ++ u :: b) := by
  have hrange := (h (wordToken "DEFAULT" :: wordToken "X" :: a) b).1
  rw [List.cons_append, List.cons_append, defaultRange?_behind, List.cons_append,
    List.cons_append, defaultRange?_behind] at hrange
  have hlength := (Prod.mk.inj (Option.some.inj hrange)).2
  rw [Bool.eq_iff_iff, ← upToAttribute_eq_nil_iff (by simp), ← upToAttribute_eq_nil_iff (by simp)]
  omega

/-- A token that is no parenthesis shows the words for attributes that it stands for. -/
theorem attribute_words (h : Interchangeable t u) (ht : t.step = 0) (hu : u.step = 0) :
    isOneOf defaultTerminators t = isOneOf defaultTerminators u ∧
      isOneOf ["CHARACTER"] t = isOneOf ["CHARACTER"] u ∧
      isOneOf ["SET"] t = isOneOf ["SET"] u := by
  have hset : isOneOf ["SET"] (wordToken "SET") = true := by decide
  have hcharacter : isOneOf ["CHARACTER"] (wordToken "CHARACTER") = true := by decide
  have hno : isOneOf defaultTerminators (wordToken "CHARACTER") = false := by decide
  have hstep : (wordToken "CHARACTER").step = 0 := rfl
  have hlone := h.startsAttribute [] []
  have hbefore := h.startsAttribute [] [wordToken "SET"]
  have hbehind := h.startsAttribute [wordToken "CHARACTER"] []
  simp only [List.nil_append, Declaration.startsAttribute, ht, hu, List.head?_nil, Option.any_none,
    Bool.and_false, Bool.or_false, beq_self_eq_true, Bool.true_and] at hlone
  simp only [List.nil_append, Declaration.startsAttribute, ht, hu, List.head?_cons,
    Option.any_some, hset, Bool.and_true, beq_self_eq_true, Bool.true_and] at hbefore
  simp only [List.singleton_append, Declaration.startsAttribute, hstep, List.head?_cons,
    Option.any_some, hno, hcharacter, Bool.false_or, beq_self_eq_true, Bool.true_and] at hbehind
  refine ⟨hlone, ?_, hbehind⟩
  -- no word of an attribute is also the first of two
  have hapart : ∀ {v : Token}, isOneOf ["CHARACTER"] v = true →
      isOneOf defaultTerminators v = false := isOneOf_disjoint (by decide)
  cases htc : isOneOf ["CHARACTER"] t with
  | true =>
    rw [htc, Bool.or_true, ← hlone, hapart htc, Bool.false_or] at hbefore
    exact hbefore
  | false =>
    cases huc : isOneOf ["CHARACTER"] u with
    | false => rfl
    | true =>
      rw [huc, htc, Bool.or_true, hlone, hapart huc] at hbefore
      cases hbefore

end Interchangeable

/-- The word for an index, which shows what the token before it stands for. -/
theorem index_token : isOneOf indexWords (wordToken "INDEX") = true ∧
    secondWord [wordToken "INDEX"] = "index" ∧
    ∀ v ∈ [wordToken "INDEX"], v.isQuoted = false := by
  have hword : isOneOf indexWords (wordToken "INDEX") = true := by decide
  have hlower : Text.lower (wordToken "INDEX").text = "index" := by decide
  exact ⟨hword, (secondWord_of_index hword).trans hlower, by simp; rfl⟩

theorem filter_unquoted {ts : List Token} (h : ∀ v ∈ ts, v.isQuoted = false) :
    ts.filter (!·.isQuoted) = ts :=
  List.filter_eq_self.mpr fun v hv => by simp [h v hv]

/-- Without `CONSTRAINT` a token before words shows what it stands for. -/
theorem indexWording?_of_front {q : List Token} (ht : t.isQuoted = false)
    (hc : isOneOf ["CONSTRAINT"] t = false) (hq : ∀ v ∈ q, v.isQuoted = false) :
    (⟨t :: q⟩ : Declaration).indexWording? =
      if isOneOf indexWords t then some (Text.lower t.text)
      else if isOneOf indexPrefixes t then some (Text.lower t.text ++ " " ++ secondWord q)
      else none :=
  indexWording?_eq (wordsAfterName_of_filter
    (filter_unquoted (List.forall_mem_cons.mpr ⟨ht, hq⟩)) hc)

/-- Behind `CONSTRAINT` a token shows whether it may stand where no name is given. -/
theorem wordsAfterName_behind {q : List Token} (ht : t.isQuoted = false)
    (hq : ∀ v ∈ q, v.isQuoted = false) :
    (⟨wordToken "CONSTRAINT" :: t :: q⟩ : Declaration).wordsAfterName =
      if isOneOf definingWords t then t :: q else q :=
  wordsAfterName_of_constraint
    (filter_unquoted (List.forall_mem_cons.mpr ⟨rfl, List.forall_mem_cons.mpr ⟨ht, hq⟩⟩))
    (by decide)

namespace Interchangeable

theorem wording (h : Interchangeable t u) (q : List Token) :
    (⟨t :: q⟩ : Declaration).indexWording? = (⟨u :: q⟩ : Declaration).indexWording? :=
  (h [] q).2

variable (h : Interchangeable t u) (ht : t.isQuoted = false) (hu : u.isQuoted = false)

include h ht hu

/-- The word for a constraint is passed over before a word for an index. -/
theorem constraint_word (hword : isOneOf ["CONSTRAINT"] t = true) :
    isOneOf ["CONSTRAINT"] u = true := by
  obtain ⟨hindex, hsecond, hquoted⟩ := index_token
  by_contra hother
  have hno : isOneOf ["CONSTRAINT"] u = false := by simpa using hother
  -- alone the word has no wording, so the other token stands for no word of an index
  have halone := h.wording []
  have hnone : (⟨[t]⟩ : Declaration).indexWording? = none :=
    indexWording?_of_none (by simp [Declaration.wordsAfterName, ht, hword])
  rw [hnone, indexWording?_of_front hu hno (by simp)] at halone
  have hbefore := h.wording [wordToken "INDEX"]
  have hlead := wordsAfterName_of_constraint (D := ⟨[t, wordToken "INDEX"]⟩)
    (filter_unquoted (List.forall_mem_cons.mpr ⟨ht, hquoted⟩)) hword
  rw [if_pos (by decide)] at hlead
  rw [indexWording?_of_index hlead hindex, indexWording?_of_front hu hno hquoted] at hbefore
  by_cases hi : isOneOf indexWords u = true
  · rw [if_pos hi] at halone
    cases halone
  · by_cases hp : isOneOf indexPrefixes u = true
    · rw [if_neg hi, if_pos hp] at halone
      cases halone
    · rw [if_neg hi, if_neg hp] at hbefore
      cases hbefore

/-- A token that has a wording before words is no word for a constraint. -/
theorem not_constraint {words : List String} (hword : isOneOf words t = true)
    (hwords : "CONSTRAINT" ∉ words) :
    isOneOf ["CONSTRAINT"] t = false ∧ isOneOf ["CONSTRAINT"] u = false := by
  have hno : isOneOf ["CONSTRAINT"] t = false := by
    refine isOneOf_disjoint (fun w hw => ?_) hword
    rw [List.mem_singleton]
    rintro rfl
    exact hwords hw
  refine ⟨hno, ?_⟩
  by_contra hother
  rw [h.symm.constraint_word hu ht (by simpa using hother)] at hno
  cases hno

theorem index_word (hword : isOneOf indexWords t = true) :
    isOneOf indexWords u = true ∧ Text.lower t.text = Text.lower u.text := by
  obtain ⟨-, hsecond, hquoted⟩ := index_token
  obtain ⟨hct, hcu⟩ := h.not_constraint ht hu hword (by decide)
  have halone := h.wording []
  have hbefore := h.wording [wordToken "INDEX"]
  rw [indexWording?_of_front ht hct (by simp), indexWording?_of_front hu hcu (by simp),
    if_pos hword] at halone
  rw [indexWording?_of_front ht hct hquoted, indexWording?_of_front hu hcu hquoted,
    if_pos hword, hsecond] at hbefore
  by_cases hi : isOneOf indexWords u = true
  · rw [if_pos hi] at halone
    exact ⟨hi, Option.some.inj halone⟩
  · by_cases hp : isOneOf indexPrefixes u = true
    · -- its wording would end with the word behind it
      rw [if_neg hi, if_pos hp] at halone hbefore
      exact absurd ((Option.some.inj halone).symm.trans (Option.some.inj hbefore))
        (append_key_ne_append_index _ _)
    · rw [if_neg hi, if_neg hp] at halone
      cases halone

theorem prefix_word (hword : isOneOf indexPrefixes t = true) :
    isOneOf indexPrefixes u = true ∧ Text.lower t.text = Text.lower u.text := by
  obtain ⟨hct, hcu⟩ := h.not_constraint ht hu hword (by decide)
  have hnt : isOneOf indexWords t = false := isOneOf_disjoint (by decide) hword
  have hnu : isOneOf indexWords u = false := by
    by_contra hother
    rw [(h.symm.index_word hu ht (by simpa using hother)).1] at hnt
    cases hnt
  have halone := h.wording []
  rw [indexWording?_of_front ht hct (by simp), indexWording?_of_front hu hcu (by simp),
    if_neg (by simp [hnt]), if_pos hword, if_neg (by simp [hnu])] at halone
  by_cases hp : isOneOf indexPrefixes u = true
  · rw [if_pos hp] at halone
    have hsame := Option.some.inj halone
    exact ⟨hp, append_right_cancel (append_right_cancel hsame)⟩
  · rw [if_neg hp] at halone
    cases halone

theorem defining_word (hword : isOneOf definingWords t = true) :
    isOneOf definingWords u = true := by
  obtain ⟨hindex, -, hquoted⟩ := index_token
  by_contra hother
  -- the other token is passed over like a name, so the word behind it is shown
  have hbehind := (h [wordToken "CONSTRAINT"] [wordToken "INDEX"]).2
  have hlead := wordsAfterName_behind ht hquoted
  have hlead' := wordsAfterName_behind hu hquoted
  rw [if_pos hword] at hlead
  rw [if_neg hother] at hlead'
  rw [List.singleton_append, List.singleton_append, indexWording?_of_index hlead' hindex,
    indexWording?_eq hlead] at hbehind
  by_cases hi : isOneOf indexWords t = true
  · exact hother (isOneOf_mono (by simp [definingWords, indexWords]) (h.index_word ht hu hi).1)
  · by_cases hp : isOneOf indexPrefixes t = true
    · exact hother (isOneOf_mono (by simp [definingWords, indexPrefixes])
        (h.prefix_word ht hu hp).1)
    · rw [if_neg hi, if_neg hp] at hbehind
      cases hbehind

/-- Unquoted tokens that can stand for each other are taken for the same words. -/
theorem sameWords (hstep : t.step = 0) (hstep' : u.step = 0) : SameWords t.text u.text := by
  have hsought : ∀ words ∈ soughtWords, isOneOf words t = isOneOf words u := by
    have hdefault : isOneOf ["DEFAULT"] t = isOneOf ["DEFAULT"] u := by
      have hrange := (h [] [wordToken "X"]).1
      rw [List.nil_append, List.nil_append] at hrange
      rw [← defaultRange?_pair hstep, ← defaultRange?_pair hstep', hrange]
    obtain ⟨hterminators, hcharacter, hset⟩ := h.attribute_words hstep hstep'
    have hboth : ∀ words, (isOneOf words t = true → isOneOf words u = true) →
        (isOneOf words u = true → isOneOf words t = true) → isOneOf words t = isOneOf words u :=
      fun words hto hfrom => Bool.eq_iff_iff.mpr ⟨hto, hfrom⟩
    simp only [soughtWords, List.forall_mem_cons, List.not_mem_nil, false_imp_iff, implies_true,
      and_true]
    exact ⟨hdefault, hterminators, hcharacter, hset,
      hboth _ (h.constraint_word ht hu) (h.symm.constraint_word hu ht),
      hboth _ (fun hw => (h.index_word ht hu hw).1) fun hw => (h.symm.index_word hu ht hw).1,
      hboth _ (fun hw => (h.prefix_word ht hu hw).1) fun hw => (h.symm.prefix_word hu ht hw).1,
      hboth _ (h.defining_word ht hu) (h.symm.defining_word hu ht)⟩
  refine ⟨fun words hwords => ?_, fun hshown => ?_⟩
  · have hsame := hsought words hwords
    simpa only [isOneOf, ht, hu, Bool.not_false, Bool.true_and, Token.capitals] using hsame
  · rcases List.mem_append.mp hshown with hw | hw
    · exact (h.prefix_word ht hu (by simpa [isOneOf, ht, Token.capitals] using hw)).2
    · exact (h.index_word ht hu (by simpa [isOneOf, ht, Token.capitals] using hw)).2

end Interchangeable

end

/-! ## Contents -/

/-- The same kind of token, and the same content unless a literal has it changed. -/
structure Recontented (changed : TokenKind → String → String → Prop) (t u : Token) : Prop where
  kind : t.kind = u.kind
  text : t.text = u.text ∨ t.kind ∈ literalKinds ∧ changed t.kind t.text u.text

/-- One literal of an entry has its content changed. -/
theorem recontented_at {changed : TokenKind → String → String → Prop} {t u : Token}
    (hkind : t.kind = u.kind) (hliteral : t.kind ∈ literalKinds)
    (hchanged : changed t.kind t.text u.text) (pre post : List Token) :
    List.Forall₂ (Recontented changed) (pre ++ t :: post) (pre ++ u :: post) := by
  have hself : ∀ ts : List Token, List.Forall₂ (Recontented changed) ts ts :=
    fun ts => List.forall₂_same.mpr fun v _ => ⟨rfl, .inl rfl⟩
  exact List.rel_append (hself pre) (.cons ⟨hkind, .inr ⟨hliteral, hchanged⟩⟩ (hself post))

/-- The contents of literals are changed in some way. In every two entries of which the one becomes
the other by that the default is at the same place and the wording is the same, exactly where each
change is one of a plain text or a quoted name, or does not change which words the content is taken
for. -/
theorem contents_unseen_iff (changed : TokenKind → String → String → Prop) :
    (∀ D D' : Declaration, List.Forall₂ (Recontented changed) D.tokens D'.tokens →
      D.defaultRange? = D'.defaultRange? ∧ D.indexWording? = D'.indexWording?) ↔
    ∀ k ∈ literalKinds, ∀ c c', changed k c c' → k ∈ quotedKinds ∨ SameWords c c' := by
  constructor
  · intro hunseen k hk c c' hchanged
    by_cases hquoted : k ∈ quotedKinds
    · exact .inl hquoted
    · let t : Token := ⟨k, c, 0, 1, false⟩
      let u : Token := ⟨k, c', 0, 1, false⟩
      have hswap : Interchangeable t u := fun pre post =>
        hunseen ⟨pre ++ t :: post⟩ ⟨pre ++ u :: post⟩
          (recontented_at (t := t) (u := u) rfl hk hchanged pre post)
      have hfree : ∀ v : Token, v.kind = k → v.isQuoted = false := fun v hv => by
        simpa [hv] using mt isQuoted_iff.mp (hv ▸ hquoted)
      exact .inr (hswap.sameWords (hfree t rfl) (hfree u rfl) (step_of_literal hk)
        (step_of_literal hk))
  · intro hall D D' h
    have halike : List.Forall₂ Alike D.tokens D'.tokens := by
      refine h.imp fun t u htu => ?_
      have hstep : t.step = u.step := by simp [Token.step, Token.isSign, htu.kind]
      have hquoted : t.isQuoted = u.isQuoted := by simp [Token.isQuoted, htu.kind]
      refine ⟨hstep, hquoted, fun hfree => ?_⟩
      rcases htu.text with htext | ⟨hliteral, hchanged⟩
      · rw [htext]
        exact .refl _
      · refine (hall _ hliteral _ _ hchanged).resolve_left fun hmem => ?_
        rw [isQuoted_iff.mpr hmem] at hfree
        cases hfree
    exact ⟨defaultRange?_alike halike, indexWording?_alike halike⟩

/-- A national text that reads `DEFAULT` is taken for the word. -/
theorem contents_of_national_seen :
    ∃ ts ts' D D',
      Sql.tokens .mysql "CREATE TABLE t (a int COMMENT N'nothing' NOT NULL DEFAULT (1 + 2))" =
        .ok ts ∧
      Sql.tokens .mysql "CREATE TABLE t (a int COMMENT N'DEFAULT' NOT NULL DEFAULT (1 + 2))" =
        .ok ts' ∧
      ofTokens ts = [D] ∧ ofTokens ts' = [D'] ∧
      List.Forall₂ (Recontented fun _ _ _ => True) D.tokens D'.tokens ∧
      D.defaultRange? = some (7, 12) ∧ D'.defaultRange? = some (4, 5) := by
  let front : List Token := [⟨.word, "a", 16, 17, false⟩, ⟨.typeName .int, "int", 18, 21, false⟩,
    ⟨.keyword .comment, "COMMENT", 22, 29, false⟩]
  let note (content : String) : Token := ⟨.nationalText, content, 30, 40, false⟩
  let back : List Token := [⟨.keyword .not, "NOT", 41, 44, false⟩,
    ⟨.keyword .null, "NULL", 45, 49, false⟩, ⟨.keyword .default, "DEFAULT", 50, 57, false⟩,
    ⟨.sign .lParen, "(", 58, 59, false⟩, ⟨.number, "1", 59, 60, false⟩,
    ⟨.sign .plus, "+", 61, 62, false⟩, ⟨.number, "2", 63, 64, false⟩,
    ⟨.sign .rParen, ")", 64, 65, false⟩]
  have htokens : (Sql.tokens .mysql
      "CREATE TABLE t (a int COMMENT N'nothing' NOT NULL DEFAULT (1 + 2))").toOption.map ofTokens =
        some [⟨front ++ note "nothing" :: back⟩] := by decide +kernel
  have htokens' : (Sql.tokens .mysql
      "CREATE TABLE t (a int COMMENT N'DEFAULT' NOT NULL DEFAULT (1 + 2))").toOption.map ofTokens =
        some [⟨front ++ note "DEFAULT" :: back⟩] := by decide +kernel
  obtain ⟨ts, hts, hD⟩ := exists_ok_of_toOption htokens
  obtain ⟨ts', hts', hD'⟩ := exists_ok_of_toOption htokens'
  exact ⟨ts, ts', _, _, hts, hts', hD, hD',
    recontented_at (t := note "nothing") (u := note "DEFAULT") rfl (by decide) trivial front back,
    by decide +kernel, by decide +kernel⟩

end Declaration

end TableDoc
