import TableDoc.Proofs.EntryReading
import TableDoc.Proofs.Refinement
import TableDoc.Proofs.Spelling

/-!
# Categories of indexes

Whether the text of an entry calls its one index what the grammar calls it. The wording starts from
the first unquoted word of the entry, after `CONSTRAINT` and an unquoted name; the grammar starts
from the word of the clause. They agree unless the name is taken for the word.

* **categories** — a kind, and the same with `index` for `key` (`SameCategory`); one word stands for
  both (`category?`), and a wording is of the category of the word that it starts from
  (`sameCategory_wording_iff`);
* **leading words** — that word is the word of the clause (`leadingCategory?_of_clause`,
  `leadingCategory?_of_constraint`), or the name before it (`leadingCategory?_of_named`);
* **entries** — hence only a name can take an index that the grammar reads into another category
  (`category_kept_iff`).
-/

namespace TableDoc

open Sql

/-! ## Categories -/

/-- A kind, or the same kind with its word `key` replaced by `index`. -/
def SameCategory (plain k : String) : Prop :=
  k = plain ∨ ∃ front, plain = front ++ "key" ∧ k = front ++ "index"

theorem exists_front {plain : String} (h : plain ∈ plainKinds) :
    ∃ front, plain = front ++ "key" ∧ plain ∈ wordedKinds ∧ front ++ "index" ∈ wordedKinds := by
  simp only [plainKinds, List.mem_cons, List.not_mem_nil, or_false] at h
  rcases h with rfl | rfl | rfl | rfl
  · exact ⟨"unique ", rfl, by decide, by decide⟩
  · exact ⟨"", rfl, by decide, by decide⟩
  · exact ⟨"fulltext ", rfl, by decide, by decide⟩
  · exact ⟨"spatial ", rfl, by decide, by decide⟩

theorem append_key_ne_append_index (a b : String) : a ++ "key" ≠ b ++ "index" := by
  intro h
  have hlast := congrArg (fun s : String => s.toList.getLast?) h
  simp at hlast

theorem append_right_cancel {a b s : String} (h : a ++ s = b ++ s) : a = b := by
  have hchars : a.toList ++ s.toList = b.toList ++ s.toList := by
    rw [← String.toList_append, ← String.toList_append, h]
  exact String.toList_inj.mp (List.append_cancel_right hchars)

namespace SameCategory

variable {plain plain' k : String}

theorem refl (plain : String) : SameCategory plain plain := .inl rfl

/-- A text is of one category at most. -/
theorem unique (hp : plain ∈ plainKinds) (hp' : plain' ∈ plainKinds) (h : SameCategory plain k)
    (h' : SameCategory plain' k) : plain = plain' := by
  obtain ⟨front, rfl, -⟩ := exists_front hp
  obtain ⟨front', rfl, -⟩ := exists_front hp'
  rcases h with rfl | ⟨own, hown, rfl⟩
  · rcases h' with h' | ⟨own', -, h'⟩
    · exact h'
    · exact absurd h' (append_key_ne_append_index _ _)
  · rcases h' with h' | ⟨own', hown', h'⟩
    · exact absurd h'.symm (append_key_ne_append_index _ _)
    · rw [hown, hown', append_right_cancel h']

theorem append (p : String) (h : SameCategory plain k) : SameCategory (p ++ plain) (p ++ k) := by
  rcases h with rfl | ⟨front, rfl, rfl⟩
  · exact .inl rfl
  · exact .inr ⟨p ++ front, (String.append_assoc ..).symm, (String.append_assoc ..).symm⟩

/-- What is of a category is one of the kinds. -/
theorem mem_wordedKinds (hp : plain ∈ plainKinds) (h : SameCategory plain k) :
    k ∈ wordedKinds := by
  obtain ⟨own, hown, hplain, hindex⟩ := exists_front hp
  rcases h with rfl | ⟨front, hfront, rfl⟩
  · exact hplain
  · rwa [← append_right_cancel (hown.symm.trans hfront)]

end SameCategory

/-- The words for an index are of the category that has no other word. -/
theorem sameCategory_word {w : String} (h : w ∈ ["index", "key"]) : SameCategory "key" w := by
  simp only [List.mem_cons, List.not_mem_nil, or_false] at h
  rcases h with rfl | rfl
  · exact .inr ⟨"", rfl, rfl⟩
  · exact .inl rfl

/-! ## Leading words -/

namespace Declaration

/-- The kind that an unquoted token stands for on its own. -/
def category? (t : Token) : Option String :=
  if isOneOf indexWords t then some "key"
  else if isOneOf indexPrefixes t then some (Text.lower t.capitals ++ " key")
  else none

/-- The token that the wording of an index starts from. -/
def leadingWord? (D : Declaration) : Option Token := D.wordsAfterName.head?

/-- The kind that the leading word stands for. -/
def leadingCategory? (D : Declaration) : Option String := D.leadingWord?.bind category?

variable {D : Declaration}

/-- The small letters of a word for a kind of index. -/
theorem lower_indexPrefix : ∀ w ∈ indexPrefixes, Text.IsWord w.toList ∧
    String.ofList (w.toList.map Char.toLower) = Text.lower w ∧
    Text.lower w ++ " key" ∈ plainKinds := by
  simp only [indexPrefixes, List.forall_mem_cons]
  exact ⟨by decide, by decide, by decide, by simp⟩

theorem category?_mem {t : Token} {c : String} (h : category? t = some c) : c ∈ plainKinds := by
  unfold category? at h
  by_cases hindex : isOneOf indexWords t = true
  · rw [if_pos hindex] at h
    rw [← Option.some.inj h]
    exact .tail _ (.head _)
  · rw [if_neg hindex] at h
    by_cases hbefore : isOneOf indexPrefixes t = true
    · rw [if_pos hbefore] at h
      rw [← Option.some.inj h]
      simp only [isOneOf, Bool.and_eq_true, List.contains_iff_mem] at hbefore
      exact (lower_indexPrefix _ hbefore.2).2.2
    · rw [if_neg hbefore] at h
      cases h

/-- There is a wording exactly where the leading word stands for a kind. -/
theorem indexWording?_isSome : D.indexWording?.isSome = D.leadingCategory?.isSome := by
  unfold leadingCategory? leadingWord?
  cases hwords : D.wordsAfterName with
  | nil =>
    rw [indexWording?_of_none hwords]
    rfl
  | cons first rest =>
    rw [indexWording?_eq hwords, List.head?_cons, Option.bind_some, category?]
    by_cases hindex : isOneOf indexWords first = true
    · rw [if_pos hindex, if_pos hindex, Option.isSome_some, Option.isSome_some]
    · rw [if_neg hindex, if_neg hindex]
      by_cases hworded : isOneOf indexPrefixes first = true
      · rw [if_pos hworded, if_pos hworded, Option.isSome_some, Option.isSome_some]
      · rw [if_neg hworded, if_neg hworded, Option.isSome_none]

theorem respell_indexPrefix_eq {t : Token} (h : isOneOf indexPrefixes t = true) :
    Text.respell (Text.lower t.text) = Text.lower t.capitals := by
  simp only [isOneOf, Bool.and_eq_true, List.contains_iff_mem] at h
  obtain ⟨hword, hlower, -⟩ := lower_indexPrefix _ h.2
  rw [Text.respell_lower hword rfl, hlower]

/-- A wording is of the category of the leading word, but for stray letters. -/
theorem sameCategory_wording {k : String} (h : D.indexWording? = some k) :
    ∃ c, D.leadingCategory? = some c ∧ SameCategory c (Text.respell k) := by
  have hjoined : " key" = " " ++ "key" := by decide
  unfold leadingCategory? leadingWord?
  rcases indexWording?_cases h with ⟨t, hlead, ht, rfl⟩ | ⟨t, hlead, hindex, ht, rfl | ⟨u, hu, rfl⟩⟩
  · refine ⟨"key", ?_, sameCategory_word (respell_indexWord ht)⟩
    rw [hlead, Option.bind_some, category?, if_pos ht]
  all_goals
    refine ⟨Text.lower t.capitals ++ " key", ?_, ?_⟩
    · rw [hlead, Option.bind_some, category?, if_neg (by simp [hindex]), if_pos ht]
  · rw [Text.respell_append, respell_indexPrefix_eq ht, respell_key]
    exact SameCategory.refl _
  · rw [Text.respell_append, Text.respell_append, respell_indexPrefix_eq ht, respell_space, hjoined,
      ← String.append_assoc]
    exact (sameCategory_word (respell_indexWord hu)).append (Text.lower t.capitals ++ " ")

/-- The wording of an index keeps the category of the index exactly where the leading word is of it,
or of none, and no letter of the wording is a stray one. -/
theorem sameCategory_wording_iff {plain : String} (hp : plain ∈ plainKinds) :
    SameCategory plain (D.indexWording?.getD plain) ↔
      (∀ c ∈ (D.indexWording?.getD plain).toList, c ∉ Text.strayLetters) ∧
        ∀ c ∈ D.leadingCategory?, c = plain := by
  have hclean : ∀ {k}, SameCategory plain k → Text.respell k = k :=
    fun h => respell_kind (List.mem_cons_of_mem _ (h.mem_wordedKinds hp))
  rw [← Text.respell_eq_self_iff]
  cases hk : D.indexWording? with
  | none =>
    -- without a wording the kind stays what it is
    have hnone : D.leadingCategory? = none := by
      have hsome := indexWording?_isSome (D := D)
      rw [hk] at hsome
      exact Option.isNone_iff_eq_none.mp (by simpa using hsome.symm)
    have hself : SameCategory plain plain := .refl plain
    simp [hnone, hself, hclean hself]
  | some k =>
    obtain ⟨c, hc, hsame⟩ := sameCategory_wording hk
    have hcp : c ∈ plainKinds := by
      obtain ⟨t, -, ht⟩ := Option.bind_eq_some_iff.mp hc
      exact category?_mem ht
    rw [hc, Option.getD_some]
    constructor
    · intro h
      -- a kind has no stray letter, so the wording is of its category and of that of the word
      rw [hclean h] at hsame
      exact ⟨hclean h, fun c' hc' => by cases hc'; exact hsame.unique hcp hp h⟩
    · rintro ⟨hrespell, hall⟩
      rw [hrespell, hall c rfl] at hsame
      exact hsame

/-! ## Words of clauses -/

theorem category?_of_indexWord {t : Token} (hquoted : t.isQuoted = false)
    (h : t.capitals ∈ indexWords) : category? t = some "key" := by
  have hindex : isOneOf indexWords t = true := by simp [isOneOf, hquoted, h]
  rw [category?, if_pos hindex]

theorem category?_of_indexPrefix {t : Token} (hquoted : t.isQuoted = false)
    (h : t.capitals ∈ indexPrefixes) : category? t = some (Text.lower t.capitals ++ " key") := by
  have hbefore : isOneOf indexPrefixes t = true := by simp [isOneOf, hquoted, h]
  have hindex : isOneOf indexWords t = false := isOneOf_disjoint (by decide) hbefore
  rw [category?, if_neg (by simp [hindex]), if_pos hbefore]

end Declaration

namespace Sql

open Declaration

variable {d : Dialect} {table : String} {cl : Clause} {index : IndexSpec}

/-- A clause that declares an index begins with a word for the kind of the index. -/
theorem Clause.ReadFrom.category {n : Option String} {w : Token} (h : cl.ReadFrom w.capitals)
    (hquoted : w.isQuoted = false) (hindex : cl.index? d table n = some index)
    (hkind : index.kind ≠ "primary key") :
    w.capitals ∈ indexPrefixes ++ indexWords ∧ category? w = some index.kind := by
  cases cl with
  | primaryKey members =>
    cases hindex
    exact absurd rfl hkind
  | uniqueKey own members =>
    have hw : w.capitals = "UNIQUE" := h
    have hlower : Text.lower "UNIQUE" ++ " key" = "unique key" := by decide
    cases hindex
    refine ⟨by simp [hw, indexPrefixes], ?_⟩
    rw [category?_of_indexPrefix hquoted (by simp [hw, indexPrefixes]), hw, hlower]
  | index kind own members =>
    cases hindex
    rcases h with ⟨rfl, hw⟩ | ⟨rfl, hw⟩
    · have hbefore : w.capitals ∈ indexPrefixes := List.mem_cons_of_mem _ hw
      exact ⟨List.mem_append_left _ hbefore, category?_of_indexPrefix hquoted hbefore⟩
    · exact ⟨List.mem_append_right _ hw, category?_of_indexWord hquoted hw⟩
  | _ => cases hindex

/-- The word of such a clause stands before the sign that ends the entry. -/
theorem Clause.BeginsAt.word {n : Option String} {u after : List Token} {fence : Token}
    (h : cl.BeginsAt (u ++ fence :: after)) (hfence : fence.capitals ∈ ["(", ")", ","])
    (hindex : cl.index? d table n = some index) (hkind : index.kind ≠ "primary key") :
    ∃ w v, u = w :: v ∧ w.isQuoted = false ∧ w.capitals ∈ indexPrefixes ++ indexWords ∧
      category? w = some index.kind := by
  have hnoSign : ∀ s ∈ ["(", ")", ","], s ∉ indexPrefixes ++ indexWords := by decide
  obtain ⟨w, rest, hsplit, hquoted, hread⟩ := h
  obtain ⟨hmem, hcategory⟩ := hread.category hquoted hindex hkind
  rcases List.append_eq_cons_iff.mp hsplit with ⟨-, hcons⟩ | ⟨v, rfl, -⟩
  · rw [(List.cons.inj hcons).1] at hfence
    exact absurd hmem (hnoSign _ hfence)
  · exact ⟨w, v, rfl, hquoted, hmem, hcategory⟩

end Sql

namespace Declaration

open Sql Reader

/-! ## Leading words of entries -/

/-- The grammar reads an entry from the tokens of a declaration, up to the sign that ends it. -/
structure EntryRead (d : Dialect) (ts : List Token) (D : Declaration) (e : Entry) : Prop where
  read : ∃ r prev last fence after, D.tokens ++ fence :: after <:+ ts ∧
    (fence.isSign .comma || fence.isSign .rParen) = true ∧
    listItem? d r ⟨prev, D.tokens ++ fence :: after⟩ = .ok (some e, ⟨last, fence :: after⟩)

/-- The token behind `CONSTRAINT` that names the clauses of an entry. -/
def nameToken? (D : Declaration) : Entry → Option Token
  | .constraint _ _ => D.tokens[1]?
  | _ => none

variable {D : Declaration}

theorem leadingWord?_of_filter {first : Token} {rest : List Token}
    (h : D.tokens.filter (!·.isQuoted) = first :: rest)
    (hfirst : isOneOf ["CONSTRAINT"] first = false) : D.leadingWord? = some first := by
  rw [leadingWord?, wordsAfterName_of_filter h hfirst]
  rfl

theorem leadingWord?_of_constraint {first name : Token} {later : List Token}
    (h : D.tokens.filter (!·.isQuoted) = first :: name :: later)
    (hfirst : isOneOf ["CONSTRAINT"] first = true) :
    D.leadingWord? = if isOneOf definingWords name then some name else later.head? := by
  rw [leadingWord?, wordsAfterName_of_constraint h hfirst]
  split <;> rfl

theorem isOneOf_constraint {d : Dialect} {t : Token} (h : Spells d t.kind t.text)
    (ht : t.isKeyword .constraint = true) : isOneOf ["CONSTRAINT"] t = true := by
  have hkeyword : t.kind = .keyword .constraint := by simpa [Token.isKeyword] using ht
  simp [isOneOf, Token.isQuoted, hkeyword, capitals_of_constraint h ht]

theorem isOneOf_definingWords {w : Token} (hquoted : w.isQuoted = false)
    (h : w.capitals ∈ indexPrefixes ++ indexWords) : isOneOf definingWords w = true := by
  have hmem : w.capitals ∈ definingWords := List.mem_append_left _ h
  simp [isOneOf, hquoted, hmem]

theorem category?_of_not_defining {t : Token} (h : isOneOf definingWords t = false) :
    category? t = none := by
  have hsub : ∀ words, words ⊆ definingWords → ¬isOneOf words t = true := by
    intro words hwords ht
    rw [isOneOf_mono hwords ht] at h
    cases h
  rw [category?, if_neg (hsub indexWords (by simp [definingWords, indexWords])),
    if_neg (hsub indexPrefixes (by simp [definingWords, indexPrefixes]))]

section Leading

variable {d : Dialect} {table : String} {index : IndexSpec} {cl : Clause} {n : Option String}
  {fence : Token} {u after : List Token}

/-- Without `CONSTRAINT` the word of the clause leads. -/
theorem leadingCategory?_of_clause (hclause : cl.BeginsAt (D.tokens ++ fence :: after))
    (hfence : fence.capitals ∈ ["(", ")", ","]) (hindex : cl.index? d table n = some index)
    (hkind : index.kind ≠ "primary key") : D.leadingCategory? = some index.kind := by
  have hother : "CONSTRAINT" ∉ indexPrefixes ++ indexWords := by decide
  obtain ⟨w, v, htokens, hquoted, hword, hcategory⟩ := hclause.word hfence hindex hkind
  have hnot : isOneOf ["CONSTRAINT"] w = false := by
    have hne : w.capitals ≠ "CONSTRAINT" := fun h => hother (h ▸ hword)
    simp [isOneOf, hne]
  have hfilter : D.tokens.filter (!·.isQuoted) = w :: v.filter (!·.isQuoted) := by
    simp [htokens, hquoted]
  rw [leadingCategory?, leadingWord?_of_filter hfilter hnot]
  exact hcategory

/-- Behind `CONSTRAINT` the word of the clause leads, for it may stand where no name is given. -/
theorem leadingCategory?_of_constraint {t : Token} (htokens : D.tokens = t :: u)
    (ht : isOneOf ["CONSTRAINT"] t = true) (hclause : cl.BeginsAt (u ++ fence :: after))
    (hfence : fence.capitals ∈ ["(", ")", ","]) (hindex : cl.index? d table n = some index)
    (hkind : index.kind ≠ "primary key") : D.leadingCategory? = some index.kind := by
  have hunquoted := isQuoted_of_isOneOf ht
  obtain ⟨w, v, rfl, hquoted, hword, hcategory⟩ := hclause.word hfence hindex hkind
  have hfilter : D.tokens.filter (!·.isQuoted) = t :: w :: v.filter (!·.isQuoted) := by
    simp [htokens, hunquoted, hquoted]
  rw [leadingCategory?, leadingWord?_of_constraint hfilter ht,
    if_pos (isOneOf_definingWords hquoted hword)]
  exact hcategory

/-- Behind `CONSTRAINT` and a name it leads unless the name is a word that may stand there. -/
theorem leadingCategory?_of_named {t name : Token} (htokens : D.tokens = t :: name :: u)
    (ht : isOneOf ["CONSTRAINT"] t = true) (hclause : cl.BeginsAt (u ++ fence :: after))
    (hfence : fence.capitals ∈ ["(", ")", ","]) (hindex : cl.index? d table n = some index)
    (hkind : index.kind ≠ "primary key") :
    (∀ c ∈ D.leadingCategory?, c = index.kind) ↔ ∀ c ∈ category? name, c = index.kind := by
  have hunquoted := isQuoted_of_isOneOf ht
  obtain ⟨w, v, rfl, hquoted, hword, hcategory⟩ := hclause.word hfence hindex hkind
  have hdefining := isOneOf_definingWords hquoted hword
  unfold leadingCategory?
  by_cases hname : name.isQuoted = true
  · -- a name in quotes is passed over
    have hnone : category? name = none :=
      category?_of_not_defining (by simp [isOneOf, hname])
    have hfilter : D.tokens.filter (!·.isQuoted) = t :: w :: v.filter (!·.isQuoted) := by
      simp [htokens, hunquoted, hname, hquoted]
    rw [leadingWord?_of_constraint hfilter ht, if_pos hdefining, Option.bind_some, hcategory, hnone]
    simp
  · have hfilter : D.tokens.filter (!·.isQuoted) =
        t :: name :: w :: v.filter (!·.isQuoted) := by
      simp [htokens, hunquoted, hname, hquoted]
    rw [leadingWord?_of_constraint hfilter ht]
    by_cases hnamed : isOneOf definingWords name = true
    · rw [if_pos hnamed, Option.bind_some]
    · rw [if_neg hnamed, List.head?_cons, Option.bind_some, hcategory,
        category?_of_not_defining (by simpa using hnamed)]
      simp

end Leading

/-- The word of the clause leads in an entry that the grammar reads, unless a name before it is
taken for the word of another category. -/
theorem EntryRead.leadingCategory?_iff {d : Dialect} {f table : String} {ts : List Token}
    {e : Entry} {index : IndexSpec} (h : D.EntryRead d ts e) (hts : Sql.tokens d f = .ok ts)
    (hindexes : e.plainIndexes d table = [index]) (hkind : index.kind ≠ "primary key")
    (hfirst : (e.clauses.head?.bind (Clause.index? d table none)).isSome = true)
    (hname : ∀ n ∈ D.nameToken? e, ∀ s, n.isSign s = false) :
    (∀ c ∈ D.leadingCategory?, c = index.kind) ↔
      ∀ n ∈ D.nameToken? e, ∀ c ∈ category? n, c = index.kind := by
  obtain ⟨r, prev, last, fence, after, hsuffix, hsign, hitem⟩ := h.read
  have hspells : ∀ t ∈ D.tokens ++ fence :: after, Spells d t.kind t.text :=
    fun t ht => spells_of_mem hts (hsuffix.subset ht)
  have hfence : fence.capitals ∈ ["(", ")", ","] :=
    capitals_of_fence (hspells fence (List.mem_append_right _ List.mem_cons_self)) hsign
  -- the keyword is no sign, so the entry has it for a token of its own
  have hconstraint : ∀ {t : Token} {rest : List Token}, D.tokens ++ fence :: after = t :: rest →
      t.isKeyword .constraint = true →
      isOneOf ["CONSTRAINT"] t = true ∧ ∃ u, D.tokens = t :: u ∧ rest = u ++ fence :: after := by
    intro t rest hsplit ht
    have hspelled := hspells t (by simp [hsplit])
    refine ⟨isOneOf_constraint hspelled ht, ?_⟩
    rcases List.append_eq_cons_iff.mp hsplit with ⟨-, hcons⟩ | hmore
    · rw [(List.cons.inj hcons).1, capitals_of_constraint hspelled ht] at hfence
      exact absurd hfence (by decide)
    · exact hmore
  obtain ⟨first, others, hclauses⟩ : ∃ first others, e.clauses = first :: others := by
    cases hclauses : e.clauses with
    | nil => simp [hclauses] at hfirst
    | cons first others => exact ⟨first, others, rfl⟩
  rw [hclauses, List.head?_cons, Option.bind_some] at hfirst
  obtain ⟨n, hindex⟩ := Entry.index?_first hindexes hclauses hfirst
  have hne : e.plainIndexes d table ≠ [] := by simp [hindexes]
  rcases constraint?_eq_some (listItem?_eq_some hitem hne) with
    ⟨cl, rfl, hclause⟩ | ⟨t, rest, label, between, cs, hsplit, ht, hlabel, hmany, rfl⟩
  · obtain ⟨rfl, -⟩ := List.cons.inj hclauses
    have hleading : D.leadingCategory? = some index.kind := by
      rcases hclause with hclause | ⟨t, rest, hsplit, ht, hclause⟩
      · exact leadingCategory?_of_clause hclause hfence hindex hkind
      · obtain ⟨hword, u, htokens, rfl⟩ := hconstraint hsplit ht
        exact leadingCategory?_of_constraint htokens hword hclause hfence hindex hkind
    simp [hleading, nameToken?]
  · cases hclauses
    obtain ⟨hword, u, htokens, rfl⟩ := hconstraint hsplit ht
    cases u with
    | nil =>
      -- the grammar would have to take the sign behind the entry for the name
      have hnone : D.leadingCategory? = none := by
        simp [leadingCategory?, leadingWord?, wordsAfterName, htokens, isQuoted_of_isOneOf hword,
          hword]
      simp [hnone, nameToken?, htokens]
    | cons name u =>
      have hnamed : D.nameToken? (.constraint label.label (first :: others)) = some name := by
        simp [nameToken?, htokens]
      rw [hnamed] at hname ⊢
      -- the first clause was read right behind the name
      have hbetween := anyName?_eq_some (hname name rfl) hlabel
      obtain ⟨later, hclause⟩ := many_eq_cons hmany
      rcases namedClause?_eq_some hclause with hclause | ⟨cls, rfl⟩
      · rw [hbetween] at hclause
        simpa using leadingCategory?_of_named htokens hword hclause hfence hindex hkind
      · cases hindex

end Declaration

/-! ## Entries of a fragment -/

open Declaration

theorem Sql.Entry.column?_of_plainIndexes {d : Dialect} {table : String} {e : Entry}
    (h : e.plainIndexes d table ≠ []) (w : Wording) : e.column? d w = none := by
  cases e with
  | column c => exact absurd rfl h
  | _ => rfl

/-- In a fragment whose declared texts are in use, an entry with one index that is no primary key
has it under a kind of its category exactly where that kind has no stray letter and the word that
the wording starts from is of no other category. For an entry that the grammar reads from the same
tokens, with the index first, the latter depends on the name alone: it must not be an unquoted word
for another category. -/
theorem category_kept_iff {d : Dialect} {f : String} {s : TableSchema} {declared : List Wording}
    {ts : List Token} {i : Nat} {entry : Entry} {index : IndexSpec}
    (hread : Fragment.read d f = .table s declared) (hts : tokens d f = .ok ts)
    (hagrees : s.agrees declared = true) (hentry : s.entries[i]? = some entry)
    (hindexes : entry.plainIndexes d s.name = [index]) (hkind : index.kind ≠ "primary key") :
    ∃ D k, (ofTokens ts)[i]? = some D ∧ k = D.indexWording?.getD index.kind ∧
      index.kind ∈ plainKinds ∧
      (s.contributions d declared)[i]? = some ⟨none, [{ index with kind := k }]⟩ ∧
      (SameCategory index.kind k ↔
        (∀ c ∈ k.toList, c ∉ Text.strayLetters) ∧ ∀ c ∈ D.leadingCategory?, c = index.kind) ∧
      ∀ e, D.EntryRead d ts e → e.plainIndexes d s.name = [index] →
        (e.clauses.head?.bind (Clause.index? d s.name none)).isSome = true →
        (∀ n ∈ D.nameToken? e, ∀ sign, n.isSign sign = false) →
        ((∀ c ∈ D.leadingCategory?, c = index.kind) ↔
          ∀ n ∈ D.nameToken? e, ∀ c ∈ category? n, c = index.kind) := by
  obtain ⟨D, hD, hown⟩ := Fragment.exists_declaration hread hts hagrees hentry
  have hplain : index.kind ∈ plainKinds := by
    have hknown := parse_known (Fragment.parse_of_read hread).1
    have hmem := Entry.plainIndexes_kind d s.name
      (hknown entry (List.mem_of_getElem? hentry)) index (by simp [hindexes])
    exact (List.mem_cons.mp hmem).resolve_left hkind
  have hcontribution : (s.contributions d declared)[i]? =
      some ⟨none, [{ index with kind := D.indexWording?.getD index.kind }]⟩ := by
    have hne : entry.plainIndexes d s.name ≠ [] := by simp [hindexes]
    have hworded : entry.indexes d s.name (D.wording f) =
        [{ index with kind := D.indexWording?.getD index.kind }] := by
      simp [Entry.indexes, hindexes, hkind, wording]
    rw [hown, Entry.contribution, Entry.column?_of_plainIndexes hne, hworded]
  exact ⟨D, _, hD, rfl, hplain, hcontribution, sameCategory_wording_iff hplain,
    fun e he hindexes' hfirst hname => he.leadingCategory?_iff hts hindexes' hkind hfirst hname⟩

/-- A name in quotes is no word for another category. -/
theorem category_kept_quoted_name :
    ∃ s declared k,
      Fragment.read .postgres "CREATE TABLE t (a int, CONSTRAINT \"key\" UNIQUE (a))" =
        .table s declared ∧
      (s.contributions .postgres declared)[1]? = some ⟨none, [⟨"key", k, ["a"]⟩]⟩ ∧
      SameCategory "unique key" k := by
  let index : IndexSpec := ⟨"key", "unique key", ["a"]⟩
  let name : Token := ⟨.quotedName, "key", 34, 39, false⟩
  let D : Declaration := ⟨[⟨.keyword .constraint, "CONSTRAINT", 23, 33, false⟩, name,
    ⟨.keyword .unique, "UNIQUE", 40, 46, false⟩, ⟨.sign .lParen, "(", 47, 48, false⟩,
    ⟨.word, "a", 48, 49, false⟩, ⟨.sign .rParen, ")", 49, 50, false⟩]⟩
  let fence : Token := ⟨.sign .rParen, ")", 50, 51, false⟩
  have hruns : (Fragment.read .postgres
        "CREATE TABLE t (a int, CONSTRAINT \"key\" UNIQUE (a))").schema?.map
          (fun s => (s.name, s.entries.map (Entry.plainIndexes .postgres "t"))) =
            some ("t", [[], [index]]) ∧
      (tokens .postgres
        "CREATE TABLE t (a int, CONSTRAINT \"key\" UNIQUE (a))").toOption.map
          (fun ts => ((ofTokens ts).length, (ofTokens ts)[1]?, ts.drop 7)) =
            some (2, some D, D.tokens ++ [fence]) := by decide +kernel
  have hitem : ((listItem? .postgres (Rules.levels .postgres 6)
      ⟨none, D.tokens ++ [fence]⟩).toOption.map fun p => (p.1.map fun e =>
        (e.plainIndexes .postgres "t",
          (e.clauses.head?.bind (Clause.index? .postgres "t" none)).isSome, D.nameToken? e), p.2)) =
            some (some ([index], true, some name),
              ⟨some ⟨.sign .rParen, ")", 49, 50, false⟩, [fence]⟩) := by decide +kernel
  obtain ⟨⟨_, entries⟩, declared, ts, hread, hts, hentries, htokens⟩ :=
    Fragment.exists_reading_and_tokens hruns
  obtain ⟨rfl, hentries⟩ := Prod.mk.inj hentries
  obtain ⟨column, others, rfl, -, hothers⟩ := List.map_eq_cons_iff.mp hentries
  obtain ⟨entry, others, rfl, hindexes, hothers⟩ := List.map_eq_cons_iff.mp hothers
  cases List.map_eq_nil_iff.mp hothers
  obtain ⟨hlength, hmore⟩ := Prod.mk.inj htokens
  obtain ⟨hD, hdrop⟩ := Prod.mk.inj hmore
  have hagrees : TableSchema.agrees ⟨"t", [column, entry]⟩ declared = true :=
    (Fragment.agrees_iff hread hts).mpr hlength
  obtain ⟨D', k, hat, hk, -, hcontribution, hkept, hnamed⟩ :=
    category_kept_iff (i := 1) hread hts hagrees rfl hindexes (by decide)
  cases hat.symm.trans hD
  obtain ⟨⟨found, c⟩, hfound, hitem⟩ := Option.map_eq_some_iff.mp hitem
  obtain ⟨hshown, rfl⟩ := Prod.mk.inj hitem
  obtain ⟨e, rfl, he⟩ := Option.map_eq_some_iff.mp hshown
  obtain ⟨hindexes', hmore⟩ := Prod.mk.inj he
  obtain ⟨hfirst, hname⟩ := Prod.mk.inj hmore
  have hentryRead : EntryRead .postgres ts D e :=
    ⟨_, none, _, fence, [], hdrop ▸ List.drop_suffix 7 ts, rfl, eq_ok_of_toOption hfound⟩
  have hleading := (hnamed e hentryRead hindexes' hfirst ?_).mpr ?_
  · have hworded : k = "unique key" := hk.trans (by decide +kernel)
    have hclean : ∀ c ∈ k.toList, c ∉ Text.strayLetters := by
      rw [hworded, ← Text.respell_eq_self_iff]
      exact respell_kind (by simp [kinds, wordedKinds])
    exact ⟨_, declared, k, hread, hcontribution, hkept.mpr ⟨hclean, hleading⟩⟩
  · intro n hn
    cases hname.symm.trans hn
    exact fun sign => rfl
  · intro n hn
    cases hname.symm.trans hn
    have hnone : category? name = none := category?_of_not_defining rfl
    simp [hnone]

/-- An unquoted name that is such a word. -/
theorem category_of_named_key :
    ((Fragment.read .postgres "CREATE TABLE t (a int, CONSTRAINT key UNIQUE (a))").schema?.map
      fun s => s.entries.flatMap (Entry.plainIndexes .postgres s.name)) =
        some [⟨"key", "unique key", ["a"]⟩] ∧
    ((Fragment.table? .postgres "CREATE TABLE t (a int, CONSTRAINT key UNIQUE (a))").map
      TableSpec.indexes) = some [⟨"key", "key", ["a"]⟩] ∧
    ¬SameCategory "unique key" "key" := by
  refine ⟨by decide +kernel, by decide +kernel, ?_⟩
  intro h
  exact absurd (h.unique (by simp [plainKinds]) (by simp [plainKinds]) (.refl "key")) (by decide)

end TableDoc
