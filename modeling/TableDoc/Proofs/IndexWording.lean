import TableDoc.Proofs.IndexCategory

/-!
# Wordings of indexes as they are declared

What an entry calls its index when its names stand in quotes. Quoted tokens are passed over before
any word is looked at, so such names never matter.

* **shapes** — what may stand before the words of an entry (`NamedFront`), the words for an index
  and their wording (`Worded`), the words that define something else (`DefinesOther`);
* **entries** — the word that leads is known for each shape (`NamedFront.wordsAfterName`);
* **wordings** — hence an index is called what it is declared as, in small letters, and the entry of
  a primary key, a foreign key or a check has no wording unless its one word behind `CONSTRAINT` is
  passed over like a name (`index_wording_declared_iff`).
-/

namespace TableDoc

open Sql

namespace Declaration

variable {D : Declaration}

/-! ## Shapes of entries -/

/-- The token is a word in any letter case. -/
structure Writes (w : String) (t : Token) : Prop where
  unquoted : t.isQuoted = false
  letters : t.text.toList.map Char.toUpper = w.toList

/-- Words for an index and the wording that they make. -/
inductive Worded : List Token → String → Prop
  | index {w : String} {t : Token} : w ∈ indexWords → Writes w t → Worded [t] (Text.lower w)
  | lone {w : String} {t : Token} : w ∈ indexPrefixes → Writes w t →
      Worded [t] (Text.lower w ++ " key")
  | both {w v : String} {t u : Token} : w ∈ indexPrefixes → v ∈ indexWords → Writes w t →
      Writes v u → Worded [t, u] (Text.lower w ++ " " ++ Text.lower v)

/-- The words that define a primary key, a foreign key or a check, as one token or as two. -/
inductive DefinesOther : List Token → Prop
  | one {m : Token} : m.isQuoted = false →
      m.capitals ∈ ["PRIMARY KEY", "FOREIGN KEY", "CHECK"] → DefinesOther [m]
  | two {m k : Token} : m.isQuoted = false → m.capitals ∈ ["PRIMARY", "FOREIGN"] →
      k.isQuoted = false → k.capitals = "KEY" → DefinesOther [m, k]

/-- What may stand before the words of an entry: nothing, or `CONSTRAINT` with a name in quotes. -/
inductive NamedFront : List Token → Prop
  | unnamed : NamedFront []
  | named {t : Token} {names : List Token} : isOneOf ["CONSTRAINT"] t = true →
      (∀ n ∈ names, n.isQuoted = true) → NamedFront (t :: names)

/-! ## Leading words -/

/-- Names in quotes are passed over. -/
theorem filter_behind_names {names rest : List Token} {r : Token}
    (hnames : ∀ n ∈ names, n.isQuoted = true) (hr : r.isQuoted = false) :
    (names ++ r :: rest).filter (!·.isQuoted) = r :: rest.filter (!·.isQuoted) := by
  have hnone : names.filter (!·.isQuoted) = [] :=
    List.filter_eq_nil_iff.mpr fun n hn => by simp [hnames n hn]
  rw [List.filter_append, hnone, List.nil_append, List.filter_cons_of_pos (by simp [hr])]

/-- The words for an index are letters of the alphabet, all of them capitals. -/
theorem letters_of_mem {w : String} (h : w ∈ indexPrefixes ++ indexWords) :
    (∀ u ∈ w.toList, u.isUpper = true) ∧ w.toList.map Char.toUpper = w.toList := by
  have hall : ((indexPrefixes ++ indexWords).all fun w =>
      w.toList.all Char.isUpper && w.toList.map Char.toUpper == w.toList) = true := by decide
  simpa using List.all_eq_true.mp hall w h

/-- A word for an index has its capitals and its small letters in any letter case. -/
theorem Writes.spelled {w : String} {t : Token} (h : Writes w t)
    (hw : w ∈ indexPrefixes ++ indexWords) :
    t.capitals = w ∧ Text.lower t.text = Text.lower w := by
  obtain ⟨hletters, hself⟩ := letters_of_mem hw
  have hascii : ∀ u ∈ w.toList, u.toNat < 128 := fun u hu => by
    have hlast := Text.toNat_le_of_isUpper (hletters u hu)
    omega
  have hupper := Text.upper_of_toUpper w hascii h.letters
  have hlower := Text.lower_of_toUpper w hletters h.letters
  have hown := Text.lower_of_toUpper w hletters hself
  rw [String.ofList_toList] at hupper hlower hown
  exact ⟨hupper, hlower.trans hown.symm⟩

theorem Writes.isOneOf {w : String} {words : List String} {t : Token} (h : Writes w t)
    (hw : w ∈ words) (hwords : words ⊆ indexPrefixes ++ indexWords) :
    isOneOf words t = true := by
  have hcapitals := (h.spelled (hwords hw)).1
  simp [Declaration.isOneOf, h.unquoted, hcapitals, hw]

section

variable {front later : List Token} {m : Token}

/-- Behind `CONSTRAINT` and a name in quotes a word leads only if it may stand where no name is
given; otherwise it is passed over like a name. -/
theorem NamedFront.wordsAfterName (h : NamedFront front) (hsplit : D.tokens = front ++ m :: later)
    (hunquoted : m.isQuoted = false) (hm : isOneOf ["CONSTRAINT"] m = false) :
    D.wordsAfterName =
      if front = [] ∨ isOneOf definingWords m = true then m :: later.filter (!·.isQuoted)
      else later.filter (!·.isQuoted) := by
  cases h with
  | unnamed =>
    have hfilter : D.tokens.filter (!·.isQuoted) = m :: later.filter (!·.isQuoted) := by
      simp [hsplit, hunquoted]
    rw [wordsAfterName_of_filter hfilter hm, if_pos (.inl rfl)]
  | @named t names ht hnames =>
    have hfilter : D.tokens.filter (!·.isQuoted) = t :: m :: later.filter (!·.isQuoted) := by
      rw [hsplit, List.cons_append, List.filter_cons_of_pos (by simp [isQuoted_of_isOneOf ht]),
        filter_behind_names hnames hunquoted]
    rw [wordsAfterName_of_constraint hfilter ht]
    simp only [List.cons_ne_nil, false_or]

/-- A word that may stand where no name is given leads. -/
theorem NamedFront.wordsAfterName_of_defining (h : NamedFront front)
    (hsplit : D.tokens = front ++ m :: later) (hm : isOneOf definingWords m = true) :
    D.wordsAfterName = m :: later.filter (!·.isQuoted) := by
  rw [h.wordsAfterName hsplit (isQuoted_of_isOneOf hm) (isOneOf_disjoint (by decide) hm),
    if_pos (.inr hm)]

end

/-! ## Wordings -/

section

variable {front names rest : List Token} {r : Token}

/-- An index is called what it is declared as. -/
theorem Worded.indexWording? {w : List Token} {k : String} (h : Worded w k)
    (hfront : NamedFront front) (hsplit : D.tokens = front ++ (w ++ (names ++ r :: rest)))
    (hnames : ∀ n ∈ names, n.isQuoted = true) (hr : r.isQuoted = false)
    (hother : isOneOf indexWords r = false) : D.indexWording? = some k := by
  have hindexes : indexWords ⊆ indexPrefixes ++ indexWords := List.subset_append_right _ _
  have hworded : indexPrefixes ⊆ indexPrefixes ++ indexWords := List.subset_append_left _ _
  have hdefining : indexPrefixes ++ indexWords ⊆ definingWords := List.subset_append_left _ _
  cases h with
  | @index w t hw ht =>
    have hlead := hfront.wordsAfterName_of_defining hsplit
      (isOneOf_mono (List.Subset.trans hindexes hdefining) (ht.isOneOf hw hindexes))
    rw [indexWording?_of_index hlead (ht.isOneOf hw hindexes), (ht.spelled (hindexes hw)).2]
  | @lone w t hw ht =>
    have hlead := hfront.wordsAfterName_of_defining hsplit
      (isOneOf_mono (List.Subset.trans hworded hdefining) (ht.isOneOf hw hworded))
    change D.wordsAfterName = t :: (names ++ r :: rest).filter (!·.isQuoted) at hlead
    rw [filter_behind_names hnames hr] at hlead
    rw [indexWording?_of_worded hlead (ht.isOneOf hw hworded), secondWord_of_other hother,
      (ht.spelled (hworded hw)).2, append_key]
  | @both w v t u hw hv ht hu =>
    have hlead := hfront.wordsAfterName_of_defining hsplit
      (isOneOf_mono (List.Subset.trans hworded hdefining) (ht.isOneOf hw hworded))
    change D.wordsAfterName = t :: (u :: (names ++ r :: rest)).filter (!·.isQuoted) at hlead
    rw [List.filter_cons_of_pos (by simp [hu.unquoted])] at hlead
    rw [indexWording?_of_worded hlead (ht.isOneOf hw hworded),
      secondWord_of_index (hu.isOneOf hv hindexes), (ht.spelled (hworded hw)).2,
      (hu.spelled (hindexes hv)).2]

/-- What defines a key of another kind or a check has no wording of its own, but behind `CONSTRAINT`
it has that of the word after it where it is passed over. -/
theorem DefinesOther.indexWording?_eq_none_iff {w : List Token} (h : DefinesOther w)
    (hfront : NamedFront front) (hsplit : D.tokens = front ++ (w ++ (names ++ r :: rest)))
    (hnames : ∀ n ∈ names, n.isQuoted = true) (hr : r.isQuoted = false)
    (hother : isOneOf indexWords r = false) :
    D.indexWording? = none ↔
      front = [] ∨ (∃ m ∈ w.head?, m.capitals ∈ definingWords) ∨ r.capitals ∉ indexPrefixes := by
  -- of such words the first one alone matters
  obtain ⟨m, later, rfl, hunquoted, hcapitals, hlone⟩ : ∃ m later, w = m :: later ∧
      m.isQuoted = false ∧
      m.capitals ∈ ["PRIMARY KEY", "FOREIGN KEY", "CHECK", "PRIMARY", "FOREIGN"] ∧
      (later = [] ∨ m.capitals ∈ definingWords) := by
    cases h with
    | @one m hm hc =>
      simp only [List.mem_cons, List.not_mem_nil, or_false] at hc
      refine ⟨m, [], rfl, hm, ?_, .inl rfl⟩
      rcases hc with hc | hc | hc <;> simp [hc]
    | @two m k hm hc hk _ =>
      simp only [List.mem_cons, List.not_mem_nil, or_false] at hc
      refine ⟨m, [k], rfl, hm, ?_, .inr ?_⟩ <;> rcases hc with hc | hc <;> simp [hc, definingWords]
  have hno : ∀ words, (∀ c ∈ ["PRIMARY KEY", "FOREIGN KEY", "CHECK", "PRIMARY", "FOREIGN"],
      c ∉ words) → isOneOf words m = false := fun words hwords => by
    simp [isOneOf, hwords _ hcapitals]
  have hmIndex : isOneOf indexWords m = false := hno _ (by decide)
  have hmWorded : isOneOf indexPrefixes m = false := hno _ (by decide)
  have hdefining : isOneOf definingWords m = true ↔ m.capitals ∈ definingWords := by
    simp [isOneOf, hunquoted]
  have hwords := hfront.wordsAfterName hsplit hunquoted (hno _ (by decide))
  simp only [List.head?_cons, Option.mem_some_iff, exists_eq_left']
  by_cases hlead : front = [] ∨ m.capitals ∈ definingWords
  · rw [if_pos (hlead.imp_right hdefining.mpr)] at hwords
    exact iff_of_true (indexWording?_eq_none hwords hmIndex hmWorded) (or_assoc.mp (.inl hlead))
  · obtain ⟨hnamed, hpassed⟩ := not_or.mp hlead
    rw [if_neg (not_or.mpr ⟨hnamed, fun h => hpassed (hdefining.mp h)⟩)] at hwords
    obtain rfl := hlone.resolve_right hpassed
    -- the word behind it leads
    have hnext : D.wordsAfterName = r :: rest.filter (!·.isQuoted) :=
      hwords.trans (filter_behind_names hnames hr)
    rw [or_iff_right hnamed, or_iff_right hpassed]
    by_cases hworded : r.capitals ∈ indexPrefixes
    · have hleads : isOneOf indexPrefixes r = true := by simp [isOneOf, hr, hworded]
      refine iff_of_false (fun hnone => ?_) fun h => h hworded
      rw [indexWording?_of_worded hnext hleads] at hnone
      cases hnone
    · have hnone : isOneOf indexPrefixes r = false := by simp [isOneOf, hworded]
      exact iff_of_true (indexWording?_eq_none hnext hother hnone) hworded

end

/-- In a statement an index whose names stand in quotes is called what it is declared as, in small
letters and with one blank between its words, with `key` added to a word for a kind that is alone.
The entry of a primary key, a foreign key or a check has no wording, unless one token behind
`CONSTRAINT` defines it that may not stand where no name is given and a word for a kind of index
follows. -/
theorem index_wording_declared_iff {d : Dialect} {sql : String} {ts : List Token}
    {front w names rest : List Token} {r : Token} (hts : Sql.tokens d sql = .ok ts)
    (hD : D ∈ ofTokens ts) (hsplit : D.tokens = front ++ (w ++ (names ++ r :: rest)))
    (hfront : NamedFront front) (hnames : ∀ n ∈ names, n.isQuoted = true)
    (hr : r.isSign .lParen = true ∨ r.isQuoted = false ∧ r.capitals ∉ indexWords) :
    (∀ k, Worded w k → D.indexWording? = some k) ∧
      (DefinesOther w → (D.indexWording? = none ↔
        front = [] ∨ (∃ m ∈ w.head?, m.capitals ∈ definingWords) ∨
          r.capitals ∉ indexPrefixes)) := by
  obtain ⟨hunquoted, hother⟩ : r.isQuoted = false ∧ isOneOf indexWords r = false := by
    rcases hr with hparen | ⟨hunquoted, hword⟩
    · have hspells : Spells d r.kind r.text := by
        refine spells_of_mem hts ((sublist_of_mem_entriesFrom ts 0 [] hD).subset ?_)
        simp [hsplit]
      have hcapitals := capitals_of_sign hspells hparen (by simp [listSigns])
      have hnone : ∀ c ∈ ["(", ")", ","], c ∉ indexWords := by decide
      have hkind : r.kind = .sign .lParen := by simpa [Token.isSign] using hparen
      exact ⟨by simp [Token.isQuoted, hkind], by simp [isOneOf, hnone _ hcapitals]⟩
    · exact ⟨hunquoted, by simp [isOneOf, hword]⟩
  exact ⟨fun k hw => hw.indexWording? hfront hsplit hnames hunquoted hother,
    fun hw => hw.indexWording?_eq_none_iff hfront hsplit hnames hunquoted hother⟩

/-- Names in quotes that read like words of the wording. -/
theorem index_wording_of_quoted_names :
    ∃ ts D, Sql.tokens .mysql "CREATE TABLE t (a int, CONSTRAINT `key` UNIQUE Index `check` (a))" =
        .ok ts ∧ D ∈ ofTokens ts ∧
      D.tokens.map Token.text = ["CONSTRAINT", "key", "UNIQUE", "Index", "check", "(", "a", ")"] ∧
      D.indexWording? = some "unique index" := by
  let t : Token := ⟨.keyword .constraint, "CONSTRAINT", 23, 33, false⟩
  let c : Token := ⟨.quotedName, "key", 34, 39, false⟩
  let u : Token := ⟨.keyword .unique, "UNIQUE", 40, 46, false⟩
  let v : Token := ⟨.keyword .index, "Index", 47, 52, false⟩
  let i : Token := ⟨.quotedName, "check", 53, 60, false⟩
  let o : Token := ⟨.sign .lParen, "(", 61, 62, false⟩
  let rest : List Token := [⟨.word, "a", 62, 63, false⟩, ⟨.sign .rParen, ")", 63, 64, false⟩]
  let D : Declaration := ⟨[t, c] ++ ([u, v] ++ ([i] ++ o :: rest))⟩
  have htokens : (Sql.tokens .mysql
      "CREATE TABLE t (a int, CONSTRAINT `key` UNIQUE Index `check` (a))").toOption.map
        (fun ts => (ofTokens ts)[1]?) = some (some D) := by decide +kernel
  obtain ⟨ts, hts, hD⟩ := exists_ok_of_toOption htokens
  have hmem := List.mem_of_getElem? hD
  have hworded : Worded [u, v] (Text.lower "UNIQUE" ++ " " ++ Text.lower "INDEX") :=
    .both (by simp [indexPrefixes]) (by simp [indexWords]) ⟨rfl, by decide⟩ ⟨rfl, by decide⟩
  have hsplit : D.tokens = [t, c] ++ ([u, v] ++ ([i] ++ o :: rest)) := rfl
  have hdeclared := (index_wording_declared_iff (hts) hmem hsplit
    (.named (by decide) (by simp; decide)) (by simp; decide) (.inl rfl)).1 _ hworded
  have hlower : Text.lower "UNIQUE" ++ " " ++ Text.lower "INDEX" = "unique index" := by decide
  exact ⟨ts, D, hts, hmem, rfl, hlower ▸ hdeclared⟩

/-- A foreign key whose own name is such a word: it has a wording behind `CONSTRAINT` and a name,
and none without them. -/
theorem index_wording_of_reference :
    ((Sql.tokens .mysql
      "CREATE TABLE t (a int, CONSTRAINT `c` FOREIGN KEY fulltext (a) REFERENCES b (c))"
      ).toOption.map fun ts => (ofTokens ts)[1]?.map fun D =>
        ((D.tokens.take 5).map Token.text, D.indexWording?)) =
      some (some (["CONSTRAINT", "c", "FOREIGN KEY", "fulltext", "("], some "fulltext key")) ∧
    ((Sql.tokens .mysql "CREATE TABLE t (a int, FOREIGN KEY fulltext (a) REFERENCES b (c))"
      ).toOption.map fun ts => (ofTokens ts)[1]?.map fun D =>
        ((D.tokens.take 3).map Token.text, D.indexWording?)) =
      some (some (["FOREIGN KEY", "fulltext", "("], none)) := by
  decide +kernel

end Declaration

end TableDoc
