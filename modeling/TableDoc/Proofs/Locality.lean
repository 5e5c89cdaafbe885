import TableDoc.Proofs.ColumnList
import TableDoc.Proofs.Contribution
import TableDoc.Proofs.DefaultExtent

/-!
# Locality of the column list

What an entry contributes to the specification of its table does not depend on the entries beside
it, as long as none of these is empty: declared texts are used for all entries or for none.

* **moved tokens** — the wording of an entry depends on its text and not on where that stands in
  the statement (`wording_moved`);
* **read tokens** — a contribution does not depend on the tokens that the grammar kept for a
  default (`Entry.contribution_forget`);
* **orderly lists** — declared texts are used exactly where no item but a last one is empty and no
  item has a comma of its own outside parentheses (`agrees_iff_orderly`);
* **locality** — where no item has such a comma, an entry contributes what it contributes alone if
  only a last item is empty, and otherwise every entry contributes what it does without declared
  texts (`contributions_local`).
-/

namespace TableDoc

open Sql

namespace Sql

/-! ## Moved tokens -/

/-- A token of a text that stands `n` characters further on. -/
def Token.moved (n : Nat) (t : Token) : Token := { t with start := t.start + n, stop := t.stop + n }

variable {n : Nat}

@[simp] theorem Token.isSign_moved (s : Sign) (t : Token) : (t.moved n).isSign s = t.isSign s := rfl

@[simp] theorem Token.step_moved (t : Token) : (t.moved n).step = t.step := rfl

end Sql

namespace Declaration

variable {n : Nat}

@[simp] theorem isOneOf_moved (words : List String) (t : Token) :
    isOneOf words (t.moved n) = isOneOf words t := rfl

@[simp] theorem startsDefault_moved (t : Token) : startsDefault (t.moved n) = startsDefault t := rfl

theorem startsAttribute_moved (ts : List Token) :
    startsAttribute (ts.map (Token.moved n)) = startsAttribute ts := by
  cases ts with
  | nil => rfl
  | cons t ts => cases ts <;> rfl

theorem outside_comma_moved (ts : List Token) :
    ∀ k : Int, Outside (Token.isSign .comma) k (ts.map (Token.moved n)) ↔
      Outside (Token.isSign .comma) k ts := by
  induction ts with
  | nil =>
    intro k
    rfl
  | cons t ts ih =>
    intro k
    rw [List.map_cons, outside_cons, outside_cons, Token.isSign_moved, Token.step_moved, ih]

theorem afterDefault?_moved (ts : List Token) :
    ∀ k : Int, afterDefault? k (ts.map (Token.moved n)) =
      (afterDefault? k ts).map (List.map (Token.moved n)) := by
  induction ts with
  | nil =>
    intro k
    rfl
  | cons t ts ih =>
    intro k
    rw [List.map_cons, afterDefault?, afterDefault?, startsDefault_moved, Token.step_moved, ih]
    split <;> rfl

theorem upToAttribute_moved (ts : List Token) :
    ∀ k : Int, upToAttribute k (ts.map (Token.moved n)) =
      (upToAttribute k ts).map (Token.moved n) := by
  induction ts with
  | nil =>
    intro k
    rfl
  | cons t ts ih =>
    intro k
    have hstarts := startsAttribute_moved (n := n) (t :: ts)
    rw [List.map_cons] at hstarts ⊢
    rw [upToAttribute, upToAttribute, hstarts, Token.step_moved, ih]
    split <;> rfl

theorem defaultTokens_moved (ts : List Token) :
    (⟨ts.map (Token.moved n)⟩ : Declaration).defaultTokens =
      (⟨ts⟩ : Declaration).defaultTokens.map (Token.moved n) := by
  rw [defaultTokens_eq, defaultTokens_eq, defaultRun, defaultRun, afterDefault?_moved]
  rcases afterDefault? 0 ts with _ | _ | ⟨x, q⟩
  · rfl
  · rfl
  · simp only [Option.map_some, List.map_cons, Token.step_moved, upToAttribute_moved]

theorem wordsAfterName_moved (ts : List Token) :
    (⟨ts.map (Token.moved n)⟩ : Declaration).wordsAfterName =
      (⟨ts⟩ : Declaration).wordsAfterName.map (Token.moved n) := by
  have hfilter : (ts.map (Token.moved n)).filter (fun t => !t.isQuoted) =
      (ts.filter fun t => !t.isQuoted).map (Token.moved n) := List.filter_map
  unfold wordsAfterName
  dsimp only
  rw [hfilter]
  generalize ts.filter (fun t => !t.isQuoted) = us
  rcases us with _ | ⟨first, _ | ⟨name, later⟩⟩
  · rfl
  · simp only [List.map_cons, List.map_nil, isOneOf_moved]
    by_cases hfirst : isOneOf ["CONSTRAINT"] first = true <;> simp [hfirst]
  · simp only [List.map_cons, isOneOf_moved]
    by_cases hfirst : isOneOf ["CONSTRAINT"] first = true
    · by_cases hname : isOneOf definingWords name = true <;> simp [hfirst, hname]
    · simp [hfirst]

theorem indexWording?_moved (ts : List Token) :
    (⟨ts.map (Token.moved n)⟩ : Declaration).indexWording? =
      (⟨ts⟩ : Declaration).indexWording? := by
  unfold indexWording?
  rw [wordsAfterName_moved]
  rcases (⟨ts⟩ : Declaration).wordsAfterName with _ | ⟨first, _ | ⟨second, rest⟩⟩ <;> rfl

/-! ## Texts around an entry -/

/-- What stands around a text does not show in what is cut from it. -/
theorem slice_append (before body after : List Char) {start stop : Nat} (h : stop ≤ body.length) :
    Lexer.slice (before ++ body ++ after) (start + before.length) (stop + before.length) =
      Lexer.slice body start stop := by
  unfold Lexer.slice
  rw [Nat.add_sub_add_right, List.append_assoc, Nat.add_comm start, ← List.drop_drop,
    List.drop_left]
  by_cases hlt : start < stop
  · rw [List.drop_append_of_le_length (by omega),
      List.take_append_of_le_length (by rw [List.length_drop]; omega)]
  · rw [Nat.sub_eq_zero_of_le (by omega), List.take_zero, List.take_zero]

theorem textOf_moved {f : String} {before body after : List Char} {ts : List Token}
    (hf : f.toList = before ++ body ++ after) (hts : ∀ t ∈ ts, t.stop ≤ body.length) :
    textOf f (ts.map (Token.moved before.length)) = textOf (String.ofList body) ts := by
  by_cases h : ts = []
  · rw [h]
    rfl
  · have hmap : ts.map (Token.moved before.length) ≠ [] := by simpa using h
    rw [textOf_eq f hmap, textOf_eq _ h, List.head_map, List.getLast_map, hf,
      String.toList_ofList]
    exact congrArg (fun cs => some (String.ofList cs))
      (slice_append before body after (hts _ (List.getLast_mem h)))

/-- The wording of an entry is that of its text alone. -/
theorem wording_moved {f : String} {before body after : List Char} {ts : List Token}
    (hf : f.toList = before ++ body ++ after) (hts : ∀ t ∈ ts, t.stop ≤ body.length) :
    (⟨ts.map (Token.moved before.length)⟩ : Declaration).wording f =
      (⟨ts⟩ : Declaration).wording (String.ofList body) := by
  unfold wording defaultText?
  rw [defaultTokens_moved, indexWording?_moved, textOf_moved hf fun t ht =>
    hts t ((defaultTokens_sublist ⟨ts⟩).subset ht)]

end Declaration

/-! ## Read tokens -/

namespace Sql

/-- A clause without the tokens that it was read from. -/
def Clause.forget : Clause → Clause
  | .default value _ => .default value []
  | c => c

/-- A column without the tokens that its defaults were read from. -/
def ColumnDefinition.forget (c : ColumnDefinition) : ColumnDefinition :=
  { c with clauses := c.clauses.map Clause.forget }

/-- An entry without the tokens that its defaults were read from. -/
def Entry.forget : Entry → Entry
  | .column c => .column c.forget
  | .clause c => .clause c.forget
  | .constraint name cs => .constraint name (cs.map Clause.forget)
  | .term t => .term t

theorem withClause_forget (d : Dialect) (w : Wording) (c : ColumnSpec) (a : Clause) :
    c.withClause d w a.forget = c.withClause d w a := by
  cases a <;> rfl

theorem Clause.index?_forget (d : Dialect) (table : String) (n : Option String) (a : Clause) :
    a.forget.index? d table n = a.index? d table n := by
  cases a <;> rfl

theorem ColumnDefinition.countsByItself_forget (d : Dialect) (c : ColumnDefinition) :
    c.forget.countsByItself d = c.countsByItself d := by
  cases d with
  | mysql => rfl
  | postgres =>
    show (_ || (c.clauses.map Clause.forget).any _) = (_ || c.clauses.any _)
    rw [List.any_map]
    refine congrArg (_ || ·) (congrArg c.clauses.any (funext fun a => ?_))
    cases a <;> rfl

theorem ColumnDefinition.toSpec_forget (d : Dialect) (w : Wording) (c : ColumnDefinition) :
    c.forget.toSpec d w = c.toSpec d w := by
  have hfold : ∀ spec : ColumnSpec, (c.clauses.map Clause.forget).foldl
      (ColumnSpec.withClause d w) spec = c.clauses.foldl (ColumnSpec.withClause d w) spec := by
    intro spec
    rw [List.foldl_map]
    congr 1
    funext spec a
    exact withClause_forget d w spec a
  unfold ColumnDefinition.toSpec
  rw [countsByItself_forget]
  simp only [ColumnDefinition.forget, hfold]

theorem Entry.plainIndexes_forget (d : Dialect) (table : String) (e : Entry) :
    e.forget.plainIndexes d table = e.plainIndexes d table := by
  cases e with
  | column c => rfl
  | clause c => exact congrArg Option.toList (Clause.index?_forget d table none c)
  | constraint name cs =>
    show (cs.map Clause.forget).filterMap _ = cs.filterMap _
    rw [List.filterMap_map]
    congr 1
    funext a
    exact Clause.index?_forget d table _ a
  | term t => rfl

/-- What an entry contributes does not depend on the tokens that were kept. -/
theorem Entry.contribution_forget (d : Dialect) (table : String) (w : Wording) (e : Entry) :
    e.forget.contribution d table w = e.contribution d table w := by
  unfold Entry.contribution Entry.indexes
  rw [plainIndexes_forget]
  congr 1
  cases e with
  | column c => exact congrArg some (ColumnDefinition.toSpec_forget d w c)
  | clause c => rfl
  | constraint name cs => rfl
  | term t => rfl

end Sql

/-! ## Orderly lists -/

open Declaration

/-- A fragment that is read as a table, with the items of its column list, before which nothing is
open. -/
structure ReadAs (d : Dialect) (f : String) (s : TableSchema) (declared : List Wording)
    (items : List ListItem) : Prop where
  read : Fragment.read d f = .table s declared
  entries : s.entries = entriesOf items
  list : ∃ before o content c after, tokens d f = .ok (before ++ o :: (content ++ c :: after)) ∧
    Along (· ≤ 0) 0 before ∧ rise before = 0 ∧ o.isSign .lParen = true ∧
    c.isSign .rParen = true ∧ ListRead content items

/-- No item but a last one is empty. -/
def Filled (items : List ListItem) : Prop :=
  ∀ u ∈ kept (items.map ListItem.tokens), u ≠ []

/-- No item has a comma of its own outside parentheses. -/
def Undivided (items : List ListItem) : Prop :=
  ∀ i ∈ items, ¬Outside (Token.isSign .comma) 0 i.tokens

/-- A list without empty items, but for a last one, and without commas that divide an item. -/
structure Orderly (items : List ListItem) : Prop where
  filled : Filled items
  undivided : Undivided items

theorem mem_of_mem_kept {u : List Token} {us : List (List Token)} (h : u ∈ kept us) : u ∈ us := by
  induction us with
  | nil => exact h
  | cons v us ih =>
    cases us with
    | nil =>
      rw [kept] at h
      split at h
      · cases h
      · exact h
    | cons w us =>
      rw [kept_cons (by simp)] at h
      rcases List.mem_cons.mp h with rfl | h
      · exact List.mem_cons_self
      · exact List.mem_cons_of_mem v (ih h)

theorem mem_kept {u : List Token} {us : List (List Token)} (h : u ∈ us) (hne : u ≠ []) :
    u ∈ kept us := by
  have hfilter : u ∈ (kept us).filter (· ≠ []) := by
    rw [filter_kept, List.mem_filter]
    exact ⟨h, by simpa using hne⟩
  exact (List.mem_filter.mp hfilter).1

/-- In an orderly list the runs that count have tokens and are one piece each. -/
theorem orderly_iff {items : List ListItem} :
    Orderly items ↔ ∀ u ∈ kept (items.map ListItem.tokens), u ≠ [] ∧ pieces 0 u = [u] := by
  constructor
  · intro h u hu
    obtain ⟨i, hi, rfl⟩ := List.mem_map.mp (mem_of_mem_kept hu)
    exact ⟨h.filled _ hu, pieces_eq_singleton_iff.mpr ⟨rfl, h.undivided i hi⟩⟩
  · intro h
    refine ⟨fun u hu => (h u hu).1, fun i hi => ?_⟩
    by_cases hempty : i.tokens = []
    · rw [hempty]
      exact not_outside_nil
    · exact (pieces_eq_singleton_iff.mp (h _ (mem_kept (List.mem_map_of_mem hi) hempty)).2).2

/-- Items without parentheses and commas can be read and make an orderly list. -/
theorem listRead_of_plain (items : List ListItem) {content : List Token}
    (hjoined : Joined (items.map ListItem.tokens) content)
    (hfull : ∀ i ∈ items, i.entry.isSome = true ∧ i.tokens ≠ [])
    (hplain : ∀ i ∈ items, ∀ t ∈ i.tokens, t.step = 0 ∧ t.isSign .comma = false) :
    ListRead content items ∧ Orderly items := by
  refine ⟨⟨hjoined, ?_, ?_, ?_⟩, ?_⟩
  · exact fun i hi => wellNested_of_flat fun t ht => (hplain i hi t ht).1
  · exact fun i hi => iff_of_true (hfull i hi).1 (hfull i hi).2
  · intro i hi t ht
    rcases List.mem_append.mp ht with ht | ht
    · exact (hplain i hi t (List.mem_of_head? (by simpa using ht))).2
    · exact (hplain i hi t (List.mem_of_getLast? (by simpa using ht))).2
  · refine ⟨fun u hu => ?_, fun i hi => not_outside_iff.mpr fun pre t post hsplit _ => ?_⟩
    · obtain ⟨i, hi, rfl⟩ := List.mem_map.mp (mem_of_mem_kept hu)
      exact (hfull i hi).2
    · exact (hplain i hi t (by simp [hsplit])).2

variable {d : Dialect} {f g : String} {s s' : TableSchema} {declared declared' : List Wording}
  {items items' : List ListItem}

/-- Declared texts are used exactly in orderly lists. -/
theorem ReadAs.agrees_iff_orderly (h : ReadAs d f s declared items) :
    s.agrees declared = true ↔ Orderly items := by
  obtain ⟨before, o, content, c, after, hts, hbefore, hlevel, ho, hc, hlist⟩ := h.list
  have hcount := congrArg List.length hlist.filter_tokens
  rw [List.length_map, ← filter_kept] at hcount
  rw [Fragment.agrees_iff h.read hts, h.entries, length_entriesOf,
    ofTokens_of_listRead hbefore hlevel ho hc hlist, List.length_map, ← hcount, orderly_iff]
  -- declared entries are pieces, entries are runs with tokens
  constructor
  · exact whole_of_length_eq
  · intro horderly
    obtain ⟨hpieces, hfilter⟩ := flatMap_pieces_of_whole horderly
    rw [hpieces, hfilter]

/-- In an orderly list the declared entries hold the tokens of their items. -/
theorem ReadAs.declared_getElem? (h : ReadAs d f s declared items) (horderly : Orderly items)
    {n : Nat} {it : ListItem} (hn : (giving items)[n]? = some it) :
    declared[n]? = some ((⟨it.tokens⟩ : Declaration).wording f) := by
  have hagrees := h.agrees_iff_orderly.mpr horderly
  obtain ⟨before, o, content, c, after, hts, hbefore, hlevel, ho, hc, hlist⟩ := h.list
  have hlength : (ofTokens (before ++ o :: (content ++ c :: after))).length =
      (entriesOf items).length := by
    rw [Fragment.agrees_iff h.read hts, h.entries] at hagrees
    exact hagrees
  have htokens := congrArg (·[n]?) (tokens_of_length_eq hbefore hlevel ho hc hlist hlength)
  simp only [List.getElem?_map, hn, Option.map_some] at htokens
  obtain ⟨D, hD, hDtokens⟩ := Option.map_eq_some_iff.mp htokens
  rw [Fragment.declared_eq h.read hts, List.getElem?_map, hD, Option.map_some, ← hDtokens]

/-- The entries are those of the items that give one. -/
theorem entriesOf_getElem? (items : List ListItem) :
    ∀ {n : Nat} {it : ListItem}, (giving items)[n]? = some it →
      (entriesOf items)[n]? = it.entry := by
  induction items with
  | nil =>
    intro n it h
    cases h
  | cons i items ih =>
    intro n it h
    unfold giving at h ih
    unfold entriesOf at ih ⊢
    cases he : i.entry with
    | none =>
      rw [List.filter_cons_of_neg (by simp [he])] at h
      rw [List.filterMap_cons_none he]
      exact ih h
    | some e =>
      rw [List.filter_cons_of_pos (by simp [he])] at h
      rw [List.filterMap_cons_some he]
      cases n with
      | zero =>
        cases h
        exact he.symm
      | succ n => exact ih h

/-- What the item at a place of an orderly list contributes. -/
theorem ReadAs.contributions_getElem? (h : ReadAs d f s declared items)
    (horderly : Orderly items) {n : Nat} {it : ListItem} (hn : (giving items)[n]? = some it) :
    (s.contributions d declared)[n]? = it.entry.map fun e =>
      e.contribution d s.name ((⟨it.tokens⟩ : Declaration).wording f) := by
  rw [TableSchema.contributions_getElem? (h.agrees_iff_orderly.mpr horderly), h.entries,
    entriesOf_getElem? items hn, h.declared_getElem? horderly hn]
  cases it.entry <;> rfl

/-! ## Locality -/

/-- An item of one fragment and one of another: the same text with the same tokens in it, wherever
it stands, and read as the same entry. -/
structure SameItem (f : String) (it : ListItem) (g : String) (it' : ListItem) : Prop where
  text : ∃ (before body after before' after' : List Char) (ts : List Token),
    f.toList = before ++ body ++ after ∧ g.toList = before' ++ body ++ after' ∧
    (∀ t ∈ ts, t.stop ≤ body.length) ∧
    it.tokens = ts.map (Token.moved before.length) ∧
    it'.tokens = ts.map (Token.moved before'.length)
  entry : it.entry.map Entry.forget = it'.entry.map Entry.forget

theorem SameItem.wording {it it' : ListItem} (h : SameItem f it g it') :
    (⟨it.tokens⟩ : Declaration).wording f = (⟨it'.tokens⟩ : Declaration).wording g := by
  obtain ⟨before, body, after, before', after', ts, hf, hg, hts, hit, hit'⟩ := h.text
  rw [hit, hit', wording_moved hf hts, wording_moved hg hts]

theorem SameItem.contribution {it it' : ListItem} (h : SameItem f it g it') (d : Dialect)
    (table : String) (w : Wording) :
    it.entry.map (·.contribution d table w) = it'.entry.map (·.contribution d table w) := by
  have hforget : ∀ o : Option Entry, o.map (·.contribution d table w) =
      (o.map Entry.forget).map (·.contribution d table w) := fun o => by
    cases o with
    | none => rfl
    | some e => exact congrArg some (Entry.contribution_forget d table w e).symm
  rw [hforget it.entry, hforget it'.entry, h.entry]

/-- An item without a comma of its own outside parentheses makes an orderly list on its own. -/
theorem SameItem.orderly {it it' : ListItem} (h : SameItem f it g it') (hne : it.tokens ≠ [])
    (hwhole : ¬Outside (Token.isSign .comma) 0 it.tokens) : Orderly [it'] := by
  obtain ⟨before, body, after, before', after', ts, -, -, -, htokens, htokens'⟩ := h.text
  -- moving the item moves no comma out of parentheses
  rw [htokens, outside_comma_moved] at hwhole
  rw [htokens] at hne
  refine ⟨fun u hu => ?_, fun i hi => ?_⟩
  · rw [List.mem_singleton.mp (mem_of_mem_kept hu), htokens']
    simpa using hne
  · rw [List.mem_singleton.mp hi, htokens', outside_comma_moved]
    exact hwhole

/-- In a list whose items have no comma of their own outside parentheses: if no item but a last one
is empty, an entry contributes what it contributes to another such list of a table with this name,
in particular to a list of its own; otherwise every entry contributes what it does without declared
texts. -/
theorem contributions_local (hf : ReadAs d f s declared items)
    (hg : ReadAs d g s' declared' items') (hname : s.name = s'.name) (hwhole : Undivided items) :
    (Filled items → ∀ (n m : Nat) (it it' : ListItem), (giving items)[n]? = some it →
      (giving items')[m]? = some it' → SameItem f it g it' →
      (Undivided items' ∧ Filled items') ∨ items' = [it'] →
      (s.contributions d declared)[n]? = (s'.contributions d declared')[m]?) ∧
    (¬Filled items →
      s.contributions d declared = s.entries.map (·.contribution d s.name {})) := by
  constructor
  · intro hfilled n m it it' hn hm hsame hother
    obtain ⟨hit, hgives⟩ := List.mem_filter.mp (List.mem_of_getElem? hn)
    have hne : it.tokens ≠ [] := by
      obtain ⟨_, _, content, _, _, _, _, _, _, _, hlist⟩ := hf.list
      exact (hlist.entry_iff it hit).mp hgives
    have horderly : Orderly items := ⟨hfilled, hwhole⟩
    have horderly' : Orderly items' := by
      rcases hother with ⟨hwhole', hfilled'⟩ | rfl
      · exact ⟨hfilled', hwhole'⟩
      · exact hsame.orderly hne (hwhole it hit)
    rw [hf.contributions_getElem? horderly hn, hg.contributions_getElem? horderly' hm,
      ← hsame.wording, ← hname]
    exact hsame.contribution d s.name _
  · intro hempty
    refine TableSchema.contributions_of_not_agrees ?_
    rw [← Bool.not_eq_true, hf.agrees_iff_orderly]
    exact fun horderly => hempty horderly.filled

/-- An entry is the column `a` with the current date as its default. -/
def isCurrentDate : Entry → Bool
  | .column ⟨"a", some (.type (.builtin .date) [] []),
      [.default (.phrase "currentdate" ["CURRENT_DATE"] []) _]⟩ => true
  | _ => false

theorem forget_of_isCurrentDate {e e' : Entry} (h : isCurrentDate e = true)
    (h' : isCurrentDate e' = true) : e.forget = e'.forget := by
  unfold isCurrentDate at h h'
  split at h
  · split at h'
    · rfl
    · cases h'
  · cases h

/-- The second entry of a list, in the list and alone. -/
theorem contributions_local_current_date :
    ∃ s s' declared declared' items items',
      ReadAs .mysql "CREATE TABLE t (b int, a date DEFAULT current_date)" s declared items ∧
      ReadAs .mysql "CREATE TABLE t (a date DEFAULT current_date)" s' declared' items' ∧
      s.name = s'.name ∧ Undivided items ∧ Filled items ∧
      (s.contributions .mysql declared)[1]? = (s'.contributions .mysql declared')[0]? := by
  let own : List Token := [⟨.word, "a", 0, 1, false⟩, ⟨.typeName .date, "date", 2, 6, false⟩,
    ⟨.keyword .default, "DEFAULT", 7, 14, false⟩,
    ⟨.keyword .currentDate, "current_date", 15, 27, false⟩]
  let other : List Token := [⟨.word, "b", 16, 17, false⟩, ⟨.typeName .int, "int", 18, 21, false⟩]
  let front : List Token := [⟨.keyword .create, "CREATE", 0, 6, false⟩,
    ⟨.keyword .table, "TABLE", 7, 12, false⟩, ⟨.word, "t", 13, 14, false⟩]
  have hfront : Along (· ≤ 0) 0 front ∧ rise front = 0 := by
    refine ⟨?_, rfl⟩
    simp only [front, along_cons, along_nil]
    decide
  have hruns : (Fragment.read .mysql
        "CREATE TABLE t (b int, a date DEFAULT current_date)").schema?.map
          (fun s => (s.name, s.entries.map isCurrentDate)) = some ("t", [false, true]) ∧
      (tokens .mysql "CREATE TABLE t (b int, a date DEFAULT current_date)").toOption.map id =
        some (front ++ ⟨.sign .lParen, "(", 15, 16, false⟩ ::
          ((other ++ ⟨.sign .comma, ",", 21, 22, false⟩ :: own.map (Token.moved 23)) ++
            [⟨.sign .rParen, ")", 50, 51, false⟩])) := by decide +kernel
  have hruns' : (Fragment.read .mysql
        "CREATE TABLE t (a date DEFAULT current_date)").schema?.map
          (fun s => (s.name, s.entries.map isCurrentDate)) = some ("t", [true]) ∧
      (tokens .mysql "CREATE TABLE t (a date DEFAULT current_date)").toOption.map id =
        some (front ++ ⟨.sign .lParen, "(", 15, 16, false⟩ ::
          (own.map (Token.moved 16) ++ [⟨.sign .rParen, ")", 43, 44, false⟩])) := by
    decide +kernel
  obtain ⟨⟨name, entries⟩, declared, _, hread, htokens, hshape, rfl⟩ :=
    Fragment.exists_reading_and_tokens hruns
  obtain ⟨⟨name', entries'⟩, declared', _, hread', htokens', hshape', rfl⟩ :=
    Fragment.exists_reading_and_tokens hruns'
  obtain ⟨hname, hentries⟩ := Prod.mk.inj hshape
  obtain ⟨hname', hentries'⟩ := Prod.mk.inj hshape'
  obtain ⟨entry, others, rfl, -, hothers⟩ := List.map_eq_cons_iff.mp hentries
  obtain ⟨date, others, rfl, hdate, hothers⟩ := List.map_eq_cons_iff.mp hothers
  obtain ⟨date', others', rfl, hdate', hothers'⟩ := List.map_eq_cons_iff.mp hentries'
  cases List.map_eq_nil_iff.mp hothers
  cases List.map_eq_nil_iff.mp hothers'
  let first : ListItem := ⟨other, some entry⟩
  let it : ListItem := ⟨own.map (Token.moved 23), some date⟩
  let it' : ListItem := ⟨own.map (Token.moved 16), some date'⟩
  obtain ⟨hlist, horderly⟩ := listRead_of_plain [first, it]
    (.more (c := ⟨.sign .comma, ",", 21, 22, false⟩) rfl (.one _))
    (by simp [first, it, other, own]) (by simp [first, it, other, own]; decide)
  obtain ⟨hlist', -⟩ := listRead_of_plain [it'] (.one _)
    (by simp [it', own]) (by simp [it', own]; decide)
  have hf : ReadAs .mysql "CREATE TABLE t (b int, a date DEFAULT current_date)"
      ⟨name, [entry, date]⟩ declared [first, it] :=
    ⟨hread, rfl, front, _, _, _, [], htokens, hfront.1, hfront.2, rfl, rfl, hlist⟩
  have hg : ReadAs .mysql "CREATE TABLE t (a date DEFAULT current_date)"
      ⟨name', [date']⟩ declared' [it'] :=
    ⟨hread', rfl, front, _, _, _, [], htokens', hfront.1, hfront.2, rfl, rfl, hlist'⟩
  have hnames : name = name' := hname.trans hname'.symm
  have hsame : SameItem "CREATE TABLE t (b int, a date DEFAULT current_date)" it
      "CREATE TABLE t (a date DEFAULT current_date)" it' :=
    ⟨⟨"CREATE TABLE t (b int, ".toList, "a date DEFAULT current_date".toList, ")".toList,
      "CREATE TABLE t (".toList, ")".toList, own, rfl, rfl, by decide, rfl, rfl⟩,
      congrArg some (forget_of_isCurrentDate hdate hdate')⟩
  exact ⟨_, _, _, _, _, _, hf, hg, hnames, horderly.undivided, horderly.filled,
    (contributions_local hf hg hnames horderly.undivided).1 horderly.filled 1 0 it it' rfl rfl
      hsame (.inr rfl)⟩

/-- An empty item changes what is shown of the entry beside it. -/
theorem default_beside_empty_item :
    (Fragment.table? .mysql "CREATE TABLE t (a timestamp DEFAULT current_timestamp)").map
      (·.columns.map ColumnSpec.default) = some [some "current_timestamp"] ∧
    (Fragment.table? .mysql
        "CREATE TABLE t (a timestamp DEFAULT current_timestamp, , b int)").map
      (·.columns.map ColumnSpec.default) = some [some "CURRENT_TIMESTAMP()", none] := by
  decide +kernel

end TableDoc
