import TableDoc.Proofs.DefaultExtent
import TableDoc.Proofs.ParsedKinds
import TableDoc.Proofs.Spelling

/-!
# The place of a default

The text of a default begins after the first `DEFAULT` outside parentheses, wherever the grammar
reads the default of a column. The word also ends an action for a key and is part of a way to
generate values, so it can stand in an attribute before the default, or without a default.

* **runs** — whether the word stands outside the parentheses of a run is settled attribute by
  attribute (`HoldsDefault`, `holdsDefault_flatten`);
* **no text** — an entry has no text exactly where nothing follows any such word
  (`defaultText?_eq_none_iff`);
* **place** — the text begins with the first token that the grammar took exactly where no attribute
  before it holds such a word (`head?_defaultTokens_eq_iff`, `default_place_iff`).
-/

namespace TableDoc

open Sql

namespace Declaration

/-! ## Runs -/

/-- An unquoted `DEFAULT` stands outside the parentheses of a run. -/
def HoldsDefault (run : List Token) : Prop :=
  ∃ pre w post, run = pre ++ w :: post ∧ rise pre = 0 ∧ startsDefault w = true

theorem holdsDefault_iff_outside {run : List Token} :
    HoldsDefault run ↔ Outside startsDefault 0 run := by
  simp only [HoldsDefault, Outside, Int.zero_add]

theorem not_holdsDefault_nil : ¬HoldsDefault [] := by
  rw [holdsDefault_iff_outside]
  exact not_outside_nil

theorem not_holdsDefault_of_all {run : List Token} (h : run.all (!startsDefault ·) = true) :
    ¬HoldsDefault run := by
  rintro ⟨pre, w, post, rfl, -, hw⟩
  have hnot := List.all_eq_true.mp h w (List.mem_append_right pre List.mem_cons_self)
  rw [hw] at hnot
  cases hnot

/-- Where a run is level, what follows it begins outside its parentheses. -/
theorem holdsDefault_append {u v : List Token} (hu : rise u = 0) :
    HoldsDefault (u ++ v) ↔ HoldsDefault u ∨ HoldsDefault v := by
  simp only [holdsDefault_iff_outside]
  rw [outside_append, hu, Int.add_zero]

/-- Among attributes that close what they open the word stands in one of them. -/
theorem holdsDefault_flatten {runs : List (List Token)} (hlevel : ∀ run ∈ runs, rise run = 0) :
    HoldsDefault runs.flatten ↔ ∃ run ∈ runs, HoldsDefault run := by
  induction runs with
  | nil => simp [not_holdsDefault_nil]
  | cons run runs ih =>
    rw [List.flatten_cons, holdsDefault_append (hlevel run List.mem_cons_self),
      ih fun other ho => hlevel other (List.mem_cons_of_mem run ho)]
    simp

theorem rise_flatten {runs : List (List Token)} (hlevel : ∀ run ∈ runs, rise run = 0) :
    rise runs.flatten = 0 := by
  induction runs with
  | nil => rfl
  | cons run runs ih =>
    rw [List.flatten_cons, rise_append, hlevel run List.mem_cons_self,
      ih fun other ho => hlevel other (List.mem_cons_of_mem run ho)]
    rfl

/-! ## No text -/

theorem defaultRun_eq_nil_iff {ts : List Token} :
    defaultRun ts = [] ↔ afterDefault? 0 ts = none ∨ afterDefault? 0 ts = some [] := by
  unfold defaultRun
  cases afterDefault? 0 ts with
  | none => simp
  | some q => cases q <;> simp

theorem textOf_eq_none_iff {sql : String} {ts : List Token} : textOf sql ts = none ↔ ts = [] := by
  constructor
  · intro h
    cases ts with
    | nil => rfl
    | cons t ts => rw [textOf_eq sql (List.cons_ne_nil t ts)] at h; cases h
  · rintro rfl
    rfl

/-- An entry has no text for a default exactly where no unquoted `DEFAULT` stands outside its
parentheses before its last token. -/
theorem defaultText?_eq_none_iff {sql : String} {D : Declaration} :
    D.defaultText? sql = none ↔ ¬HoldsDefault D.tokens.dropLast := by
  unfold defaultText?
  rw [textOf_eq_none_iff, defaultTokens_eq, defaultRun_eq_nil_iff, holdsDefault_iff_outside,
    not_outside_dropLast_iff, afterDefault?_eq_none_iff, afterDefault?_eq_some_iff]
  -- both sides say that there is no such word or that the first one is the last token
  simp only [and_left_comm]

/-! ## Place -/

/-- A token stands at one place of an entry. -/
theorem append_cons_inj_of_placed {lo size : Nat} {u v u' v' : List Token} {t : Token}
    (h : Placed lo size (u ++ t :: v)) (heq : u ++ t :: v = u' ++ t :: v') : u = u' ∧ v = v' := by
  have hnot : ∀ {a b c : List Token}, Placed lo size (a ++ t :: (b ++ t :: c)) → False := by
    intro a b c hplaced
    have hbehind := (hplaced.after).above t (List.mem_append_right b List.mem_cons_self)
    have hproper := (hplaced.proper t (List.mem_append_right a List.mem_cons_self)).1
    omega
  rcases List.append_eq_append_iff.mp heq with ⟨b, rfl, hb⟩ | ⟨b, rfl, hb⟩
  · cases b with
    | nil => exact ⟨(List.append_nil u).symm, (List.cons.inj hb).2⟩
    | cons x b =>
      obtain ⟨rfl, rfl⟩ := List.cons.inj hb
      exact (hnot h).elim
  · cases b with
    | nil => exact ⟨List.append_nil u', (List.cons.inj hb).2.symm⟩
    | cons x b =>
      obtain ⟨rfl, rfl⟩ := List.cons.inj hb
      rw [List.append_assoc] at h
      exact (hnot h).elim

theorem head?_defaultTokens (D : Declaration) :
    D.defaultTokens.head? = (afterDefault? 0 D.tokens).bind List.head? := by
  rw [defaultTokens_eq, defaultRun]
  cases afterDefault? 0 D.tokens with
  | none => rfl
  | some q => cases q <;> rfl

/-- The text of an entry begins with the token `t` after a word exactly where that word is the
first unquoted `DEFAULT` outside parentheses. -/
theorem head?_defaultTokens_eq_iff {D : Declaration} {lo size : Nat} {front post : List Token}
    {w t : Token} (hplaced : Placed lo size D.tokens)
    (hsplit : D.tokens = front ++ w :: t :: post) (hfront : rise front = 0) :
    D.defaultTokens.head? = some t ↔ startsDefault w = true ∧ ¬HoldsDefault front := by
  rw [head?_defaultTokens]
  constructor
  · intro hhead
    obtain ⟨q, hafter, hq⟩ := Option.bind_eq_some_iff.mp hhead
    obtain ⟨q, rfl⟩ := List.head?_eq_some_iff.mp hq
    obtain ⟨pre, w', hsplit', hw', hrise, hfirst⟩ := afterDefault?_eq_some_iff.mp hafter
    have heq : (front ++ [w]) ++ t :: post = (pre ++ [w']) ++ t :: q := by
      rw [List.append_assoc, List.append_assoc]
      exact hsplit.symm.trans hsplit'
    have hfronts := (append_cons_inj_of_placed (by simpa [← hsplit] using hplaced) heq).1
    obtain ⟨rfl, hww⟩ := List.append_inj' hfronts rfl
    cases hww
    exact ⟨hw', mt holdsDefault_iff_outside.mp hfirst⟩
  · rintro ⟨hw, hnone⟩
    have hafter : afterDefault? 0 D.tokens = some (t :: post) :=
      afterDefault?_eq_some_iff.mpr
        ⟨front, w, hsplit, hw, by omega, mt holdsDefault_iff_outside.mpr hnone⟩
    rw [hafter]
    rfl

/-- The text of an entry for a default is cut from the statement from the token `t` on. -/
def TextBeginsAt (D : Declaration) (sql : String) (t : Token) : Prop :=
  ∃ last, D.defaultTokens.head? = some t ∧ D.defaultTokens.getLast? = some last ∧
    D.defaultText? sql = some (String.ofList (Lexer.slice sql.toList t.start last.stop))

theorem textBeginsAt_iff {D : Declaration} {sql : String} {t : Token} :
    D.TextBeginsAt sql t ↔ D.defaultTokens.head? = some t := by
  constructor
  · rintro ⟨last, hhead, -⟩
    exact hhead
  · intro hhead
    obtain ⟨more, hmore⟩ := List.head?_eq_some_iff.mp hhead
    have hne : D.defaultTokens ≠ [] := by simp [hmore]
    refine ⟨D.defaultTokens.getLast hne, hhead, List.getLast?_eq_some_getLast hne, ?_⟩
    unfold defaultText?
    rw [textOf_eq _ hne]
    simp [hmore]

/-- The grammar reads a default in an entry from the tokens `e` after the word `w`; `front` stands
before the word and `post` after the tokens. -/
structure DefaultRead (d : Dialect) (D : Declaration) (front : List Token) (w : Token)
    (e post : List Token) : Prop where
  split : D.tokens = front ++ w :: (e ++ post)
  read : ∃ r v prev last after,
    clauseAmong? d r (columnWords d) true ⟨prev, w :: (e ++ (post ++ after))⟩ =
      .ok (some (.default v e), ⟨last, post ++ after⟩)

/-- The word for a default is one as long as it stands in no quotes. -/
theorem DefaultRead.startsDefault_iff {d : Dialect} {D : Declaration} {front e post : List Token}
    {w : Token} (h : D.DefaultRead d front w e post) (hw : Spells d w.kind w.text) :
    startsDefault w = true ↔ w.kind ≠ .quotedName := by
  obtain ⟨r, v, prev, last, after, hread⟩ := h.read
  obtain ⟨t, rest, hrest, htext, hword⟩ := readFrom_of_clauseAmong? hread
  obtain ⟨rfl, -⟩ := List.cons.inj hrest
  have hcapitals : w.capitals = "DEFAULT" := hword
  have hnoSign : ∀ s ∈ listSigns, w.isSign s = false := by
    intro s hs
    by_cases hsign : w.isSign s = true
    · have hmem := capitals_of_sign hw hsign hs
      rw [hcapitals] at hmem
      exact absurd hmem (by decide)
    · simpa using hsign
  have hstep : w.step = 0 :=
    Token.step_other (hnoSign .lParen (by simp [listSigns])) (hnoSign .rParen (by simp [listSigns]))
  simp [startsDefault, hstep, isOneOf, hcapitals, Token.isQuoted, htext]

end Declaration

/-! ## Entries -/

open Declaration

/-- In a fragment whose declared texts are in use, an entry has no text for a default exactly where
no unquoted `DEFAULT` stands outside its parentheses before its last token. The text for a default
that the grammar reads, behind attributes that close what they open, begins with the first token
that it is read from exactly where its word is unquoted and no attribute holds another outside
parentheses. -/
theorem default_place_iff {d : Dialect} {f : String} {s : TableSchema} {declared : List Wording}
    {ts : List Token} {i : Nat} {entry : Entry} (hread : Fragment.read d f = .table s declared)
    (hts : tokens d f = .ok ts) (hagrees : s.agrees declared = true)
    (hentry : s.entries[i]? = some entry) :
    ∃ D, (ofTokens ts)[i]? = some D ∧
      (D.defaultText? f = none ↔ ¬HoldsDefault D.tokens.dropLast) ∧
      ∀ (v : Term) (t : Token) (e : List Token) (runs : List (List Token)) (w : Token)
        (post : List Token), entry.defaults = [(v, t :: e)] → (∀ run ∈ runs, rise run = 0) →
        D.DefaultRead d runs.flatten w (t :: e) post →
        (D.TextBeginsAt f t ↔ w.kind ≠ .quotedName ∧ ∀ run ∈ runs, ¬HoldsDefault run) := by
  obtain ⟨D, hD, -⟩ := Fragment.exists_declaration hread hts hagrees hentry
  have hmem := List.mem_of_getElem? hD
  refine ⟨D, hD, defaultText?_eq_none_iff, ?_⟩
  intro v t e runs w post _ hlevel hdefault
  have hspells : Spells d w.kind w.text := by
    refine spells_of_mem hts ((sublist_of_mem_entriesFrom ts 0 [] hmem).subset ?_)
    rw [hdefault.split]
    exact List.mem_append_right _ List.mem_cons_self
  rw [textBeginsAt_iff,
    head?_defaultTokens_eq_iff (placed_of_mem hts hmem) hdefault.split (rise_flatten hlevel),
    hdefault.startsDefault_iff hspells, holdsDefault_flatten hlevel]
  simp

/-- Behind a reference without such a word the text is that of the default. -/
theorem default_place_reference :
    ∃ f s declared ts D t,
      f = "CREATE TABLE t (a int REFERENCES b (c) DEFAULT now())" ∧
      Fragment.read .postgres f = .table s declared ∧ tokens .postgres f = .ok ts ∧
      s.agrees declared = true ∧ (ofTokens ts)[0]? = some D ∧ t.text = "now" ∧
      D.TextBeginsAt f t := by
  let runs : List (List Token) := [[⟨.word, "a", 16, 17, false⟩],
    [⟨.typeName .int, "int", 18, 21, false⟩],
    [⟨.keyword .references, "REFERENCES", 22, 32, false⟩, ⟨.word, "b", 33, 34, false⟩,
      ⟨.sign .lParen, "(", 35, 36, false⟩, ⟨.word, "c", 36, 37, false⟩,
      ⟨.sign .rParen, ")", 37, 38, false⟩]]
  let w : Token := ⟨.keyword .default, "DEFAULT", 39, 46, false⟩
  let t : Token := ⟨.word, "now", 47, 50, false⟩
  let e : List Token := [⟨.sign .lParen, "(", 50, 51, false⟩, ⟨.sign .rParen, ")", 51, 52, false⟩]
  let fence : Token := ⟨.sign .rParen, ")", 52, 53, false⟩
  have hruns : (Fragment.read .postgres
        "CREATE TABLE t (a int REFERENCES b (c) DEFAULT now())").schema?.map
          (·.entries.map fun entry => entry.defaults.map Prod.snd) = some [[t :: e]] ∧
      (tokens .postgres
        "CREATE TABLE t (a int REFERENCES b (c) DEFAULT now())").toOption.map ofTokens =
          some [⟨runs.flatten ++ w :: t :: e⟩] := by decide +kernel
  have hclause : ((clauseAmong? .postgres (Rules.levels .postgres 6) (columnWords .postgres) true
      ⟨none, w :: (t :: e ++ ([] ++ [fence]))⟩).toOption.map
        fun p => ((p.1.bind Clause.default?).map Prod.snd, p.2)) =
          some (some (t :: e), ⟨some ⟨.sign .rParen, ")", 51, 52, false⟩, [fence]⟩) := by
    decide +kernel
  obtain ⟨⟨name, entries⟩, declared, ts, hread, hts, hdefaults, hD⟩ :=
    Fragment.exists_reading_and_tokens hruns
  obtain ⟨entry, others, rfl, hentry, hothers⟩ := List.map_eq_cons_iff.mp hdefaults
  cases List.map_eq_nil_iff.mp hothers
  obtain ⟨⟨v, e'⟩, more, hdefault, rfl, hmore⟩ := List.map_eq_cons_iff.mp hentry
  cases List.map_eq_nil_iff.mp hmore
  have hagrees : TableSchema.agrees ⟨name, [entry]⟩ declared = true := by
    rw [Fragment.agrees_iff hread hts, hD]
    rfl
  obtain ⟨D, hat, -, hplace⟩ := default_place_iff (i := 0) hread hts hagrees rfl
  rw [hD] at hat
  cases hat
  have hlevel : ∀ run ∈ runs, rise run = 0 := by decide
  have hnone : ∀ run ∈ runs, ¬HoldsDefault run := by
    have hall : runs.all (fun run => run.all (!startsDefault ·)) = true := by decide
    exact fun run hrun => not_holdsDefault_of_all (List.all_eq_true.mp hall run hrun)
  obtain ⟨⟨found, c⟩, hfound, hclause⟩ := Option.map_eq_some_iff.mp hclause
  obtain ⟨hvalue, rfl⟩ := Prod.mk.inj hclause
  obtain ⟨⟨v', e'⟩, hvalue, rfl⟩ := Option.map_eq_some_iff.mp hvalue
  obtain ⟨clause, rfl, hclause⟩ := Option.bind_eq_some_iff.mp hvalue
  cases clause with
  | default value read =>
    cases hclause
    have hdefaultRead : DefaultRead .postgres ⟨runs.flatten ++ w :: t :: e⟩ runs.flatten w (t :: e)
        [] := ⟨by simp, _, value, none, _, [fence], eq_ok_of_toOption hfound⟩
    exact ⟨_, _, _, ts, _, t, rfl, hread, hts, hagrees, by rw [hD]; rfl, rfl,
      (hplace v t e runs w [] hdefault hlevel hdefaultRead).mpr ⟨by decide, hnone⟩⟩
  | _ => cases hclause

/-- The word also stands in a way to generate values and in an action for a key. -/
theorem default_elsewhere :
    ((Fragment.read .postgres
        "CREATE TABLE t (id int GENERATED BY DEFAULT AS IDENTITY)").schema?.map
      fun s => s.entries.map fun entry => entry.defaults.length) = some [0] ∧
    (declaredWordings .postgres
        "CREATE TABLE t (id int GENERATED BY DEFAULT AS IDENTITY)").toOption.map
      (·.map Wording.default) = some [some "AS IDENTITY"] ∧
    ((Fragment.read .postgres
        "CREATE TABLE t (a int REFERENCES b (c) ON DELETE SET DEFAULT DEFAULT now())").schema?.map
      fun s => s.entries.map fun entry => entry.defaults.map fun p => p.2.map Token.text) =
        some [[["now", "(", ")"]]] ∧
    (declaredWordings .postgres
        "CREATE TABLE t (a int REFERENCES b (c) ON DELETE SET DEFAULT DEFAULT now())").toOption.map
      (·.map Wording.default) = some [some "DEFAULT now()"] := by
  decide +kernel

end TableDoc
