import TableDoc.Proofs.Opening
import TableDoc.Proofs.ReaderValues

/-!
# What is told of a table that is not read

* `createAfter_isCreation`, `parse_create`: after `CREATE` a statement creates something or is kept
  as a command.
* `Fragment.read_of_opensTable`: so does a fragment that opens with the words, or it can not be
  read.
* `Fragment.creation_reported_iff`: which of these fragments are read or warned about.
-/

namespace TableDoc

namespace Sql

/-! ## What a statement that creates something can be -/

open Reader

/-- What a statement that creates something is read as. -/
def Statement.IsCreation (s : Statement) : Prop :=
  (∃ schema, s = .createTable schema) ∨ (∃ kind, s = .create kind) ∨ s = .other "command"

theorem Statement.isCreation_create (kind : String) : (Statement.create kind).IsCreation :=
  .inr (.inl ⟨kind, rfl⟩)

/-- A statement after `CREATE` creates something or is kept as a command. -/
theorem createAfter_isCreation (d : Dialect) (r : Rules) :
    Gives Statement.IsCreation (createAfter d r) :=
  createAfter_gives Statement.isCreation_create (.inr (.inr rfl)) fun _ =>
    gives_of_forall (fun _ schema _ => .inl ⟨schema, rfl⟩) _

/-- The keyword leads to the rule for what is created. -/
theorem firstStatement?_create {d : Dialect} {t : Token} (ht : t.kind = .keyword .create)
    (r : Rules) (rest : List Token) :
    firstStatement? d r ⟨none, t :: rest⟩ =
      (createAfter d r >>= fun s => pure (some s)) ⟨some t, rest⟩ := by
  obtain ⟨kind, text, start, stop, remarked⟩ := t
  cases ht
  cases d <;> rfl

/-- A statement that begins with the keyword is read as one that creates something. -/
theorem readStatement_create {d : Dialect} {t : Token} {rest : List Token}
    {o : Option Statement} (ht : t.kind = .keyword .create)
    (h : readStatement d (t :: rest) = .ok o) : ∃ s, o = some s ∧ s.IsCreation := by
  have hgives : Gives (fun o => ∃ s, o = some s ∧ Statement.IsCreation s)
      (createAfter d (Rules.forTokens d (t :: rest)) >>= fun s => pure (some s)) :=
    (createAfter_isCreation d _).bind fun s hs => gives_pure ⟨s, rfl, hs⟩
  obtain ⟨c, hread⟩ := firstStatement?_of_readStatement h
  rw [firstStatement?_create ht] at hread
  exact hgives _ _ _ hread

/-- The first of the statements that some tokens are cut into begins with the first token. -/
theorem cutStatements_cons {t : Token} (ht : t.isSign .semicolon = false) (rest : List Token) :
    ∃ first others, cutStatements (t :: rest) = (t :: first) :: others := by
  rw [cutStatements]
  cases cutStatements rest with
  | nil => exact ⟨[], [], rfl⟩
  | cons first others =>
    simp only [ht, Bool.false_eq_true, if_false]
    exact ⟨first, others, rfl⟩

/-- A text that is read has tokens. -/
theorem exists_tokens_of_parse {d : Dialect} {sql : String} {o : Option Statement}
    (h : parse d sql = .ok o) : ∃ ts, tokens d sql = .ok ts := by
  unfold parse at h
  cases hts : tokens d sql with
  | error e => rw [hts] at h; cases h
  | ok ts => exact ⟨ts, rfl⟩

/-- A text whose tokens begin with the keyword is read as a statement that creates something. -/
theorem parse_create {d : Dialect} {sql : String} {t : Token} {rest : List Token}
    {o : Option Statement} (hts : tokens d sql = .ok (t :: rest))
    (ht : t.kind = .keyword .create) (h : parse d sql = .ok o) :
    ∃ s, o = some s ∧ s.IsCreation := by
  have hsemicolon : t.isSign .semicolon = false := by
    unfold Token.isSign
    rw [ht]
    rfl
  obtain ⟨first, others, hcut⟩ := cutStatements_cons hsemicolon rest
  unfold parse at h
  rw [hts] at h
  change (((cutStatements (t :: rest)).mapM (readStatement d)).mapError Fault.syntactic >>=
    fun ss => pure (ss.findSome? id)) = _ at h
  rw [hcut, List.mapM_cons] at h
  cases hread : readStatement d (t :: first) with
  | error e => rw [hread] at h; cases h
  | ok o' =>
    obtain ⟨s, rfl, hs⟩ := readStatement_create ht hread
    rw [hread] at h
    cases hothers : others.mapM (readStatement d) with
    | error e =>
      change (Except.mapError _ (others.mapM (readStatement d) >>= _) >>= _) = _ at h
      rw [hothers] at h
      cases h
    | ok ss =>
      change (Except.mapError _ (others.mapM (readStatement d) >>= _) >>= _) = _ at h
      rw [hothers] at h
      cases h
      exact ⟨s, rfl, hs⟩

end Sql

open Sql

/-! ## What is told -/

namespace Fragment

/-- A fragment that opens with the words is read as a table, as something else that is created, as
a command, or not at all. -/
theorem read_of_opensTable {d : Dialect} {k : Bool} {f : String}
    (h : OpensTable (Lexis.of d) k f.toList) :
    (∃ s declared, read d f = .table s declared) ∨ (∃ kind, read d f = .created kind) ∨
      read d f = .other "command" ∨ read d f = .unreadable := by
  unfold read
  rw [h.not_blank, if_neg Bool.false_ne_true]
  cases hparse : parse d f with
  | error e => exact .inr (.inr (.inr rfl))
  | ok o =>
    cases hwords : declaredWordings d f with
    | error e => exact .inr (.inr (.inr rfl))
    | ok declared =>
      obtain ⟨ts, hts⟩ := exists_tokens_of_parse hparse
      obtain ⟨t, later, rfl, ht⟩ := h.head_tokens hts
      obtain ⟨s, rfl, hs⟩ := parse_create hts ht hparse
      rcases hs with ⟨schema, rfl⟩ | ⟨kind, rfl⟩ | rfl
      · exact .inl ⟨schema, declared, rfl⟩
      · exact .inr (.inl ⟨kind, rfl⟩)
      · exact .inr (.inr (.inl rfl))

/-- The warnings about a fragment. -/
def warnings (d : Dialect) (f : String) : List Event :=
  (events d f).filter (·.level == .warning)

/-- A fragment that opens with the words is read as a table, is read in full as something else
without a column list, or is warned about once: exactly where it is not kept as a command and,
if it can not be read, no comment stands before the last of the words. -/
theorem creation_reported_iff {d : Dialect} {k : Bool} {f : String}
    (h : OpensTable (Lexis.of d) k f.toList) :
    ((table? d f).isSome = true ∨ (∃ kind, read d f = .created kind) ∨
        (warnings d f).length = 1) ↔
      read d f ≠ .other "command" ∧ (read d f = .unreadable → k = false) := by
  rcases read_of_opensTable h with ⟨s, declared, hread⟩ | ⟨kind, hread⟩ | hread | hread
  · refine iff_of_true (.inl ?_) ⟨by simp [hread], by simp [hread]⟩
    simp [table?, hread]
  · exact iff_of_true (.inr (.inl ⟨kind, hread⟩)) ⟨by simp [hread], by simp [hread]⟩
  · -- only the class of the command is told
    refine iff_of_false ?_ fun hnot => hnot.1 hread
    rintro (htable | ⟨kind, hcreated⟩ | hwarned)
    · simp [table?, hread] at htable
    · rw [hread] at hcreated
      cases hcreated
    · simp [warnings, events, hread, Event.level] at hwarned
  · -- the pattern tells the words where no comment hides them
    have hannounced := announcesTable_eq h
    cases k with
    | false =>
      refine iff_of_true (.inr (.inr ?_)) ⟨by simp [hread], fun _ => rfl⟩
      simp [warnings, events, hread, hannounced, Event.level]
    | true =>
      refine iff_of_false ?_ fun hnot => by simpa using hnot.2 hread
      rintro (htable | ⟨kind, hcreated⟩ | hwarned)
      · simp [table?, hread] at htable
      · rw [hread] at hcreated
        cases hcreated
      · simp [warnings, events, hread, hannounced, Event.level] at hwarned

/-- A comment in front hides the words from the pattern. -/
theorem creation_reported_behind_comment :
    OpensTable (Lexis.of .mysql) true "/* c */ CREATE TABLE t (f float unsigned)".toList ∧
    (((table? .mysql "/* c */ CREATE TABLE t (f float unsigned)").isSome = true ∨
        (∃ kind, read .mysql "/* c */ CREATE TABLE t (f float unsigned)" = .created kind) ∨
        (warnings .mysql "/* c */ CREATE TABLE t (f float unsigned)").length = 1) ↔
      read .mysql "/* c */ CREATE TABLE t (f float unsigned)" ≠ .other "command" ∧
      (read .mysql "/* c */ CREATE TABLE t (f float unsigned)" = .unreadable → true = false)) := by
  have hopens : OpensTable (Lexis.of .mysql) true
      "/* c */ CREATE TABLE t (f float unsigned)".toList := by
    refine .plain (@Gap.comment _ _ _ _ _ 7 rfl (.blank rfl (.done _))) ⟨rfl, rfl, ?_⟩
      (.blank rfl (.done _)) ⟨rfl, rfl, ?_⟩
    · intro c hc
      cases hc
      decide
    · intro c hc
      cases hc
      decide
  exact ⟨hopens, creation_reported_iff hopens⟩

/-- Two tables are lost without a warning: one behind a comment that can not be read, and one with
words left over that is kept as a command. -/
theorem creation_lost_silently :
    table? .mysql "/* c */ CREATE TABLE t (f float unsigned)" = none ∧
    events .mysql "/* c */ CREATE TABLE t (f float unsigned)" = [.unreadableQuery] ∧
    table? .mysql "CREATE TABLE t (a int) foo bar" = none ∧
    events .mysql "CREATE TABLE t (a int) foo bar" = [.createsNothing "command"] := by
  decide +kernel

end Fragment

end TableDoc
