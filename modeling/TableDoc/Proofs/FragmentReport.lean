import Mathlib.Data.List.TakeWhile
import TableDoc.Proofs.CreationPattern
import TableDoc.Proofs.CreationReport

/-!
# What is told of a fragment

A fragment is left at one of seven places, and at each of them it is said what came of it. Only a
fragment that is read as a table goes on to have its entries looked at, which may tell more.

* **places** — `Fragment.Report` has a case for each, by what the grammar makes of the fragment
  (`Fragment.report`);
* **remarks** — what is told of the entries of a table says nothing of what came of it
  (`RemarksOn.quiet`);
* **one fragment** has one outcome, and a table where the outcome is one
  (`Fragment.outcome_told_once`);
* **all fragments** of a script have as many outcomes as there are fragments that are not blank, and
  the tables among them are those of the script (`Script.outcomes_told`, `Script.tables_told`).
-/

namespace TableDoc

open Sql

/-! ## Outcomes and remarks -/

namespace Event

/-- Whether an event tells what came of a fragment. -/
def isOutcome : Event → Bool
  | unreadableTable | unreadableQuery | noStatement | createsNothing _ | createsOther _
  | readTable _ _ _ => true
  | _ => false

/-- Whether an event tells that a table was read. -/
def isTable : Event → Bool
  | readTable _ _ _ => true
  | _ => false

theorem isTable_iff (e : Event) :
    e.isTable = true ↔ ∃ name columns indexes, e = readTable name columns indexes := by
  cases e <;> simp [isTable]

/-- The event that a table was read. -/
def ofTable (t : TableSpec) : Event := readTable t.name t.columns.length t.indexes.length

end Event

/-- Remarks on the column list of a table: at most one on the number of its entries, then some on
entries that are passed over. -/
def RemarksOn (table : String) (es : List Event) : Prop :=
  ∃ (counts : Option (Nat × Nat)) (classes : List String),
    es = (counts.toList.map fun n => .entryCounts table n.1 n.2) ++
      classes.map fun cls => .ignoredEntry cls table

/-- A remark is no outcome and no warning. -/
theorem RemarksOn.quiet {table : String} {es : List Event} (h : RemarksOn table es) {e : Event}
    (he : e ∈ es) : e.isOutcome = false ∧ e.level = .debug := by
  obtain ⟨counts, classes, rfl⟩ := h
  rcases List.mem_append.mp he with he | he
  · obtain ⟨n, -, rfl⟩ := List.mem_map.mp he
    exact ⟨rfl, rfl⟩
  · obtain ⟨cls, -, rfl⟩ := List.mem_map.mp he
    exact ⟨rfl, rfl⟩

theorem RemarksOn.filter_isOutcome {table : String} {es : List Event} (h : RemarksOn table es) :
    es.filter Event.isOutcome = [] := by
  rw [List.filter_eq_nil_iff]
  intro e he
  rw [(h.quiet he).1]
  exact Bool.false_ne_true

/-- That a table was read is an outcome. -/
theorem Event.filter_isTable (es : List Event) :
    es.filter isTable = (es.filter isOutcome).filter isTable := by
  rw [List.filter_filter]
  congr 1
  funext e
  cases e <;> rfl

/-- What is told of the entries of a table are remarks on it. -/
theorem Sql.TableSchema.remarksOn_events (d : Dialect) (s : TableSchema) (declared : List Wording) :
    RemarksOn s.name (s.events d declared) := by
  unfold events
  refine ⟨if s.agrees declared then none else some (declared.length, s.entries.length),
    (s.entries.filter (Entry.isIgnored d s.name)).map Entry.className, ?_⟩
  rw [List.map_map]
  cases s.agrees declared <;> rfl

/-! ## The places where a fragment is left -/

namespace Fragment

/-- What is told of a fragment and its table, by what the grammar makes of the fragment. -/
inductive Report (d : Dialect) (f : String) : List Event → Option TableSpec → Prop
  | blank : Text.isBlankText f = true → Report d f [] none
  | unreadable {fault : Fault} : Text.isBlankText f = false → parse d f = .error fault →
      Report d f [if announcesTable f then .unreadableTable else .unreadableQuery] none
  | noStatement : Text.isBlankText f = false → parse d f = .ok none →
      Report d f [.noStatement] none
  | other {cls : String} : Text.isBlankText f = false → parse d f = .ok (some (.other cls)) →
      Report d f [.createsNothing cls] none
  | term {t : Term} : Text.isBlankText f = false → parse d f = .ok (some (.term t)) →
      Report d f [.createsNothing t.className] none
  | created {kind : String} : Text.isBlankText f = false → parse d f = .ok (some (.create kind)) →
      Report d f [.createsOther kind] none
  | table {s : TableSchema} {declared : List Wording} : Text.isBlankText f = false →
      parse d f = .ok (some (.createTable s)) → declaredWordings d f = .ok declared →
      Report d f (s.events d declared ++ [.ofTable (s.toSpec d declared)])
        (some (s.toSpec d declared))

/-- A fragment that is read by the grammar has wordings. -/
theorem exists_wordings_of_parse {d : Dialect} {f : String} {o : Option Statement}
    (h : parse d f = .ok o) : ∃ declared, declaredWordings d f = .ok declared := by
  obtain ⟨ts, hts⟩ := exists_tokens_of_parse h
  unfold declaredWordings
  rw [hts]
  exact ⟨_, rfl⟩

/-- A fragment is left at one of the places. -/
theorem report (d : Dialect) (f : String) : Report d f (events d f) (table? d f) := by
  unfold events table? read
  cases hblank : Text.isBlankText f with
  | true => exact .blank hblank
  | false =>
    rw [if_neg Bool.false_ne_true]
    cases hparse : parse d f with
    | error fault => exact .unreadable hblank hparse
    | ok o =>
      obtain ⟨declared, hwords⟩ := exists_wordings_of_parse hparse
      rw [hwords]
      cases o with
      | none => exact .noStatement hblank hparse
      | some s =>
        cases s with
        | createTable schema => exact .table hblank hparse hwords
        | create kind => exact .created hblank hparse
        | term t => exact .term hblank hparse
        | other cls => exact .other hblank hparse

/-! ## One fragment -/

/-- A blank fragment does not begin with the words that create a table. -/
theorem announcesTable_of_blank {f : String} (h : Text.isBlankText f = true) :
    announcesTable f = false := by
  have hnothing : f.toList.dropWhile Text.isBlank = [] :=
    List.dropWhile_eq_nil_iff.mpr (List.all_eq_true.mp h)
  unfold announcesTable
  rw [hnothing]
  rfl

/-- How the outcome of a fragment is told, given all that is told of it and its table. -/
structure OutcomeTold (d : Dialect) (f : String) (es : List Event) (table? : Option TableSpec) :
    Prop where
  /-- Of a blank fragment nothing is told, and it has no table. -/
  blank : Text.isBlankText f = true → es = [] ∧ table? = none
  /-- Of any other one outcome is told. -/
  once : Text.isBlankText f = false → ∃ e, es.filter Event.isOutcome = [e]
  /-- There is a table exactly where the outcome is that a table was read. -/
  table_iff : table?.isSome = true ↔ ∃ name columns indexes,
    es.filter Event.isOutcome = [.readTable name columns indexes]
  /-- Then the outcome is told last, with the name and the numbers of the table, and only remarks on
  the column list come before it. -/
  last : ∀ t, table? = some t → ∃ remarks, RemarksOn t.name remarks ∧
    es = remarks ++ [.readTable t.name t.columns.length t.indexes.length]
  /-- A warning is told exactly where the grammar can not read the fragment and its text matches
  the pattern, -/
  warned : (∃ e ∈ es, e.level = .warning) ↔
    (∃ fault, parse d f = .error fault) ∧ f.toList ∈ Pattern.creation
  /-- and then nothing else is. -/
  alone : ∀ e ∈ es, e.level = .warning → es = [e] ∧ e = .unreadableTable

variable {d : Dialect} {f : String}

/-- A fragment that the grammar reads is told of once and not warned about. -/
theorem told_of_parse {o : Option Statement} {es : List Event} {e : Event}
    {table? : Option TableSpec} (hblank : Text.isBlankText f = false) (hparse : parse d f = .ok o)
    (honce : es.filter Event.isOutcome = [e]) (hquiet : ∀ e ∈ es, e.level = .debug)
    (htable : table?.isSome = e.isTable)
    (hlast : ∀ t, table? = some t → ∃ remarks, RemarksOn t.name remarks ∧
      es = remarks ++ [.ofTable t]) : OutcomeTold d f es table? := by
  have hno : ∀ e ∈ es, e.level ≠ .warning := by
    intro e he hwarning
    rw [hquiet e he] at hwarning
    cases hwarning
  constructor
  case blank =>
    intro h
    rw [hblank] at h
    cases h
  case once => exact fun _ => ⟨e, honce⟩
  case table_iff =>
    rw [htable, honce, e.isTable_iff]
    simp only [List.cons.injEq, and_true]
  case last => exact hlast
  case warned =>
    refine iff_of_false (fun ⟨e, he, hwarning⟩ => hno e he hwarning) ?_
    rintro ⟨⟨fault, hfault⟩, -⟩
    rw [hparse] at hfault
    cases hfault
  case alone =>
    intro e he hwarning
    exact absurd hwarning (hno e he)

/-- So is one that is passed over. -/
theorem told_of_passed {o : Option Statement} {e : Event} (hblank : Text.isBlankText f = false)
    (hparse : parse d f = .ok o) (houtcome : e.isOutcome = true) (htable : e.isTable = false)
    (hlevel : e.level = .debug) : OutcomeTold d f [e] none := by
  apply told_of_parse hblank hparse (e := e)
  case honce => rw [List.filter_cons_of_pos houtcome, List.filter_nil]
  case hquiet =>
    intro e' he'
    rw [List.mem_singleton.mp he', hlevel]
  case htable => exact htable.symm
  case hlast =>
    intro t h
    cases h

/-- And one that is read as a table. -/
theorem told_of_table {o : Option Statement} {t : TableSpec} {remarks : List Event}
    (hblank : Text.isBlankText f = false) (hparse : parse d f = .ok o)
    (hremarks : RemarksOn t.name remarks) : OutcomeTold d f (remarks ++ [.ofTable t]) (some t) := by
  apply told_of_parse hblank hparse (e := .ofTable t)
  case honce =>
    rw [List.filter_append, hremarks.filter_isOutcome]
    rfl
  case hquiet =>
    intro e he
    rcases List.mem_append.mp he with he | he
    · exact (hremarks.quiet he).2
    · rw [List.mem_singleton.mp he]
      rfl
  case htable => rfl
  case hlast =>
    intro t' h
    cases h
    exact ⟨remarks, hremarks, rfl⟩

/-- A fragment that can not be read is told of once, as the pattern has it. -/
theorem told_of_unreadable {fault : Fault} (hblank : Text.isBlankText f = false)
    (hparse : parse d f = .error fault) :
    OutcomeTold d f [if announcesTable f then .unreadableTable else .unreadableQuery] none := by
  have hpattern := announcesTable_iff (f := f)
  constructor
  case blank => simp [hblank]
  case once => cases announcesTable f <;> exact fun _ => ⟨_, rfl⟩
  case table_iff =>
    refine iff_of_false (by simp) ?_
    rintro ⟨name, columns, indexes, h⟩
    cases hannounced : announcesTable f <;> rw [hannounced] at h <;> cases h
  case last => simp
  case warned =>
    rw [← hpattern]
    cases announcesTable f <;> simp [Event.level, hparse]
  case alone => cases announcesTable f <;> simp [Event.level]

/-- At each of the places the outcome is told once. -/
theorem Report.told {es : List Event} {table? : Option TableSpec} (h : Report d f es table?) :
    OutcomeTold d f es table? := by
  cases h with
  | blank hblank =>
    refine ⟨fun _ => ⟨rfl, rfl⟩, by simp [hblank], by simp, by simp, iff_of_false (by simp) ?_,
      by simp⟩
    rintro ⟨-, hcreation⟩
    rw [← announcesTable_iff, announcesTable_of_blank hblank] at hcreation
    cases hcreation
  | unreadable hblank hparse => exact told_of_unreadable hblank hparse
  | noStatement hblank hparse => exact told_of_passed hblank hparse rfl rfl rfl
  | other hblank hparse => exact told_of_passed hblank hparse rfl rfl rfl
  | term hblank hparse => exact told_of_passed hblank hparse rfl rfl rfl
  | created hblank hparse => exact told_of_passed hblank hparse rfl rfl rfl
  | @table s declared hblank hparse _ =>
    exact told_of_table hblank hparse (s.remarksOn_events d declared)

/-- The table of a fragment is told of, and no other. -/
theorem Report.filter_isTable {es : List Event} {table? : Option TableSpec}
    (h : Report d f es table?) : es.filter Event.isTable = table?.toList.map Event.ofTable := by
  rw [Event.filter_isTable]
  cases h with
  | unreadable => cases announcesTable f <;> rfl
  | @table s declared =>
    rw [List.filter_append, (s.remarksOn_events d declared).filter_isOutcome]
    rfl
  | _ => rfl

/-- Every fragment is told of once, and its table is told of as it is. -/
theorem outcome_told_once (d : Dialect) (f : String) :
    OutcomeTold d f (events d f) (table? d f) :=
  (report d f).told

example :
    events .mysql "create table t (a int, foreign key (a) references u (b), key k (a))" =
      [.ignoredEntry "foreignkey" "t", .readTable "t" 1 1] := by
  decide +kernel

end Fragment

/-! ## All fragments -/

namespace Script

/-- A fragment has one outcome unless it is blank. -/
theorem length_outcomes (d : Dialect) (f : String) :
    ((Fragment.events d f).filter Event.isOutcome).length =
      if Text.isBlankText f then 0 else 1 := by
  have htold := (Fragment.report d f).told
  cases hblank : Text.isBlankText f with
  | true =>
    rw [(htold.blank hblank).1]
    rfl
  | false =>
    obtain ⟨e, he⟩ := htold.once hblank
    rw [he]
    rfl

/-- A script has an outcome for each fragment that is not blank. -/
theorem outcomes_told (d : Dialect) (script : String) :
    ((events d script).filter Event.isOutcome).length =
      ((fragments script).filter fun f => !Text.isBlankText f).length := by
  unfold events
  rw [List.filter_append, List.length_append]
  show _ + 0 = _
  induction fragments script with
  | nil => rfl
  | cons f fs ih =>
    rw [List.flatMap_cons, List.filter_append, List.length_append, Nat.add_assoc, ih,
      length_outcomes, List.filter_cons]
    cases Text.isBlankText f <;> simp [Nat.add_comm]

/-- The tables of a script are told of in order, each with its name and its numbers. -/
theorem tables_told (d : Dialect) (script : String) :
    (events d script).filter Event.isTable = (tables d script).map Event.ofTable := by
  unfold events tables
  rw [List.filter_append]
  show _ ++ [] = _
  rw [List.append_nil]
  induction fragments script with
  | nil => rfl
  | cons f fs ih =>
    rw [List.flatMap_cons, List.filter_append, ih, (Fragment.report d f).filter_isTable,
      List.filterMap_cons]
    cases Fragment.table? d f <;> rfl

end Script

end TableDoc
