import TableDoc.Json.Model
import TableDoc.Script

/-!
# Stages over exchanged values

Specifications and definitions can leave one stage of a conversion as structured values and enter
the next as such: nothing is lost on the way, so the stages one by one give what the conversion
gives.

* **values** — a reader that gives back what a writer wrote (`ReadsBack`), and the lists and fields
  that inherit it (`readsBack_list`, `required_eq_ok`, `optional_eq_ok`);
* **models** — every specification and every definition is read back from its object
  (`TableSpec.readsBack`, `TableDefinition.readsBack`);
* **stages** — the conversion with a structured value between any two stages (`Script.staged`)
  agrees with the direct one (`stages_compose`).
-/

namespace TableDoc

open Json

/-! ## Values -/

/-- Reading gives back every value that was written. -/
def ReadsBack {α : Type} (write : α → Json) (read : Json → Checked α) : Prop :=
  ∀ a, read (write a) = .ok a

theorem readsBack_text : ReadsBack Json.text toText := fun _ => rfl

theorem readsBack_truth : ReadsBack Json.bool toTruth := fun _ => rfl

theorem readsBack_text? : ReadsBack ofText? toText? := fun s => by
  cases s <;> rfl

section

variable {α : Type} {write : α → Json} {read : Json → Checked α}

theorem itemsFrom_map (h : ReadsBack write read) (items : List α) (i : Nat) :
    Checked.itemsFrom read i (items.map write) = .ok items := by
  induction items generalizing i with
  | nil => rfl
  | cons a items ih =>
    rw [List.map_cons, Checked.itemsFrom, h a, ih]
    rfl

theorem readsBack_list (h : ReadsBack write read) :
    ReadsBack (fun items => .array (items.map write)) (Json.toList read) :=
  fun items => itemsFrom_map h items 0

theorem readsBack_texts : ReadsBack ofTexts (Json.toList toText) := readsBack_list readsBack_text

variable {key : String} {members : List (String × Json)} {a : α}

theorem required_eq_ok (h : ReadsBack write read) (hm : member? key members = some (write a)) :
    required key read members = .ok a := by
  unfold required
  rw [hm]
  dsimp only
  rw [h a]
  rfl

theorem optional_eq_ok {absent : α} (h : ReadsBack write read)
    (hm : member? key members = some (write a)) :
    Json.optional key absent read members = .ok a := by
  unfold Json.optional
  rw [hm]
  dsimp only
  rw [h a]
  rfl

/-- An object has its members whatever the model. -/
theorem toMembers_bind (model : String) (read : List (String × Json) → Checked α) :
    (toMembers model (.object members) >>= read) = read members := rfl

end

/-! ## Models -/

theorem ColumnSpec.readsBack : ReadsBack toJson ofJson := fun c => by
  unfold ofJson toJson
  rw [toMembers_bind]
  unfold ofMembers
  rw [required_eq_ok (a := c.name) readsBack_text rfl,
    optional_eq_ok (a := c.typeName) readsBack_text rfl,
    optional_eq_ok (a := c.length) readsBack_text? rfl,
    optional_eq_ok (a := c.enumValues) readsBack_texts rfl,
    optional_eq_ok (a := c.unsigned) readsBack_truth rfl,
    optional_eq_ok (a := c.charset) readsBack_text? rfl,
    optional_eq_ok (a := c.collate) readsBack_text? rfl,
    optional_eq_ok (a := c.notNull) readsBack_truth rfl,
    optional_eq_ok (a := c.autoIncrement) readsBack_truth rfl,
    optional_eq_ok (a := c.default) readsBack_text? rfl,
    optional_eq_ok (a := c.comment) readsBack_text? rfl]
  rfl

theorem IndexSpec.readsBack : ReadsBack toJson ofJson := fun i => by
  unfold ofJson toJson
  rw [toMembers_bind]
  unfold ofMembers
  rw [required_eq_ok (a := i.name) readsBack_text rfl,
    required_eq_ok (a := i.kind) readsBack_text rfl,
    optional_eq_ok (a := i.columns) readsBack_texts rfl]
  rfl

theorem TableSpec.readsBack : ReadsBack toJson ofJson := fun t => by
  unfold ofJson toJson
  rw [toMembers_bind]
  unfold ofMembers
  rw [required_eq_ok (a := t.name) readsBack_text rfl,
    optional_eq_ok (a := t.columns) (readsBack_list ColumnSpec.readsBack) rfl,
    optional_eq_ok (a := t.indexes) (readsBack_list IndexSpec.readsBack) rfl]
  rfl

theorem ColumnRow.readsBack : ReadsBack toJson ofJson := fun r => by
  unfold ofJson toJson
  rw [toMembers_bind]
  unfold ofMembers
  rw [required_eq_ok (a := r.name) readsBack_text rfl,
    optional_eq_ok (a := r.type) readsBack_text rfl,
    optional_eq_ok (a := r.notNull) readsBack_text rfl,
    optional_eq_ok (a := r.autoIncrement) readsBack_text rfl,
    optional_eq_ok (a := r.default) readsBack_text rfl,
    optional_eq_ok (a := r.comment) readsBack_text rfl]
  rfl

theorem IndexRow.readsBack : ReadsBack toJson ofJson := fun r => by
  unfold ofJson toJson
  rw [toMembers_bind]
  unfold ofMembers
  rw [required_eq_ok (a := r.name) readsBack_text rfl,
    optional_eq_ok (a := r.type) readsBack_text rfl,
    optional_eq_ok (a := r.columns) readsBack_text rfl]
  rfl

theorem TableDefinition.readsBack : ReadsBack toJson ofJson := fun t => by
  unfold ofJson toJson
  rw [toMembers_bind]
  unfold ofMembers
  rw [required_eq_ok (a := t.name) readsBack_text rfl,
    optional_eq_ok (a := t.columns) (readsBack_list ColumnRow.readsBack) rfl,
    optional_eq_ok (a := t.indexes) (readsBack_list IndexRow.readsBack) rfl]
  rfl

/-! ## Stages -/

/-- Why a conversion with exchanged values can fail: a value is not what the next stage takes, or
an index declares no column. -/
inductive StageFault where
  | invalid (failures : List Failure)
  | emptyIndex (index : EmptyIndex)
deriving DecidableEq, Repr

/-- A value for the next stage, validated. -/
def validated {α : Type} (read : Json → Checked α) (j : Json) : Except StageFault α :=
  (read j).mapError .invalid

theorem validated_eq_ok {α : Type} {write : α → Json} {read : Json → Checked α}
    (h : ReadsBack write read) (a : α) : validated read (write a) = .ok a := by
  unfold validated
  rw [h a]
  rfl

namespace Script

/-- The first stage: the tables of a script, each as an object. -/
def parseStage (d : Dialect) (script : String) : List Json := (tables d script).map TableSpec.toJson

/-- The second stage: the definition of a validated table as an object. -/
def definitionStage (j : Json) : Except StageFault Json := do
  let t ← validated TableSpec.ofJson j
  let rows ← t.toDefinition.mapError .emptyIndex
  return rows.toJson

/-- The last stage: the document of validated definitions. -/
def renderStage (js : List Json) : Except StageFault String := do
  let ts ← js.mapM (validated TableDefinition.ofJson)
  return Document.render ts

/-- The stages one after another. -/
def staged (d : Dialect) (script : String) : Except StageFault String := do
  let definitions ← (parseStage d script).mapM definitionStage
  renderStage definitions

theorem definitionStage_toJson (t : TableSpec) :
    definitionStage t.toJson =
      (t.toDefinition.mapError .emptyIndex).map TableDefinition.toJson := by
  unfold definitionStage
  rw [validated_eq_ok TableSpec.readsBack]
  show (t.toDefinition.mapError StageFault.emptyIndex >>= fun rows => pure rows.toJson) = _
  cases t.toDefinition <;> rfl

/-- The second stage makes the definitions of all tables, or fails at the first index without
columns. -/
theorem mapM_definitionStage (ts : List TableSpec) :
    (ts.map TableSpec.toJson).mapM definitionStage =
      ((ts.mapM TableSpec.toDefinition).mapError .emptyIndex).map
        (List.map TableDefinition.toJson) := by
  induction ts with
  | nil => rfl
  | cons t ts ih =>
    rw [List.map_cons, List.mapM_cons, List.mapM_cons, definitionStage_toJson, ih]
    cases t.toDefinition with
    | error e => rfl
    | ok rows => cases ts.mapM TableSpec.toDefinition <;> rfl

theorem renderStage_map (ts : List TableDefinition) :
    renderStage (ts.map TableDefinition.toJson) = .ok (Document.render ts) := by
  have hread :
      (ts.map TableDefinition.toJson).mapM (validated TableDefinition.ofJson) = .ok ts := by
    induction ts with
    | nil => rfl
    | cons t ts ih =>
      rw [List.map_cons, List.mapM_cons, validated_eq_ok TableDefinition.readsBack, ih]
      rfl
  unfold renderStage
  rw [hread]
  rfl

/-- Every specification and every definition is read back from its object with all fields, so the
conversion stage by stage over validated objects gives the document of the direct one, or fails
with the same index without columns. -/
theorem stages_compose (d : Dialect) (script : String) :
    (∀ t : TableSpec, TableSpec.ofJson t.toJson = .ok t) ∧
      (∀ t : TableDefinition, TableDefinition.ofJson t.toJson = .ok t) ∧
      staged d script = (document d script).mapError .emptyIndex := by
  refine ⟨TableSpec.readsBack, TableDefinition.readsBack, ?_⟩
  unfold staged parseStage document
  rw [mapM_definitionStage]
  cases (tables d script).mapM TableSpec.toDefinition with
  | error e => rfl
  | ok definitions => exact renderStage_map definitions

end Script

end TableDoc
