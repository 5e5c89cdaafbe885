import TableDoc.Document

/-!
# The lines of a document

A document is a run of lines that each end in a line feed, and a row is a run of cells that each
end in a bar. Reading such a run back is the same in both: `endedBy` cuts behind every mark, and it
gives the parts again where none of them holds the mark (`endedBy_flatMap_of_not_mem`).

* **rows** — the characters of a row are those of its cells and the bars (`count_rowLine`);
* **documents** — the lines of a document are those that its texts fall into (`linesOf_render`).
-/

namespace TableDoc

/-! ## Parts that end in a mark -/

section Marks

variable {α : Type} [DecidableEq α] (mark : α)

/-- The parts of a list that each end in a mark; what stands behind the last mark is left out. -/
def endedBy (l : List α) : List (List α) := (l.splitOn mark).dropLast

theorem splitOn_flatMap (parts : List (List α)) :
    (parts.flatMap (· ++ [mark])).splitOn mark = parts.flatMap (·.splitOn mark) ++ [[]] := by
  induction parts with
  | nil => rfl
  | cons p parts ih =>
    rw [List.flatMap_cons, List.flatMap_cons, List.append_assoc, List.singleton_append,
      List.splitOn_append_cons_self, ih, List.append_assoc]

/-- A part that holds the mark itself falls apart. -/
theorem endedBy_flatMap (parts : List (List α)) :
    endedBy mark (parts.flatMap (· ++ [mark])) = parts.flatMap (·.splitOn mark) := by
  unfold endedBy
  rw [splitOn_flatMap, List.dropLast_concat]

theorem endedBy_flatMap_of_not_mem {mark : α} {parts : List (List α)}
    (h : ∀ p ∈ parts, mark ∉ p) : endedBy mark (parts.flatMap (· ++ [mark])) = parts := by
  rw [endedBy_flatMap]
  induction parts with
  | nil => rfl
  | cons p parts ih =>
    rw [List.forall_mem_cons] at h
    rw [List.flatMap_cons, List.splitOn_eq_singleton h.1, ih h.2, List.singleton_append]

/-- A list has one part more than it has marks. -/
theorem length_splitOn (l : List α) : (l.splitOn mark).length = l.count mark + 1 := by
  induction l with
  | nil => rfl
  | cons a l ih =>
    rw [List.splitOn_cons_eq_if_modifyHead, List.count_cons]
    by_cases ha : (a == mark) = true
    · rw [if_pos ha, if_pos ha, List.length_cons, ih]
    · rw [if_neg ha, if_neg ha, List.length_modifyHead, ih, Nat.add_zero]

end Marks

namespace Document

/-! ## Texts -/

/-- A text that shows no bar and no line feed. -/
def Plain (s : String) : Prop := '|' ∉ s.toList ∧ '\n' ∉ s.toList

instance (s : String) : Decidable (Plain s) := inferInstanceAs (Decidable (_ ∧ _))

/-- The lines that a text falls into. -/
def linesOf (s : String) : List String := (s.toList.splitOn '\n').map String.ofList

theorem length_linesOf (s : String) : (linesOf s).length = s.toList.count '\n' + 1 := by
  rw [linesOf, List.length_map, length_splitOn]

theorem linesOf_eq_singleton_iff (s : String) : linesOf s = [s] ↔ '\n' ∉ s.toList := by
  constructor
  · intro h
    have hlength := length_linesOf s
    rw [h, List.length_singleton] at hlength
    exact List.count_eq_zero.mp (by omega)
  · intro h
    rw [linesOf, List.splitOn_eq_singleton h, List.map_singleton, String.ofList_toList]

/-! ## Rows -/

/-- A row is the empty text and the cells, each with a bar behind it. -/
theorem toList_rowLine (cells : List String) :
    (rowLine cells).toList = ([] :: cells.map String.toList).flatMap (· ++ ['|']) := by
  simp [rowLine, List.flatMap_map]

/-- A row has the characters of its cells, and the bars. -/
theorem count_rowLine (c : Char) (cells : List String) :
    (rowLine cells).toList.count c =
      (String.join cells).toList.count c + if c = '|' then cells.length + 1 else 0 := by
  have hcells : ((cells.map String.toList).flatMap (· ++ ['|'])).count c =
      (String.join cells).toList.count c + if c = '|' then cells.length else 0 := by
    rw [String.toList_join]
    induction cells with
    | nil => simp
    | cons s cells ih =>
      simp only [List.map_cons, List.flatMap_cons, List.count_append, ih, List.count_singleton,
        beq_iff_eq, eq_comm (a := '|'), List.length_cons]
      split <;> omega
  rw [toList_rowLine, List.flatMap_cons, List.count_append, hcells, List.nil_append,
    List.count_singleton]
  simp only [beq_iff_eq, eq_comm (a := '|')]
  split <;> omega

theorem mem_rowLine {c : Char} {cells : List String} :
    c ∈ (rowLine cells).toList ↔ c = '|' ∨ ∃ s ∈ cells, c ∈ s.toList := by
  rw [toList_rowLine]
  constructor
  · intro h
    obtain ⟨p, hp, hc⟩ := List.mem_flatMap.mp h
    rcases List.mem_append.mp hc with hc | hc
    · rcases List.mem_cons.mp hp with rfl | hp
      · exact absurd hc List.not_mem_nil
      · obtain ⟨s, hs, rfl⟩ := List.mem_map.mp hp
        exact .inr ⟨s, hs, hc⟩
    · exact .inl (List.mem_singleton.mp hc)
  · rintro (rfl | ⟨s, hs, hc⟩)
    · exact List.mem_cons_self
    · exact List.mem_flatMap.mpr ⟨s.toList, List.mem_cons_of_mem _ (List.mem_map_of_mem hs),
        List.mem_append_left _ hc⟩

/-! ## Documents -/

/-- The texts that a block shows one below the other, the blank one at its end included. -/
def shownLines (t : TableDefinition) : List String := blockLines t ++ [""]

theorem toList_intercalate_feed (s : String) (texts : List String) :
    (String.intercalate "\n" (s :: texts) ++ "\n").toList =
      (s :: texts).flatMap (·.toList ++ ['\n']) := by
  induction texts generalizing s with
  | nil => simp
  | cons u texts ih =>
    rw [String.intercalate_cons_cons, String.append_assoc, String.toList_append, ih u,
      String.toList_append]
    simp

theorem toList_block (t : TableDefinition) :
    (block t).toList = (shownLines t).flatMap (·.toList ++ ['\n']) := by
  have hblock : block t = (String.intercalate "\n" (blockLines t) ++ "\n") ++ "\n" := by
    rw [String.append_assoc]
    rfl
  rw [hblock, String.toList_append, shownLines, List.flatMap_append]
  exact congrArg (· ++ _) (toList_intercalate_feed _ _)

theorem toList_render (ts : List TableDefinition) :
    (render ts).toList =
      ((ts.flatMap shownLines).map String.toList).flatMap (· ++ ['\n']) := by
  rw [render, String.toList_join, List.flatMap_map, List.flatMap_map, List.flatMap_assoc]
  exact congrArg ts.flatMap (funext toList_block)

/-- The lines of a document are those that its texts fall into, and an empty one behind the last
line feed. -/
theorem linesOf_render (ts : List TableDefinition) :
    linesOf (render ts) = (ts.flatMap shownLines).flatMap linesOf ++ [""] := by
  rw [linesOf, toList_render, splitOn_flatMap, List.flatMap_map, List.map_append,
    List.map_flatMap]
  rfl

end Document

end TableDoc
