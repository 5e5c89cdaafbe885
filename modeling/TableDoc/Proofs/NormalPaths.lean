import TableDoc.Text.Path

/-!
# Normal paths

A path in normal form leads where the text it was made of leads: reading the normal text gives the
root and the names again (`Path.ofText_normal`).

* **cuts** — the names of a path are what stands between its slashes (`cut_eq_splitOn`), so names
  joined by slashes are found again (`namesOf_intercalate`);
* **roots** — only slashes in front of the first name make a root, and a name begins with none
  (`rootOf_append`).
-/

namespace TableDoc.Text.Path

/-! ## Cuts -/

theorem cut_eq_splitOn (cs : List Char) : cut cs = cs.splitOn '/' := by
  induction cs with
  | nil => rfl
  | cons c cs ih =>
    rw [cut, ih, List.splitOn_cons_eq_if_modifyHead]
    have hne : cs.splitOn '/' ≠ [] := List.splitOn_ne_nil '/' cs
    cases h : cs.splitOn '/' with
    | nil => exact absurd h hne
    | cons first others =>
      by_cases hc : c = '/' <;> simp [hc]

/-- A name leads on: it is not empty, no single dot, and holds no slash. -/
def IsName (n : List Char) : Prop := n ≠ [] ∧ n ≠ ['.'] ∧ '/' ∉ n

/-- No piece between slashes holds one. -/
theorem slash_not_mem_of_mem_cut {cs n : List Char} (h : n ∈ cut cs) : '/' ∉ n := by
  induction cs generalizing n with
  | nil =>
    rw [List.mem_singleton.mp h]
    exact List.not_mem_nil
  | cons c cs ih =>
    rw [cut] at h
    split at h
    · rename_i hnil
      rw [cut_eq_splitOn] at hnil
      exact absurd hnil (List.splitOn_ne_nil '/' cs)
    · rename_i first others hcut
      have hfirst : '/' ∉ first := ih (by rw [hcut]; exact List.mem_cons_self)
      have hothers : ∀ m ∈ others, '/' ∉ m := fun m hm =>
        ih (by rw [hcut]; exact List.mem_cons_of_mem _ hm)
      split at h
      · rcases List.mem_cons.mp h with rfl | h
        · exact List.not_mem_nil
        · rcases List.mem_cons.mp h with rfl | h
          · exact hfirst
          · exact hothers n h
      · rename_i hc
        rcases List.mem_cons.mp h with rfl | h
        · simpa [eq_comm] using And.intro (by simpa using hc) hfirst
        · exact hothers n h

theorem isName_of_mem_namesOf {cs : List Char} {n : String} (h : n ∈ namesOf cs) :
    IsName n.toList := by
  obtain ⟨m, hm, rfl⟩ := List.mem_map.mp h
  obtain ⟨hcut, hkept⟩ := List.mem_filter.mp hm
  rw [Bool.and_eq_true, bne_iff_ne, bne_iff_ne] at hkept
  rw [String.toList_ofList]
  exact ⟨hkept.1, hkept.2, slash_not_mem_of_mem_cut hcut⟩

/-- Empty pieces in front of a name lead nowhere. -/
theorem namesOf_slash (cs : List Char) : namesOf ('/' :: cs) = namesOf cs := by
  unfold namesOf
  rw [cut_eq_splitOn, cut_eq_splitOn, List.splitOn_cons_eq_if_modifyHead]
  rfl

/-- Names that are joined by slashes are found again. -/
theorem namesOf_intercalate {names : List String} (h : ∀ n ∈ names, IsName n.toList) :
    namesOf (String.intercalate "/" names).toList = names := by
  cases names with
  | nil => rfl
  | cons n names =>
    have hslash : ∀ m ∈ (n :: names).map String.toList, '/' ∉ m := by
      intro m hm
      obtain ⟨k, hk, rfl⟩ := List.mem_map.mp hm
      exact (h k hk).2.2
    have hkept : ∀ m ∈ (n :: names).map String.toList, (m != [] && m != ['.']) = true := by
      intro m hm
      obtain ⟨k, hk, rfl⟩ := List.mem_map.mp hm
      rw [Bool.and_eq_true, bne_iff_ne, bne_iff_ne]
      exact ⟨(h k hk).1, (h k hk).2.1⟩
    unfold namesOf
    rw [cut_eq_splitOn, String.toList_intercalate, show "/".toList = ['/'] from rfl,
      List.splitOn_intercalate '/' hslash (by simp), List.filter_eq_self.mpr hkept, List.map_map]
    simp [Function.comp_def]

/-! ## Roots -/

theorem namesOf_root_append {cs : List Char} (root : String) (hroot : root ∈ ["", "/", "//"]) :
    namesOf (root.toList ++ cs) = namesOf cs := by
  simp only [List.mem_cons, List.not_mem_nil, or_false] at hroot
  rcases hroot with rfl | rfl | rfl
  · rfl
  · exact namesOf_slash cs
  · exact (namesOf_slash _).trans (namesOf_slash cs)

/-- A root in front of a name is the root of the whole. -/
theorem rootOf_append {cs : List Char} (hcs : cs.head? ≠ some '/') {root : String}
    (hroot : root ∈ ["", "/", "//"]) : rootOf (root.toList ++ cs) = root := by
  simp only [List.mem_cons, List.not_mem_nil, or_false] at hroot
  cases cs with
  | nil => rcases hroot with rfl | rfl | rfl <;> rfl
  | cons c cs =>
    have hc : c ≠ '/' := fun h => hcs (by rw [h]; rfl)
    rcases hroot with rfl | rfl | rfl <;> simp [rootOf, hc]

theorem rootOf_mem (cs : List Char) : rootOf cs ∈ ["", "/", "//"] := by
  unfold rootOf
  split <;> simp

/-! ## Paths -/

/-- The text of a path in normal form has its root and its names. -/
theorem ofText_toText {p : Path} (hroot : p.root ∈ ["", "/", "//"])
    (hnames : ∀ n ∈ p.names, IsName n.toList) : ofText p.toText = p := by
  obtain ⟨root, names⟩ := p
  dsimp only at hroot hnames
  unfold toText
  dsimp only
  split
  · rename_i hempty
    simp only [Bool.and_eq_true, String.isEmpty_iff, List.isEmpty_iff] at hempty
    rw [hempty.1, hempty.2]
    rfl
  · have hhead : (String.intercalate "/" names).toList.head? ≠ some '/' := by
      cases names with
      | nil => simp
      | cons n names =>
        obtain ⟨hne, -, hslash⟩ := hnames n List.mem_cons_self
        obtain ⟨c, cs, hcs⟩ := List.exists_cons_of_ne_nil hne
        have hc : c ≠ '/' := by
          rintro rfl
          exact hslash (by rw [hcs]; exact List.mem_cons_self)
        cases names with
        | nil => simp [hcs, hc]
        | cons m names => simp [hcs, hc]
    rw [ofText, String.toList_append, rootOf_append hhead hroot, namesOf_root_append root hroot,
      namesOf_intercalate hnames]

/-- A path in normal form leads where its text led. -/
theorem ofText_normal (s : String) : ofText (normal s) = ofText s :=
  ofText_toText (rootOf_mem s.toList) fun _ hn => isName_of_mem_namesOf hn

end TableDoc.Text.Path
