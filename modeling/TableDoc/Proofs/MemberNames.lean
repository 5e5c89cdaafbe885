import TableDoc.Extraction
import TableDoc.Proofs.NamesCalled

/-!
# The names that members are listed under

What an index lists a member under that is read as a name, as a constant, or as a call with a
number.

* **constants** — a word for a constant is listed as the dialect writes it (`memberName_aloneTerm`);
* **calls** — a call keeps the name exactly where its function has no class of its own, or is
  written as a word that is the name (`memberName_calledTerm?_iff`).
-/

namespace TableDoc

/-! ## Bytes -/

/-- The bytes of a text. -/
def Text.bytes (s : String) : List UInt8 := s.toByteArray.data.toList

/-- A text of bytes below 128 has a character for each. -/
theorem Text.toList_of_bytes {s : String} (h : ∀ b ∈ Text.bytes s, b < 128) :
    s.toList = (Text.bytes s).map fun b => Char.ofNat b.toNat := by
  have hbytes : Text.bytes s = s.toList.flatMap String.utf8EncodeChar := by
    rw [congrArg Text.bytes (String.ofList_toList (s := s)).symm, Text.bytes,
      String.toByteArray_ofList, List.utf8Encode, List.toList_data_toByteArray]
  rw [hbytes] at h ⊢
  generalize s.toList = cs at h ⊢
  induction cs with
  | nil => rfl
  | cons c cs ih =>
    rw [List.flatMap_cons, List.forall_mem_append] at h
    have hsmall : c.val.toNat ≤ 127 := by
      refine Nat.le_of_not_lt fun hlarge => ?_
      obtain ⟨b, bs, hcons, hb⟩ : ∃ b bs, String.utf8EncodeChar c = b :: bs ∧ 128 ≤ b := by
        unfold String.utf8EncodeChar
        dsimp only
        rw [if_neg (by omega)]
        split
        · exact ⟨_, _, rfl, by simp [UInt8.le_iff_toNat_le]; omega⟩
        split
        · exact ⟨_, _, rfl, by simp [UInt8.le_iff_toNat_le]; omega⟩
        · exact ⟨_, _, rfl, by simp [UInt8.le_iff_toNat_le]; omega⟩
      have hlow := h.1 b (by simp [hcons])
      rw [UInt8.lt_iff_toNat_lt] at hlow
      rw [UInt8.le_iff_toNat_le] at hb
      omega
    have hone : String.utf8EncodeChar c = [UInt8.ofNat c.val.toNat] := by
      unfold String.utf8EncodeChar
      exact if_pos hsmall
    have hback : Char.ofNat (UInt8.ofNat c.val.toNat).toNat = c := by
      rw [UInt8.toNat_ofNat_of_lt' (by show _ < 256; omega)]
      exact Char.ofNat_toNat c
    rw [List.flatMap_cons, hone, List.map_append, ← ih h.2, List.map_singleton, hback]
    rfl

namespace Sql

variable {d : Dialect} {c number close : Token} {t : Term}

/-! ## Terms -/

theorem memberName_of_unordered {a : Term} (h : t.unordered = a) (ha : a.unordered = a) :
    t.memberName d = a.memberName d := by
  unfold Term.memberName
  rw [h, ha]

/-- A phrase without a name inside is listed as it is written. -/
theorem memberName_phrase {cls : String} {frame : List String} {parts : List Term}
    (hcls : cls ∉ ["ordered", "parameter"])
    (hname : (Term.phrase cls frame parts).firstName? = none) :
    (Term.phrase cls frame parts).memberName d = interleave frame (Term.printAll d parts) := by
  simp only [List.mem_cons, List.not_mem_nil, or_false, not_or] at hcls
  have hunordered : (Term.phrase cls frame parts).unordered = .phrase cls frame parts := by
    unfold Term.unordered
    split
    · rename_i heq
      exact absurd (Term.phrase.inj heq).1 hcls.1
    · rfl
  have hprint : (Term.phrase cls frame parts).print d =
      interleave frame (Term.printAll d parts) := by
    simp [Term.print, hcls.2]
  simp only [Term.memberName, hunordered, hname, hprint]

/-- A word is listed as it is written. -/
theorem memberName_word {cls shown : String} (hcls : cls ∉ ["ordered", "parameter"]) :
    (Term.phrase cls [shown] []).memberName d = shown := by
  rw [memberName_phrase hcls rfl]
  simp [interleave, Term.printAll]

/-- What a call with a number is listed under, whatever its class. -/
def callNames (shown : String) (number : Token) : List String :=
  [shown ++ "(" ++ number.text ++ ")", number.text, "$" ++ number.text]

theorem memberName_call (cls shown : String) :
    (Term.call cls shown [.number number.text]).memberName .postgres ∈ callNames shown number := by
  unfold callNames
  by_cases hordered : cls = "ordered"
  · subst hordered
    have hname : (Term.call "ordered" shown [.number number.text]).memberName .postgres =
        number.text := rfl
    simp [hname]
  by_cases hparameter : cls = "parameter"
  · subst hparameter
    have hname : (Term.call "parameter" shown [.number number.text]).memberName .postgres =
        "$" ++ String.join [number.text] := rfl
    simp [hname]
  · unfold Term.call Term.framed
    rw [memberName_phrase (by simp [hordered, hparameter]) rfl]
    simp [interleave, Term.printAll, Term.listed, Term.joined, Term.split, Term.print]

/-! ## Constants -/

/-- What a name alone is listed under: a word for a constant as the dialect writes it. -/
def shownAlone (d : Dialect) (c : Token) : String :=
  ((constant? d c).map (Term.print d)).getD c.text

theorem memberName_aloneTerm (h : WritesName d c) :
    (aloneTerm d c).memberName d = shownAlone d c ∧
      (asColumn (aloneTerm d c)).memberName d = shownAlone d c ∧
      (asColumn (aloneTerm d c)).unordered = asColumn (aloneTerm d c) := by
  unfold aloneTerm shownAlone
  cases hconstant : constant? d c with
  | none => exact ⟨rfl, rfl, rfl⟩
  | some v =>
    obtain ⟨-, cls, shown, rfl, hcls⟩ := isConstant_of_constant? h hconstant
    simp only [List.mem_cons, List.not_mem_nil, or_false, not_or] at hcls
    have hshown : (Term.phrase cls [shown] []).memberName d = shown :=
      memberName_word (by simp [hcls])
    have hprint : (Term.phrase cls [shown] []).print d = shown := by
      simp [Term.print, hcls, interleave, Term.printAll]
    have hunordered : (Term.phrase cls [shown] []).unordered = .phrase cls [shown] [] := by
      unfold Term.unordered
      split <;> first | rfl | cases ‹_›
    rw [Option.getD_some, Option.map_some, Option.getD_some, hprint]
    exact ⟨hshown, hshown, hunordered⟩

/-! ## Calls -/

/-- Functions of a name are among those of a dialect. -/
theorem Function.mem_of_ofName {name : String} {f : Function} (h : f ∈ Function.ofName d name) :
    (name, f) ∈ Function.own d ++ Function.common := by
  have hamong : ∀ fs : List (String × Function),
      f ∈ fs.filterMap (fun e => if e.1 == name then some e.2 else none) → (name, f) ∈ fs := by
    intro fs hmem
    obtain ⟨e, he, hf⟩ := List.mem_filterMap.mp hmem
    by_cases hn : e.1 = name
    · simp only [hn, beq_self_eq_true, if_true] at hf
      rw [← hn, ← Option.some.inj hf]
      exact he
    · simp [hn] at hf
  unfold Function.ofName at h
  dsimp only at h
  split at h
  · exact List.mem_append_right _ (hamong _ h)
  · exact List.mem_append_left _ (hamong _ h)

/-- Whether a text is of plain characters, begins with a capital letter and has no parenthesis. -/
def isPlainWord (s : String) : Bool :=
  (Text.bytes s).all (fun b => b < 128 && b != 40) &&
    (Text.bytes s).head?.any fun b => 65 ≤ b && b ≤ 90

theorem chars_of_isPlainWord {s : String} (h : isPlainWord s = true) :
    '(' ∉ s.toList ∧ ∃ ch cs, s.toList = ch :: cs ∧ 65 ≤ ch.toNat ∧ ch.toNat ≤ 90 := by
  obtain ⟨hall, hfirst⟩ := Bool.and_eq_true_iff.mp h
  have hbytes : ∀ b ∈ Text.bytes s, b < 128 ∧ b ≠ 40 := by simpa using hall
  have hchars := Text.toList_of_bytes fun b hb => (hbytes b hb).1
  have hback : ∀ b : UInt8, b < 128 → (Char.ofNat b.toNat).toNat = b.toNat := by
    intro b hb
    rw [UInt8.lt_iff_toNat_lt] at hb
    have hvalid : b.toNat.isValidChar := .inl (Nat.lt_trans hb (by decide))
    rw [show Char.ofNat b.toNat = Char.ofNatAux b.toNat hvalid from dif_pos hvalid]
    rfl
  rw [hchars]
  constructor
  · intro hmem
    obtain ⟨b, hb, hparen⟩ := List.mem_map.mp hmem
    refine (hbytes b hb).2 (UInt8.toNat_inj.mp ?_)
    rw [← hback b (hbytes b hb).1, hparen]
    rfl
  · cases hs : Text.bytes s with
    | nil => simp [hs] at hfirst
    | cons b bs =>
      rw [hs] at hbytes hfirst
      have hb := hback b (hbytes b List.mem_cons_self).1
      refine ⟨_, _, List.map_cons, ?_⟩
      rw [hb]
      simpa [UInt8.le_iff_toNat_le] using hfirst

/-- A function whose name is plain, and whose class is no other way of listing it. -/
def Function.isPlain (e : String × Function) : Bool :=
  isPlainWord e.1 && match e.2.style .postgres with
    | .call _ => true
    | .bare _ => !(["ordered", "parameter"].contains e.2.cls)

theorem Function.isPlain_named {name key : String} {least : Nat} {most : Option Nat}
    (h : isPlainWord key = true) : isPlain (key, named name least most) = true := by
  simp [isPlain, h, named, uniform]

theorem Function.exists_named {e : String × Function} (h : e ∈ regularByName) :
    isPlainWord e.1 = true ∧ ∃ name least most, e.2 = named name least most := by
  have hall : (regular.all fun e => e.2.2.all isPlainWord) = true := by decide +kernel
  obtain ⟨⟨least, most, names⟩, hrow, hmem⟩ := List.mem_flatMap.mp h
  obtain ⟨name, hname, rfl⟩ := List.mem_map.mp hmem
  exact ⟨List.all_eq_true.mp (List.all_eq_true.mp hall _ hrow) name hname, name, least, most, rfl⟩

theorem Function.isPlain_of_mem {e : String × Function}
    (h : e ∈ Function.own .postgres ++ Function.common) : isPlain e = true := by
  have of_all : ∀ {l : List (String × Function)}, e ∈ l → l.all isPlain = true →
      isPlain e = true := fun hmem hall => List.all_eq_true.mp hall e hmem
  rcases List.mem_append.mp h with h | h
  · exact of_all h (by decide +kernel)
  simp only [common, List.append_assoc] at h
  rcases List.mem_append.mp h with h | h
  · exact of_all h (by decide +kernel)
  rcases List.mem_append.mp h with h | h
  · obtain ⟨hkey, name, least, most, hnamed⟩ := exists_named h
    have hplain : isPlain (e.1, named name least most) = true := isPlain_named hkey
    rwa [← hnamed] at hplain
  rcases List.mem_append.mp h with h | h
  · have hall : (synonyms.all fun e => isPlainWord e.1) = true := by decide +kernel
    obtain ⟨⟨key, shown⟩, hmem, hfound⟩ := List.mem_filterMap.mp h
    obtain ⟨f, hlookup, rfl⟩ := Option.map_eq_some_iff.mp hfound
    obtain ⟨front, back, hsplit, -⟩ := List.lookup_eq_some_iff.mp hlookup
    have hregular : (shown, f) ∈ regularByName := by simp [hsplit]
    obtain ⟨-, name, least, most, hnamed⟩ := exists_named hregular
    have hf : f = named name least most := hnamed
    exact hf ▸ isPlain_named (List.all_eq_true.mp hall _ hmem)
  · exact of_all h (by decide +kernel)

/-- A name that is plain in capitals is no way of listing a call with a number. -/
theorem ne_text_of_isPlainWord {shown x : String} (hcounts : Counts number close)
    (hplain : isPlainWord c.capitals = true) (hx : x ∈ callNames shown number) : x ≠ c.text := by
  obtain ⟨hparen, ch, cs, hchars, hlow, hhigh⟩ := chars_of_isPlainWord hplain
  rintro rfl
  simp only [callNames, List.mem_cons, List.not_mem_nil, or_false] at hx
  have hcapitals : c.capitals.toList = c.text.toList.flatMap Text.upperChar := by
    simp [Token.capitals, Text.upper]
  rcases hx with hx | hx | hx
  · -- a parenthesis is its own capital form
    have hself : Text.upperChar '(' = ['('] := by decide
    refine hparen ?_
    rw [hcapitals, hx]
    simp [hself]
  · -- a number begins with a digit
    have hdigit : Text.isDigit ch = false := by
      have hascii : ch.toNat < 0x80 := by omega
      have hlast : ¬ch ≤ '9' := fun hle => by
        have hcode : ch.toNat ≤ 57 := UInt32.le_iff_toNat_le.mp hle
        omega
      simp [Text.isDigit, hascii, hlast]
    refine hcounts.capitals (w := c.capitals) (by simp [hchars, hdigit]) ?_
    rw [Token.capitals, Token.capitals, hx]
  · have hself : Text.upperChar '$' = ['$'] := by decide
    rw [hcapitals, hx] at hchars
    simp [hself] at hchars
    rw [← hchars.1] at hlow
    exact absurd hlow (by decide)

/-- A call of a name keeps it: its function has no class of its own, or is written as a word that is
the name. -/
def KeepsCall (c number : Token) : Prop :=
  c.capitals ∉ formedNames ∧
    ∀ f ∈ (Function.ofName .postgres c.capitals).find? (·.takes [.number number.text]),
      f.style .postgres = .bare c.text

/-- What a function with words of its own makes of a number is not listed under its name. -/
theorem memberName_formedTerm? (hcounts : Counts number close) (hformed : c.capitals ∈ formedNames)
    (h : formedTerm? c.capitals number = some t) : t.memberName .postgres ≠ c.text := by
  have hall : (formedNames.all isPlainWord) = true := by decide +kernel
  have hplain := List.all_eq_true.mp hall _ hformed
  unfold formedTerm? at h
  split at h
  · cases h
    have hname : (Term.phrase "xmlelement" ["XMLELEMENT(NAME ", ")"]
        [.name ⟨number.text, false⟩]).memberName .postgres = number.text := rfl
    have hlisted : number.text ∈ callNames c.text number := by simp [callNames]
    exact hname ▸ ne_text_of_isPlainWord hcounts hplain hlisted
  · obtain ⟨⟨cls, shown⟩, -, rfl⟩ := Option.map_eq_some_iff.mp h
    exact ne_text_of_isPlainWord hcounts hplain (memberName_call cls shown)

/-- A call is listed under the name of its function exactly where it keeps it. -/
theorem memberName_calledTerm?_iff (hcounts : Counts number close)
    (h : calledTerm? c number = some t) :
    t.memberName .postgres = c.text ↔ KeepsCall c number := by
  unfold KeepsCall
  unfold calledTerm? at h
  dsimp only at h
  by_cases hformed : c.capitals ∈ formedNames
  · rw [if_pos hformed] at h
    simp [hformed, memberName_formedTerm? hcounts hformed h]
  rw [if_neg hformed] at h
  by_cases hempty : (Function.ofName .postgres c.capitals).isEmpty = true
  · rw [if_pos hempty] at h
    cases h
    simp [hformed, List.isEmpty_iff.mp hempty, Term.memberName, Term.unordered, Term.label]
  rw [if_neg hempty] at h
  obtain ⟨f, hfind, rfl⟩ := Option.map_eq_some_iff.mp h
  have hplain := Function.isPlain_of_mem (Function.mem_of_ofName (List.mem_of_find?_eq_some hfind))
  obtain ⟨hname, hbare⟩ := Bool.and_eq_true_iff.mp hplain
  cases hstyle : f.style .postgres with
  | call shown =>
    have hne := ne_text_of_isPlainWord (c := c) hcounts hname (memberName_call f.cls shown)
    simp [hformed, hfind, hstyle, hne]
  | bare shown =>
    rw [memberName_word (by simpa [hstyle] using hbare)]
    simp [hformed, hfind, hstyle]

end Sql

end TableDoc
