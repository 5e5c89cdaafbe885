import TableDoc.CommandLine.Folder
import TableDoc.CommandLine.Run
import TableDoc.Proofs.Contribution
import TableDoc.Proofs.NormalPaths
import TableDoc.Proofs.SettingSources

/-!
# Runs deliver all or nothing

A run of the command over a folder of files either succeeds, and then the whole document is at one
place and nothing else has changed, or it fails, and then nothing has changed at all.

* **hosts** — where reading changes nothing and a refused write changes nothing (`Host.Quiet`), a
  run writes at most once, as the last thing it does (`Host.Quiet.convert_ends`);
* **settings** — the options for the paths alone say where a run reads and writes
  (`paths_of_resolve`);
* **folders** — a write replaces the content of one file, leaves the others alone and every path
  leading where it led (`Folder.file?_put`, `Folder.locate_write`);
* **runs** — all of it for every folder, environment and arguments (`run_all_or_nothing`).
-/

namespace TableDoc.CommandLine

/-! ## Hosts -/

/-- Reading changes nothing on the host, and neither does a write that is refused. -/
structure Host.Quiet {σ : Type} (h : Host (StateM σ)) : Prop where
  input : ∀ s, (h.standardInput.run s).2 = s
  read : ∀ p s, ((h.readFile p).run s).2 = s
  refused : ∀ p text s e s', (h.writeFile p text).run s = (.error e, s') → s' = s

/-- What comes after a step goes on from the step's value and state. -/
theorem run_bind_of_eq {σ α β : Type} {x : StateM σ α} {k : α → StateM σ β} {s s' : σ} {a : α}
    (hx : x.run s = (a, s')) : (x >>= k).run s = (k a).run s' := by
  rw [StateT.run_bind, hx]
  rfl

section

variable {σ : Type} {h : Host (StateM σ)}

theorem Host.Quiet.inputBytes (hq : h.Quiet) (st : Settings) (s : σ) :
    ((inputBytes h st).run s).2 = s := by
  unfold CommandLine.inputBytes
  cases st.inputPath with
  | none => exact hq.input s
  | some path => exact hq.read (.ofText path) s

theorem Host.Quiet.inputText (hq : h.Quiet) (st : Settings) (s : σ) :
    ((inputText h st).run s).2 = s := by
  have hbytes := hq.inputBytes st s
  unfold CommandLine.inputText
  rw [StateT.run_bind]
  generalize (CommandLine.inputBytes h st).run s = p at hbytes ⊢
  obtain ⟨read, s'⟩ := p
  cases hbytes
  cases read with
  | error reason => rfl
  | ok bytes => rfl

/-! ### Endings -/

/-- How converting ends in state `s`: the exit status, the standard output and the state after it.
A text that can not be read, a script without a document and a refused write leave all as it was; a
document goes to the standard output or is written, as the settings say. -/
inductive Host.Ending (h : Host (StateM σ)) (st : Settings) (s : σ) : Nat → String → σ → Prop where
  | unreadable {reason : String} (read : ((inputText h st).run s).1 = .error reason) :
      Ending h st s 1 "" s
  | unusable {sql : String} {e : ConversionFault} (read : ((inputText h st).run s).1 = .ok sql)
      (made : Script.documentIn st.dialect sql = .error e) : Ending h st s 1 "" s
  | refused {sql document path : String} {fault : FileFault}
      (read : ((inputText h st).run s).1 = .ok sql)
      (made : Script.documentIn st.dialect sql = .ok document) (there : st.outputPath = some path)
      (wrote : (h.writeFile (.ofText path) document).run s = (.error fault, s)) :
      Ending h st s 1 "" s
  | shown {sql document : String} (read : ((inputText h st).run s).1 = .ok sql)
      (made : Script.documentIn st.dialect sql = .ok document) (here : st.outputPath = none) :
      Ending h st s 0 document s
  | written {sql document path : String} {s' : σ} (read : ((inputText h st).run s).1 = .ok sql)
      (made : Script.documentIn st.dialect sql = .ok document) (there : st.outputPath = some path)
      (wrote : (h.writeFile (.ofText path) document).run s = (.ok (), s')) :
      Ending h st s 0 "" s'

/-- Converting on a quiet host ends in one of these ways: it writes at most once, and then it is
done. -/
theorem Host.Quiet.convert_ends (hq : h.Quiet) (st : Settings) (s : σ) :
    ∃ r s', (convert h st).run s = (r, s') ∧ h.Ending st s r.status r.output s' := by
  have hstate := hq.inputText st s
  have hread : ∀ x, ((CommandLine.inputText h st).run s).1 = x →
      (CommandLine.inputText h st).run s = (x, s) := fun x hx => Prod.ext hx hstate
  unfold convert
  cases htext : ((CommandLine.inputText h st).run s).1 with
  | error reason =>
    rw [run_bind_of_eq (hread _ htext)]
    exact ⟨_, s, rfl, .unreadable htext⟩
  | ok sql =>
    rw [run_bind_of_eq (hread _ htext)]
    dsimp only
    cases hdoc : Script.documentIn st.dialect sql with
    | error e =>
      cases e with
      | unknownDialect name => exact ⟨_, s, rfl, .unusable htext hdoc⟩
      | emptyIndex e => exact ⟨_, s, rfl, .unusable htext hdoc⟩
    | ok document =>
      dsimp only
      unfold deliver
      cases hout : st.outputPath with
      | none => exact ⟨_, s, rfl, .shown htext hdoc hout⟩
      | some path =>
        dsimp only
        rw [bind_assoc]
        cases hwrite : (h.writeFile (.ofText path) document).run s with
        | mk wrote s' =>
          rw [run_bind_of_eq hwrite]
          cases wrote with
          | error fault =>
            obtain rfl := hq.refused _ _ _ _ _ hwrite
            exact ⟨_, s', rfl, .refused htext hdoc hout hwrite⟩
          | ok u => exact ⟨_, s', rfl, .written htext hdoc hout hwrite⟩

end

/-! ## Settings -/

/-- The file to read that the options name; an empty name is none. -/
def Choices.source (c : Choices) : Option String := c.input.filter (!·.isEmpty)

/-- The file to write that the options name; an empty name is none. -/
def Choices.destination (c : Choices) : Option String := c.output.filter (!·.isEmpty)

/-- The options for the paths are members of their own, an empty one is none. -/
theorem member?_choices (c : Choices) :
    Json.member? "input_path" (Settings.present c.values) = c.source.map Json.text ∧
      Json.member? "output_path" (Settings.present c.values) = c.destination.map Json.text := by
  unfold Choices.values Choices.source Choices.destination
  dsimp only
  generalize c.input.filter (!·.isEmpty) = source
  generalize c.output.filter (!·.isEmpty) = destination
  cases source <;> cases destination <;> cases c.dialect <;> cases c.verbose <;> exact ⟨rfl, rfl⟩

/-- A path that is given is taken in normal form. -/
theorem path_of_optional {key : String} {ms : List (String × Json)} {given p : Option String}
    (hm : Json.member? key ms = given.map Json.text)
    (h : Json.optional key none Settings.toPath ms = .ok p) : p = given.map Text.Path.normal := by
  unfold Json.optional at h
  rw [hm] at h
  cases given with
  | none => exact (Except.ok.inj h).symm
  | some s => exact (Except.ok.inj h).symm

/-- Where a run reads and writes is up to the options alone. -/
theorem paths_of_resolve {env : Environment} {c : Choices} {st : Settings}
    (h : Settings.resolve env c.values = .ok st) :
    st.inputPath = c.source.map Text.Path.normal ∧
      st.outputPath = c.destination.map Text.Path.normal := by
  obtain ⟨hin, hout, -⟩ := fields_of_members h
  obtain ⟨hsource, hdestination⟩ := member?_choices c
  constructor
  · refine path_of_optional ?_ hin
    rw [member?_append, member?_environment env rfl rfl, hsource, Option.or_none]
  · refine path_of_optional ?_ hout
    rw [member?_append, member?_environment env rfl rfl, hdestination, Option.or_none]

/-! ## Folders -/

namespace Folder

variable {f after : Folder} {p : Text.Path} {text : String}

theorem run_writeFile_of_error {e : FileFault} (h : f.write p text = .error e) :
    (host.writeFile p text).run f = (.error e, f) := by
  have hget : (get : StateM Folder Folder).run f = (f, f) := rfl
  unfold host
  dsimp only
  rw [run_bind_of_eq hget, h]
  rfl

/-- The folder that a write gives is the state after it. -/
theorem run_writeFile_eq_ok_iff :
    (host.writeFile p text).run f = (.ok (), after) ↔ f.write p text = .ok after := by
  cases h : f.write p text with
  | error e =>
    rw [run_writeFile_of_error h]
    constructor
    · intro hrun
      cases hrun
    · intro hok
      cases hok
  | ok f' =>
    have hget : (get : StateM Folder Folder).run f = (f, f) := rfl
    have hrun : (host.writeFile p text).run f = (.ok (), f') := by
      unfold host
      dsimp only
      rw [run_bind_of_eq hget, h]
      rfl
    rw [hrun]
    constructor
    · exact fun heq => congrArg Except.ok (congrArg Prod.snd heq)
    · intro hok
      cases hok
      rfl

/-- A folder changes only when a write comes out. -/
theorem host_quiet : host.Quiet where
  input _ := rfl
  read _ _ := rfl
  refused p text f e f' hw := by
    cases h : f.write p text with
    | ok after =>
      cases (run_writeFile_eq_ok_iff.mpr h).symm.trans hw
    | error e =>
      rw [run_writeFile_of_error h] at hw
      exact (congrArg Prod.snd hw).symm

/-- The bytes of a text. -/
def utf8 (text : String) : List Nat := text.toUTF8.toList.map UInt8.toNat

/-- A write comes out exactly where the path leads to a file or the place for one. -/
theorem write_eq_ok_iff : f.write p text = .ok after ↔
    ∃ names, f.locate p = .ok (.file names) ∧ f.put names (utf8 text) = after := by
  unfold write
  cases h : f.locate p with
  | error e => simp [bind, Except.bind]
  | ok spot =>
    cases spot with
    | directory => simp [bind, Except.bind, throw, throwThe, MonadExceptOf.throw]
    | file names => simp [bind, Except.bind, pure, Except.pure, utf8]

/-! ### Content -/

/-- Entries of one name changed at once. -/
theorem lookup_replaced (files : List (List String × List Nat)) (names other : List String)
    (content : List Nat) :
    (files.map fun e => if e.1 == names then (names, content) else e).lookup other =
      if other = names then (files.lookup names).map fun _ => content else files.lookup other := by
  induction files with
  | nil => simp
  | cons e files ih =>
    obtain ⟨here, bytes⟩ := e
    rw [List.map_cons, List.lookup_cons, List.lookup_cons, List.lookup_cons, ih]
    by_cases hhere : here = names
    · subst hhere
      by_cases hother : other = here
      · simp [hother]
      · simp [hother, beq_eq_false_iff_ne.mpr hother]
    · have hnames : (names == here) = false := beq_eq_false_iff_ne.mpr (Ne.symm hhere)
      by_cases hother : other = here
      · subst hother
        simp [hhere]
      · simp [hhere, hnames, beq_eq_false_iff_ne.mpr hother]

theorem file?_put (f : Folder) (names other : List String) (content : List Nat) :
    (f.put names content).file? other = if other = names then some content else f.file? other := by
  unfold put
  split
  · rename_i h
    unfold file? at h ⊢
    dsimp only
    rw [lookup_replaced]
    split
    · obtain ⟨bytes, hb⟩ := Option.isSome_iff_exists.mp h
      rw [hb]
      rfl
    · rfl
  · rename_i h
    unfold file? at h ⊢
    dsimp only
    rw [Option.not_isSome_iff_eq_none] at h
    rw [List.lookup_append]
    by_cases ho : other = names
    · subst ho
      simp [h]
    · simp [List.lookup_cons, ho, beq_eq_false_iff_ne.mpr ho]

/-! ### Places -/

/-- A directory is the folder itself or contains a file somewhere. -/
theorem isDirectory_iff (f : Folder) (d : List String) :
    f.isDirectory d = true ↔ d = [] ∨ ∃ n later, (f.file? (d ++ n :: later)).isSome = true := by
  unfold isDirectory file?
  rw [Bool.or_eq_true, List.isEmpty_iff, List.any_eq_true]
  refine or_congr_right ?_
  constructor
  · rintro ⟨e, he, hin⟩
    rw [Bool.and_eq_true, List.isPrefixOf_iff_prefix, bne_iff_ne] at hin
    obtain ⟨⟨inner, hin⟩, hne⟩ := hin
    cases inner with
    | nil => exact absurd (by simpa using hin) hne
    | cons n later =>
      refine ⟨n, later, List.lookup_isSome_iff.mpr ⟨e, he, ?_⟩⟩
      rw [hin]
      exact BEq.rfl
  · rintro ⟨n, later, hfile⟩
    obtain ⟨e, he, hin⟩ := List.lookup_isSome_iff.mp hfile
    refine ⟨e, he, ?_⟩
    rw [← eq_of_beq hin, Bool.and_eq_true, List.isPrefixOf_iff_prefix, bne_iff_ne]
    exact ⟨⟨n :: later, rfl⟩, by simp⟩

/-- What contains a directory is one. -/
theorem isDirectory_of_isPrefix {outer d : List String} (hin : outer <+: d)
    (h : f.isDirectory d = true) : f.isDirectory outer = true := by
  obtain ⟨inner, rfl⟩ := hin
  cases inner with
  | nil => rwa [List.append_nil] at h
  | cons m inner =>
    rw [isDirectory_iff] at h ⊢
    rcases h with h | ⟨n, later, hfile⟩
    · simp at h
    · exact .inr ⟨m, inner ++ n :: later, by simpa using hfile⟩

/-- A file, or the place for one, is in a directory. -/
theorem directory_of_locateFrom {here : Option (List String)} {rest names : List String}
    (hhere : ∀ d, here = some d → f.isDirectory d = true)
    (h : f.locateFrom here rest = .ok (.file names)) :
    ∃ d n, names = d ++ [n] ∧ f.isDirectory d = true := by
  -- The walk keeps to directories: up from one, or down into one.
  fun_induction locateFrom f here rest with
  | case1 => cases h
  | case2 rest ih => exact ih (by simp) h
  | case3 rest ih => exact ih (by simp) h
  | case4 rest d hd ih =>
    have hup := isDirectory_of_isPrefix d.dropLast_prefix (hhere d rfl)
    exact ih (fun outer ho => Option.some.inj ho ▸ hup) h
  | case5 => cases h
  | case6 => cases h
  | case7 d n rest hn there hsize hthere ih =>
    exact ih (fun inner hi => Option.some.inj hi ▸ hthere) h
  | case8 d n rest hn there =>
    have hnames : there = names := by simpa using h
    exact ⟨d, n, hnames.symm, hhere d rfl⟩
  | case9 => cases h

theorem directory_of_locate {names : List String} (h : f.locate p = .ok (.file names)) :
    ∃ d n, names = d ++ [n] ∧ f.isDirectory d = true := by
  refine directory_of_locateFrom (fun d hd => ?_) h
  split at hd
  · cases hd
    rfl
  · cases hd

/-- A file in a directory makes no directory. -/
theorem isDirectory_put {d : List String} (n : String) (content : List Nat)
    (h : f.isDirectory d = true) (other : List String) :
    (f.put (d ++ [n]) content).isDirectory other = f.isDirectory other := by
  rw [Bool.eq_iff_iff]
  constructor
  · intro hput
    rcases (isDirectory_iff _ other).mp hput with rfl | ⟨m, later, hfile⟩
    · rfl
    · rw [file?_put] at hfile
      split at hfile
      · rename_i heq
        have hother : other <+: d ++ [n] := ⟨m :: later, heq⟩
        rcases List.prefix_concat_iff.mp hother with rfl | hother
        · simp at heq
        · exact isDirectory_of_isPrefix hother h
      · exact (isDirectory_iff f other).mpr (.inr ⟨m, later, hfile⟩)
  · intro hdir
    rcases (isDirectory_iff f other).mp hdir with rfl | ⟨m, later, hfile⟩
    · rfl
    · refine (isDirectory_iff _ other).mpr (.inr ⟨m, later, ?_⟩)
      rw [file?_put]
      split
      · rfl
      · exact hfile

/-- Where paths lead depends on the directories. -/
theorem locateFrom_congr {g : Folder} (hdir : ∀ d, g.isDirectory d = f.isDirectory d)
    {here : Option (List String)} {rest : List String} {spot : Spot}
    (h : f.locateFrom here rest = .ok spot) : g.locateFrom here rest = .ok spot := by
  fun_induction locateFrom f here rest with
  | case1 => exact h
  | case2 rest ih => exact ih h
  | case3 rest ih => exact ih h
  | case4 rest d hd ih =>
    rw [locateFrom]
    · exact ih h
    · exact hd
  | case5 => cases h
  | case6 => cases h
  | case7 d n rest hn there hsize hthere ih =>
    rw [locateFrom]
    · simp only [hsize, hdir, if_false]
      rw [if_pos hthere]
      exact ih h
    · exact hn
  | case8 d n rest hn there hsize hthere hrest =>
    rw [locateFrom]
    · simp only [hsize, hdir, hrest, if_true, if_false]
      rw [if_neg hthere]
      exact h
    · exact hn
  | case9 => cases h

/-- A write leaves every path leading where it led. -/
theorem locate_write {q : Text.Path} {spot : Spot} (hw : f.write p text = .ok after)
    (h : f.locate q = .ok spot) : after.locate q = .ok spot := by
  obtain ⟨names, hplace, rfl⟩ := write_eq_ok_iff.mp hw
  obtain ⟨d, n, rfl, hd⟩ := directory_of_locate hplace
  exact locateFrom_congr (isDirectory_put n (utf8 text) hd) h

/-- A text stands as the whole content of the file that a path leads to, and the folder is
otherwise as before. -/
structure Holds (before after : Folder) (path text : String) : Prop where
  content : after.read (.ofText path) = .ok (utf8 text)
  others : ∀ names, before.locate (.ofText path) ≠ .ok (.file names) →
    after.file? names = before.file? names
  input : after.input = before.input

/-- A write that comes out replaces the content of one file. -/
theorem holds_of_write {path : String} (h : f.write (.ofText path) text = .ok after) :
    Holds f after path text := by
  obtain ⟨names, hplace, hafter⟩ := write_eq_ok_iff.mp h
  refine ⟨?_, fun other hother => ?_, ?_⟩
  · unfold read
    rw [locate_write h hplace, ← hafter]
    simp [bind, Except.bind, pure, Except.pure, file?_put]
  · rw [← hafter, file?_put, if_neg]
    rintro rfl
    exact hother hplace
  · rw [← hafter]
    unfold put
    split <;> rfl

end Folder

/-! ## Runs -/

/-- The bytes that a folder has for a run: of a file, or of the standard input. -/
def Folder.bytesFrom (f : Folder) : Option String → Except FileFault (List Nat)
  | none => .ok f.input
  | some path => f.read (.ofText path)

theorem mapError_eq_ok {ε ε' α : Type} {x : Except ε α} {g : ε → ε'} {a : α} :
    x.mapError g = .ok a ↔ x = .ok a := by
  cases x with
  | error e =>
    constructor
    · exact fun h : Except.error (g e) = .ok a => by cases h
    · exact fun h => by cases h
  | ok b =>
    show Except.ok b = .ok a ↔ _
    rw [Except.ok.injEq, Except.ok.injEq]

/-- A run in a folder has a text where the folder has bytes for it that are one. -/
theorem inputText_folder {f : Folder} {st : Settings} {source : Option String} {sql : String}
    (hst : st.inputPath = source.map Text.Path.normal) :
    ((inputText Folder.host st).run f).1 = .ok sql ↔
      ∃ bytes, f.bytesFrom source = .ok bytes ∧ Text.ofUtf8 bytes = .ok sql := by
  have hread : ∃ reads, (inputBytes Folder.host st).run f = (reads, f) ∧
      ∀ bytes, reads = .ok bytes ↔ f.bytesFrom source = .ok bytes := by
    unfold inputBytes
    rw [hst]
    cases source with
    | none => exact ⟨.ok f.input, rfl, fun _ => by simp [Folder.bytesFrom]⟩
    | some path =>
      dsimp only [Option.map_some]
      rw [Text.Path.ofText_normal]
      exact ⟨_, rfl, fun _ => mapError_eq_ok⟩
  obtain ⟨reads, hrun, hreads⟩ := hread
  unfold inputText
  rw [run_bind_of_eq hrun]
  simp only [← hreads]
  cases reads with
  | error reason => simp [StateT.run_pure]
  | ok bytes =>
    simp only [Except.ok.injEq, exists_eq_left']
    exact mapError_eq_ok

/-- All that a run needs before it can deliver comes out: the arguments ask for a conversion, the
settings can be used, the input can be read and is text, and the script has a document. -/
structure Ready (f : Folder) (env : Environment) (argv : List String) (c : Choices)
    (document : String) : Prop where
  asked : Request.ofArguments argv = .ok (.convert c)
  made : ∃ st bytes sql, Settings.resolve env c.values = .ok st ∧
    f.bytesFrom c.source = .ok bytes ∧ Text.ofUtf8 bytes = .ok sql ∧
    Script.documentIn st.dialect sql = .ok document

/-- The place for a document can be written: the standard output always can. -/
def Writable (f : Folder) : Option String → Prop
  | none => True
  | some path => ∃ names, f.locate (.ofText path) = .ok (.file names)

/-- A document is at its one place, and nothing else has changed. -/
def Delivered (before after : Folder) (document output : String) : Option String → Prop
  | none => output = document ∧ after = before
  | some path => output = "" ∧ Folder.Holds before after path document

/-- The text of the input of a run in a folder has a document. -/
def Makes (f : Folder) (st : Settings) (document : String) : Prop :=
  ∃ sql, ((inputText Folder.host st).run f).1 = .ok sql ∧
    Script.documentIn st.dialect sql = .ok document

theorem writable_of_write {f after : Folder} {path text : String}
    (h : f.write (.ofText path) text = .ok after) : Writable f (some path) := by
  obtain ⟨names, hplace, -⟩ := Folder.write_eq_ok_iff.mp h
  exact ⟨names, hplace⟩

/-- However converting in a folder ends, it is all or nothing. -/
theorem Host.Ending.all_or_nothing {f after : Folder} {st : Settings} {status : Nat}
    {output : String} {destination : Option String}
    (h : Folder.host.Ending st f status output after)
    (hout : st.outputPath = destination.map Text.Path.normal) :
    (status ≠ 0 → output = "" ∧ after = f) ∧
      (status = 0 ↔ ∃ document, Makes f st document ∧ Writable f destination) ∧
      ∀ document, status = 0 → Makes f st document →
        Delivered f after document output destination := by
  cases h with
  | unreadable read =>
    refine ⟨fun _ => ⟨rfl, rfl⟩, ⟨by simp, ?_⟩, by simp⟩
    rintro ⟨document, ⟨sql, hread, -⟩, -⟩
    cases read.symm.trans hread
  | unusable read made =>
    refine ⟨fun _ => ⟨rfl, rfl⟩, ⟨by simp, ?_⟩, by simp⟩
    rintro ⟨document, ⟨sql, hread, hmade⟩, -⟩
    cases read.symm.trans hread
    cases made.symm.trans hmade
  | @refused sql document path fault read made there wrote =>
    refine ⟨fun _ => ⟨rfl, rfl⟩, ⟨by simp, ?_⟩, by simp⟩
    rintro ⟨document', ⟨sql', hread, hmade⟩, hplace⟩
    cases read.symm.trans hread
    cases made.symm.trans hmade
    obtain ⟨name, rfl, rfl⟩ := Option.map_eq_some_iff.mp (hout.symm.trans there)
    rw [Text.Path.ofText_normal] at wrote
    obtain ⟨names, hplace⟩ := hplace
    have hwrite : f.write (.ofText name) document = .ok _ :=
      Folder.write_eq_ok_iff.mpr ⟨names, hplace, rfl⟩
    cases (Folder.run_writeFile_eq_ok_iff.mpr hwrite).symm.trans wrote
  | shown read made here =>
    obtain rfl := Option.map_eq_none_iff.mp (hout.symm.trans here)
    refine ⟨by simp, ⟨fun _ => ⟨_, ⟨_, read, made⟩, trivial⟩, by simp⟩, ?_⟩
    rintro document' - ⟨sql', hread, hmade⟩
    cases read.symm.trans hread
    cases made.symm.trans hmade
    exact ⟨rfl, rfl⟩
  | @written sql document path _ read made there wrote =>
    obtain ⟨name, rfl, rfl⟩ := Option.map_eq_some_iff.mp (hout.symm.trans there)
    rw [Text.Path.ofText_normal] at wrote
    have hwrite := Folder.run_writeFile_eq_ok_iff.mp wrote
    refine ⟨by simp, ⟨fun _ => ⟨_, ⟨_, read, made⟩, writable_of_write hwrite⟩, by simp⟩, ?_⟩
    rintro document' - ⟨sql', hread, hmade⟩
    cases read.symm.trans hread
    cases made.symm.trans hmade
    exact ⟨rfl, Folder.holds_of_write hwrite⟩

/-- A run that does not ask for help either fails and leaves nothing behind, or delivers the
document of its input to one place and changes nothing else. It succeeds exactly when the document
can be made and its place can be written. -/
theorem run_all_or_nothing (f : Folder) (env : Environment) (argv : List String)
    (hhelp : Request.ofArguments argv ≠ .ok .help) :
    ∃ r after, (run Folder.host env argv).run f = (r, after) ∧
      (r.status ≠ 0 → r.output = "" ∧ after = f) ∧
      (r.status = 0 ↔ ∃ c document, Ready f env argv c document ∧ Writable f c.destination) ∧
      ∀ c document, r.status = 0 → Ready f env argv c document →
        Delivered f after document r.output c.destination := by
  unfold run
  cases hreq : Request.ofArguments argv with
  | error fault =>
    refine ⟨_, f, rfl, fun _ => ⟨rfl, rfl⟩, ⟨by simp, ?_⟩, by simp⟩
    rintro ⟨c, document, hready, -⟩
    cases hreq.symm.trans hready.asked
  | ok request =>
    cases request with
    | help => exact absurd hreq hhelp
    | convert c =>
      dsimp only
      cases hres : Settings.resolve env c.values with
      | error fs =>
        refine ⟨_, f, rfl, fun _ => ⟨rfl, rfl⟩, ⟨by simp, ?_⟩, by simp⟩
        rintro ⟨c', document, ⟨hasked, st, bytes, sql, hst, -⟩, -⟩
        cases hreq.symm.trans hasked
        cases hres.symm.trans hst
      | ok st =>
        obtain ⟨hin, hout⟩ := paths_of_resolve hres
        have hready : ∀ c' document, Ready f env argv c' document ↔
            c' = c ∧ Makes f st document := by
          intro c' document
          constructor
          · rintro ⟨hasked, st', bytes, sql, hst, hbytes, hsql, hmade⟩
            cases hreq.symm.trans hasked
            cases hres.symm.trans hst
            exact ⟨rfl, sql, (inputText_folder hin).mpr ⟨bytes, hbytes, hsql⟩, hmade⟩
          · rintro ⟨rfl, sql, hread, hmade⟩
            obtain ⟨bytes, hbytes, hsql⟩ := (inputText_folder hin).mp hread
            exact ⟨hreq, st, bytes, sql, hres, hbytes, hsql, hmade⟩
        obtain ⟨r, after, hrun, hend⟩ := Folder.host_quiet.convert_ends st f
        obtain ⟨hfailed, hstatus, hdelivered⟩ := hend.all_or_nothing hout
        refine ⟨r.tell st, after, ?_, hfailed, ?_, ?_⟩
        · dsimp only
          rw [run_bind_of_eq hrun]
          rfl
        · rw [show (r.tell st).status = r.status from rfl, hstatus]
          simp only [hready, and_assoc, exists_and_left, exists_eq_left]
        · intro c' document hzero hmade
          obtain ⟨rfl, hmakes⟩ := (hready c' document).mp hmade
          exact hdelivered document hzero hmakes

/-- The input and the output may be one file: it is read before it is replaced. -/
theorem run_over_its_input :
    let before : Folder := ⟨[(["t.sql"], "CREATE TABLE t (a int)".toList.map Char.toNat)], []⟩
    let document := "t Table's Definition\n\n" ++
      "|name|type|not null|auto_increment|default|comment|\n" ++
      "|---|---|---|---|---|---|\n|a|int|||||\n\nt Table's Indexes\n\n|name|type|columns|\n" ++
      "|---|---|---|\n\n"
    Request.ofArguments ["-i", "t.sql", "-o", "./t.sql"] ≠ .ok .help ∧
      ∃ r after, (run Folder.host {} ["-i", "t.sql", "-o", "./t.sql"]).run before = (r, after) ∧
        r.status = 0 ∧ r.output = "" ∧
        after.read (.ofText "t.sql") = .ok (Folder.utf8 document) := by
  intro before document
  have hasked : Request.ofArguments ["-i", "t.sql", "-o", "./t.sql"] =
      .ok (.convert { input := some "t.sql", output := some "./t.sql" }) :=
    eq_ok_of_toOption (by decide)
  have hhelp : Request.ofArguments ["-i", "t.sql", "-o", "./t.sql"] ≠ .ok .help := by simp [hasked]
  obtain ⟨r, after, hrun, -, hstatus, hdelivered⟩ :=
    run_all_or_nothing before {} ["-i", "t.sql", "-o", "./t.sql"] hhelp
  have hready : Ready before {} ["-i", "t.sql", "-o", "./t.sql"]
      { input := some "t.sql", output := some "./t.sql" } document :=
    ⟨hasked, ⟨some "t.sql", some "t.sql", "mysql", false, "utf-8"⟩, _, "CREATE TABLE t (a int)",
      eq_ok_of_toOption (by decide), rfl, eq_ok_of_toOption (by decide),
      eq_ok_of_toOption (by decide +kernel)⟩
  have hplace : Writable before (some "./t.sql") := ⟨["t.sql"], rfl⟩
  have hzero : r.status = 0 := hstatus.mpr ⟨_, _, hready, hplace⟩
  obtain ⟨houtput, hholds⟩ := hdelivered _ _ hzero hready
  exact ⟨hhelp, r, after, hrun, hzero, houtput, hholds.content⟩

end TableDoc.CommandLine
