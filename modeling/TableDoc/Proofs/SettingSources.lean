import TableDoc.Proofs.RoundTrip
import TableDoc.Script
import TableDoc.Settings

/-!
# Where settings come from

Every setting is read from a member of its own, and of two members of one key the later counts:
given values come behind those of the environment.

* **members** — what the environment and a given dialect say under which key
  (`member?_environment`, `member?_dialect`, `member?_verbose`);
* **names** — a dialect is known by exactly its name (`ofName?_eq_some_iff`); the names that
  settings can have stand for themselves (`settingName_of_mem`) and are those that reading knows
  (`mem_supported_iff`);
* **dialects** — the one text that counts decides the dialect of the settings, or why there are
  none (`resolve_given`), and a conversion knows exactly the names of dialects
  (`documentIn_eq_unknown_iff`); `dialect_settled` puts these results together.
-/

namespace TableDoc

/-! ## Members -/

theorem app_eq_ok {α β : Type} {f : Checked (α → β)} {a : Checked α} {b : β}
    (h : f.app a = .ok b) : ∃ g x, f = .ok g ∧ a = .ok x ∧ g x = b := by
  cases f with
  | error fs => cases a <;> cases h
  | ok g =>
    cases a with
    | error fs => cases h
    | ok x => exact ⟨g, x, rfl, rfl, Except.ok.inj h⟩

/-- The paths and the dialect of settings are read each from its own member. -/
theorem fields_of_members {ms : List (String × Json)} {st : Settings}
    (h : Settings.ofMembers ms = .ok st) :
    Json.optional "input_path" none Settings.toPath ms = .ok st.inputPath ∧
      Json.optional "output_path" none Settings.toPath ms = .ok st.outputPath ∧
      Json.optional "dialect" "mysql" Settings.toDialect ms = .ok st.dialect := by
  unfold Settings.ofMembers at h
  obtain ⟨withoutEncoding, encoding, h, -, hst⟩ := app_eq_ok h
  obtain ⟨withoutVerbose, verbose, h, -, hverbose⟩ := app_eq_ok h
  obtain ⟨withoutDialect, dialect, h, hd, hdialect⟩ := app_eq_ok h
  obtain ⟨withoutOutput, output, h, hout, houtput⟩ := app_eq_ok h
  obtain ⟨withoutInput, input, h, hin, hinput⟩ := app_eq_ok h
  cases h
  subst hinput houtput hdialect hverbose hst
  exact ⟨hin, hout, hd⟩

/-- Of two lists of members the later one counts. -/
theorem member?_append (key : String) (first later : List (String × Json)) :
    Json.member? key (first ++ later) = (Json.member? key later).or (Json.member? key first) := by
  rw [Json.member?, List.reverse_append, List.lookup_append]
  rfl

/-- A value that may be given is the only member under its key. -/
theorem member?_option {α : Type} (key own : String) (f : α → Json) (o : Option α) :
    Json.member? key (o.toList.map fun a => (own, f a)) =
      if key == own then o.map f else none := by
  cases o with
  | none => simp [Json.member?]
  | some a =>
    cases h : key == own <;> simp [Json.member?, List.lookup_cons, h]

namespace Environment

/-- The text for the dialect, if it is not empty. -/
def dialect? (e : Environment) : Option String := e.dialect.filter (!·.isEmpty)

/-- The text for the verbosity, if it is not empty. -/
def verbose? (e : Environment) : Option String := e.verbose.filter (!·.isEmpty)

/-- An empty text of the environment gives nothing. -/
theorem values_eq (e : Environment) :
    e.values = (e.dialect?.toList.map fun s => ("dialect", .text s)) ++
      e.verbose?.toList.map fun s => ("verbose", .bool (isOn s)) := by
  unfold values dialect? verbose?
  congr 1
  · cases e.dialect with
    | none => rfl
    | some s => cases hs : s.isEmpty <;> simp [Option.filter, hs]
  · cases e.verbose with
    | none => rfl
    | some s => cases hs : s.isEmpty <;> simp [Option.filter, hs]

end Environment

/-- The environment says nothing under other keys. -/
theorem member?_environment (env : Environment) {key : String}
    (hd : (key == "dialect") = false) (hv : (key == "verbose") = false) :
    Json.member? key env.values = none := by
  rw [env.values_eq, member?_append, member?_option, member?_option, hd, hv]
  rfl

/-- A dialect as it is given beside the environment. -/
inductive GivenDialect where
  /-- Nothing is given. -/
  | absent
  /-- Null is given. -/
  | null
  /-- A text is given, perhaps an empty one. -/
  | text (s : String)
deriving DecidableEq, Repr

namespace GivenDialect

/-- The given values. -/
def values : GivenDialect → List (String × Json)
  | absent => []
  | null => [("dialect", .null)]
  | text s => [("dialect", .text s)]

/-- The text that is given, if any; null gives none. -/
def text? : GivenDialect → Option String
  | text s => some s
  | _ => none

theorem present_values (o : GivenDialect) :
    Settings.present o.values = o.text?.toList.map fun s => ("dialect", .text s) := by
  cases o <;> rfl

end GivenDialect

variable (e : Environment) (o : GivenDialect)

/-- A dialect that is given counts, and otherwise that of the environment. -/
theorem member?_dialect :
    Json.member? "dialect" (e.values ++ Settings.present o.values) =
      (o.text?.or e.dialect?).map Json.text := by
  rw [member?_append, o.present_values, e.values_eq, member?_append, member?_option, member?_option,
    member?_option, if_pos (by decide), if_neg (by decide), if_pos (by decide), Option.none_or,
    Option.map_or]

theorem member?_verbose :
    Json.member? "verbose" (e.values ++ Settings.present o.values) =
      e.verbose?.map fun s => .bool (Environment.isOn s) := by
  rw [member?_append, o.present_values, e.values_eq, member?_append, member?_option, member?_option,
    member?_option, if_neg (by decide), if_pos (by decide), if_neg (by decide), Option.none_or,
    Option.or_none]

theorem member?_other {key : String} (hd : (key == "dialect") = false)
    (hv : (key == "verbose") = false) :
    Json.member? key (e.values ++ Settings.present o.values) = none := by
  rw [member?_append, o.present_values, member?_option, member?_environment e hd hv, hd]
  rfl

/-! ## Names -/

namespace Dialect

/-- A dialect is known by exactly its name. -/
theorem ofName?_eq_some_iff {s : String} {d : Dialect} : ofName? s = some d ↔ s = d.name := by
  constructor
  · intro h
    rw [ofName?, named, List.lookup_cons, List.lookup_cons, List.lookup_nil] at h
    split at h
    case h_1 hmysql =>
      cases h
      exact eq_of_beq hmysql
    case h_2 =>
      split at h
      case h_1 hpostgres =>
        cases h
        exact eq_of_beq hpostgres
      case h_2 => cases h
  · rintro rfl
    exact ofName?_name d

/-- The names that settings can have are those that reading knows. -/
theorem mem_supported_iff {s : String} : s ∈ supported ↔ ∃ d, ofName? s = some d := by
  simp only [ofName?_eq_some_iff]
  constructor
  · intro h
    simp only [supported, List.mem_cons, List.not_mem_nil, or_false] at h
    rcases h with rfl | rfl
    · exact ⟨.mysql, rfl⟩
    · exact ⟨.postgres, rfl⟩
  · rintro ⟨d, rfl⟩
    cases d <;> decide

/-- A name that settings can have stands for itself. -/
theorem settingName_of_mem {s : String} (h : s ∈ supported) : settingName s = s := by
  obtain ⟨d, hd⟩ := mem_supported_iff.mp h
  rw [ofName?_eq_some_iff.mp hd]
  cases d <;> decide

/-- A setting stands for such a name in three words, whatever blanks are around it. -/
theorem settingName_mem_iff {s : String} :
    settingName s ∈ supported ↔
      Text.lower (Text.trim s) ∈ ["mysql", "postgres", "postgresql"] := by
  unfold settingName supported
  generalize Text.lower (Text.trim s) = word
  dsimp only
  split
  · simp_all
  · simp_all

end Dialect

/-! ## The dialect of the settings -/

namespace Settings

theorem toDialect_of_mem {s : String} (h : Dialect.settingName s ∈ Dialect.supported) :
    toDialect (.text s) = .ok (Dialect.settingName s) := by
  rw [toDialect, if_pos (List.contains_iff_mem.mpr h)]

theorem toDialect_of_not_mem {s : String} (h : Dialect.settingName s ∉ Dialect.supported) :
    toDialect (.text s) = Checked.fail (.unknownDialect s Dialect.nameList) := by
  rw [toDialect, if_neg fun hin => h (List.contains_iff_mem.mp hin)]

/-- A name that settings can have is taken as it is. -/
theorem toDialect_supported {s : String} (h : s ∈ Dialect.supported) :
    toDialect (.text s) = .ok s := by
  have hname := Dialect.settingName_of_mem h
  rw [toDialect_of_mem (hname.symm ▸ h), hname]

/-- Whatever describes settings, they have a name that they can have. -/
theorem dialect_mem_supported {ms : List (String × Json)} {st : Settings}
    (h : ofMembers ms = .ok st) : st.dialect ∈ Dialect.supported := by
  obtain ⟨-, -, hd⟩ := fields_of_members h
  unfold Json.optional at hd
  split at hd
  case h_1 j _ =>
    unfold toDialect at hd
    split at hd
    case h_1 s =>
      split at hd
      case isTrue hmem => exact Except.ok.inj hd ▸ List.contains_iff_mem.mp hmem
      case isFalse => cases hd
    case h_2 => cases hd
  case h_2 =>
    rw [← Except.ok.inj hd]
    decide

end Settings

/-- The text that counts for the dialect: the given one, else that of the environment, else the name
of a dialect. -/
def settlingText : String := (o.text?.or e.dialect?).getD "mysql"

theorem optional_dialect :
    Json.optional "dialect" "mysql" Settings.toDialect (e.values ++ Settings.present o.values) =
      Checked.under (.field "dialect") (Settings.toDialect (.text (settlingText e o))) := by
  unfold Json.optional settlingText
  rw [member?_dialect]
  cases o.text?.or e.dialect? with
  | none =>
    rw [Option.getD_none, Settings.toDialect_supported (by decide)]
    rfl
  | some s => rfl

theorem optional_verbose :
    Json.optional "verbose" false Json.toTruth (e.values ++ Settings.present o.values) =
      .ok ((e.verbose?.map Environment.isOn).getD false) := by
  have hmember := member?_verbose e o
  cases hverbose : e.verbose? with
  | none =>
    rw [hverbose] at hmember
    unfold Json.optional
    rw [hmember]
    rfl
  | some s =>
    rw [hverbose, Option.map_some] at hmember
    rw [Option.map_some, Option.getD_some]
    exact optional_eq_ok readsBack_truth hmember

theorem optional_other {α : Type} {key : String} (absent : α) (read : Json → Checked α)
    (hd : (key == "dialect") = false) (hv : (key == "verbose") = false) :
    Json.optional key absent read (e.values ++ Settings.present o.values) = .ok absent := by
  unfold Json.optional
  rw [member?_other e o hd hv]

/-- Settings are as the environment and a given dialect say, and only the dialect can be at
fault. -/
theorem resolve_given :
    Settings.resolve e o.values =
      (Checked.under (.field "dialect") (Settings.toDialect (.text (settlingText e o)))).map
        fun d => ⟨none, none, d, (e.verbose?.map Environment.isOn).getD false, "utf-8"⟩ := by
  unfold Settings.resolve Settings.ofMembers
  rw [optional_dialect, optional_verbose, optional_other e o _ _ (by decide) (by decide),
    optional_other e o _ _ (by decide) (by decide), optional_other e o _ _ (by decide) (by decide)]
  generalize (e.verbose?.map Environment.isOn).getD false = verbose
  cases Checked.under (.field "dialect") (Settings.toDialect (.text (settlingText e o))) <;> rfl

/-- Settings come out where the text stands for a name that they can have, and then they have it. -/
theorem resolve_eq_ok (h : Dialect.settingName (settlingText e o) ∈ Dialect.supported) :
    Settings.resolve e o.values =
      .ok ⟨none, none, Dialect.settingName (settlingText e o),
        (e.verbose?.map Environment.isOn).getD false, "utf-8"⟩ := by
  rw [resolve_given, Settings.toDialect_of_mem h]
  rfl

theorem resolve_eq_error (h : Dialect.settingName (settlingText e o) ∉ Dialect.supported) :
    Settings.resolve e o.values =
      .error [⟨[.field "dialect"], .unknownDialect (settlingText e o) Dialect.nameList⟩] := by
  rw [resolve_given, Settings.toDialect_of_not_mem h]
  rfl

/-- Settings that come out have the name that the text stands for. -/
theorem dialect_of_resolve {s : Settings} (h : Settings.resolve e o.values = .ok s) :
    s.dialect = Dialect.settingName (settlingText e o) := by
  by_cases hmem : Dialect.settingName (settlingText e o) ∈ Dialect.supported
  · rw [resolve_eq_ok e o hmem] at h
    generalize Dialect.settingName (settlingText e o) = name at h ⊢
    cases h
    rfl
  · rw [resolve_eq_error e o hmem] at h
    cases h

/-! ## Conversions in the dialect of a name -/

namespace Script

/-- A name is unknown exactly where no dialect has it. -/
theorem documentIn_eq_unknown_iff {name script unknown : String} :
    documentIn name script = .error (.unknownDialect unknown) ↔
      Dialect.ofName? name = none ∧ unknown = name := by
  unfold documentIn
  cases h : Dialect.ofName? name with
  | none =>
    constructor
    · intro herror
      cases herror
      exact ⟨rfl, rfl⟩
    · rintro ⟨-, rfl⟩
      rfl
  | some d =>
    refine ⟨fun herror => ?_, fun hunknown => by cases hunknown.1⟩
    dsimp only at herror
    cases hdocument : document d script <;> rw [hdocument] at herror <;> cases herror

end Script

/-! ## The dialect is settled -/

/-- How the environment and a given dialect settle the dialect. -/
structure DialectSettled (e : Environment) (o : GivenDialect) : Prop where
  /-- A given text counts, also an empty one; -/
  given : ∀ s, o.text? = some s → settlingText e o = s
  /-- without one, a text of the environment counts that is not empty, -/
  environment : ∀ s, o.text? = none → e.dialect = some s → s ≠ "" → settlingText e o = s
  /-- and without both, the name of a dialect. -/
  default : o.text? = none → (∀ s, e.dialect = some s → s = "") → settlingText e o = "mysql"
  /-- Settings come out exactly where the text, without blanks around it and in small letters, is
  one of three words; -/
  accepted : (∃ s, Settings.resolve e o.values = .ok s) ↔
    Text.lower (Text.trim (settlingText e o)) ∈ ["mysql", "postgres", "postgresql"]
  /-- otherwise the dialect is at fault, and nothing else. -/
  rejected : Text.lower (Text.trim (settlingText e o)) ∉ ["mysql", "postgres", "postgresql"] →
    Settings.resolve e o.values =
      .error [⟨[.field "dialect"], .unknownDialect (settlingText e o) Dialect.nameList⟩]
  /-- The settings have the name of a dialect that the text stands for. -/
  chosen : ∀ s, Settings.resolve e o.values = .ok s →
    s.dialect = Dialect.settingName (settlingText e o)
  /-- This name is accepted again, as it is, -/
  fixed : ∀ s, Settings.resolve e o.values = .ok s →
    Settings.toDialect (.text s.dialect) = .ok s.dialect
  /-- it is the name of a dialect that reading knows, -/
  known : ∀ s, Settings.resolve e o.values = .ok s →
    ∃ d, Dialect.ofName? s.dialect = some d ∧ d.name = s.dialect
  /-- and so no conversion ends at an unknown dialect. -/
  converts : ∀ s, Settings.resolve e o.values = .ok s → ∀ script unknown,
    Script.documentIn s.dialect script ≠ .error (.unknownDialect unknown)

theorem settlingText_of_absent (h : o.text? = none) :
    settlingText e o = e.dialect?.getD "mysql" := by
  rw [settlingText, h, Option.none_or]

/-- Whatever the environment says and whatever dialect is given, the dialect is settled. -/
theorem dialect_settled : DialectSettled e o where
  given s h := by rw [settlingText, h, Option.some_or, Option.getD_some]
  environment s h hs hne := by
    have hempty : s.isEmpty = false := by simpa using hne
    rw [settlingText_of_absent e o h, Environment.dialect?, hs]
    simp [Option.filter, hempty]
  default h hempty := by
    rw [settlingText_of_absent e o h, Environment.dialect?]
    cases hs : e.dialect with
    | none => rfl
    | some s =>
      rw [hempty s hs]
      rfl
  accepted := by
    rw [← Dialect.settingName_mem_iff]
    constructor
    · rintro ⟨s, h⟩
      exact dialect_of_resolve e o h ▸ Settings.dialect_mem_supported h
    · exact fun h => ⟨_, resolve_eq_ok e o h⟩
  rejected h := resolve_eq_error e o fun hmem => h (Dialect.settingName_mem_iff.mp hmem)
  chosen s h := dialect_of_resolve e o h
  fixed s h := Settings.toDialect_supported (Settings.dialect_mem_supported h)
  known s h := by
    obtain ⟨d, hd⟩ := Dialect.mem_supported_iff.mp (Settings.dialect_mem_supported h)
    exact ⟨d, hd, (Dialect.ofName?_eq_some_iff.mp hd).symm⟩
  converts s h script unknown herror := by
    obtain ⟨d, hd⟩ := Dialect.mem_supported_iff.mp (Settings.dialect_mem_supported h)
    rw [(Script.documentIn_eq_unknown_iff.mp herror).1] at hd
    cases hd

end TableDoc
