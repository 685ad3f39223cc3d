import RunLedger.Proofs.Settings.Checking

/-!
# The rules of the fields

Each field of the settings has a rule of its own, told of the value that is given to it.  The check
follows these rules field by field: a mapping gives settings where every given field follows its
rule, and otherwise the errors of the fields that do not, one for each and in the order of the
fields.

    (check values).errors = all.flatMap fun f => f.errors (f.given? values)          (check_errors)
    (check values).errors.map (·.path) = (all.filter (isRefused values)).map (·.path)
                                                                             (map_path_check_errors)
    (f.errors (some v)).map (·.path) = if f.accepts v then [] else [f.path]       (map_path_errors)
    (∃ s, check values = .ok s) ↔ (check values).errors = []                     (exists_check_iff)
-/

namespace RunLedger

/-! ## Fields and their rules -/

/-- The fields of settings, in the order in which they are declared; `logging` is the mapping about
log lines as a whole. -/
inductive SettingsField where
  | url
  | tablePrefix
  | databaseType
  | singleInstance
  | lockRegion
  | logging
  | jsonOutput
  | level
deriving Repr, DecidableEq

namespace SettingsField

open Settings

def all : List SettingsField :=
  [url, tablePrefix, databaseType, singleInstance, lockRegion, logging, jsonOutput, level]

theorem mem_all (f : SettingsField) : f ∈ all := by cases f <;> decide

/-- Where the field stands. -/
def path : SettingsField → List String
  | url => ["url"]
  | tablePrefix => ["table_prefix"]
  | databaseType => ["database_type"]
  | singleInstance => ["single_instance_enabled"]
  | lockRegion => ["lock_region"]
  | logging => ["logging"]
  | jsonOutput => ["logging", "json_output"]
  | level => ["logging", "level"]

/-- The value that a mapping gives to the field. -/
def given? (values : List (String × Value)) (f : SettingsField) : Option Value :=
  match f.path with
  | [key] => values.lookup key
  | [_, key] => (loggingEntries values).lookup key
  | _ => none

/-- Whether a text is empty or consists of letters A to Z in any case, digits and underscores, and
does not begin with a digit. -/
def isPrefixText (s : String) : Bool :=
  s.toList.all (fun c => c.isAlpha || c.isDigit || c = '_') && !s.toList.head?.any Char.isDigit

def levelNames : List String := ["DEBUG", "INFO", "WARNING", "ERROR"]

/-- Whether a value stands for a truth value: it is one, a word for one in any case of the letters A
to Z, or a number equal to 1 or 0. -/
def isTruthValue : Value → Bool
  | .bool _ => true
  | .text s => (yesWords ++ noWords).contains (Text.asciiLowered s)
  | .int n => n = 1 || n = 0
  | .real x => x.whole? = some 1 || x.whole? = some 0
  | _ => false

/-- The field's rule: whether it accepts a value. -/
def accepts : SettingsField → Value → Bool
  | url, .text _ => true
  | tablePrefix, .text s => isPrefixText s
  | databaseType, .null => true
  | databaseType, .text s => (Dialect.resolve (some s)).toOption.isSome
  | singleInstance, v => isTruthValue v
  | lockRegion, .text s => 1 ≤ s.length && s.length ≤ 100
  | logging, .map _ => true
  | jsonOutput, v => isTruthValue v
  | level, .text s => levelNames.contains (Text.uppered s)
  | _, _ => false

end SettingsField

namespace Settings

open SettingsField

/-! ## Readings that follow a rule -/

/-- A reading takes what a field accepts, and refuses anything else with one error about the
field. -/
def FollowsRule {α : Type} (f : SettingsField) (read : Value → Checked α) : Prop :=
  ∀ v, (f.accepts v = true ∧ ∃ a, read v = .ok a) ∨
    (f.accepts v = false ∧ ∃ fault, read v = .error [⟨f.path, fault⟩])

theorem not_start_of_isDigit {c : Char} (h : c.isDigit = true) :
    (c.isAlpha || decide (c = '_')) = false := by
  have hdigit : '0'.val ≤ c.val ∧ c.val ≤ '9'.val := by
    simpa [Char.isDigit] using h
  have hletter : c.isAlpha = (decide ('A'.val ≤ c.val ∧ c.val ≤ 'Z'.val) ||
      ('a'.val ≤ c.val && c.val ≤ 'z'.val)) := rfl
  have hbelow : ∀ d : Char, '9'.val < d.val → ¬ d.val ≤ c.val := fun d hd hle =>
    UInt32.not_le.2 hd (UInt32.le_trans hle hdigit.2)
  have hline : c ≠ '_' := by
    rintro rfl
    exact absurd h (by decide)
  rw [hletter, decide_eq_false (not_and_of_not_left _ (hbelow 'A' (by decide))),
    decide_eq_false (hbelow 'a' (by decide)), decide_eq_false hline]
  rfl

theorem isNameFragment_eq (s : String) : isNameFragment s = isPrefixText s := by
  unfold isNameFragment isPrefixText Char.isAlphanum
  cases s.toList with
  | nil => rfl
  | cons c cs =>
    rw [List.all_cons, List.head?_cons, Option.any_some]
    dsimp only
    cases hdigit : c.isDigit with
    | true => rw [not_start_of_isDigit hdigit, Bool.false_and, Bool.not_true, Bool.and_false]
    | false => rw [Bool.or_false, Bool.not_false, Bool.and_true]

theorem followsRule_url : FollowsRule .url (readText ["url"]) := by
  intro v
  cases v with
  | text s => exact .inl ⟨rfl, s, rfl⟩
  | _ => exact .inr ⟨rfl, _, rfl⟩

theorem readTablePrefix_text (s : String) :
    readTablePrefix (.text s) = if isNameFragment s then .ok s else
      Checked.fail ["table_prefix"] (.refused
        ("table_prefix must be a SQL identifier fragment, got " ++ Text.quoted s)) := rfl

theorem followsRule_tablePrefix : FollowsRule .tablePrefix readTablePrefix := by
  intro v
  cases v with
  | text s =>
    rw [readTablePrefix_text, accepts, ← isNameFragment_eq]
    cases isNameFragment s with
    | true => exact .inl ⟨rfl, s, rfl⟩
    | false => exact .inr ⟨rfl, _, rfl⟩
  | _ => exact .inr ⟨rfl, _, rfl⟩

theorem readDialectName_text (s : String) :
    readDialectName (.text s) = match Dialect.resolve (some s) with
      | .ok _ => .ok (some s)
      | .error cause => Checked.fail ["database_type"] (.refused cause.message) := rfl

theorem followsRule_databaseType : FollowsRule .databaseType readDialectName := by
  intro v
  cases v with
  | null => exact .inl ⟨rfl, none, rfl⟩
  | text s =>
    rw [readDialectName_text, accepts]
    cases Dialect.resolve (some s) with
    | ok d => exact .inl ⟨rfl, some s, rfl⟩
    | error cause => exact .inr ⟨rfl, _, rfl⟩
  | _ => exact .inr ⟨rfl, _, rfl⟩

theorem readBit_cases (path : List String) (n : Int) :
    ((n = 1 ∨ n = 0) ∧ ∃ b, readBit path n = .ok b) ∨
      ((n ≠ 1 ∧ n ≠ 0) ∧ ∃ fault, readBit path n = .error [⟨path, fault⟩]) := by
  unfold readBit
  by_cases hone : n = 1
  · rw [if_pos hone]
    exact .inl ⟨.inl hone, _, rfl⟩
  · rw [if_neg hone]
    by_cases hzero : n = 0
    · rw [if_pos hzero]
      exact .inl ⟨.inr hzero, _, rfl⟩
    · rw [if_neg hzero]
      exact .inr ⟨⟨hone, hzero⟩, _, rfl⟩

/-- A truth value is read from the values that stand for one. -/
theorem readBool_cases (path : List String) (v : Value) :
    (isTruthValue v = true ∧ ∃ b, readBool path v = .ok b) ∨
      (isTruthValue v = false ∧ ∃ fault, readBool path v = .error [⟨path, fault⟩]) := by
  cases v with
  | bool b => exact .inl ⟨rfl, b, rfl⟩
  | text s =>
    rw [readBool, isTruthValue, List.contains_append]
    cases yesWords.contains (Text.asciiLowered s) with
    | true => exact .inl ⟨rfl, _, rfl⟩
    | false =>
      cases noWords.contains (Text.asciiLowered s) with
      | true => exact .inl ⟨rfl, _, rfl⟩
      | false => exact .inr ⟨rfl, _, rfl⟩
  | int n =>
    rw [readBool, isTruthValue]
    rcases readBit_cases path n with ⟨hbit, b, hread⟩ | ⟨⟨hone, hzero⟩, fault, hread⟩
    -- the numbers that stand for truth values are within the bounds
    · have hholds : Signed64.holds n = true := by rcases hbit with rfl | rfl <;> decide
      refine .inl ⟨by simpa using hbit, b, ?_⟩
      rw [if_pos hholds, hread]
    · refine .inr ⟨by simp [hone, hzero], ?_⟩
      split
      · exact ⟨fault, hread⟩
      · exact ⟨_, rfl⟩
  | real x =>
    rw [readBool, isTruthValue]
    cases x.whole? with
    | none => exact .inr ⟨rfl, _, rfl⟩
    | some n =>
      rcases readBit_cases path n with ⟨hbit, b, hread⟩ | ⟨⟨hone, hzero⟩, fault, hread⟩
      · have hholds : (decide (Signed64.least < n) && Signed64.holds n) = true := by
          rcases hbit with rfl | rfl <;> decide
        refine .inl ⟨by simpa using hbit, b, ?_⟩
        dsimp only
        rw [if_pos hholds, hread]
      · refine .inr ⟨by simp [hone, hzero], ?_⟩
        dsimp only
        split
        · exact ⟨fault, hread⟩
        · exact ⟨_, rfl⟩
  | _ => exact .inr ⟨rfl, _, rfl⟩

theorem followsRule_singleInstance :
    FollowsRule .singleInstance (readBool ["single_instance_enabled"]) := readBool_cases _

theorem followsRule_jsonOutput :
    FollowsRule .jsonOutput (readBool ["logging", "json_output"]) := readBool_cases _

theorem readLockRegion_text (s : String) :
    readLockRegion (.text s) =
      if s.length < 1 then Checked.fail ["lock_region"] (.tooShort 1)
      else if 100 < s.length then Checked.fail ["lock_region"] (.tooLong 100)
      else .ok s := rfl

theorem followsRule_lockRegion : FollowsRule .lockRegion readLockRegion := by
  intro v
  cases v with
  | text s =>
    rw [readLockRegion_text, accepts]
    by_cases hshort : s.length < 1
    · rw [if_pos hshort]
      exact .inr ⟨by simp; omega, _, rfl⟩
    · rw [if_neg hshort]
      by_cases hlong : 100 < s.length
      · rw [if_pos hlong]
        exact .inr ⟨by simp; omega, _, rfl⟩
      · rw [if_neg hlong]
        exact .inl ⟨by simp; omega, s, rfl⟩
  | _ => exact .inr ⟨rfl, _, rfl⟩

theorem contains_levelNames (s : String) :
    levelNames.contains s = (LogLevel.ofName? s).isSome := by
  have hnames : levelNames = LogLevel.thresholds.map LogLevel.name := rfl
  rw [hnames, Bool.eq_iff_iff, List.contains_iff_mem, List.mem_map, Option.isSome_iff_exists]
  exact exists_congr fun l => LogLevel.ofName?_eq_some_iff.symm

theorem readLevel_text (s : String) :
    readLevel (.text s) = match LogLevel.ofName? (Text.uppered s) with
      | some l => .ok l
      | none => Checked.fail ["logging", "level"]
          (.notListed (LogLevel.thresholds.map LogLevel.name)) := rfl

theorem followsRule_level : FollowsRule .level readLevel := by
  intro v
  cases v with
  | text s =>
    rw [readLevel_text, accepts, contains_levelNames]
    cases LogLevel.ofName? (Text.uppered s) with
    | some l => exact .inl ⟨rfl, l, rfl⟩
    | none => exact .inr ⟨rfl, _, rfl⟩
  | _ => exact .inr ⟨rfl, _, rfl⟩

/-- The mapping in the place of the one about log lines. -/
def readMapping : Value → Checked (List (String × Value))
  | .map values => .ok values
  | _ => Checked.fail ["logging"] .notObject

theorem followsRule_logging : FollowsRule .logging readMapping := by
  intro v
  cases v with
  | map values => exact .inl ⟨rfl, values, rfl⟩
  | _ => exact .inr ⟨rfl, _, rfl⟩

/-! ## The errors of a field -/

/-- The errors of reading a value, if one is given. -/
def givenErrors {α : Type} (read : Value → Checked α) : Option Value → List FieldError
  | none => []
  | some v => (read v).errors

end Settings

namespace SettingsField

open Settings

/-- The errors of the field for the value that is given to it. -/
def errors : SettingsField → Option Value → List FieldError
  | url => givenErrors (readText ["url"])
  | tablePrefix => givenErrors readTablePrefix
  | databaseType => givenErrors readDialectName
  | singleInstance => givenErrors (readBool ["single_instance_enabled"])
  | lockRegion => givenErrors readLockRegion
  | logging => givenErrors readMapping
  | jsonOutput => givenErrors (readBool ["logging", "json_output"])
  | level => givenErrors readLevel

theorem errors_none (f : SettingsField) : f.errors none = [] := by cases f <;> rfl

theorem exists_followsRule (f : SettingsField) : ∃ (α : Type) (read : Value → Checked α),
    FollowsRule f read ∧ f.errors = givenErrors read := by
  cases f with
  | url => exact ⟨_, _, followsRule_url, rfl⟩
  | tablePrefix => exact ⟨_, _, followsRule_tablePrefix, rfl⟩
  | databaseType => exact ⟨_, _, followsRule_databaseType, rfl⟩
  | singleInstance => exact ⟨_, _, followsRule_singleInstance, rfl⟩
  | lockRegion => exact ⟨_, _, followsRule_lockRegion, rfl⟩
  | logging => exact ⟨_, _, followsRule_logging, rfl⟩
  | jsonOutput => exact ⟨_, _, followsRule_jsonOutput, rfl⟩
  | level => exact ⟨_, _, followsRule_level, rfl⟩

/-- A field has one error for a value that it does not accept, and none for one that it does. -/
theorem map_path_errors (f : SettingsField) (v : Value) :
    (f.errors (some v)).map (·.path) = if f.accepts v then [] else [f.path] := by
  obtain ⟨α, read, hrule, herrors⟩ := f.exists_followsRule
  rw [herrors, givenErrors]
  rcases hrule v with ⟨haccepts, a, hread⟩ | ⟨haccepts, fault, hread⟩
  · rw [haccepts, hread]
    rfl
  · rw [haccepts, hread]
    rfl

theorem errors_some_eq_nil_iff {f : SettingsField} {v : Value} :
    f.errors (some v) = [] ↔ f.accepts v = true := by
  rw [← List.map_eq_nil_iff (f := FieldError.path), map_path_errors]
  cases f.accepts v <;> simp

theorem errors_eq_nil_iff {f : SettingsField} {given : Option Value} :
    f.errors given = [] ↔ ∀ v, given = some v → f.accepts v = true := by
  cases given with
  | none => simp [errors_none]
  | some v => simp [errors_some_eq_nil_iff]

/-- Whether a mapping gives a value to the field that the field does not accept. -/
def isRefused (values : List (String × Value)) (f : SettingsField) : Bool :=
  (f.given? values).any fun v => !f.accepts v

theorem map_path_errors_given (values : List (String × Value)) (f : SettingsField) :
    (f.errors (f.given? values)).map (·.path) = if f.isRefused values then [f.path] else [] := by
  rw [isRefused]
  cases f.given? values with
  | none => rw [errors_none]; rfl
  | some v =>
    rw [map_path_errors, Option.any_some]
    cases f.accepts v <;> rfl

end SettingsField

namespace Settings

open SettingsField

/-! ## The check, field by field -/

section
variable {α : Type} {values : List (String × Value)} {key : String} {absent : α}
  {read : Value → Checked α}

theorem errors_field (values : List (String × Value)) (key : String) (absent : α)
    (read : Value → Checked α) :
    (field values key absent read).errors = givenErrors read (values.lookup key) := by
  unfold field
  cases values.lookup key <;> rfl

/-- A field without errors has a value. -/
theorem exists_field {f : SettingsField} (absent : α) (hrule : FollowsRule f read)
    (h : givenErrors read (values.lookup key) = []) :
    ∃ a, field values key absent read = .ok a := by
  unfold field
  cases hgiven : values.lookup key with
  | none => exact ⟨absent, rfl⟩
  | some v =>
    rw [hgiven, givenErrors] at h
    rcases hrule v with ⟨-, a, hread⟩ | ⟨-, fault, hread⟩
    · exact ⟨a, hread⟩
    · rw [hread] at h
      cases h

/-- What a field holds is what holds where it is not given, or something that was read. -/
theorem of_field {P : α → Prop} (habsent : P absent) (hread : ∀ v a, read v = .ok a → P a)
    {a : α} (h : field values key absent read = .ok a) : P a := by
  unfold field at h
  split at h
  · cases h
    exact habsent
  · exact hread _ _ h

end

theorem readLogging_map (values : List (String × Value)) :
    readLogging (.map values) =
      match field values "json_output" LoggingSettings.default.jsonOutput
          (readBool ["logging", "json_output"]),
        field values "level" LoggingSettings.default.level readLevel with
      | .ok j, .ok l => .ok ⟨j, l⟩
      | j, l => .error (j.errors ++ l.errors) := rfl

theorem errors_readLogging_map (values : List (String × Value)) :
    (readLogging (.map values)).errors =
      errors .jsonOutput (values.lookup "json_output") ++
        errors .level (values.lookup "level") := by
  have hjson := errors_field values "json_output" LoggingSettings.default.jsonOutput
    (readBool ["logging", "json_output"])
  have hlevel := errors_field values "level" LoggingSettings.default.level readLevel
  rw [readLogging_map, errors, errors, ← hjson, ← hlevel]
  split
  · next hj hl => rw [hj, hl]; rfl
  · rfl

theorem errors_field_logging (values : List (String × Value)) :
    (field values "logging" LoggingSettings.default readLogging).errors =
      errors .logging (given? values .logging) ++
        (errors .jsonOutput (given? values .jsonOutput) ++
          errors .level (given? values .level)) := by
  have hgiven : given? values .logging = values.lookup "logging" ∧
      given? values .jsonOutput = (loggingEntries values).lookup "json_output" ∧
      given? values .level = (loggingEntries values).lookup "level" := ⟨rfl, rfl, rfl⟩
  rw [errors_field, hgiven.1, hgiven.2.1, hgiven.2.2, loggingEntries]
  cases values.lookup "logging" with
  | none => rfl
  | some v =>
    cases v with
    | map entries => exact errors_readLogging_map entries
    | _ => rfl

/-- The errors of the check are those of the fields, in their order. -/
theorem check_errors (values : List (String × Value)) :
    (check values).errors = all.flatMap fun f => f.errors (f.given? values) := by
  have hfields : (check values).errors =
      (field values "url" defaultUrl (readText ["url"])).errors ++
        (field values "table_prefix" defaultTablePrefix readTablePrefix).errors ++
        (field values "database_type" none readDialectName).errors ++
        (field values "single_instance_enabled" false
          (readBool ["single_instance_enabled"])).errors ++
        (field values "lock_region" defaultLockRegion readLockRegion).errors ++
        (field values "logging" LoggingSettings.default readLogging).errors := by
    unfold check
    dsimp only
    split
    · next hurl hprefix hdialect hsingle hregion hlogging =>
      rw [hurl, hprefix, hdialect, hsingle, hregion, hlogging]
      rfl
    · rfl
  rw [hfields, errors_field_logging]
  simp only [errors_field, all, List.flatMap_cons, List.flatMap_nil, List.append_nil,
    List.append_assoc]
  rfl

/-- The errors of the check stand where the refused fields do, one for each. -/
theorem map_path_check_errors (values : List (String × Value)) :
    (check values).errors.map (·.path) = (all.filter (isRefused values)).map (·.path) := by
  rw [check_errors, List.map_flatMap]
  simp only [map_path_errors_given]
  induction all with
  | nil => rfl
  | cons f fields ih =>
    rw [List.flatMap_cons, ih, List.filter_cons]
    cases isRefused values f <;> rfl

theorem exists_readLogging {v : Value} (h : (readLogging v).errors = []) :
    ∃ a, readLogging v = .ok a := by
  cases v with
  | map values =>
    rw [errors_readLogging_map, List.append_eq_nil_iff] at h
    obtain ⟨j, hjson⟩ := exists_field LoggingSettings.default.jsonOutput followsRule_jsonOutput h.1
    obtain ⟨l, hlevel⟩ := exists_field LoggingSettings.default.level followsRule_level h.2
    exact ⟨⟨j, l⟩, by rw [readLogging_map, hjson, hlevel]⟩
  | _ => cases h

theorem check_eq_ok_iff {values : List (String × Value)} {s : Settings} :
    check values = .ok s ↔
      field values "url" defaultUrl (readText ["url"]) = .ok s.url ∧
      field values "table_prefix" defaultTablePrefix readTablePrefix = .ok s.tablePrefix ∧
      field values "database_type" none readDialectName = .ok s.dialectName ∧
      field values "single_instance_enabled" false (readBool ["single_instance_enabled"]) =
        .ok s.singleInstance ∧
      field values "lock_region" defaultLockRegion readLockRegion = .ok s.lockRegion ∧
      field values "logging" LoggingSettings.default readLogging = .ok s.logging := by
  constructor
  · intro h
    unfold check at h
    dsimp only at h
    split at h
    · next hurl hprefix hdialect hsingle hregion hlogging =>
      cases h
      exact ⟨hurl, hprefix, hdialect, hsingle, hregion, hlogging⟩
    · cases h
  · rintro ⟨hurl, hprefix, hdialect, hsingle, hregion, hlogging⟩
    unfold check
    rw [hurl, hprefix, hdialect, hsingle, hregion, hlogging]

/-- A check without errors gives settings. -/
theorem exists_check_iff {values : List (String × Value)} :
    (∃ s, check values = .ok s) ↔ (check values).errors = [] := by
  constructor
  · rintro ⟨s, hs⟩
    rw [hs]
    rfl
  · intro h
    rw [check_errors, List.flatMap_eq_nil_iff] at h
    -- none of the fields has an error, so that each has a value
    obtain ⟨u, hurl⟩ := exists_field defaultUrl followsRule_url (h .url (mem_all _))
    obtain ⟨p, hprefix⟩ := exists_field defaultTablePrefix followsRule_tablePrefix
      (h .tablePrefix (mem_all _))
    obtain ⟨d, hdialect⟩ := exists_field none followsRule_databaseType (h .databaseType (mem_all _))
    obtain ⟨b, hsingle⟩ := exists_field false followsRule_singleInstance
      (h .singleInstance (mem_all _))
    obtain ⟨r, hregion⟩ := exists_field defaultLockRegion followsRule_lockRegion
      (h .lockRegion (mem_all _))
    obtain ⟨l, hlogging⟩ : ∃ l,
        field values "logging" LoggingSettings.default readLogging = .ok l := by
      have hnone : (field values "logging" LoggingSettings.default readLogging).errors = [] := by
        rw [errors_field_logging, h .logging (mem_all _), h .jsonOutput (mem_all _),
          h .level (mem_all _)]
        rfl
      unfold field at hnone ⊢
      cases hgiven : values.lookup "logging" with
      | none => exact ⟨_, rfl⟩
      | some v =>
        rw [hgiven] at hnone
        exact exists_readLogging hnone
    exact ⟨⟨u, p, d, b, r, l⟩,
      check_eq_ok_iff.2 ⟨hurl, hprefix, hdialect, hsingle, hregion, hlogging⟩⟩

end Settings

end RunLedger
