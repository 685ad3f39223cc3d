import RunLedger.Proofs.Session.Opening
import RunLedger.Proofs.Settings.Fields

/-!
# Sound settings

The settings that the check makes are just the sound ones, of which every field holds something that
follows its rule.  They are made again from what their fields hold, and a ledger is never refused
for its configuration when it is opened as they want it; its pages need no quotes.

    (∃ values, check values = .ok s) ↔ s.IsSound                                (exists_values_iff)
    s.IsSound → check s.fieldValues = .ok s                                     (check_fieldValues)
    s.IsSound → isPlainPrefix s.opening.tablePrefix = true                  (IsSound.isPlainPrefix)
-/

namespace RunLedger

/-! ## Openings that are not refused for their configuration -/

namespace Session

variable {disk : Disk} {url : String} {f : Failure}

theorem kind_of_portNumber {u : DatabaseUrl} (h : u.portNumber = .error f) :
    f.kind ≠ .configuration := by
  unfold DatabaseUrl.portNumber at h
  split at h
  · cases h
  · split at h
    · cases h
    · cases h
      exact nofun

theorem kind_of_locate (h : locate disk url = .error f) : f.kind ≠ .configuration := by
  rw [locate] at h
  cases hurl : DatabaseUrl.ofText? url with
  | none =>
    rw [hurl] at h
    cases h
    rintro ⟨⟩
  | some u =>
    rw [hurl] at h
    cases hport : u.portNumber with
    | error g =>
      simp only [hport, bind, Except.bind] at h
      cases h
      exact kind_of_portNumber hport
    | ok port =>
      simp only [hport, bind, Except.bind, throw, throwThe, MonadExceptOf.throw, pure,
        Except.pure] at h
      split at h
      · split at h
        · cases h
          rintro ⟨⟩
        · split at h
          · cases h
            rintro ⟨⟩
          · split at h
            · cases h
              rintro ⟨⟩
            · cases h
      · split at h
        · cases h
          rintro ⟨⟩
        · cases h
          rintro ⟨⟩

theorem kind_of_openLedger {db : Database} {tablePrefix : String} {create : Bool}
    (h : (db.openLedger url tablePrefix create).1 = .error f) : f.kind ≠ .configuration := by
  unfold Database.openLedger at h
  dsimp only at h
  split at h
  · split at h
    · rw [Database.createTables_error (Prod.ext h rfl)]
      exact nofun
    · cases h
  · cases h
    exact nofun

/-- An opening for which a dialect that there is, or none, is declared is not refused for its
configuration. -/
theorem kind_of_openHandle {o : Opening}
    (hdialect : ∀ choice ∈ o.dialect, ∃ d, choice.resolve = .ok d)
    (h : (openHandle disk url o).1 = .error f) : f.kind ≠ .configuration := by
  cases hplace : locate disk url with
  | error g =>
    have hresolved : ∃ d, (o.dialect.mapM DialectChoice.resolve).mapError Failure.configuration =
        .ok d := by
      cases hdeclared : o.dialect with
      | none => exact ⟨none, rfl⟩
      | some choice =>
        obtain ⟨d, hd⟩ := hdialect choice hdeclared
        exact ⟨some d, by rw [Option.mapM_some, hd]; rfl⟩
    obtain ⟨d, hd⟩ := hresolved
    have htarget : target disk url o.dialect = .error g := by
      rw [target, hd, hplace]
      rfl
    rw [openHandle, htarget] at h
    cases h
    exact kind_of_locate hplace
  | ok place =>
    obtain ⟨dialect, htarget⟩ := exists_target hplace hdialect
    rw [openHandle_of_target htarget] at h
    cases hopened : ((content disk place).openLedger url o.tablePrefix o.createTables).1 with
    | ok u =>
      rw [hopened] at h
      cases h
    | error g =>
      rw [hopened] at h
      cases h
      exact kind_of_openLedger hopened

end Session

/-! ## Settings that were made -/

namespace Settings

open SettingsField

/-- Every field holds something that follows its rule. -/
structure IsSound (s : Settings) : Prop where
  tablePrefix : isPrefixText s.tablePrefix = true
  dialectName : ∀ name ∈ s.dialectName, ∃ d, Dialect.resolve (some name) = .ok d
  lockRegion : 1 ≤ s.lockRegion.length ∧ s.lockRegion.length ≤ 100
  level : s.logging.level.name ∈ levelNames

/-- What the fields of settings hold, as values. -/
def fieldValues (s : Settings) : List (String × Value) :=
  [("url", .text s.url), ("table_prefix", .text s.tablePrefix),
    ("database_type", .ofText? s.dialectName), ("single_instance_enabled", .bool s.singleInstance),
    ("lock_region", .text s.lockRegion),
    ("logging", .map [("json_output", .bool s.logging.jsonOutput),
      ("level", .text s.logging.level.name)])]

theorem isPrefixText_of_read (v : Value) (p : String) (h : readTablePrefix v = .ok p) :
    isPrefixText p = true := by
  cases v with
  | text s =>
    rw [readTablePrefix_text] at h
    split at h
    · next hfragment =>
      cases h
      rwa [← isNameFragment_eq]
    · cases h
  | _ => cases h

theorem exists_resolve_of_read (v : Value) (name? : Option String)
    (h : readDialectName v = .ok name?) :
    ∀ name ∈ name?, ∃ d, Dialect.resolve (some name) = .ok d := by
  cases v with
  | null =>
    cases h
    exact nofun
  | text s =>
    rw [readDialectName_text] at h
    cases hresolved : Dialect.resolve (some s) with
    | error cause =>
      rw [hresolved] at h
      cases h
    | ok d =>
      rw [hresolved] at h
      cases h
      rintro name ⟨⟩
      exact ⟨d, hresolved⟩
  | _ => cases h

theorem length_of_read (v : Value) (r : String) (h : readLockRegion v = .ok r) :
    1 ≤ r.length ∧ r.length ≤ 100 := by
  cases v with
  | text s =>
    rw [readLockRegion_text] at h
    split at h
    · cases h
    · split at h
      · cases h
      · cases h
        omega
  | _ => cases h

theorem mem_levelNames {l : LogLevel} (h : l ∈ LogLevel.thresholds) : l.name ∈ levelNames :=
  List.mem_map_of_mem (f := LogLevel.name) h

theorem level_of_read (v : Value) (l : LogLevel) (h : readLevel v = .ok l) :
    l.name ∈ levelNames := by
  cases v with
  | text s =>
    rw [readLevel_text] at h
    split at h
    · next m hm =>
      cases h
      exact mem_levelNames (LogLevel.ofName?_eq_some_iff.1 hm).1
    · cases h
  | _ => cases h

theorem level_of_readLogging (v : Value) (logging : LoggingSettings)
    (h : readLogging v = .ok logging) : logging.level.name ∈ levelNames := by
  cases v with
  | map values =>
    rw [readLogging_map] at h
    split at h
    · next j l hjson hlevel =>
      cases h
      exact of_field (P := fun l => l.name ∈ levelNames) (by decide) level_of_read hlevel
    · cases h
  | _ => cases h

/-- The settings that the check makes are sound. -/
theorem isSound_of_check {values : List (String × Value)} {s : Settings}
    (h : check values = .ok s) : s.IsSound := by
  obtain ⟨-, hprefix, hdialect, -, hregion, hlogging⟩ := check_eq_ok_iff.1 h
  exact {
    tablePrefix := of_field (P := fun p => isPrefixText p = true) (by decide)
      isPrefixText_of_read hprefix
    dialectName := of_field
      (P := fun name? => ∀ name ∈ name?, ∃ d, Dialect.resolve (some name) = .ok d)
      (fun _ hname => by cases hname) exists_resolve_of_read hdialect
    lockRegion := of_field (P := fun r => 1 ≤ r.length ∧ r.length ≤ 100) (by decide)
      length_of_read hregion
    level := of_field (P := fun logging => logging.level.name ∈ levelNames) (by decide)
      level_of_readLogging hlogging }

theorem readLevel_name {l : LogLevel} (h : l.name ∈ levelNames) :
    readLevel (.text l.name) = .ok l := by
  have hnamed : LogLevel.ofName? (Text.uppered l.name) = some l := by
    cases l with
    | critical => exact absurd h (by decide)
    | _ => decide +kernel
  rw [readLevel_text, hnamed]

/-- Sound settings are made again from what their fields hold. -/
theorem check_fieldValues {s : Settings} (h : s.IsSound) : check s.fieldValues = .ok s := by
  have hprefix : readTablePrefix (.text s.tablePrefix) = .ok s.tablePrefix := by
    rw [readTablePrefix_text, isNameFragment_eq, h.tablePrefix]
    rfl
  have hdialect : readDialectName (.ofText? s.dialectName) = .ok s.dialectName := by
    cases hname : s.dialectName with
    | none => rfl
    | some name =>
      obtain ⟨d, hd⟩ := h.dialectName name hname
      rw [Value.ofText?, readDialectName_text, hd]
  have hregion : readLockRegion (.text s.lockRegion) = .ok s.lockRegion := by
    rw [readLockRegion_text, if_neg (Nat.not_lt.2 h.lockRegion.1),
      if_neg (Nat.not_lt.2 h.lockRegion.2)]
  have hlogging : readLogging (.map [("json_output", .bool s.logging.jsonOutput),
      ("level", .text s.logging.level.name)]) = .ok s.logging := by
    have hlevel : field [("json_output", .bool s.logging.jsonOutput),
        ("level", .text s.logging.level.name)] "level" LoggingSettings.default.level readLevel =
        .ok s.logging.level := readLevel_name h.level
    rw [readLogging_map, hlevel]
    rfl
  exact check_eq_ok_iff.2 ⟨rfl, hprefix, hdialect, rfl, hregion, hlogging⟩

/-- The settings that the check makes are just the sound ones. -/
theorem exists_values_iff {s : Settings} : (∃ values, check values = .ok s) ↔ s.IsSound :=
  ⟨fun ⟨_, hs⟩ => isSound_of_check hs, fun h => ⟨_, check_fieldValues h⟩⟩

theorem IsSound.resolve_opening {s : Settings} (h : s.IsSound) :
    ∀ choice ∈ s.opening.dialect, ∃ d, choice.resolve = .ok d := by
  intro choice hchoice
  obtain ⟨name, hname, rfl⟩ := Option.map_eq_some_iff.1 hchoice
  exact h.dialectName name hname

/-- The prefix of settings can be written in a query without quotes, so that pages can be read of a
ledger that is opened as they want it. -/
theorem IsSound.isPlainPrefix {s : Settings} (h : s.IsSound) :
    Reading.isPlainPrefix s.opening.tablePrefix = true := by
  have hfragment : isNameFragment s.tablePrefix = true :=
    (isNameFragment_eq s.tablePrefix).trans h.tablePrefix
  have hopening : s.opening.tablePrefix = s.tablePrefix := rfl
  unfold isNameFragment at hfragment
  rw [hopening, Reading.isPlainPrefix]
  cases hlist : s.tablePrefix.toList with
  | nil => rfl
  | cons c cs =>
    simp only [hlist, Bool.and_eq_true, Bool.or_eq_true, decide_eq_true_eq, List.all_eq_true,
      Char.isAlphanum] at hfragment ⊢
    obtain ⟨hstart, hrest⟩ := hfragment
    refine ⟨⟨.inl hstart, ?_⟩, fun d hd => ?_⟩
    · rintro rfl
      exact absurd hstart (by decide)
    · rcases hrest d hd with (halpha | hdigit) | hline
      · exact .inl (.inl (.inl (.inl halpha)))
      · exact .inl (.inr hdigit)
      · exact .inl (.inl (.inl (.inr hline)))

/-- A mapping gives settings if and only if every field that it gives follows its rule.  Otherwise
the errors are those of the single fields, each told of the field's own value alone: one for each
field that does not follow its rule, in the order of the fields.  Settings that are made are sound,
are made again from what their fields hold, and do not fail for their configuration when a ledger is
opened as they want it. -/
theorem check_fieldwise (values : List (String × Value)) :
    ((∃ s, check values = .ok s) ↔ ∀ f v, given? values f = some v → f.accepts v = true) ∧
    (check values).errors = all.flatMap (fun f => f.errors (given? values f)) ∧
    (check values).errors.map (·.path) = (all.filter (isRefused values)).map (·.path) ∧
    ∀ s, check values = .ok s → s.IsSound ∧ check s.fieldValues = .ok s ∧
      ∀ disk create f, (Session.openHandle disk s.url
        { s.opening with createTables := create }).1 = .error f → f.kind ≠ .configuration := by
  refine ⟨?_, check_errors values, map_path_check_errors values, fun s hs => ?_⟩
  · rw [exists_check_iff, check_errors, List.flatMap_eq_nil_iff]
    exact ⟨fun h f => errors_eq_nil_iff.1 (h f (mem_all f)), fun h f _ => errors_eq_nil_iff.2 (h f)⟩
  · have hsound := isSound_of_check hs
    exact ⟨hsound, check_fieldValues hsound, fun disk create f =>
      Session.kind_of_openHandle hsound.resolve_opening⟩

theorem check_fieldwise_mixed :
    (check [("lock_region", .text ""), ("logging", .map [("level", .text "loud")]),
        ("table_prefix", .text "1x"), ("url", .text "sqlite:///a.db")]).errors.map (·.path) =
      [["table_prefix"], ["lock_region"], ["logging", "level"]] ∧
    ∃ s, check [("database_type", .text " SQLite "), ("logging", .map [("level", .text "debug")])] =
        .ok s ∧ s.IsSound ∧ check s.fieldValues = .ok s ∧
      ∀ disk create f, (Session.openHandle disk s.url
        { s.opening with createTables := create }).1 = .error f → f.kind ≠ .configuration := by
  have hrefused := (check_fieldwise [("lock_region", .text ""),
    ("logging", .map [("level", .text "loud")]), ("table_prefix", .text "1x"),
    ("url", .text "sqlite:///a.db")]).2.2.1
  have haccepted := check_fieldwise
    [("database_type", .text " SQLite "), ("logging", .map [("level", .text "debug")])]
  obtain ⟨s, hs⟩ := haccepted.1.2 (by
    intro f v hgiven
    cases f <;> cases hgiven <;> decide +kernel)
  exact ⟨hrefused.trans (by decide +kernel), s, hs, haccepted.2.2.2 s hs⟩

end Settings

end RunLedger
