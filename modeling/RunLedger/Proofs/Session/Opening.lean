import RunLedger.Proofs.Session.Schema

/-!
# Openings and what they find

A URL leads to a place whatever is stored, and an opening there gets as far as the check of the
schema, unless a dialect is declared that there is not.  The check refuses what lacks something of
the schema, tells of just that, and leaves every database as it was.  A ledger of which all tables
are there as the ledger makes them passes it, and is left as it was too.

    locate disk url = .ok place → other.keepsSettings place = false → locate other url = .ok place
                                                                          (locate_of_keepsSettings)
    (∃ f, (openHandle disk url o).1 = .error f ∧ f.kind = .schemaMismatch) ↔
      (content disk place).LacksSchema o.tablePrefix                        (openHandle_mismatch_iff)
    (disk.ledgerAt place o.tablePrefix).bare = (made o.tablePrefix).bare →
      ∃ handle d, openHandle disk url o = (.ok handle, d) ∧ ∀ q, d.get q = disk.get q
                                                                               (openHandle_of_made)
-/

namespace RunLedger

/-! ## Where a URL leads -/

namespace DatabaseUrl

variable {url : String} {u : DatabaseUrl}

/-- The driver stands before a colon. -/
theorem exists_toList_of_ofText? (h : ofText? url = some u) :
    ∃ rest, url.toList = u.driver.toList ++ ':' :: rest := by
  unfold ofText? at h
  dsimp only at h
  split at h
  · cases h
  · split at h
    · next rest hrest =>
      obtain rfl := Option.some.inj h
      refine ⟨'/' :: '/' :: rest, ?_⟩
      rw [← hrest, String.toList_ofList]
      exact (List.prefix_iff_eq_append.1 (List.takeWhile_prefix _)).symm
    · cases h

end DatabaseUrl

namespace Session

variable {disk : Disk} {url : String} {place : Location} {declared : Option DialectChoice}

theorem locate_eq_ok_iff : locate disk url = .ok place ↔
    ∃ u, DatabaseUrl.ofText? url = some u ∧ u.portNumber = .ok none ∧
      u.driver ∈ embeddedDrivers ∧ u.namesServer = false ∧ place = .ofPath u.path ∧
      place.isReachable = true ∧ disk.keepsSettings place = false := by
  rw [locate]
  cases DatabaseUrl.ofText? url with
  | none =>
    constructor
    · intro h
      cases h
    · rintro ⟨u, hu, -⟩
      cases hu
  | some u =>
    simp only [Option.some.injEq, exists_eq_left']
    rcases u.portNumber with f | port
    · constructor
      · intro h
        cases h
      · rintro ⟨hport, -⟩
        cases hport
    · simp only [bind, Except.bind, throw, throwThe, MonadExceptOf.throw, pure, Except.pure]
      constructor
      · intro h
        split at h
        · next hdriver =>
          split at h
          · cases h
          · next hserver =>
            rw [Bool.or_eq_true, not_or, Bool.not_eq_true, Bool.not_eq_true,
              Option.isSome_eq_false_iff, Option.isNone_iff_eq_none] at hserver
            split at h
            · cases h
            · next hreach =>
              split at h
              · cases h
              · next hkeeps =>
                cases h
                exact ⟨congrArg Except.ok hserver.2, by simpa using hdriver, hserver.1, rfl,
                  by simpa using hreach, by simpa using hkeeps⟩
        · split at h
          · cases h
          · cases h
      · rintro ⟨hport, hdriver, hserver, rfl, hreach, hkeeps⟩
        obtain rfl := Except.ok.inj hport
        rw [if_pos (by simpa using hdriver), hserver, if_neg (by decide), hreach,
          if_neg (by decide), hkeeps, if_neg (by decide)]

/-- The place of a URL does not depend on what is stored, but that no settings may be kept there. -/
theorem locate_of_keepsSettings {other : Disk} (h : locate disk url = .ok place)
    (hkeeps : other.keepsSettings place = false) : locate other url = .ok place := by
  obtain ⟨u, hu, hport, hdriver, hserver, hplace, hreach, -⟩ := locate_eq_ok_iff.1 h
  exact locate_eq_ok_iff.2 ⟨u, hu, hport, hdriver, hserver, hplace, hreach, hkeeps⟩

/-- The dialect of an embedded database is found from its URL. -/
theorem ofConnection_of_locate (h : locate disk url = .ok place) :
    Dialect.ofConnection (.ofUrl url) = .ok .sqlite := by
  obtain ⟨u, hu, -, hdriver, -⟩ := locate_eq_ok_iff.1 h
  obtain ⟨rest, hrest⟩ := DatabaseUrl.exists_toList_of_ofText? hu
  have hsqlite : (Dialect.Connection.ofUrl url).driver = "sqlite" := by
    rw [Dialect.Connection.ofUrl, hrest]
    simp only [embeddedDrivers, List.mem_cons, List.not_mem_nil, or_false] at hdriver
    rcases hdriver with hd | hd | hd
    · rw [hd]
      rfl
    · rw [hd]
      rfl
    · rw [hd]
      rfl
  rw [Dialect.ofConnection, hsqlite]
  rfl

theorem locate_of_target {dialect : Dialect}
    (h : target disk url declared = .ok (place, dialect)) : locate disk url = .ok place := by
  rw [target] at h
  cases hresolved : (declared.mapM DialectChoice.resolve).mapError Failure.configuration with
  | error f =>
    rw [hresolved] at h
    cases h
  | ok d =>
    rw [hresolved] at h
    cases hplace : locate disk url with
    | error f =>
      rw [hplace] at h
      cases h
    | ok found =>
      rw [hplace] at h
      cases hsettle : (settleDialect url declared).mapError Failure.configuration with
      | error f =>
        rw [hsettle] at h
        cases h
      | ok settled =>
        rw [hsettle] at h
        cases h
        rfl

/-- A URL that leads to a place opens a ledger there, unless a dialect is declared that there is
not. -/
theorem exists_target (h : locate disk url = .ok place)
    (hdeclared : ∀ choice ∈ declared, ∃ d, choice.resolve = .ok d) :
    ∃ dialect, target disk url declared = .ok (place, dialect) := by
  cases declared with
  | none =>
    refine ⟨.sqlite, ?_⟩
    rw [target, h, settleDialect, Dialect.settle, ofConnection_of_locate h]
    rfl
  | some choice =>
    obtain ⟨d, hd⟩ := hdeclared choice rfl
    refine ⟨d, ?_⟩
    rw [target, h, settleDialect, Dialect.settle, Option.mapM_some, hd]
    rfl

/-! ## The check of what is found -/

/-- The database that an opening finds at a place; one in memory starts empty. -/
def content (disk : Disk) (place : Location) : Database :=
  if place = .memory then .empty else disk.get place

variable {o : Opening} {dialect : Dialect}

theorem openHandle_of_target (h : target disk url o.dialect = .ok (place, dialect)) :
    openHandle disk url o =
      (((content disk place).openLedger url o.tablePrefix o.createTables).1.map fun _ =>
          ⟨place, url, o.tablePrefix, dialect, true⟩,
        disk.put place ((content disk place).openLedger url o.tablePrefix o.createTables).2) := by
  rw [openHandle, h]
  rfl

theorem get_put_self (disk : Disk) (place q : Location) :
    (disk.put place (disk.get place)).get q = disk.get q := by
  by_cases h : q = place
  · rw [h, Disk.get_put]
  · rw [Disk.get_put_of_ne _ h]

/-- An opening is refused for the schema just where what it finds lacks something of it. -/
theorem openHandle_mismatch_iff (hplace : locate disk url = .ok place)
    (hdialect : ∀ choice ∈ o.dialect, ∃ d, choice.resolve = .ok d)
    (hnamed : (content disk place).IsNamed) :
    (∃ f, (openHandle disk url o).1 = .error f ∧ f.kind = .schemaMismatch) ↔
      (content disk place).LacksSchema o.tablePrefix := by
  obtain ⟨dialect, htarget⟩ := exists_target hplace hdialect
  rw [← Database.openLedger_mismatch_iff hnamed url o.tablePrefix o.createTables,
    openHandle_of_target htarget]
  cases ((content disk place).openLedger url o.tablePrefix o.createTables).1 with
  | error f =>
    constructor
    · rintro ⟨g, hg, hkind⟩
      cases hg
      exact ⟨f, rfl, hkind⟩
    · rintro ⟨g, hg, hkind⟩
      cases hg
      exact ⟨f, rfl, hkind⟩
  | ok u =>
    constructor
    · rintro ⟨f, hf, -⟩
      cases hf
    · rintro ⟨f, hf, -⟩
      cases hf

theorem not_lacksSchema_empty (p : String) : ¬ Database.empty.LacksSchema p := by
  rintro (⟨⟨role, hrole⟩, -⟩ | ⟨role, column, -, hlacks⟩)
  · cases hrole
  · cases hlacks

/-- The refusal tells of what is missing, and changes no database. -/
theorem openHandle_of_lacks (hplace : locate disk url = .ok place)
    (hdialect : ∀ choice ∈ o.dialect, ∃ d, choice.resolve = .ok d)
    (hnamed : (content disk place).IsNamed)
    (hlacks : (content disk place).LacksSchema o.tablePrefix) :
    (openHandle disk url o).1 = .error (.schemaOutdated
        ⟨(content disk place).missingTables o.tablePrefix,
          (content disk place).missingColumns o.tablePrefix⟩ url) ∧
      ∀ q, (openHandle disk url o).2.get q = disk.get q := by
  obtain ⟨dialect, htarget⟩ := exists_target hplace hdialect
  have hfile : place ≠ .memory := by
    rintro rfl
    exact not_lacksSchema_empty _ hlacks
  rw [openHandle_of_target htarget, Database.openLedger_of_lacks hnamed hlacks]
  refine ⟨rfl, fun q => ?_⟩
  rw [content, if_neg hfile]
  exact get_put_self disk place q

end Session

/-! ## Ledgers that were made -/

namespace Ledger

variable {l m : Ledger} {p : String}

theorem IsMade.congr (h : l.IsMade) (hbare : m.bare = l.bare) : m.IsMade := by
  have hown : ∀ {ρ : Type} {role : TableRole} {new old : Option (Table ρ)},
      new.map (·.withRows []) = old.map (·.withRows []) → (∃ t, old = some t ∧ t.IsOwn role) →
        ∃ t, new = some t ∧ t.IsOwn role := by
    rintro ρ role new old hsame ⟨t, rfl, hkeyed, hcolumns⟩
    obtain ⟨t', rfl, ht⟩ := Option.map_eq_some_iff.1 hsame
    have hk := congrArg Table.keyed ht
    have hc := congrArg Table.columns ht
    exact ⟨t', rfl, hk.trans hkeyed, hc.trans hcolumns⟩
  exact ⟨hown (congrArg Ledger.executions hbare) h.executions,
    hown (congrArg Ledger.parameters hbare) h.parameters,
    hown (congrArg Ledger.links hbare) h.links, hown (congrArg Ledger.locks hbare) h.locks⟩

theorem shape?_of_bare (h : l.bare = (made p).bare) (role : TableRole) :
    l.shape? role = some (role.tableName p, role.columns) := by
  rw [← shape?_bare, h, shape?_bare]
  cases role <;> rfl

end Ledger

namespace Database

variable {db : Database} {p : String}

theorem schemaGap_of_bare {l : Ledger} (h : l.bare = (Ledger.made p).bare) :
    (schemaGap l p).isEmpty = true := by
  have hexact : ∀ role, exactColumns? l p role = some role.columns := by
    intro role
    rw [exactColumns?, Ledger.shape?_of_bare h]
    exact if_pos rfl
  have hgap : schemaGap l p = ⟨[], []⟩ := by
    rw [schemaGap]
    simp only [hexact]
    rfl
  rw [hgap]
  rfl

theorem createTables_of_has {roles : List TableRole}
    (h : ∀ role ∈ roles, (db.ledger p).has role = true) :
    createTables p roles db = (.ok (), db) := by
  induction roles with
  | nil => rfl
  | cons role roles ih =>
    obtain ⟨hrole, hroles⟩ := List.forall_mem_cons.1 h
    have hmade : createTable p role db = (.ok (), db) := by
      rw [createTable]
      exact if_pos hrole
    rw [createTables, hmade]
    exact ih hroles

/-- A ledger whose tables are as they were made is opened as it is. -/
theorem openLedger_of_bare (h : (db.ledger p).bare = (Ledger.made p).bare) (url : String)
    (create : Bool) : db.openLedger url p create = (.ok (), db) := by
  rw [openLedger, if_pos (schemaGap_of_bare h)]
  cases create with
  | false => rfl
  | true =>
    rw [if_pos rfl]
    refine createTables_of_has fun role _ => ?_
    rw [Ledger.has, Ledger.shape?_of_bare h]
    rfl

end Database

namespace Session

variable {disk : Disk} {url : String} {place : Location} {o : Opening}

/-- A ledger whose tables are as they were made is opened from its file, and every database stays as
it is. -/
theorem openHandle_of_made (hplace : locate disk url = .ok place) (hfile : place ≠ .memory)
    (hdialect : ∀ choice ∈ o.dialect, ∃ d, choice.resolve = .ok d)
    (hmade : (disk.ledgerAt place o.tablePrefix).bare = (Ledger.made o.tablePrefix).bare) :
    ∃ handle d, openHandle disk url o = (.ok handle, d) ∧ handle.place = place ∧
      handle.tablePrefix = o.tablePrefix ∧ handle.isOpen = true ∧ ∀ q, d.get q = disk.get q := by
  obtain ⟨dialect, htarget⟩ := exists_target hplace hdialect
  rw [openHandle_of_target htarget, content, if_neg hfile, Database.openLedger_of_bare hmade]
  exact ⟨_, _, rfl, rfl, rfl, rfl, get_put_self disk place⟩

/-! ## Ledgers that an opening made -/

variable {plan : Plan} {clock : Timestamp} {d : Disk} {s : Session}

theorem locate_of_fresh (h : fresh plan clock disk o = (.ok s, d)) :
    locate disk plan.url = .ok s.handle.place ∧ s.handle.tablePrefix = o.tablePrefix := by
  obtain ⟨handle, hopen, rfl⟩ := fresh_ok h
  rcases htarget : target disk plan.url o.dialect with f | ⟨place, dialect⟩
  · rw [openHandle, htarget] at hopen
    cases hopen
  · rw [openHandle_of_target htarget] at hopen
    cases hmade : ((content disk place).openLedger plan.url o.tablePrefix o.createTables).1 with
    | error f =>
      rw [hmade] at hopen
      cases hopen
    | ok u =>
      rw [hmade] at hopen
      cases hopen
      exact ⟨locate_of_target htarget, rfl⟩

/-- An opening that finds an empty database, and is to make the tables, makes all of them. -/
theorem ledger_of_fresh (h : fresh plan clock disk o = (.ok s, d)) (hcreate : o.createTables = true)
    (hempty : content disk s.handle.place = .empty) :
    s.ledger = Ledger.made s.handle.tablePrefix := by
  obtain ⟨after, hopen, hledger⟩ := openLedger_of_fresh h
  have hfound : (if s.handle.place = .memory then Database.empty else disk.get s.handle.place) =
      Database.empty := hempty
  rw [hfound, hcreate] at hopen
  rw [hledger]
  refine Database.createTables_ok (fun role _ => ?_) (by decide) (Database.openLedger_ok hopen).2
  cases role <;> rfl

end Session

end RunLedger
