import RunLedger.Proofs.Text.Case
import RunLedger.Store.Database

/-!
# What a database lacks of a ledger

The name of a table shows at most one prefix and role, so that tables of different prefixes never
meet, and a database can be asked for a ledger's tables by their exact names.  Opening a ledger is
refused for its schema where some of its tables are there and others are not, or where one that is
there lacks a column that is asked for; the refusal tells of these and of nothing else, and changes
nothing.

    ofTableName? (role.tableName p) = some (asciiLowered p, role)          (ofTableName?_tableName)
    db.IsNamed → schemaGap (db.ledger p) p = ⟨db.missingTables p, db.missingColumns p⟩
                                                                                     (schemaGap_eq)
    db.IsNamed → ((∃ f, (db.openLedger url p create).1 = .error f ∧ f.kind = .schemaMismatch) ↔
      db.LacksSchema p)                                                     (openLedger_mismatch_iff)
-/

namespace RunLedger

/-! ## Names of tables -/

namespace TableRole

variable {role other : TableRole} {name p q : String}

theorem mem_all (role : TableRole) : role ∈ all := by
  cases role <;> decide

theorem asciiLowered_suffix (role : TableRole) : Text.asciiLowered role.suffix = role.suffix := by
  cases role <;> decide

/-- No ending of a role is part of another's: they end in different letters. -/
theorem eq_of_append_suffix (h : p ++ role.suffix = q ++ other.suffix) : role = other := by
  have hlast : ∀ (s : String) (r : TableRole),
      (s ++ r.suffix).toList.getLast? = r.suffix.toList.getLast? := by
    intro s r
    rw [String.toList_append, List.getLast?_append]
    cases r <;> rfl
  have hsame : role.suffix.toList.getLast? = other.suffix.toList.getLast? := by
    rw [← hlast p, h, hlast]
  cases role <;> cases other <;> first | rfl | exact absurd hsame (by decide)

theorem prefixOf?_eq_some_iff : role.prefixOf? name = some p ↔ name = p ++ role.suffix := by
  rw [prefixOf?, Option.map_eq_some_iff]
  simp only [Text.afterPrefix?_eq_some_iff]
  constructor
  · rintro ⟨rest, hname, rfl⟩
    have hlist := congrArg List.reverse hname
    rw [List.reverse_reverse, List.reverse_append, List.reverse_reverse] at hlist
    rw [← String.toList_inj, String.toList_append, String.toList_ofList, hlist]
  · rintro rfl
    exact ⟨p.toList.reverse, by simp, by simp⟩

theorem ofTableName?_eq_some_iff :
    ofTableName? name = some (p, role) ↔ Text.asciiLowered name = p ++ role.suffix := by
  have hshows : ∀ {q other}, ofTableName? name = some (q, other) →
      Text.asciiLowered name = q ++ other.suffix := by
    intro q other h
    obtain ⟨r, -, hr⟩ := List.exists_of_findSome?_eq_some h
    obtain ⟨s, hs, he⟩ := Option.map_eq_some_iff.1 hr
    cases he
    exact prefixOf?_eq_some_iff.1 hs
  refine ⟨hshows, fun h => ?_⟩
  cases hfound : ofTableName? name with
  | none =>
    have hnone := List.findSome?_eq_none_iff.1 hfound role (mem_all role)
    rw [prefixOf?_eq_some_iff.2 h] at hnone
    cases hnone
  | some shown =>
    obtain ⟨q, r⟩ := shown
    have hr := hshows hfound
    obtain rfl : role = r := eq_of_append_suffix (h.symm.trans hr)
    obtain rfl : p = q := String.append_left_inj role.suffix |>.1 (h.symm.trans hr)
    rfl

/-- A ledger's table shows the ledger's prefix and its own role. -/
theorem ofTableName?_tableName (p : String) (role : TableRole) :
    ofTableName? (role.tableName p) = some (Text.asciiLowered p, role) := by
  rw [ofTableName?_eq_some_iff, tableName, Text.asciiLowered_append, asciiLowered_suffix]

theorem asciiLowered_of_ofTableName? (h : ofTableName? name = some (p, role)) :
    Text.asciiLowered p = p := by
  have hname := ofTableName?_eq_some_iff.1 h
  have hfolded := congrArg Text.asciiLowered hname
  rw [Text.asciiLowered_idem, hname, Text.asciiLowered_append, asciiLowered_suffix] at hfolded
  exact (String.append_left_inj role.suffix |>.1 hfolded).symm

end TableRole

/-! ## Tables by their names -/

namespace Ledger

variable {l : Ledger} {role : TableRole} {name : String} {columns : List String}

theorem mem_shapes : (name, columns) ∈ l.shapes ↔ ∃ role, l.shape? role = some (name, columns) := by
  rw [shapes, List.mem_filterMap]
  constructor
  · rintro ⟨role, -, h⟩
    exact ⟨role, h⟩
  · rintro ⟨role, h⟩
    exact ⟨role, TableRole.mem_all role, h⟩

theorem shape?_addForeign (l : Ledger) (role other : TableRole) (name : String)
    (columns : List String) :
    (l.addForeign role name columns).shape? other =
      if other = role then some (name, columns) else l.shape? other := by
  cases role <;> cases other <;> rfl

/-- Every table of the ledger bears a name that shows the prefix and the table's role. -/
def Bears (l : Ledger) (key : String) : Prop :=
  ∀ role name columns, l.shape? role = some (name, columns) →
    TableRole.ofTableName? name = some (key, role)

theorem Bears.empty (key : String) : Ledger.empty.Bears key := by
  intro role name columns h
  cases role <;> cases h

theorem Bears.addForeign {key : String} (h : l.Bears key)
    (hname : TableRole.ofTableName? name = some (key, role)) (columns : List String) :
    (l.addForeign role name columns).Bears key := by
  intro other shown cs hshape
  rw [shape?_addForeign] at hshape
  split at hshape
  · next he =>
    cases hshape
    rw [he]
    exact hname
  · exact h other shown cs hshape

theorem shape?_make (tablePrefix : String) (l : Ledger) (role other : TableRole) :
    (l.make tablePrefix role).shape? other =
      if other = role then some (role.tableName tablePrefix, role.columns) else l.shape? other := by
  cases role <;> cases other <;> rfl

theorem Bears.make {p : String} (h : l.Bears (Text.asciiLowered p)) (role : TableRole) :
    (l.make p role).Bears (Text.asciiLowered p) := by
  intro other shown cs hshape
  rw [shape?_make] at hshape
  split at hshape
  · next he =>
    cases hshape
    rw [he]
    exact TableRole.ofTableName?_tableName p role
  · exact h other shown cs hshape

end Ledger

namespace Database

variable {db : Database} {p key name column url : String} {l : Ledger} {role : TableRole}
  {columns : List String}

/-- A database as the engine keeps it: no two ledgers are of one prefix, and every table is where its
name says. -/
structure IsNamed (db : Database) : Prop where
  distinct : (db.ledgers.map (·.1)).Nodup
  bears : ∀ e ∈ db.ledgers, e.2.Bears e.1
  others : ∀ t ∈ db.others, TableRole.ofTableName? t.1 = none

theorem IsNamed.empty : Database.empty.IsNamed where
  distinct := List.nodup_nil
  bears _ h := by cases h
  others _ h := by cases h

theorem mem_putLedger {ls : List (String × Ledger)} {e : String × Ledger}
    (h : e ∈ putLedger key l ls) : e = (key, l) ∨ e ∈ ls := by
  induction ls with
  | nil => exact .inl (List.mem_singleton.1 h)
  | cons first rest ih =>
    rw [putLedger] at h
    split at h
    · next hkey =>
      rcases List.mem_cons.1 h with rfl | hrest
      · exact .inl (by rw [hkey])
      · exact .inr (List.mem_cons_of_mem _ hrest)
    · rcases List.mem_cons.1 h with rfl | hrest
      · exact .inr List.mem_cons_self
      · exact (ih hrest).imp_right (List.mem_cons_of_mem _)

theorem nodup_putLedger (key : String) (l : Ledger) {ls : List (String × Ledger)}
    (h : (ls.map (·.1)).Nodup) : ((putLedger key l ls).map (·.1)).Nodup := by
  induction ls with
  | nil => simp [putLedger]
  | cons first rest ih =>
    rw [List.map_cons, List.nodup_cons] at h
    rw [putLedger]
    split
    · next hkey =>
      rw [List.map_cons, List.nodup_cons]
      exact h
    · next hkey =>
      rw [List.map_cons, List.nodup_cons]
      refine ⟨fun hmem => ?_, ih h.2⟩
      obtain ⟨e, he, hfirst⟩ := List.mem_map.1 hmem
      rcases mem_putLedger he with rfl | hrest
      · exact hkey hfirst.symm
      · exact h.1 (hfirst ▸ List.mem_map_of_mem hrest)

theorem IsNamed.setLedger (h : db.IsNamed) (hl : l.Bears (Text.asciiLowered p)) :
    (db.setLedger p l).IsNamed where
  distinct := nodup_putLedger _ l h.distinct
  bears e he := by
    rcases mem_putLedger he with rfl | he
    · exact hl
    · exact h.bears e he
  others := h.others

/-- Of ledgers with distinct keys, each is the one that its key leads to. -/
theorem lookup_of_mem {ls : List (String × Ledger)} (h : (ls.map (·.1)).Nodup)
    (hmem : (key, l) ∈ ls) : ls.lookup key = some l := by
  obtain ⟨before, after, rfl⟩ := List.append_of_mem hmem
  refine List.lookup_eq_some_iff.2 ⟨before, after, rfl, fun e he => ?_⟩
  rw [List.map_append, List.nodup_append] at h
  rw [bne_iff_ne]
  exact (h.2.2 e.1 (List.mem_map_of_mem he) key List.mem_cons_self).symm

theorem mem_of_lookup {ls : List (String × Ledger)} (h : ls.lookup key = some l) :
    (key, l) ∈ ls := by
  obtain ⟨before, after, rfl, -⟩ := List.lookup_eq_some_iff.1 h
  exact List.mem_append_right before List.mem_cons_self

/-- The ledger of a prefix bears the prefix. -/
theorem IsNamed.ledger_bears (h : db.IsNamed) (p : String) :
    (db.ledger p).Bears (Text.asciiLowered p) := by
  rw [ledger]
  cases hfound : db.ledgers.lookup (Text.asciiLowered p) with
  | none => exact .empty _
  | some l => exact h.bears _ (mem_of_lookup hfound)

/-- Whatever tables are made elsewhere, one after the other, the database is as the engine keeps
it. -/
theorem IsNamed.addForeign (h : db.IsNamed) (name : String) (columns : List String) :
    (db.addForeign name columns).IsNamed := by
  rw [Database.addForeign]
  split
  · next p role hname =>
    refine h.setLedger ((h.ledger_bears p).addForeign ?_ columns)
    rw [TableRole.asciiLowered_of_ofTableName? hname]
    exact hname
  · next hname =>
    refine ⟨h.distinct, h.bears, fun t ht => ?_⟩
    rcases List.mem_append.1 ht with ht | ht
    · exact h.others t ht
    · rw [List.mem_singleton.1 ht]
      exact hname

theorem IsNamed.createTable (h : db.IsNamed) (p : String) (role : TableRole) :
    (createTable p role db).2.IsNamed := by
  unfold Database.createTable
  dsimp only
  split
  · exact h
  · split
    · exact h
    · split
      · exact h.setLedger ((h.ledger_bears p).make role)
      · exact h.setLedger ((h.ledger_bears p).make role)

theorem IsNamed.createTables (h : db.IsNamed) (p : String) (roles : List TableRole) :
    (createTables p roles db).2.IsNamed :=
  createTables_keeps (fun role _ hnamed => hnamed.createTable p role) roles h

/-- Whatever an opening makes, the database is as the engine keeps it. -/
theorem IsNamed.openLedger (h : db.IsNamed) (url p : String) (create : Bool) :
    (db.openLedger url p create).2.IsNamed := by
  unfold Database.openLedger
  dsimp only
  split
  · split
    · exact h.createTables p _
    · exact h
  · exact h

/-- A table of exactly a ledger's name is the ledger's. -/
theorem exactColumns?_eq_some_iff (h : db.IsNamed) :
    exactColumns? (db.ledger p) p role = some columns ↔
      (role.tableName p, columns) ∈ db.shapes := by
  rw [shapes, List.mem_append, List.mem_flatMap]
  constructor
  · intro hexact
    obtain ⟨shape, hshape⟩ : ∃ shape, (db.ledger p).shape? role = some shape := by
      rw [exactColumns?] at hexact
      split at hexact
      · next shown cs hshape => exact ⟨_, hshape⟩
      · cases hexact
    rw [exactColumns?, hshape] at hexact
    obtain ⟨shown, cs⟩ := shape
    simp only [Option.ite_none_right_eq_some, Option.some.injEq] at hexact
    obtain ⟨rfl, rfl⟩ := hexact
    rw [ledger] at hshape
    cases hfound : db.ledgers.lookup (Text.asciiLowered p) with
    | none =>
      rw [hfound] at hshape
      cases role <;> cases hshape
    | some l =>
      rw [hfound] at hshape
      exact .inl ⟨_, mem_of_lookup hfound, Ledger.mem_shapes.2 ⟨role, hshape⟩⟩
  · rintro (⟨⟨key, l⟩, hmem, hshapes⟩ | hothers)
    · obtain ⟨other, hshape⟩ := Ledger.mem_shapes.1 hshapes
      have hshown := h.bears _ hmem other _ _ hshape
      -- a name shows its prefix and its role: the table is this ledger's own
      rw [TableRole.ofTableName?_tableName] at hshown
      obtain ⟨rfl, rfl⟩ := Prod.mk.inj (Option.some.inj hshown)
      rw [exactColumns?, ledger, lookup_of_mem h.distinct hmem, Option.getD_some, hshape]
      exact if_pos rfl
    -- a table outside all ledgers does not bear the name of a ledger's table
    · have hnone := h.others _ hothers
      rw [TableRole.ofTableName?_tableName] at hnone
      cases hnone

/-! ## What is missing -/

/-- Whether a table of exactly the given name is there. -/
def hasTable (db : Database) (name : String) : Bool := db.shapes.any fun t => t.1 == name

/-- Whether a table of exactly the given name is there, but no column of exactly that name in it. -/
def lacks (db : Database) (name column : String) : Bool :=
  db.shapes.any fun t => t.1 == name && !t.2.contains column

/-- The names of a ledger's tables, in order. -/
def tableNames (p : String) : List String := TableRole.all.map (·.tableName p)

/-- A ledger's tables that are missing, where another one of them is there. -/
def missingTables (db : Database) (p : String) : List String :=
  if (tableNames p).any db.hasTable then (tableNames p).filter fun name => !db.hasTable name else []

/-- The columns that a ledger's tables must have and that are missing from those that are there, each
with its table. -/
def missingColumns (db : Database) (p : String) : List (String × String) :=
  requiredColumns.filterMap fun (role, column) =>
    if db.lacks (role.tableName p) column then some (role.tableName p, column) else none

/-- Some of a ledger's tables are there and others are not, or one that is there lacks a column that
it must have. -/
def LacksSchema (db : Database) (p : String) : Prop :=
  ((∃ role : TableRole, db.hasTable (role.tableName p) = true) ∧
    ∃ role : TableRole, db.hasTable (role.tableName p) = false) ∨
  ∃ role column, (role, column) ∈ requiredColumns ∧ db.lacks (role.tableName p) column = true

theorem hasTable_iff : db.hasTable name = true ↔ ∃ columns, (name, columns) ∈ db.shapes := by
  simp [hasTable]

theorem lacks_iff : db.lacks name column = true ↔
    ∃ columns, (name, columns) ∈ db.shapes ∧ column ∉ columns := by
  rw [lacks, List.any_eq_true]
  constructor
  · rintro ⟨⟨shown, columns⟩, hmem, h⟩
    rw [Bool.and_eq_true, beq_iff_eq] at h
    obtain ⟨rfl, hcolumn⟩ := h
    exact ⟨columns, hmem, by simpa using hcolumn⟩
  · rintro ⟨columns, hmem, hcolumn⟩
    exact ⟨(name, columns), hmem, by simpa using hcolumn⟩

theorem isNone_exactColumns? (h : db.IsNamed) (p : String) (role : TableRole) :
    (exactColumns? (db.ledger p) p role).isNone = !db.hasTable (role.tableName p) := by
  cases hexact : exactColumns? (db.ledger p) p role with
  | some columns =>
    rw [hasTable_iff.2 ⟨columns, (exactColumns?_eq_some_iff h).1 hexact⟩]
    rfl
  | none =>
    have hnot : ¬ db.hasTable (role.tableName p) = true := by
      intro hhas
      obtain ⟨columns, hmem⟩ := hasTable_iff.1 hhas
      rw [(exactColumns?_eq_some_iff h).2 hmem] at hexact
      cases hexact
    rw [Bool.eq_false_iff.2 hnot]
    rfl

/-- The check tells of a column just where a table of the exact name lacks it. -/
theorem lacks_eq (h : db.IsNamed) (p column : String) (role : TableRole) :
    db.lacks (role.tableName p) column =
      ((exactColumns? (db.ledger p) p role).any fun columns => !columns.contains column) := by
  rw [Bool.eq_iff_iff, lacks_iff, Option.any_eq_true]
  simp only [← exactColumns?_eq_some_iff h]
  simp

theorem any_hasTable_iff {p : String} :
    (tableNames p).any db.hasTable = true ↔
      ∃ role : TableRole, db.hasTable (role.tableName p) = true := by
  rw [tableNames, List.any_map, List.any_eq_true]
  exact ⟨fun ⟨role, _, h⟩ => ⟨role, h⟩, fun ⟨role, h⟩ => ⟨role, TableRole.mem_all role, h⟩⟩

/-- What the check tells of is what the database lacks by the names of its tables and columns. -/
theorem schemaGap_eq (h : db.IsNamed) (p : String) :
    schemaGap (db.ledger p) p = ⟨db.missingTables p, db.missingColumns p⟩ := by
  have htables : (TableRole.all.filter fun role =>
      (exactColumns? (db.ledger p) p role).isNone) =
        TableRole.all.filter fun role => !db.hasTable (role.tableName p) :=
    List.filter_congr fun role _ => isNone_exactColumns? h p role
  rw [schemaGap, SchemaGap.mk.injEq]
  constructor
  · rw [htables, missingTables]
    -- where all tables are missing none is told of, as there is no ledger yet
    have hnone : (TableRole.all.filter fun role => !db.hasTable (role.tableName p)).length =
        TableRole.all.length ↔ ¬ (tableNames p).any db.hasTable = true := by
      rw [List.length_filter_eq_length_iff, any_hasTable_iff]
      constructor
      · rintro hall ⟨role, hrole⟩
        have := hall role (TableRole.mem_all role)
        simp [hrole] at this
      · intro hno role _
        simpa using fun hrole => hno ⟨role, hrole⟩
    by_cases hany : (tableNames p).any db.hasTable = true
    · rw [if_neg fun hall => hnone.1 hall hany, if_pos hany, tableNames, List.filter_map]
      rfl
    · rw [if_pos (hnone.2 hany), if_neg hany]
  · refine congrArg (List.filterMap · requiredColumns) (funext fun (role, column) => ?_)
    dsimp only
    rw [lacks_eq h]
    cases exactColumns? (db.ledger p) p role with
    | none => rfl
    | some columns =>
      rw [Option.any_some]
      dsimp only
      cases columns.contains column <;> rfl

theorem pairwise_tableNames (p : String) : (tableNames p).Pairwise (· < ·) := by
  rw [tableNames, List.pairwise_map]
  have hsuffix : TableRole.all.Pairwise fun role other => role.suffix < other.suffix := by decide
  refine hsuffix.imp fun {role other} hlt => ?_
  rw [String.lt_iff] at hlt ⊢
  rw [TableRole.tableName, TableRole.tableName, String.toList_append, String.toList_append]
  exact List.append_left_lt hlt

/-- The missing tables are told of in order. -/
theorem pairwise_missingTables (db : Database) (p : String) :
    (db.missingTables p).Pairwise (· < ·) := by
  rw [missingTables]
  split
  · exact (pairwise_tableNames p).filter _
  · exact .nil

theorem mem_missingTables : name ∈ db.missingTables p ↔
    (∃ role : TableRole, db.hasTable (role.tableName p) = true) ∧
      ∃ role : TableRole, name = role.tableName p ∧ db.hasTable name = false := by
  have hname : name ∈ tableNames p ↔ ∃ role : TableRole, name = role.tableName p := by
    rw [tableNames, List.mem_map]
    exact ⟨fun ⟨role, _, h⟩ => ⟨role, h.symm⟩, fun ⟨role, h⟩ => ⟨role, role.mem_all, h.symm⟩⟩
  rw [missingTables, ← any_hasTable_iff]
  by_cases hany : (tableNames p).any db.hasTable = true
  · rw [if_pos hany, List.mem_filter, hname, Bool.not_eq_true']
    exact ⟨fun ⟨⟨role, h⟩, hno⟩ => ⟨hany, role, h, hno⟩, fun ⟨_, role, h, hno⟩ => ⟨⟨role, h⟩, hno⟩⟩
  · rw [if_neg hany]
    constructor
    · intro h
      cases h
    · exact fun h => absurd h.1 hany

theorem mem_missingColumns : (name, column) ∈ db.missingColumns p ↔
    ∃ role, (role, column) ∈ requiredColumns ∧ name = role.tableName p ∧
      db.lacks name column = true := by
  rw [missingColumns, List.mem_filterMap]
  constructor
  · rintro ⟨⟨role, c⟩, hmem, h⟩
    simp only [Option.ite_none_right_eq_some, Option.some.injEq, Prod.mk.injEq] at h
    obtain ⟨hlacks, rfl, rfl⟩ := h
    exact ⟨role, hmem, rfl, hlacks⟩
  · rintro ⟨role, hmem, rfl, hlacks⟩
    exact ⟨(role, column), hmem, if_pos hlacks⟩

theorem isEmpty_gap_iff :
    (SchemaGap.mk (db.missingTables p) (db.missingColumns p)).isEmpty = true ↔
      ¬ db.LacksSchema p := by
  rw [SchemaGap.isEmpty, Bool.and_eq_true, List.isEmpty_iff, List.isEmpty_iff, LacksSchema,
    not_or, List.eq_nil_iff_forall_not_mem, List.eq_nil_iff_forall_not_mem]
  refine and_congr ?_ ?_
  · constructor
    · rintro hno ⟨hsome, role, hrole⟩
      exact hno _ (mem_missingTables.2 ⟨hsome, role, rfl, hrole⟩)
    · intro hno name hname
      obtain ⟨hsome, role, rfl, hrole⟩ := mem_missingTables.1 hname
      exact hno ⟨hsome, role, hrole⟩
  · constructor
    · rintro hno ⟨role, column, hmem, hlacks⟩
      exact hno (role.tableName p, column) (mem_missingColumns.2 ⟨role, hmem, rfl, hlacks⟩)
    · rintro hno ⟨name, column⟩ hmem
      obtain ⟨role, hrole, rfl, hlacks⟩ := mem_missingColumns.1 hmem
      exact hno ⟨role, column, hrole, hlacks⟩

/-! ## Openings -/

/-- Making tables fails in the database engine only. -/
theorem createTables_error {roles : List TableRole} {after : Database} {f : Failure}
    (h : createTables p roles db = (.error f, after)) : f = .statementRefused := by
  induction roles generalizing db with
  | nil => cases h
  | cons role roles ih =>
    rw [createTables] at h
    split at h
    · exact ih h
    · next g made hmade =>
      obtain rfl : g = f := Except.error.inj (congrArg Prod.fst h)
      unfold createTable at hmade
      dsimp only at hmade
      split at hmade
      · cases hmade
      · split at hmade
        · cases hmade
          rfl
        · split at hmade
          · cases hmade
            rfl
          · cases hmade

/-- What lacks something of the schema is not opened, and stays as it is. -/
theorem openLedger_of_lacks (h : db.IsNamed) (hlacks : db.LacksSchema p) (url : String)
    (create : Bool) : db.openLedger url p create =
      (.error (.schemaOutdated ⟨db.missingTables p, db.missingColumns p⟩ url), db) := by
  rw [openLedger, schemaGap_eq h]
  exact if_neg fun hempty => isEmpty_gap_iff.1 hempty hlacks

theorem openLedger_of_not_lacks (h : db.IsNamed) (hlacks : ¬ db.LacksSchema p) (url : String)
    (create : Bool) : db.openLedger url p create =
      if create then createTables p TableRole.creationOrder db else (.ok (), db) := by
  rw [openLedger, schemaGap_eq h]
  exact if_pos (isEmpty_gap_iff.2 hlacks)

/-- Opening a ledger is refused for its schema just where the database lacks something of it. -/
theorem openLedger_mismatch_iff (h : db.IsNamed) (url p : String) (create : Bool) :
    (∃ f, (db.openLedger url p create).1 = .error f ∧ f.kind = .schemaMismatch) ↔
      db.LacksSchema p := by
  constructor
  · rintro ⟨f, hf, hkind⟩
    refine Classical.byContradiction fun hlacks => ?_
    rw [openLedger_of_not_lacks h hlacks] at hf
    cases create with
    | false => cases hf
    | true =>
      rw [if_pos rfl] at hf
      rw [createTables_error (Prod.ext hf rfl)] at hkind
      cases hkind
  · intro hlacks
    rw [openLedger_of_lacks h hlacks]
    exact ⟨_, rfl, rfl⟩

end Database

end RunLedger
