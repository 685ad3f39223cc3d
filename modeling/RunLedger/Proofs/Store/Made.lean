import RunLedger.Proofs.Store.Commit

/-!
# Ledgers with tables of their own

A ledger is made once each of its four tables is there as the ledger makes it, with its keys and
all columns of its role; the rows may be any.  On such a ledger no statement is refused for a
missing table or column, and statements are changes of rows.

    l.IsMade → l.executions = some t → columns ⊆ TableRole.executions.columns →
      require l.executions columns = pure t                        (Table.IsOwn.require)
    (l.mapLocks f).lockRows = f l.lockRows                         (IsMade.lockRows_mapLocks)
-/

namespace RunLedger

/-- A table as the ledger makes it in a role, with whatever rows. -/
structure Table.IsOwn {ρ : Type} (role : TableRole) (t : Table ρ) : Prop where
  keyed : t.keyed = true
  columns : t.columns = role.columns

namespace Table

variable {ρ : Type} {role : TableRole} {t : Table ρ}

theorem hasColumn_of_mem {column : String} (h : column ∈ t.columns) :
    t.hasColumn column = true := by
  rw [hasColumn, List.any_eq_true]
  exact ⟨column, h, by simp⟩

theorem IsOwn.make (tablePrefix : String) (role : TableRole) :
    IsOwn role (Table.make tablePrefix role : Table ρ) := ⟨rfl, rfl⟩

theorem IsOwn.withRows (h : t.IsOwn role) (rows : List ρ) : (t.withRows rows).IsOwn role :=
  ⟨h.keyed, h.columns⟩

theorem IsOwn.require {columns : List String} (h : t.IsOwn role) (hc : columns ⊆ role.columns) :
    Transaction.require (some t) columns = pure t := by
  have hall : columns.all t.hasColumn = true := by
    rw [List.all_eq_true]
    intro c hm
    exact hasColumn_of_mem (h.columns ▸ hc hm)
  simp [Transaction.require, hall]

end Table

namespace Ledger

/-- All four tables are there as the ledger makes them. -/
structure IsMade (l : Ledger) : Prop where
  executions : ∃ t, l.executions = some t ∧ t.IsOwn .executions
  parameters : ∃ t, l.parameters = some t ∧ t.IsOwn .parameters
  links : ∃ t, l.links = some t ∧ t.IsOwn .links
  locks : ∃ t, l.locks = some t ∧ t.IsOwn .locks

/-- The ledger of a prefix as it is when all its tables have just been made. -/
def made (tablePrefix : String) : Ledger where
  executions := some (.make tablePrefix .executions)
  parameters := some (.make tablePrefix .parameters)
  links := some (.make tablePrefix .links)
  locks := some (.make tablePrefix .locks)
  lastId := 0

/-! ## Changes of rows -/

def mapExecutions (f : List ExecutionRow → List ExecutionRow) (l : Ledger) : Ledger :=
  { l with executions := l.executions.map fun t => t.withRows (f t.rows) }

def mapParameters (f : List ParameterRow → List ParameterRow) (l : Ledger) : Ledger :=
  { l with parameters := l.parameters.map fun t => t.withRows (f t.rows) }

def mapLinks (f : List LinkRow → List LinkRow) (l : Ledger) : Ledger :=
  { l with links := l.links.map fun t => t.withRows (f t.rows) }

def mapLocks (f : List LockRow → List LockRow) (l : Ledger) : Ledger :=
  { l with locks := l.locks.map fun t => t.withRows (f t.rows) }

def withLastId (n : Int) (l : Ledger) : Ledger := { l with lastId := n }

section
variable (l : Ledger) (f : List ExecutionRow → List ExecutionRow)
  (g : List ParameterRow → List ParameterRow) (h : List LinkRow → List LinkRow)
  (k : List LockRow → List LockRow) (n : Int)

@[simp] theorem executionRows_mapParameters :
    (l.mapParameters g).executionRows = l.executionRows := rfl
@[simp] theorem executionRows_mapLinks : (l.mapLinks h).executionRows = l.executionRows := rfl
@[simp] theorem executionRows_mapLocks : (l.mapLocks k).executionRows = l.executionRows := rfl
@[simp] theorem executionRows_withLastId : (l.withLastId n).executionRows = l.executionRows := rfl
@[simp] theorem parameterRows_mapExecutions :
    (l.mapExecutions f).parameterRows = l.parameterRows := rfl
@[simp] theorem parameterRows_mapLinks : (l.mapLinks h).parameterRows = l.parameterRows := rfl
@[simp] theorem parameterRows_mapLocks : (l.mapLocks k).parameterRows = l.parameterRows := rfl
@[simp] theorem parameterRows_withLastId : (l.withLastId n).parameterRows = l.parameterRows := rfl
@[simp] theorem lockRows_mapExecutions : (l.mapExecutions f).lockRows = l.lockRows := rfl
@[simp] theorem lockRows_mapParameters : (l.mapParameters g).lockRows = l.lockRows := rfl
@[simp] theorem lockRows_mapLinks : (l.mapLinks h).lockRows = l.lockRows := rfl
@[simp] theorem lockRows_withLastId : (l.withLastId n).lockRows = l.lockRows := rfl
@[simp] theorem lastId_mapExecutions : (l.mapExecutions f).lastId = l.lastId := rfl
@[simp] theorem lastId_mapParameters : (l.mapParameters g).lastId = l.lastId := rfl
@[simp] theorem lastId_mapLinks : (l.mapLinks h).lastId = l.lastId := rfl
@[simp] theorem lastId_mapLocks : (l.mapLocks k).lastId = l.lastId := rfl
@[simp] theorem lastId_withLastId : (l.withLastId n).lastId = n := rfl

end

theorem mapExecutions_eq_self {l : Ledger} {f : List ExecutionRow → List ExecutionRow}
    (h : f l.executionRows = l.executionRows) : l.mapExecutions f = l := by
  obtain ⟨executions, parameters, links, locks, lastId⟩ := l
  cases executions with
  | none => rfl
  | some t =>
    have hrows : f t.rows = t.rows := h
    rw [mapExecutions, Option.map_some, hrows]
    rfl

namespace IsMade

variable {l : Ledger}

theorem made (tablePrefix : String) : (Ledger.made tablePrefix).IsMade :=
  ⟨⟨_, rfl, .make _ _⟩, ⟨_, rfl, .make _ _⟩, ⟨_, rfl, .make _ _⟩, ⟨_, rfl, .make _ _⟩⟩

theorem executionRows_mapExecutions (h : l.IsMade) (f : List ExecutionRow → List ExecutionRow) :
    (l.mapExecutions f).executionRows = f l.executionRows := by
  obtain ⟨t, ht, -⟩ := h.executions
  simp [Ledger.executionRows, mapExecutions, ht, Table.withRows]

theorem parameterRows_mapParameters (h : l.IsMade) (f : List ParameterRow → List ParameterRow) :
    (l.mapParameters f).parameterRows = f l.parameterRows := by
  obtain ⟨t, ht, -⟩ := h.parameters
  simp [Ledger.parameterRows, mapParameters, ht, Table.withRows]

theorem linkRows_mapLinks (h : l.IsMade) (f : List LinkRow → List LinkRow) :
    (l.mapLinks f).linkRows = f l.linkRows := by
  obtain ⟨t, ht, -⟩ := h.links
  simp [Ledger.linkRows, mapLinks, ht, Table.withRows]

theorem lockRows_mapLocks (h : l.IsMade) (f : List LockRow → List LockRow) :
    (l.mapLocks f).lockRows = f l.lockRows := by
  obtain ⟨t, ht, -⟩ := h.locks
  simp [Ledger.lockRows, mapLocks, ht, Table.withRows]

theorem mapExecutions (h : l.IsMade) (f : List ExecutionRow → List ExecutionRow) :
    (l.mapExecutions f).IsMade := by
  obtain ⟨t, ht, own⟩ := h.executions
  exact ⟨⟨_, by rw [Ledger.mapExecutions, ht]; rfl, own.withRows _⟩, h.parameters, h.links, h.locks⟩

theorem mapParameters (h : l.IsMade) (f : List ParameterRow → List ParameterRow) :
    (l.mapParameters f).IsMade := by
  obtain ⟨t, ht, own⟩ := h.parameters
  exact ⟨h.executions, ⟨_, by rw [Ledger.mapParameters, ht]; rfl, own.withRows _⟩, h.links, h.locks⟩

theorem mapLinks (h : l.IsMade) (f : List LinkRow → List LinkRow) : (l.mapLinks f).IsMade := by
  obtain ⟨t, ht, own⟩ := h.links
  exact ⟨h.executions, h.parameters, ⟨_, by rw [Ledger.mapLinks, ht]; rfl, own.withRows _⟩, h.locks⟩

theorem mapLocks (h : l.IsMade) (f : List LockRow → List LockRow) : (l.mapLocks f).IsMade := by
  obtain ⟨t, ht, own⟩ := h.locks
  exact ⟨h.executions, h.parameters, h.links, ⟨_, by rw [Ledger.mapLocks, ht]; rfl, own.withRows _⟩⟩

theorem withLastId (h : l.IsMade) (n : Int) : (l.withLastId n).IsMade :=
  ⟨h.executions, h.parameters, h.links, h.locks⟩

/-- Every role has its table. -/
theorem has (h : l.IsMade) (role : TableRole) : l.has role = true := by
  obtain ⟨e, he, -⟩ := h.executions
  obtain ⟨p, hp, -⟩ := h.parameters
  obtain ⟨k, hk, -⟩ := h.links
  obtain ⟨o, ho, -⟩ := h.locks
  cases role
  · simp [Ledger.has, shape?, he]
  · simp [Ledger.has, shape?, hp]
  · simp [Ledger.has, shape?, hk]
  · simp [Ledger.has, shape?, ho]

end IsMade

end Ledger

end RunLedger
