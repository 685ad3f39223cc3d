import RunLedger.Link
import RunLedger.Proofs.History.Deed
import RunLedger.Proofs.Store.Statements

/-!
# Transactions as deeds

A transaction that went through has done one deed, and the deed fitted the ledger.

    (create now taskName parentId externalId).commit l = (.ok (id, e), m) →
      m = (Deed.create id stamp taskName parentId externalId).apply l          (create_ok)
    (acquire now region taskName clientId).commit l = (.ok (), m) →
      m = (Deed.acquire (heldRow stamp region taskName clientId)).apply l      (acquire_ok)
-/

namespace RunLedger

/-- A transaction's outcome is that of a deed done to a ledger. -/
def Deed.DoneIn (d : Deed) (l m : Ledger) : Prop := d.Fits l ∧ m = d.apply l

namespace Recording

open Transaction

variable {l m : Ledger}

theorem toExecution_id {r : ExecutionRow} {parameters : List String} {e : Execution}
    (h : r.toExecution parameters = .ok e) : e.id = r.id := by
  unfold ExecutionRow.toExecution ExecutionFields.toExecution at h
  split at h
  · cases h
    rfl
  · cases h

theorem rowOf_id {id : Int} {r : ExecutionRow} (h : Deed.rowOf id l = some r) : r.id = some id := by
  have := List.find?_some h
  simpa using this

theorem create_ok {now : Timestamp} {taskName externalId : Option String} {parentId : Option Int}
    {id : Int} {e : Execution} (hm : l.IsMade)
    (h : (create now taskName parentId externalId).commit l = (.ok (id, e), m)) :
    ∃ stamp, now.toInstant = .ok stamp ∧
      (Deed.create id stamp taskName parentId externalId).DoneIn l m ∧ e.id = some id ∧
        Signed64.holds id = true := by
  rw [commit_eq_ok_iff] at h
  obtain ⟨stamp, l₁, ht, h₁⟩ := exec_bind_ok_iff.1 h
  obtain ⟨hstamp, rfl⟩ := storedTime_ok ht
  obtain ⟨id', l₂, hi, h₂⟩ := exec_bind_ok_iff.1 h₁
  obtain ⟨hid, hle, -, rfl⟩ := insertExecution_ok hm hi
  obtain ⟨e', l₃, hl, h₃⟩ := exec_bind_ok_iff.1 h₂
  obtain ⟨rfl, hholds, r, hr, he⟩ := loadExecution_ok hl
  cases h₃
  exact ⟨stamp, hstamp, ⟨⟨hid, hle⟩, rfl⟩, (toExecution_id he).trans (rowOf_id hr), hholds⟩

/-- What was created has a parent, if any, that a column can hold. -/
theorem create_parent {now : Timestamp} {taskName externalId : Option String}
    {parentId : Option Int} {made : Int × Execution} (hm : l.IsMade)
    (h : (create now taskName parentId externalId).commit l = (.ok made, m)) :
    ∀ i ∈ parentId, Signed64.holds i = true := by
  rw [commit_eq_ok_iff] at h
  obtain ⟨stamp, l₁, ht, h₁⟩ := exec_bind_ok_iff.1 h
  obtain ⟨-, rfl⟩ := storedTime_ok ht
  obtain ⟨id, l₂, hi, -⟩ := exec_bind_ok_iff.1 h₁
  exact (insertExecution_ok hm hi).2.2.1

theorem ensureFresh_ok {id : Int} {row : ExecutionRow} {u : Unit}
    (h : ensureFresh id row = .ok u) : row.startTime = none ∧ row.endTime = none := by
  unfold ensureFresh at h
  split at h
  · cases h
  · cases h
  · next hs he => exact ⟨hs, he⟩

theorem ensureFresh_of_none {id : Int} {row : ExecutionRow} (hstart : row.startTime = none)
    (hend : row.endTime = none) : ensureFresh id row = .ok () := by
  unfold ensureFresh
  rw [hstart, hend]

theorem start_ok {now : Timestamp} {startTime : Instant} {s : Start} {e : Execution}
    (hname : s.taskName ≠ "") (h : (start now startTime s).commit l = (.ok e, m)) :
    ∃ stamp, now.toInstant = .ok stamp ∧ (Deed.start stamp startTime s).DoneIn l m := by
  rw [commit_eq_ok_iff] at h
  obtain ⟨row, l₁, hf, h₁⟩ := exec_bind_ok_iff.1 h
  obtain ⟨-, hrow, rfl⟩ := fetchExecution_ok hf
  obtain ⟨_, l₂, hfresh, h₂⟩ := exec_bind_ok_iff.1 h₁
  obtain ⟨hfree, rfl⟩ := liftM_ok hfresh
  obtain ⟨stamp, l₃, ht, h₃⟩ := exec_bind_ok_iff.1 h₂
  obtain ⟨hstamp, rfl⟩ := storedTime_ok ht
  obtain ⟨_, l₄, hc, h₄⟩ := exec_bind_ok_iff.1 h₃
  obtain ⟨-, rfl⟩ := checkNumber?_ok hc
  obtain ⟨n, l₅, hu, h₅⟩ := exec_bind_ok_iff.1 h₄
  obtain ⟨-, rfl⟩ := updateExecutions_ok hu
  refine ⟨stamp, hstamp, ⟨hname, row, hrow, ensureFresh_ok hfree⟩, ?_⟩
  -- without parameters the statement that puts them in is left out, and there is nothing to add
  dsimp only at h₅
  rw [exec_ite] at h₅
  split at h₅
  · obtain ⟨_, l₆, hp, h₆⟩ := exec_bind_ok_iff.1 h₅
    obtain rfl := insertParameters_ok hp
    exact (loadExecution_ok h₆).1
  · next hnone =>
    have hnil : s.parameters = [] := by simpa using hnone
    rw [(loadExecution_ok h₅).1, Deed.apply, hnil]
    exact (mapParameters_nil _).symm

/-- An execution that is there, was neither started nor completed and has no parameters is
started. -/
theorem commit_start {now : Timestamp} {stamp startTime : Instant} {s : Start}
    {row : ExecutionRow} (hm : l.IsMade) (hid : Signed64.holds s.id = true)
    (hrow : Deed.rowOf s.id l = some row) (hfresh : row.startTime = none)
    (hopen : row.endTime = none) (hnow : now.toInstant = .ok stamp)
    (hparent : ∀ i ∈ s.parentId, Signed64.holds i = true)
    (hfree : ∀ p ∈ l.parameterRows, p.executionId ≠ s.id) :
    ∃ e, (start now startTime s).commit l = (.ok e, (Deed.start stamp startTime s).apply l) := by
  have hensure : ensureFresh s.id row = .ok () := ensureFresh_of_none hfresh hopen
  obtain ⟨n, hupdate⟩ := exec_updateExecutions hm (startedRow stamp startTime s)
    (List.Subset.refl executionColumns) hid
  have hafter : Deed.rowOf s.id ((Deed.start stamp startTime s).apply l) =
      some (startedRow stamp startTime s row) := by
    have hstarted : Deed.rowOf s.id
        (l.mapExecutions (changeAt s.id (startedRow stamp startTime s))) = _ :=
      hm.rowOf_changeAt (startedRow_keepsId stamp startTime s)
    rw [hrow] at hstarted
    exact hstarted
  obtain ⟨e, hload⟩ := ((Deed.start stamp startTime s).apply l).load_ok
    (r := startedRow stamp startTime s row) fun hend => by
      have hended : row.endTime.isSome = true := hend
      rw [hopen] at hended
      cases hended
  have hloaded := (exec_loadExecution (hm.apply (.start stamp startTime s)) hid hafter).trans
    (congrArg (·, _) hload)
  -- statement by statement, each by the lemma that says when it goes through
  refine ⟨e, commit_eq_ok_iff.2 ?_⟩
  rw [start, exec_bind_of_ok (exec_fetchExecution hm hid hrow), hensure,
    exec_bind_of_ok (exec_liftM _ l), exec_bind_of_ok (exec_storedTime hnow l),
    exec_bind_of_ok (exec_checkNumber? hparent l), exec_bind_of_ok hupdate]
  dsimp only
  rw [exec_ite]
  split
  · rw [exec_bind_of_ok (exec_insertParameters s.parameters (hm.mapExecutions _) hfree)]
    exact hloaded
  · next hnone =>
    have hnil : s.parameters = [] := by simpa using hnone
    rw [Deed.apply, hnil] at hloaded
    rw [Deed.apply, hnil]
    rw [Transaction.parameterRows, mapParameters_nil] at hloaded ⊢
    exact hloaded

theorem ensureNotBeforeStart_ok {id : Int} {endTime : Instant} {row : ExecutionRow} {u : Unit}
    (h : ensureNotBeforeStart id endTime row = .ok u) :
    ∀ start ∈ row.startTime, start ≤ endTime := by
  intro start hstart
  rw [Option.mem_def] at hstart
  unfold ensureNotBeforeStart at h
  rw [hstart] at h
  dsimp only at h
  split at h
  · cases h
  · next hlt => exact Nat.le_of_not_lt hlt

theorem complete_ok {now : Timestamp} {endTime : Instant} {o : Outcome} {e : Execution}
    (h : (complete now endTime o).commit l = (.ok e, m)) :
    ∃ stamp, now.toInstant = .ok stamp ∧ (Deed.complete stamp endTime o).DoneIn l m := by
  rw [commit_eq_ok_iff] at h
  obtain ⟨row, l₁, hf, h₁⟩ := exec_bind_ok_iff.1 h
  obtain ⟨-, hrow, rfl⟩ := fetchExecution_ok hf
  obtain ⟨_, l₂, hafter, h₂⟩ := exec_bind_ok_iff.1 h₁
  obtain ⟨hend, rfl⟩ := liftM_ok hafter
  obtain ⟨stamp, l₃, ht, h₃⟩ := exec_bind_ok_iff.1 h₂
  obtain ⟨hstamp, rfl⟩ := storedTime_ok ht
  obtain ⟨_, l₄, hc, h₄⟩ := exec_bind_ok_iff.1 h₃
  obtain ⟨-, rfl⟩ := checkNumber_ok hc
  obtain ⟨n, l₅, hu, h₅⟩ := exec_bind_ok_iff.1 h₄
  obtain ⟨-, rfl⟩ := updateExecutions_ok hu
  exact ⟨stamp, hstamp, ⟨row, hrow, ensureNotBeforeStart_ok hend⟩, (loadExecution_ok h₅).1⟩

/-- An execution that is there is completed at any time from its start on. -/
theorem commit_complete {now : Timestamp} {stamp endTime : Instant} {o : Outcome}
    {row : ExecutionRow} (hm : l.IsMade) (hid : Signed64.holds o.id = true)
    (hrow : Deed.rowOf o.id l = some row) (hend : ∀ start ∈ row.startTime, start ≤ endTime)
    (hnow : now.toInstant = .ok stamp) (hcode : Signed64.holds o.exitCode = true) :
    ∃ e, (complete now endTime o).commit l =
      (.ok e, (Deed.complete stamp endTime o).apply l) := by
  have hensure : ensureNotBeforeStart o.id endTime row = .ok () := by
    unfold ensureNotBeforeStart
    split
    · next start hstart => exact if_neg (Nat.not_lt.2 (hend start hstart))
    · rfl
  obtain ⟨n, hupdate⟩ := exec_updateExecutions hm (completedRow stamp endTime o)
    (List.Subset.refl executionColumns) hid
  have hmade := hm.apply (.complete stamp endTime o)
  have hafter : Deed.rowOf o.id ((Deed.complete stamp endTime o).apply l) =
      some (completedRow stamp endTime o row) := by
    rw [Deed.apply, hm.rowOf_changeAt (completedRow_keepsId _ _ _), hrow, Option.map_some]
  obtain ⟨e, hload⟩ := ((Deed.complete stamp endTime o).apply l).load_ok
    (r := completedRow stamp endTime o row) fun _ => rfl
  refine ⟨e, commit_eq_ok_iff.2 ?_⟩
  rw [complete, exec_bind_of_ok (exec_fetchExecution hm hid hrow), hensure,
    exec_bind_of_ok (exec_liftM _ l), exec_bind_of_ok (exec_storedTime hnow l),
    exec_bind_of_ok (exec_checkNumber hcode l), exec_bind_of_ok hupdate]
  exact (exec_loadExecution hmade hid hafter).trans (by rw [hload])

theorem setExternalId_ok {now : Timestamp} {id : Int} {externalId : Option String} {n : Nat}
    (hn : n ≠ 0) (h : (setExternalId now id externalId).commit l = (.ok n, m)) :
    ∃ stamp, now.toInstant = .ok stamp ∧ (Deed.setExternalId stamp id externalId).DoneIn l m := by
  rw [commit_eq_ok_iff] at h
  obtain ⟨stamp, l₁, ht, h₁⟩ := exec_bind_ok_iff.1 h
  obtain ⟨hstamp, rfl⟩ := storedTime_ok ht
  obtain ⟨rfl, rfl⟩ := updateExecutions_ok h₁
  refine ⟨stamp, hstamp, ?_, rfl⟩
  obtain ⟨r, hr⟩ := List.exists_mem_of_length_pos (Nat.pos_of_ne_zero hn)
  have hsome : (Deed.rowOf id l₁).isSome = true := by
    rw [Deed.rowOf, List.find?_isSome]
    exact ⟨r, List.mem_filter.1 hr⟩
  exact Option.isSome_iff_exists.1 hsome

/-- Where there is no execution of the number, nothing is written. -/
theorem setExternalId_none {now : Timestamp} {id : Int} {externalId : Option String}
    (h : (setExternalId now id externalId).commit l = (.ok 0, m)) : m = l := by
  rw [commit_eq_ok_iff] at h
  obtain ⟨stamp, l₁, ht, h₁⟩ := exec_bind_ok_iff.1 h
  obtain ⟨-, rfl⟩ := storedTime_ok ht
  obtain ⟨hlength, rfl⟩ := updateExecutions_ok h₁
  have hnone := List.filter_eq_nil_iff.1 (List.eq_nil_of_length_eq_zero hlength.symm)
  refine Ledger.mapExecutions_eq_self ((List.map_congr_left fun r hr => ?_).trans (List.map_id _))
  exact if_neg fun hid => hnone r hr (by simpa using hid)

/-- What gives up leaves nothing behind. -/
theorem createAndGiveUp_commit (taskName : Option String) (l : Ledger) :
    ((createAndGiveUp taskName).commit l).2 = l := by
  rcases commit_cases (createAndGiveUp taskName) l with ⟨u, m, -, he⟩ | ⟨f, hc, -⟩
  · obtain ⟨_, l₁, -, h₁⟩ := exec_bind_ok_iff.1 he
    cases h₁
  · rw [hc]

end Recording

theorem Link.record_ok {executionId jobId : Int} {row : LinkRow} {l m : Ledger}
    (h : (Link.record executionId jobId).commit l = (.ok row, m)) :
    (Deed.link row).DoneIn l m ∧ row = ⟨executionId, jobId⟩ := by
  rw [Transaction.commit_eq_ok_iff, Link.record, Transaction.exec_get_bind] at h
  obtain ⟨t, l₁, hr, h₁⟩ := Transaction.exec_bind_ok_iff.1 h
  obtain ⟨ht, rfl⟩ := Transaction.require_ok hr
  obtain ⟨_, l₂, hc, h₂⟩ := Transaction.exec_bind_ok_iff.1 h₁
  obtain ⟨-, rfl⟩ := Transaction.checkNumber_ok hc
  obtain ⟨_, l₃, hc, h₃⟩ := Transaction.exec_bind_ok_iff.1 h₂
  obtain ⟨-, rfl⟩ := Transaction.checkNumber_ok hc
  cases h₃
  refine ⟨⟨trivial, ?_⟩, rfl⟩
  rw [Deed.apply, Ledger.mapLinks, ht]
  rfl

theorem Link.commit_record {executionId jobId : Int} {l : Ledger} (hm : l.IsMade)
    (hid : Signed64.holds executionId = true) (hjob : Signed64.holds jobId = true) :
    (Link.record executionId jobId).commit l =
      (.ok ⟨executionId, jobId⟩, (Deed.link ⟨executionId, jobId⟩).apply l) := by
  obtain ⟨t, ht, own⟩ := hm.links
  rw [Transaction.commit_eq_ok_iff, Link.record, Transaction.exec_get_bind, ht,
    own.require (List.Subset.refl _), Transaction.exec_bind_of_ok (Transaction.exec_pure t l),
    Transaction.exec_bind_of_ok (Transaction.exec_checkNumber hid l),
    Transaction.exec_bind_of_ok (Transaction.exec_checkNumber hjob l), Deed.apply,
    Ledger.mapLinks, ht]
  rfl

end RunLedger
