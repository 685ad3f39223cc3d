import RunLedger.Proofs.Session.Effect
import RunLedger.Proofs.Session.Success
import RunLedger.Proofs.Sorted

/-!
# Links in a session

A session keeps its links as rows of the ledger, where one link may be there several times, or in a
notebook in memory, where each execution has the jobs that it ran.  Read as a list of links the two
are alike: a link that is recorded becomes a member of it, a reading changes nothing, and what is
answered depends on the members alone.

    r ∈ (book.record e j).rows ↔ r ∈ book.rows ∨ r = ⟨e, j⟩                 (mem_rows_record)
    book.IsKeyed → book.jobsOf e = Link.jobsAmong book.rows e               (jobsOf_eq)
    s.TakesLinks → c.readsOrLinks → GainsLinks c.recorded?.toList s (s.perform c.run).2
                                                                            (run_gains)
    s.TakesLinks → s.plan.links.holds e → (s.perform (Call.jobsOf e).run).1 =
      .ok (.numbers (Link.jobsAmong s.linked e))                            (perform_jobsOf)
-/

namespace RunLedger

/-! ## Answers from a list of links -/

namespace Link

variable {rs qs : List LinkRow} {e j : Int}

theorem mem_jobs_filter :
    j ∈ (rs.filter fun r => r.executionId = e).map (·.jobId) ↔ ⟨e, j⟩ ∈ rs := by
  rw [List.mem_map]
  constructor
  · rintro ⟨r, hr, rfl⟩
    obtain ⟨hmem, he⟩ := List.mem_filter.1 hr
    obtain rfl : r.executionId = e := by simpa using he
    exact hmem
  · intro h
    exact ⟨_, List.mem_filter.2 ⟨h, by simp⟩, rfl⟩

theorem mem_executions_filter :
    e ∈ (rs.filter fun r => r.jobId = j).map (·.executionId) ↔ ⟨e, j⟩ ∈ rs := by
  rw [List.mem_map]
  constructor
  · rintro ⟨r, hr, rfl⟩
    obtain ⟨hmem, hj⟩ := List.mem_filter.1 hr
    obtain rfl : r.jobId = j := by simpa using hj
    exact hmem
  · intro h
    exact ⟨_, List.mem_filter.2 ⟨h, by simp⟩, rfl⟩

theorem mem_jobsAmong : j ∈ jobsAmong rs e ↔ ⟨e, j⟩ ∈ rs := mem_ascending.trans mem_jobs_filter

theorem pairwise_jobsAmong (rs : List LinkRow) (e : Int) : (jobsAmong rs e).Pairwise (· < ·) :=
  pairwise_ascending _

theorem executionAmong_eq_some_iff :
    executionAmong rs j = some e ↔ ⟨e, j⟩ ∈ rs ∧ ∀ e', ⟨e', j⟩ ∈ rs → e ≤ e' := by
  rw [executionAmong, least?_eq_some_iff, mem_executions_filter]
  simp only [mem_executions_filter]

theorem executionAmong_eq_none_iff : executionAmong rs j = none ↔ ∀ e, ⟨e, j⟩ ∉ rs := by
  rw [executionAmong, least?_eq_none_iff, List.eq_nil_iff_forall_not_mem]
  simp only [mem_executions_filter]

/-- Neither the order of links nor how often they come shows in the jobs of an execution. -/
theorem jobsAmong_congr (h : ∀ r, r ∈ rs ↔ r ∈ qs) (e : Int) : jobsAmong rs e = jobsAmong qs e :=
  ascending_congr fun j => mem_jobs_filter.trans ((h ⟨e, j⟩).trans mem_jobs_filter.symm)

theorem executionAmong_congr (h : ∀ r, r ∈ rs ↔ r ∈ qs) (j : Int) :
    executionAmong rs j = executionAmong qs j :=
  least?_congr fun e => mem_executions_filter.trans
    ((h ⟨e, j⟩).trans mem_executions_filter.symm)

end Link

/-! ## The notebook -/

namespace LinkNotebook

variable {book : LinkNotebook} {e j : Int}

def rows (book : LinkNotebook) : List LinkRow :=
  book.flatMap fun entry => entry.2.map (⟨entry.1, ·⟩)

/-- Every execution has one entry at most. -/
def IsKeyed (book : LinkNotebook) : Prop := (book.map (·.1)).Nodup

theorem mem_rows {r : LinkRow} :
    r ∈ book.rows ↔ ∃ jobs, (r.executionId, jobs) ∈ book ∧ r.jobId ∈ jobs := by
  rw [rows, List.mem_flatMap]
  constructor
  · rintro ⟨⟨e, jobs⟩, hentry, hr⟩
    obtain ⟨j, hj, rfl⟩ := List.mem_map.1 hr
    exact ⟨jobs, hentry, hj⟩
  · rintro ⟨jobs, hentry, hj⟩
    exact ⟨_, hentry, List.mem_map.2 ⟨_, hj, rfl⟩⟩

theorem rows_cons (entry : Int × List Int) (book : LinkNotebook) :
    rows (entry :: book) = entry.2.map (⟨entry.1, ·⟩) ++ book.rows := rfl

/-- Recording a link makes it one of the notebook's, and no other. -/
theorem mem_rows_record {r : LinkRow} :
    r ∈ (book.record e j).rows ↔ r ∈ book.rows ∨ r = ⟨e, j⟩ := by
  induction book with
  | nil => simp [record, rows]
  | cons entry rest ih =>
    obtain ⟨e', jobs⟩ := entry
    rw [record]
    split
    · next he =>
      subst he
      simp only [rows_cons, List.mem_append, List.mem_map]
      split
      · next hj =>
        -- the job is there already
        have hmem : j ∈ jobs := by simpa using hj
        constructor
        · exact Or.inl
        · rintro (h | rfl)
          · exact h
          · exact .inl ⟨j, hmem, rfl⟩
      · simp only [List.mem_append, List.mem_singleton, or_and_right, exists_or,
          exists_eq_left]
        rw [or_right_comm, eq_comm (a := r)]
    · simp only [rows_cons, List.mem_append, ih, or_assoc]

theorem mem_keys_record {e' : Int} :
    e' ∈ (book.record e j).map (·.1) ↔ e' ∈ book.map (·.1) ∨ e' = e := by
  induction book with
  | nil => simp [record]
  | cons entry rest ih =>
    obtain ⟨k, jobs⟩ := entry
    rw [record]
    split
    · next he =>
      subst he
      simp only [List.map_cons, List.mem_cons]
      tauto
    · simp only [List.map_cons, List.mem_cons, ih, or_assoc]

theorem IsKeyed.record (h : book.IsKeyed) (e j : Int) : (book.record e j).IsKeyed := by
  induction book with
  | nil => simp [IsKeyed, LinkNotebook.record]
  | cons entry rest ih =>
    obtain ⟨k, jobs⟩ := entry
    obtain ⟨hk, hrest⟩ := List.nodup_cons.1 h
    rw [LinkNotebook.record]
    split
    · exact List.nodup_cons.2 ⟨hk, hrest⟩
    · next hne =>
      refine List.nodup_cons.2 ⟨fun hmem => ?_, ih hrest⟩
      rcases mem_keys_record.1 hmem with hold | hnew
      · exact hk hold
      · exact hne hnew

/-- The entry of an execution has all the jobs that the notebook links to it. -/
theorem mem_lookup (h : book.IsKeyed) : j ∈ (book.lookup e).getD [] ↔ ⟨e, j⟩ ∈ book.rows := by
  induction book with
  | nil => simp [rows]
  | cons entry rest ih =>
    obtain ⟨k, jobs⟩ := entry
    obtain ⟨hk, hrest⟩ := List.nodup_cons.1 h
    rw [List.lookup_cons, rows_cons, List.mem_append, List.mem_map]
    split
    · next he =>
      obtain rfl : e = k := by simpa using he
      constructor
      · intro hj
        exact .inl ⟨j, hj, rfl⟩
      · rintro (⟨j', hj, heq⟩ | hlater)
        · cases heq
          exact hj
        -- no later entry is one of the same execution
        · obtain ⟨jobs', hentry, -⟩ := mem_rows.1 hlater
          exact absurd (List.mem_map_of_mem hentry) hk
    · next hne =>
      rw [ih hrest]
      constructor
      · exact Or.inr
      · rintro (⟨j', -, heq⟩ | hlater)
        · cases heq
          simp at hne
        · exact hlater

theorem jobsOf_eq (h : book.IsKeyed) (e : Int) : book.jobsOf e = Link.jobsAmong book.rows e :=
  ascending_congr fun _ => (mem_lookup h).trans Link.mem_jobs_filter.symm

theorem executionOf_eq (book : LinkNotebook) (j : Int) :
    book.executionOf j = Link.executionAmong book.rows j := by
  refine least?_congr fun e => ?_
  rw [Link.mem_executions_filter, mem_rows, List.mem_map]
  constructor
  · rintro ⟨entry, hentry, rfl⟩
    obtain ⟨hmem, hj⟩ := List.mem_filter.1 hentry
    exact ⟨entry.2, hmem, by simpa using hj⟩
  · rintro ⟨jobs, hentry, hj⟩
    exact ⟨(e, jobs), List.mem_filter.2 ⟨hentry, by simpa using hj⟩, rfl⟩

end LinkNotebook

/-! ## Rows of the ledger -/

namespace Link

open Transaction

variable {l : Ledger}

/-- Looking something up among the rows of links, for a number. -/
theorem commit_lookUp {α : Type} (hm : l.IsMade) (n : Int) (g : List LinkRow → α) :
    (do
      let t ← require (← get).links TableRole.links.columns
      checkNumber n
      pure (g t.rows) : Transaction α).commit l =
      (if Signed64.holds n then .ok (g l.linkRows) else .error .integerTooLarge, l) := by
  obtain ⟨t, ht, own⟩ := hm.links
  rw [Transaction.commit, exec_get_bind, ht, own.require (List.Subset.refl _),
    exec_bind_of_ok (exec_pure t l), rows_of_links ht, checkNumber]
  cases Signed64.holds n <;> rfl

theorem commit_jobsOf (hm : l.IsMade) (e : Int) : (jobsOf e).commit l =
    (if Signed64.holds e then .ok (jobsAmong l.linkRows e) else .error .integerTooLarge, l) :=
  commit_lookUp hm e (jobsAmong · e)

theorem commit_executionOf (hm : l.IsMade) (j : Int) : (executionOf j).commit l =
    (if Signed64.holds j then .ok (executionAmong l.linkRows j) else .error .integerTooLarge, l) :=
  commit_lookUp hm j (executionAmong · j)

end Link

/-! ## The notebook of a session -/

namespace SessionM

open Session

variable {α β : Type}

/-- A call that leaves the notebook of its session as it is. -/
def KeepsNotebook (call : SessionM α) : Prop :=
  ∀ s : Session, (s.perform call).2.notebook = s.notebook

namespace KeepsNotebook

theorem pure (a : α) : KeepsNotebook (Pure.pure a) := fun _ => rfl

theorem throw (f : Failure) : KeepsNotebook (MonadExcept.throw f : SessionM α) := fun _ => rfl

theorem get : KeepsNotebook MonadState.get := fun _ => rfl

theorem liftM (r : Except Failure α) : KeepsNotebook (MonadLiftT.monadLift r : SessionM α) := by
  cases r
  · exact throw _
  · exact pure _

theorem emit (e : LogEvent) : KeepsNotebook (SessionM.emit e) := fun _ => rfl

theorem bind {call : SessionM α} {k : α → SessionM β} (hc : KeepsNotebook call)
    (hk : ∀ a, KeepsNotebook (k a)) : KeepsNotebook (call >>= k) :=
  perform_bind_leads (R := fun s t => t.notebook = s.notebook) (fun _ _ _ h h' => h'.trans h) hc hk

theorem map {call : SessionM α} (hc : KeepsNotebook call) (b : α → β) :
    KeepsNotebook (call >>= fun a => Pure.pure (b a)) := hc.bind fun _ => pure _

theorem transact (epoch : Nat) (t : Transaction α) : KeepsNotebook (transact epoch t) := by
  intro s
  cases h : s.isAt epoch
  · rw [perform_transact_of_closed h]
  · rw [perform_transact h]
    rfl

end KeepsNotebook

end SessionM

namespace Session

open SessionM

theorem announcePager_keepsNotebook (f : Reading.Filter) : KeepsNotebook (announcePager f) := by
  intro s
  rw [announcePager, perform_get_bind]
  split
  · cases (Reading.pager s.handle.dialect f).mapError Failure.configuration <;> rfl
  · rfl

theorem page_keepsNotebook (epoch : Nat) (f : Reading.Filter) (index size : Int) :
    KeepsNotebook (page epoch f index size) :=
  .bind (.transact _ _) fun _ => .bind (.liftM _) fun _ =>
    .bind (announcePager_keepsNotebook f) fun _ => .bind (.liftM _) fun _ => .bind .get fun _ =>
      .bind (.transact _ _) fun _ => .bind (.emit _) fun _ => .pure _

theorem jobsOf_keepsNotebook (e : Int) : KeepsNotebook (jobsOf e) := by
  refine .bind .get fun s => ?_
  split
  · exact .transact _ _
  · exact .pure _

theorem executionOf_keepsNotebook (j : Int) : KeepsNotebook (executionOf j) := by
  refine .bind .get fun s => ?_
  split
  · exact .transact _ _
  · exact .pure _

theorem ensureOpen_keepsNotebook (epoch : Nat) : KeepsNotebook (ensureOpen epoch) := by
  refine .bind .get fun s => ?_
  split
  · exact .pure _
  · exact .throw _

theorem lockClient_keepsNotebook (lock : Nat) : KeepsNotebook (lockClient lock) := by
  refine .bind .get fun s => ?_
  split
  · exact .pure _
  · exact .throw _

end Session

namespace Call

open Session SessionM

theorem run_keepsNotebook {c : Call} (h : c.isReading = true) : KeepsNotebook c.run := by
  unfold run
  refine .bind .get fun s => ?_
  cases c with
  | find | running | latest | count | countRunning | taskNames | rowCounts =>
    exact .map (.transact _ _) _
  | page f index size => exact .map (page_keepsNotebook _ f index size) _
  | jobsOf e => exact .map (jobsOf_keepsNotebook e) _
  | executionOf j => exact .map (executionOf_keepsNotebook j) _
  | holder lock taskName =>
    exact .bind (lockClient_keepsNotebook lock) fun _ => .map (.transact _ _) _
  | client lock => exact .map (lockClient_keepsNotebook lock) _
  | describeHandle | resolvePrefix => exact .map .get _
  | tables | connectionSetup =>
    exact .map (.bind .get fun _ => .bind (ensureOpen_keepsNotebook _) fun _ => .pure _) _
  | createAndGiveUp taskName => exact .bind (.transact _ _) fun _ => .pure _
  | _ => cases h

end Call

/-! ## Recording and reading -/

/-- Whether a store can be asked for the number. -/
def LinkStore.holds : LinkStore → Int → Bool
  | .ledger, n => Signed64.holds n
  | .memory, _ => true

namespace Session

/-- The links of a session, wherever it keeps them. -/
def linked (s : Session) : List LinkRow :=
  match s.plan.links with
  | .ledger => s.ledger.linkRows
  | .memory => s.notebook.rows

/-- Links can be recorded and looked up: in the notebook at any time, in the ledger if it is there
and open. -/
structure TakesLinks (s : Session) : Prop where
  keyed : s.plan.links = .memory → s.notebook.IsKeyed
  reaches : s.plan.links = .ledger → s.isAt s.epoch = true ∧ s.ledger.IsMade

variable {s t : Session}

theorem linked_of_ledger (h : s.plan.links = .ledger) : s.linked = s.ledger.linkRows := by
  rw [linked, h]

theorem linked_of_memory (h : s.plan.links = .memory) : s.linked = s.notebook.rows := by
  rw [linked, h]

@[simp] theorem notebook_tick (s : Session) : s.tick.notebook = s.notebook := by
  unfold tick
  rfl

theorem linked_congr (hsame : SameSetup s t) (hledger : t.ledger = s.ledger)
    (hnotebook : t.notebook = s.notebook) : t.linked = s.linked := by
  rw [linked, linked, hsame.plan, hledger, hnotebook]

theorem TakesLinks.of_sameSetup (h : s.TakesLinks) (hsame : SameSetup s t)
    (hmade : s.ledger.IsMade → t.ledger.IsMade)
    (hkeyed : s.notebook.IsKeyed → t.notebook.IsKeyed) : t.TakesLinks where
  keyed hlinks := hkeyed (h.keyed (hsame.plan ▸ hlinks))
  reaches hlinks := by
    obtain ⟨hat, hm⟩ := h.reaches (hsame.plan ▸ hlinks)
    rw [hsame.isAt, hsame.epoch]
    exact ⟨hat, hmade hm⟩

/-- A session that can still be asked for links, keeps them where it did, and has some more. -/
structure GainsLinks (rs : List LinkRow) (s t : Session) : Prop where
  takesLinks : t.TakesLinks
  plan : t.plan = s.plan
  linked : ∀ r, r ∈ t.linked ↔ r ∈ s.linked ∨ r ∈ rs

namespace GainsLinks

theorem nil (h : s.TakesLinks) (hsame : SameSetup s t) (hledger : t.ledger = s.ledger)
    (hnotebook : t.notebook = s.notebook) : GainsLinks [] s t where
  takesLinks := h.of_sameSetup hsame (hledger ▸ ·) (hnotebook ▸ ·)
  plan := hsame.plan
  linked r := by
    rw [linked_congr hsame hledger hnotebook]
    exact (or_iff_left List.not_mem_nil).symm

variable {rs qs : List LinkRow} {u : Session}

theorem append (h : GainsLinks rs s t) (k : GainsLinks qs t u) : GainsLinks (rs ++ qs) s u where
  takesLinks := k.takesLinks
  plan := k.plan.trans h.plan
  linked r := by rw [k.linked, h.linked, List.mem_append, or_assoc]

/-- What was gained is all, where there was nothing. -/
theorem mem_linked (h : GainsLinks rs s t) (hnone : s.linked = []) (r : LinkRow) :
    r ∈ t.linked ↔ r ∈ rs := by
  rw [h.linked, hnone]
  exact or_iff_right List.not_mem_nil

end GainsLinks

theorem takesLinks_of_noRows (hledger : s.plan.links = .ledger) (hat : s.isAt s.epoch = true)
    (hm : s.ledger.IsMade) (hrows : s.ledger.linkRows = []) : s.TakesLinks ∧ s.linked = [] := by
  refine ⟨⟨fun h => ?_, fun _ => ⟨hat, hm⟩⟩, (linked_of_ledger hledger).trans hrows⟩
  rw [hledger] at h
  cases h

theorem takesLinks_of_noNotes (hmemory : s.plan.links = .memory) (hempty : s.notebook = []) :
    s.TakesLinks ∧ s.linked = [] := by
  refine ⟨⟨fun _ => ?_, fun h => ?_⟩, ?_⟩
  · rw [hempty]
    exact List.nodup_nil
  · rw [hmemory] at h
    cases h
  · rw [linked_of_memory hmemory, hempty]
    rfl

end Session

namespace Call

open Session SessionM

/-- Whether a call looks something up, or records a link of which columns can hold the numbers. -/
def readsOrLinks : Call → Bool
  | recordLink executionId jobId => Signed64.holds executionId && Signed64.holds jobId
  | c => c.isReading

/-- The link that a call records. -/
def recorded? : Call → Option LinkRow
  | recordLink executionId jobId => some ⟨executionId, jobId⟩
  | _ => none

variable {s : Session}

theorem perform_run_recordLink (s : Session) (e j : Int) :
    (s.perform (recordLink e j).run).2 =
      (s.perform (Session.recordLink s.epoch s.plan.links e j)).2 := by
  have hrun : s.perform (recordLink e j).run =
      s.perform ((Session.recordLink s.epoch s.plan.links e j) >>= fun l => pure (.link l)) := rfl
  rw [hrun, perform_map_snd]

/-- A link that is recorded is one that the session has from then on. -/
theorem run_recordLink_gains (hs : s.TakesLinks) {e j : Int} (he : Signed64.holds e = true)
    (hj : Signed64.holds j = true) : GainsLinks [⟨e, j⟩] s (s.perform (recordLink e j).run).2 := by
  rw [perform_run_recordLink]
  cases hlinks : s.plan.links with
  | ledger =>
    obtain ⟨hat, hm⟩ := hs.reaches hlinks
    obtain ⟨event, heq⟩ := Session.perform_recordLink hat hm he hj
    have hsame := (framed_doing (.link ⟨e, j⟩) event s).toSameSetup
    rw [heq]
    refine ⟨hs.of_sameSetup hsame (fun hm => ?_) id, hsame.plan, fun r => ?_⟩
    · rw [ledger_doing, Deed.apply]
      exact hm.mapLinks _
    · rw [linked_of_ledger (hsame.plan ▸ hlinks), linked_of_ledger hlinks, ledger_doing,
        Deed.apply, hm.linkRows_mapLinks, List.mem_append]
  | memory =>
    have hsame : SameSetup s { s with notebook := s.notebook.record e j } :=
      ⟨rfl, rfl, rfl, rfl, rfl⟩
    rw [Write.perform_recordLink_memory, if_pos rfl]
    refine ⟨hs.of_sameSetup hsame id (·.record e j), rfl, fun r => ?_⟩
    rw [linked_of_memory (hsame.plan ▸ hlinks), linked_of_memory hlinks,
      LinkNotebook.mem_rows_record, List.mem_singleton]

/-- A call that records adds its link to those of its session, and one that looks something up,
whatever it asks for, leaves them as they are. -/
theorem run_gains {c : Call} (hc : c.readsOrLinks = true) (hs : s.TakesLinks) :
    GainsLinks c.recorded?.toList s (s.perform c.run).2 := by
  have reads (hread : c.isReading = true) : GainsLinks [] s (s.perform c.run).2 := by
    obtain ⟨hframed, hledger⟩ := run_isReading hread s
    exact .nil hs hframed.toSameSetup hledger (run_keepsNotebook hread s)
  cases c with
  | recordLink e j =>
    obtain ⟨he, hj⟩ := Bool.and_eq_true_iff.1 hc
    exact run_recordLink_gains hs he hj
  | _ => exact reads hc

/-- What is looked up for a number is answered from the links of the session, wherever it keeps
them. -/
theorem perform_amongLinks {α : Type} (hs : s.TakesLinks) (n : Int) {g : List LinkRow → α}
    {t : Transaction α} {kept : α}
    (ht : ∀ l : Ledger, l.IsMade → t.commit l =
      (if Signed64.holds n then .ok (g l.linkRows) else .error .integerTooLarge, l))
    (hkept : s.plan.links = .memory → kept = g s.notebook.rows) :
    (s.perform (match s.plan.links with
      | .ledger => transact s.epoch t
      | .memory => pure kept)).1 =
      if s.plan.links.holds n then .ok (g s.linked) else .error .integerTooLarge := by
  cases hlinks : s.plan.links with
  | ledger =>
    obtain ⟨hat, hm⟩ := hs.reaches hlinks
    rw [perform_transact hat, ht _ hm, linked_of_ledger hlinks]
    rfl
  | memory =>
    rw [perform_pure, hkept hlinks, linked_of_memory hlinks]
    rfl

/-- The jobs that a session answers are those of its links. -/
theorem perform_jobsOf (hs : s.TakesLinks) (e : Int) :
    (s.perform (jobsOf e).run).1 = if s.plan.links.holds e then
      .ok (.numbers (Link.jobsAmong s.linked e)) else .error .integerTooLarge := by
  rw [run, perform_get_bind, perform_map_fst, Session.jobsOf, perform_get_bind]
  refine (congrArg (Except.map Answer.numbers) (perform_amongLinks hs e (g := (Link.jobsAmong · e))
    (fun _ hm => Link.commit_jobsOf hm e)
    fun hlinks => LinkNotebook.jobsOf_eq (hs.keyed hlinks) e)).trans ?_
  cases s.plan.links.holds e <;> rfl

/-- The execution that a session answers is the least of those that its links have for the job. -/
theorem perform_executionOf (hs : s.TakesLinks) (j : Int) :
    (s.perform (executionOf j).run).1 = if s.plan.links.holds j then
      .ok (.number (Link.executionAmong s.linked j)) else .error .integerTooLarge := by
  rw [run, perform_get_bind, perform_map_fst, Session.executionOf, perform_get_bind]
  refine (congrArg (Except.map Answer.number) (perform_amongLinks hs j
    (g := (Link.executionAmong · j)) (fun _ hm => Link.commit_executionOf hm j)
    fun _ => LinkNotebook.executionOf_eq _ j)).trans ?_
  cases s.plan.links.holds j <;> rfl

end Call

end RunLedger
