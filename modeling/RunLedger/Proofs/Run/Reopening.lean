import RunLedger.Proofs.Run.Locks
import RunLedger.Proofs.Run.Schema
import RunLedger.Proofs.Session.Opening

/-!
# Opening a ledger again

Whatever is done after an opening has made a ledger in a file, through its handle or beside it, the
tables of that ledger stay as they were made, but for their rows.  Opening it again is thus not
refused for the schema, in whatever state of whatever run, and leaves every row as it is.

    c.keepsTables = true → place ≠ .memory → (s.disk.ledgerAt place q).bare = (made q).bare →
      ((s.perform c.run).2.disk.ledgerAt place q).bare = (made q).bare         (Call.keepsMade_run)
    openings_checked : an opening is refused for just what the database lacks; what an opening made
      is opened again in every state of every run
-/

namespace RunLedger

open Session SessionM

/-! ## Deeds keep the tables -/

namespace Ledger

theorem map_withRows {ρ : Type} (f : List ρ → List ρ) (t : Option (Table ρ)) :
    (t.map fun t => t.withRows (f t.rows)).map (·.withRows []) = t.map (·.withRows []) := by
  rw [Option.map_map]
  rfl

@[simp] theorem bare_mapExecutions (f : List ExecutionRow → List ExecutionRow) (l : Ledger) :
    (l.mapExecutions f).bare = l.bare := by
  rw [bare, mapExecutions, map_withRows, bare]

@[simp] theorem bare_mapParameters (f : List ParameterRow → List ParameterRow) (l : Ledger) :
    (l.mapParameters f).bare = l.bare := by
  rw [bare, mapParameters, map_withRows, bare]

@[simp] theorem bare_mapLinks (f : List LinkRow → List LinkRow) (l : Ledger) :
    (l.mapLinks f).bare = l.bare := by
  rw [bare, mapLinks, map_withRows, bare]

@[simp] theorem bare_mapLocks (f : List LockRow → List LockRow) (l : Ledger) :
    (l.mapLocks f).bare = l.bare := by
  rw [bare, mapLocks, map_withRows, bare]

@[simp] theorem bare_withLastId (n : Int) (l : Ledger) : (l.withLastId n).bare = l.bare := rfl

end Ledger

theorem Deed.bare_apply (d : Deed) (l : Ledger) : (d.apply l).bare = l.bare := by
  cases d <;> simp [apply]

theorem DoneIn?.bare {d? : Option Deed} {l m : Ledger} (h : DoneIn? d? l m) : m.bare = l.bare := by
  cases d? with
  | none =>
    have hsame : m = l := h
    rw [hsame]
  | some d =>
    obtain ⟨-, rfl⟩ : d.DoneIn l m := h
    exact d.bare_apply l

/-- The ledger of a prefix at a place has its tables as the ledger makes them, with whatever rows. -/
def Disk.KeepsMade (d : Disk) (place : Location) (p : String) : Prop :=
  (d.ledgerAt place p).bare = (Ledger.made p).bare

theorem Disk.KeepsMade.isMade {d : Disk} {place : Location} {p : String}
    (h : d.KeepsMade place p) : (d.ledgerAt place p).IsMade := (Ledger.IsMade.made p).congr h

theorem Ledger.isComplete_made (p : String) : (Ledger.made p).IsComplete := by
  intro role column hcolumn
  rw [Ledger.hasColumn, Ledger.shape?_of_bare rfl]
  exact List.any_eq_true.2 ⟨column, hcolumn, by simp⟩

/-! ## Calls -/

namespace Call

/-- Whether a call drops no table. -/
def keepsTables : Call → Bool
  | dropTable _ => false
  | _ => true

variable {s : Session} {place : Location} {p : String}

/-- A call through the handle leaves all ledgers but its own, or all of them. -/
theorem framed_run {c : Call} (hc : c.usesHandle = true) (s : Session) :
    Framed s (s.perform c.run).2 ∨ (s.perform c.run).2.disk = s.disk := by
  have hwrite : ∀ w, c.write? s = some w → Framed s (s.perform c.run).2 := by
    intro w hw
    rw [perform_run_of_write hw]
    exact Write.run_isFramed s.epoch w s
  cases c with
  | create | start | complete | setExternalId | recordLink => exact .inl (hwrite _ rfl)
  | acquire lock taskName other =>
    rcases acquire_cases lock taskName other s with ⟨w, hw⟩ | ⟨-, hsame⟩
    · exact .inl (hwrite w hw)
    · exact .inr (congrArg Session.disk hsame)
  | release lock taskName =>
    rcases release_cases lock taskName s with ⟨w, hw⟩ | ⟨-, hsame⟩
    · exact .inl (hwrite w hw)
    · exact .inr (congrArg Session.disk hsame)
  | insertRow row =>
    have hframed : IsFramed (run (insertRow row)) :=
      .bind IsReading.get.isFramed fun _ => .map (.transact _ _) _
    exact .inl (hframed s)
  | setClock | close => exact .inr rfl
  | reopen | dropTable | command => cases hc
  | _ => exact .inl (run_isReading rfl s).1

theorem keepsMade_of_framed {t : Session} (hframed : Framed s t)
    (hbare : s.ledger.IsComplete → t.ledger.bare = s.ledger.bare)
    (h : s.disk.KeepsMade place p) : t.disk.KeepsMade place p := by
  by_cases hleads : s.leadsTo place p
  · have hledger := ledger_of_leadsTo hleads (SameSetup.refl s)
    rw [Disk.KeepsMade, hledger] at h
    rw [Disk.KeepsMade, ledger_of_leadsTo hleads hframed.toSameSetup, hbare ?_]
    · exact h
    · exact (Ledger.isComplete_made p).congr h
  · rw [Disk.KeepsMade, hframed.elsewhere place p hleads]
    exact h

theorem disk_reopen (s : Session) (o : Opening) :
    (s.perform (run (reopen o))).2.disk = (openHandle s.disk s.plan.url o).2 := by
  have hclose : s.perform Session.close =
      (.ok (), { s with handle := { s.handle with isOpen := false } }) := rfl
  have hreopen : (s.perform (Session.reopen o)).2.disk = (openHandle s.disk s.plan.url o).2 := by
    unfold Session.reopen
    rw [perform_bind_of_ok hclose, perform_get_bind]
    rcases openHandle s.disk s.plan.url o with ⟨f | handle, d⟩ <;> rfl
  rw [run, perform_get_bind]
  dsimp only
  rw [perform_bind, ← hreopen]
  rcases s.perform (Session.reopen o) with ⟨f | v, t⟩ <;> rfl

/-- A call that drops no table leaves the tables of a ledger that was made in a file. -/
theorem keepsMade_run {c : Call} (hc : c.keepsTables = true) (hfile : place ≠ .memory)
    (h : s.disk.KeepsMade place p) : (s.perform c.run).2.disk.KeepsMade place p := by
  -- a call through the handle may be about this ledger or about another one
  have hhandle : c.usesHandle = true → (s.perform c.run).2.disk.KeepsMade place p := by
    intro hc
    rcases framed_run hc s with hframed | hsame
    · exact keepsMade_of_framed hframed (fun hl => (serves_run hl hc).bare) h
    · rw [hsame]
      exact h
  cases c with
  | command settings arguments => exact (command_doneIn settings arguments h.isMade).bare.trans h
  | reopen o =>
    rw [Disk.KeepsMade, disk_reopen, openHandle_ledgerAt _ o hfile h.isMade]
    exact h
  | dropTable => cases hc
  | _ => exact hhandle rfl

end Call

/-! ## Runs -/

section
variable {s : Session} {place : Location} {p : String}

theorem Move.keepsMade_run {m : Move} (hm : m.allows Call.keepsTables = true)
    (hfile : place ≠ .memory) (h : s.disk.KeepsMade place p) :
    (m.run s).disk.KeepsMade place p := by
  cases m with
  | tick =>
    have hsame : s.tick.disk = s.disk := by
      unfold Session.tick
      rfl
    rw [run, hsame]
    exact h
  | attempt | remark => exact h
  | call c => exact Call.keepsMade_run hm hfile h
  | write epoch w =>
    exact Call.keepsMade_of_framed (Write.run_isFramed epoch w s)
      (fun hl => (Write.serves_run hl epoch w).bare) h

theorem Move.keepsMade_runAll {ms : List Move} (hms : ∀ m ∈ ms, m.allows Call.keepsTables = true)
    (hfile : place ≠ .memory) (h : s.disk.KeepsMade place p) :
    (runAll ms s).disk.KeepsMade place p :=
  runAll_induction (P := fun t => t.disk.KeepsMade place p)
    (fun m hm _ ht => keepsMade_run (hms m hm) hfile ht) h

theorem Step.Passes.keepsMade {steps : List Step} {u : Session} {ds : List Deed}
    (hu : Step.Passes steps s u ds)
    (hsteps : ∀ step ∈ steps, step.callsAll Call.keepsTables = true) (hfile : place ≠ .memory)
    (h : s.disk.KeepsMade place p) : u.disk.KeepsMade place p := by
  obtain ⟨ms, rest, hsplit, rfl, -⟩ := hu.split
  refine Move.keepsMade_runAll (fun m hm => ?_) hfile h
  exact Step.movesOfAll_allow hsteps s m (hsplit ▸ List.mem_append_left rest hm)

end

namespace Session

/-- What an opening makes in an empty file is the ledger of its prefix. -/
theorem keepsMade_of_fresh {plan : Plan} {clock : Timestamp} {disk d : Disk} {o : Opening}
    {s : Session} (hfresh : fresh plan clock disk o = (.ok s, d)) (hcreate : o.createTables = true)
    (hfile : s.handle.place ≠ .memory) (hempty : disk.get s.handle.place = .empty) :
    s.disk.KeepsMade s.handle.place o.tablePrefix := by
  obtain ⟨-, hprefix⟩ := locate_of_fresh hfresh
  have hledger := ledger_of_fresh hfresh hcreate ((if_neg hfile).trans hempty)
  rw [← hprefix]
  exact congrArg Ledger.bare hledger

/-- Where a URL leads to an embedded database, and no dialect is declared that there is not, opening
the ledger of a prefix is refused for the schema just where the database lacks something of it.  The
refusal tells of the missing tables, in order, and of the missing columns, as the list of what is
required has them, and leaves every database as it is.  What an opening made in an empty file is
opened again, tables to be made or not, in every state that a run passes through which drops no
table and puts no settings in place of the file; and every database stays as it is. -/
theorem openings_checked :
    (∀ (disk : Disk) (url : String) (o : Opening) (place : Location),
      locate disk url = .ok place → (∀ choice ∈ o.dialect, ∃ d, choice.resolve = .ok d) →
        (content disk place).IsNamed →
          ((∃ f, (openHandle disk url o).1 = .error f ∧ f.kind = .schemaMismatch) ↔
            (content disk place).LacksSchema o.tablePrefix) ∧
          ∀ f, (openHandle disk url o).1 = .error f → f.kind = .schemaMismatch →
            f = .schemaOutdated ⟨(content disk place).missingTables o.tablePrefix,
              (content disk place).missingColumns o.tablePrefix⟩ url ∧
            f.message = SchemaGap.message ⟨(content disk place).missingTables o.tablePrefix,
              (content disk place).missingColumns o.tablePrefix⟩ url ∧
            ((content disk place).missingTables o.tablePrefix).Pairwise (· < ·) ∧
            ∀ q, (openHandle disk url o).2.get q = disk.get q) ∧
    (∀ (plan : Plan) (clock : Timestamp) (disk d : Disk) (o : Opening) (s : Session),
      fresh plan clock disk o = (.ok s, d) → o.createTables = true → s.handle.place ≠ .memory →
        disk.get s.handle.place = .empty → ∀ steps : List Step,
          (∀ step ∈ steps, step.callsAll Call.keepsTables = true) → ∀ u ds,
            Step.Passes steps s u ds → u.disk.keepsSettings s.handle.place = false →
              locate u.disk plan.url = .ok s.handle.place ∧
              ∀ (url : String) (again : Opening), locate u.disk url = .ok s.handle.place →
                again.tablePrefix = o.tablePrefix →
                  (∀ choice ∈ again.dialect, ∃ d, choice.resolve = .ok d) →
                    ∃ handle after, openHandle u.disk url again = (.ok handle, after) ∧
                      handle.place = s.handle.place ∧ handle.tablePrefix = o.tablePrefix ∧
                      handle.isOpen = true ∧ ∀ q, after.get q = u.disk.get q) := by
  constructor
  · intro disk url o place hplace hdialect hnamed
    have hiff := openHandle_mismatch_iff hplace hdialect hnamed
    refine ⟨hiff, fun f hf hkind => ?_⟩
    obtain ⟨hrefused, hsame⟩ :=
      openHandle_of_lacks hplace hdialect hnamed (hiff.1 ⟨f, hf, hkind⟩)
    obtain rfl := Except.error.inj (hf.symm.trans hrefused)
    exact ⟨rfl, rfl, Database.pairwise_missingTables _ _, hsame⟩
  · intro plan clock disk d o s hfresh hcreate hfile hempty steps hsteps u ds hu hkeeps
    obtain ⟨hlocate, -⟩ := locate_of_fresh hfresh
    have hmade := keepsMade_of_fresh hfresh hcreate hfile hempty
    refine ⟨locate_of_keepsSettings hlocate hkeeps, fun url again hurl hagain hdialect => ?_⟩
    rw [← hagain] at hmade ⊢
    exact openHandle_of_made hurl hfile hdialect (hu.keepsMade hsteps hfile hmade)

/-- A database with one table of a ledger, as it was once made, and one of something else. -/
def madeLongAgo : Database :=
  (Database.empty.addForeign "task_execution" ["task_execution_id", "task_name"]).addForeign
    "jobs" ["id"]

/-- A ledger of one table that lacks its newer columns is refused.  One that an opening made is
opened again without making tables, after an execution was created and the handle closed. -/
theorem openings_checked_cases :
    (openHandle ⟨[(.file "db", madeLongAgo)], []⟩ filePlan.url Opening.default).1 =
        .error (.schemaOutdated ⟨["task_execution_params", "task_lock", "task_task_batch"],
          [("task_execution", "last_updated"), ("task_execution", "external_execution_id"),
            ("task_execution", "parent_execution_id"), ("task_execution", "error_message")]⟩
          filePlan.url) ∧
      ∃ s d, fresh filePlan Instant.first.toUtc ⟨[(.file "db", .empty)], []⟩ Opening.default =
          (.ok s, d) ∧
        let u := (Step.runAll [.call (.create (some "t") none none), .call .close] s).2
        (u.disk.ledgerAt (.file "db") "task_").lastId = 1 ∧
        ∃ handle after, openHandle u.disk filePlan.url ⟨"task_", none, false⟩ =
          (.ok handle, after) ∧ ∀ q, after.get q = u.disk.get q := by
  obtain ⟨hchecked, hreopened⟩ := openings_checked
  constructor
  · have hplace := locate_of_target (target_filePlan madeLongAgo)
    have hcontent : content ⟨[(.file "db", madeLongAgo)], []⟩ (.file "db") = madeLongAgo := rfl
    have hchecked := hchecked _ _ Opening.default _ hplace nofun
    rw [hcontent] at hchecked
    obtain ⟨hiff, hrefused⟩ := hchecked ((Database.IsNamed.empty.addForeign _ _).addForeign _ _)
    have hlacks : madeLongAgo.LacksSchema "task_" :=
      .inl ⟨⟨.executions, by decide +kernel⟩, .locks, by decide +kernel⟩
    obtain ⟨f, hf, hkind⟩ := hiff.2 hlacks
    have htables : madeLongAgo.missingTables "task_" =
      ["task_execution_params", "task_lock", "task_task_batch"] := by decide +kernel
    have hcolumns : madeLongAgo.missingColumns "task_" =
      [("task_execution", "last_updated"), ("task_execution", "external_execution_id"),
        ("task_execution", "parent_execution_id"), ("task_execution", "error_message")] := by
      decide +kernel
    rw [hf, (hrefused f hf hkind).1, Opening.default, defaultTablePrefix, htables, hcolumns]
  · have hopen : Database.empty.openLedger filePlan.url "task_" true =
        (.ok (), ⟨[("task_", Ledger.made "task_")], []⟩) := rfl
    have hfresh : fresh filePlan Instant.first.toUtc _ Opening.default = _ :=
      fresh_of_target (target_filePlan .empty) hopen
    refine ⟨_, _, hfresh, ?_⟩
    intro u
    refine ⟨by decide +kernel, ?_⟩
    obtain ⟨hlocate, hagain⟩ := hreopened _ _ _ _ _ _ hfresh rfl nofun rfl
      [.call (.create (some "t") none none), .call .close] (by decide) u _
      ⟨_, [], (List.append_nil _).symm, (Step.runAll_movesOfAll _ _).symm, rfl⟩ rfl
    obtain ⟨handle, after, hhandle, -, -, -, hsame⟩ :=
      hagain filePlan.url ⟨"task_", none, false⟩ hlocate rfl nofun
    exact ⟨handle, after, hhandle, hsame⟩

end Session

end RunLedger
