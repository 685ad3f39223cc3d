import RunLedger.Logging.Line
import RunLedger.Proofs.Logging.Lineage
import RunLedger.Proofs.Settings.Entries

/-!
# What configured loggers print

Configuring once more leaves nothing of what was configured before, so that only the last call
counts.  From then on a logger's threshold is told by its name: it is that of the quiet loggers at
and below them, a warning at and below the library's own logger elsewhere, and the level asked for
everywhere else.  An event is printed once if it reaches its logger's threshold, and else not at
all; a console, though, prints no event of which the stack or the exception is not a text.  A stack
that is asked for, and the error that an event is logged with, are texts.

    (ls.configure s).configure t = ls.configure t                             (configure_configure)
    ls.IsSetTo level → ls.threshold name = thresholdOf level ls.asked name      (IsSetTo.threshold)
-/

namespace RunLedger

/-! ## Events on a console -/

/-- Whether the field of a key holds a text, if anything. -/
def LogEvent.HoldsText (e : LogEvent) (key : String) : Prop :=
  ∀ v, e.fields.lookup key = some v → v = .null ∨ ∃ s, v = .text s

/-- Whether the fields of an event for a stack and an exception hold texts, if anything, unless the
texts of the stack or of an error stand in their place. -/
structure LogEvent.ShowsOnConsole (e : LogEvent) : Prop where
  stack : e.asksForStack = true ∨ e.HoldsText LogEvent.stackKey
  exception : e.error.isSome = true ∨ e.HoldsText LogEvent.exceptionKey

namespace LogEvent

variable {e : LogEvent} {key : String}

theorem lookup_shownFields (hkey : hiddenKeys.contains key = false) :
    e.shownFields.lookup key = e.fields.lookup key :=
  lookup_under (p := fun k => !hiddenKeys.contains k) (by rw [hkey]; rfl) e.fields

/-- The stack takes the place of a field of its key. -/
theorem lookup_stackKey : (e.putTexts e.shownFields).lookup stackKey =
    if e.asksForStack = true then some (.text stackMark) else e.fields.lookup stackKey := by
  have hshown : e.shownFields.lookup stackKey = e.fields.lookup stackKey :=
    lookup_shownFields (by decide)
  have hne : stackKey ≠ exceptionKey := by decide
  unfold putTexts
  by_cases hstack : e.asksForStack = true
  · cases e.error <;> simp [hstack, lookup_putEntry_self, lookup_putEntry_of_ne hne]
  · cases e.error <;> simp [hstack, hshown, lookup_putEntry_of_ne hne]

/-- The error takes the place of a field of its key. -/
theorem lookup_exceptionKey : (e.putTexts e.shownFields).lookup exceptionKey =
    match e.error with
    | some s => some (.text s)
    | none => e.fields.lookup exceptionKey := by
  have hshown : e.shownFields.lookup exceptionKey = e.fields.lookup exceptionKey :=
    lookup_shownFields (by decide)
  have hne : exceptionKey ≠ stackKey := by decide
  unfold putTexts
  cases e.error with
  | some s => exact lookup_putEntry_self exceptionKey _ _
  | none =>
    by_cases hstack : e.asksForStack = true
    · simp [hstack, hshown, lookup_putEntry_of_ne hne]
    · simp [hstack, hshown]

theorem isSome_block?_iff {found : Option Value}
    (hfound : (e.putTexts e.shownFields).lookup key = found) :
    (e.block? key).isSome = true ↔ ∀ v, found = some v → v = .null ∨ ∃ s, v = .text s := by
  rw [block?, hfound]
  cases found with
  | none => simp
  | some v => cases v <;> simp

theorem isSome_consoleText? : e.consoleText?.isSome = true ↔ e.ShowsOnConsole := by
  have hblocks : e.consoleText?.isSome =
      ((e.block? stackKey).isSome && (e.block? exceptionKey).isSome) := by
    unfold consoleText?
    cases e.block? stackKey with
    | none => rfl
    | some stack => cases e.block? exceptionKey <;> rfl
  have hstack : (e.block? stackKey).isSome = true ↔
      e.asksForStack = true ∨ e.HoldsText stackKey := by
    rw [isSome_block?_iff lookup_stackKey]
    by_cases hasks : e.asksForStack = true
    · simp [hasks]
    · simp [hasks, HoldsText]
  have hexception : (e.block? exceptionKey).isSome = true ↔
      e.error.isSome = true ∨ e.HoldsText exceptionKey := by
    rw [isSome_block?_iff lookup_exceptionKey]
    cases e.error with
    | some s => simp
    | none => simp [HoldsText]
  rw [hblocks, Bool.and_eq_true, hstack, hexception]
  exact ⟨fun h => ⟨h.1, h.2⟩, fun h => ⟨h.stack, h.exception⟩⟩

/-- A stack that is asked for stands in the place of a number. -/
example : (of "e" .info [("stack", .int 1), ("stack_info", .bool true)]).consoleText? =
    some "<TS> [info     ] e\n<STACK>" := by decide +kernel

end LogEvent

namespace Loggers

/-! ## Configuring again -/

section
variable {names : List String} {key : String} {l m : LogLevel} {levels : List (String × LogLevel)}

theorem setLevels_cons (name : String) (names : List String) (l : LogLevel)
    (levels : List (String × LogLevel)) :
    setLevels (name :: names) l levels = setLevels names l (putEntry name l levels) := rfl

theorem putEntry_setLevels (hkey : key ∉ names) (hset : key ∈ levels.map Prod.fst) :
    putEntry key l (setLevels names m levels) = setLevels names m (putEntry key l levels) := by
  induction names generalizing levels with
  | nil => rfl
  | cons name names ih =>
    rw [List.mem_cons, not_or] at hkey
    -- a key that is there already keeps its place, so that levels can be set in either order
    rw [setLevels_cons, ih hkey.2 (mem_keys_putEntry_of_mem hset), putEntry_comm hkey.1 hset,
      setLevels_cons]

/-- Levels that are set again for the same names are as if set once. -/
theorem setLevels_setLevels (hnames : names.Nodup) :
    setLevels names l (setLevels names m levels) = setLevels names l levels := by
  induction names generalizing levels with
  | nil => rfl
  | cons name names ih =>
    obtain ⟨hname, hnames⟩ := List.nodup_cons.1 hnames
    rw [setLevels_cons name names m, setLevels_cons, putEntry_setLevels hname (mem_keys_putEntry _),
      putEntry_putEntry_self, ih hnames, setLevels_cons]

theorem lookup_setLevels : (setLevels names l levels).lookup key =
    if key ∈ names then some l else levels.lookup key := by
  induction names generalizing levels with
  | nil => rfl
  | cons name names ih =>
    rw [setLevels_cons, ih]
    by_cases hkey : key = name
    · subst hkey
      simp [lookup_putEntry_self]
    · rw [lookup_putEntry_of_ne hkey]
      simp [hkey]

end

/-- Configuring once more leaves nothing of what was configured before. -/
theorem configure_configure (s t : LogSetup) (ls : Loggers) :
    (ls.configure s).configure t = ls.configure t := by
  have hlevels : setLevels quietLoggers (t.level.atLeast .warning)
      (setLevels quietLoggers (s.level.atLeast .warning) ls.levels) =
      setLevels quietLoggers (t.level.atLeast .warning) ls.levels :=
    setLevels_setLevels (by decide)
  rw [configure, configure, hlevels]
  rfl

theorem exists_ofName? {level : String} (json : Bool)
    (h : Text.uppered level ∈ LogLevel.thresholds.map LogLevel.name) :
    ∃ l, l.name = Text.uppered level ∧ LogSetup.ofName? json level = some ⟨json, l⟩ := by
  obtain ⟨l, hl, hname⟩ := List.mem_map.1 h
  refine ⟨l, hname, ?_⟩
  rw [LogSetup.ofName?, LogLevel.ofName?_eq_some_iff.2 ⟨hl, hname⟩]
  rfl

theorem configureNamed_ok {json : Bool} {level : String} {s : LogSetup}
    (h : LogSetup.ofName? json level = some s) (ls : Loggers) :
    ls.configureNamed json level = .ok (ls.configure s) := by
  rw [configureNamed, h]

theorem configureAll_cons (call : Bool × String) (calls : List (Bool × String)) (ls : Loggers) :
    ls.configureAll (call :: calls) =
      (ls.configureNamed call.1 call.2).bind fun ls => ls.configureAll calls := rfl

theorem configureAll_singleton {json : Bool} {level : String} {s : LogSetup}
    (hs : LogSetup.ofName? json level = some s) (ls : Loggers) :
    ls.configureAll [(json, level)] = .ok (ls.configure s) := by
  rw [configureAll_cons, configureNamed_ok hs]
  rfl

/-- Of calls that ask for levels that there are, the last one alone counts. -/
theorem configureAll_append {calls : List (Bool × String)}
    (hcalls : ∀ call ∈ calls, Text.uppered call.2 ∈ LogLevel.thresholds.map LogLevel.name)
    {json : Bool} {level : String} {s : LogSetup} (hs : LogSetup.ofName? json level = some s)
    (ls : Loggers) : ls.configureAll (calls ++ [(json, level)]) = .ok (ls.configure s) := by
  -- each call goes through, and what it sets is set anew by the next one
  induction calls generalizing ls with
  | nil => exact configureAll_singleton hs ls
  | cons call calls ih =>
    obtain ⟨l, -, hl⟩ := exists_ofName? call.1 (hcalls call List.mem_cons_self)
    rw [List.cons_append, configureAll_cons, configureNamed_ok hl, Except.bind,
      ih (fun c hc => hcalls c (List.mem_cons_of_mem _ hc)), configure_configure]

/-! ## Thresholds -/

/-- The threshold of a logger where a level is asked for. -/
def thresholdOf (level : LogLevel) (asked : List String) (name : String) : LogLevel :=
  if quietLoggers.any fun quiet => quiet == name || below asked quiet name then
    level.atLeast .warning
  else if libraryLogger == name || below asked libraryLogger name then .warning
  else level

/-- The levels that are set where a level is asked for. -/
structure IsSetTo (level : LogLevel) (ls : Loggers) : Prop where
  rootLevel : ls.rootLevel = level
  levels : ∀ name, ls.levels.lookup name =
    if name ∈ quietLoggers then some (level.atLeast .warning)
    else if name = libraryLogger then some .warning
    else none

theorem isSetTo_configure (s : LogSetup) : IsSetTo s.level (initial.configure s) where
  rootLevel := rfl
  levels name := by
    rw [configure, lookup_setLevels, initial, List.lookup_cons]
    by_cases hname : name = libraryLogger
    · simp [hname]
    · have hne : (name == libraryLogger) = false := by simpa using hname
      simp [hname, hne]

section
variable {level : LogLevel} {ls : Loggers} {name : String}

/-- The loggers once events came from some of them. -/
def askAll (names : List String) (ls : Loggers) : Loggers := { ls with asked := ls.asked ++ names }

theorem IsSetTo.askAll (h : IsSetTo level ls) (names : List String) :
    IsSetTo level (ls.askAll names) :=
  ⟨h.rootLevel, h.levels⟩

theorem ne_empty_of_mem_quietLoggers {quiet : String} (h : quiet ∈ quietLoggers) : quiet ≠ "" := by
  rintro rfl
  exact absurd h (by decide)

theorem length_libraryLogger_lt {quiet : String} (h : quiet ∈ quietLoggers) :
    libraryLogger.length < quiet.length := by
  revert quiet
  decide

theorem any_quiet_iff {asked : List String} :
    (quietLoggers.any fun quiet => quiet == name || below asked quiet name) = true ↔
      ∃ quiet ∈ quietLoggers, quiet ∈ lineage asked name := by
  rw [List.any_eq_true]
  refine exists_congr fun quiet => and_congr_right fun hquiet => ?_
  rw [mem_lineage_iff (ne_empty_of_mem_quietLoggers hquiet), Bool.or_eq_true, beq_iff_eq]

theorem library_iff {asked : List String} :
    (libraryLogger == name || below asked libraryLogger name) = true ↔
      libraryLogger ∈ lineage asked name := by
  rw [mem_lineage_iff (by decide), Bool.or_eq_true, beq_iff_eq]

/-- A quiet logger's name is longer than the library's, so it does not come later in a lineage. -/
theorem not_quiet_of_farther {asked : List String} {nearer farther : List String}
    (h : lineage asked name = nearer ++ libraryLogger :: farther) :
    ∀ quiet ∈ quietLoggers, quiet ∉ farther := by
  intro quiet hquiet hmem
  have hsorted := pairwise_lineage asked name
  rw [h, List.pairwise_append, List.pairwise_cons] at hsorted
  have hlt := hsorted.2.1.1 quiet hmem
  exact Nat.lt_asymm (length_libraryLogger_lt hquiet) hlt

theorem IsSetTo.lookup_quiet (h : IsSetTo level ls) {quiet : String}
    (hquiet : quiet ∈ quietLoggers) :
    ls.levels.lookup quiet = some (level.atLeast .warning) := by
  rw [h.levels, if_pos hquiet]

theorem IsSetTo.lookup_library (h : IsSetTo level ls) :
    ls.levels.lookup libraryLogger = some .warning := by
  rw [h.levels, if_neg (by decide), if_pos rfl]

theorem IsSetTo.of_lookup (h : IsSetTo level ls) {l : LogLevel}
    (hset : ls.levels.lookup name = some l) :
    (name ∈ quietLoggers ∧ l = level.atLeast .warning) ∨ (name = libraryLogger ∧ l = .warning) := by
  rw [h.levels] at hset
  split at hset
  · next hquiet => exact .inl ⟨hquiet, (Option.some.inj hset).symm⟩
  · split at hset
    · next hlibrary => exact .inr ⟨hlibrary, (Option.some.inj hset).symm⟩
    · cases hset

/-- A logger's threshold is told by its name. -/
theorem IsSetTo.threshold (h : IsSetTo level ls) :
    ls.threshold name = thresholdOf level ls.asked name := by
  unfold Loggers.threshold thresholdOf
  simp only [any_quiet_iff, library_iff]
  cases hfound : (lineage ls.asked name).findSome? fun name => ls.levels.lookup name with
  | none =>
    -- nothing above the logger is set, so neither a quiet logger nor the library's is there
    have hunset := List.findSome?_eq_none_iff.1 hfound
    have hquiet : ¬ ∃ quiet ∈ quietLoggers, quiet ∈ lineage ls.asked name := by
      rintro ⟨quiet, hquiet, hmem⟩
      exact Option.some_ne_none _ ((h.lookup_quiet hquiet).symm.trans (hunset quiet hmem))
    have hlibrary : libraryLogger ∉ lineage ls.asked name := fun hmem =>
      Option.some_ne_none _ (h.lookup_library.symm.trans (hunset _ hmem))
    rw [if_neg hquiet, if_neg hlibrary, Option.getD_none, h.rootLevel]
  | some l =>
    obtain ⟨nearer, set, farther, hlineage, hset, hunset⟩ := List.findSome?_eq_some_iff.1 hfound
    have hmem : set ∈ lineage ls.asked name := by
      rw [hlineage]
      exact List.mem_append_right _ List.mem_cons_self
    rw [Option.getD_some]
    rcases h.of_lookup hset with ⟨hquiet, rfl⟩ | ⟨rfl, rfl⟩
    · rw [if_pos ⟨set, hquiet, hmem⟩]
    · -- a quiet logger would have been found before
      have hnone : ¬ ∃ quiet ∈ quietLoggers, quiet ∈ lineage ls.asked name := by
        rintro ⟨quiet, hquiet, hin⟩
        rw [hlineage, List.mem_append, List.mem_cons] at hin
        rcases hin with hnearer | rfl | hfarther
        · exact Option.some_ne_none _ ((h.lookup_quiet hquiet).symm.trans (hunset quiet hnearer))
        · exact absurd hquiet (by decide)
        · exact not_quiet_of_farther hlineage quiet hquiet hfarther
      rw [if_neg hnone, if_pos hmem]

end

/-! ## Events -/

section
variable {level : LogLevel} {ls : Loggers} {logger : String} {e : LogEvent} {o : LogOutput}

theorem length_printed (events : List (String × LogEvent)) (ls : Loggers) :
    (ls.printed events).length = events.length := by
  induction events generalizing ls with
  | nil => rfl
  | cons event events ih => rw [printed, List.length_cons, ih, List.length_cons]

theorem askAll_ask (names : List String) (ls : Loggers) :
    (ls.ask logger).askAll names = ls.askAll (logger :: names) := by
  rw [askAll, ask, askAll, List.append_assoc]
  rfl

/-- An event is printed by the loggers as they were configured, asked for by the events before. -/
theorem getElem?_printed (before after : List (String × LogEvent)) (ls : Loggers) :
    (ls.printed (before ++ (logger, e) :: after))[before.length]? =
      some ((ls.askAll (before.map Prod.fst)).texts logger e) := by
  induction before generalizing ls with
  | nil =>
    have hself : ls.askAll [] = ls := by rw [askAll, List.append_nil]
    rw [List.nil_append, printed, List.map_nil, hself]
    rfl
  | cons event before ih =>
    rw [List.cons_append, printed, List.length_cons, List.getElem?_cons_succ, ih, askAll_ask,
      List.map_cons]

theorem texts_of_outputs (h : ls.outputs = [o]) :
    ls.texts logger e = if ls.prints logger e.level then (o.text? e).toList else [] := by
  rw [texts, h]
  split
  · cases hshown : o.text? e <;> simp [hshown]
  · rfl

theorem length_texts_le (h : ls.outputs = [o]) : (ls.texts logger e).length ≤ 1 := by
  rw [texts_of_outputs h]
  split
  · exact Option.length_toList_le
  · exact Nat.zero_le 1

theorem texts_ne_nil_iff (h : ls.outputs = [o]) :
    ls.texts logger e ≠ [] ↔ ls.prints logger e.level = true ∧ (o.text? e).isSome = true := by
  rw [texts_of_outputs h]
  cases ls.prints logger e.level <;> cases o.text? e <;> simp

theorem isSome_text? (json : Bool) :
    ((if json then LogOutput.json else .console).text? e).isSome = true ↔
      json = true ∨ e.ShowsOnConsole := by
  cases json with
  | true => exact iff_of_true rfl (.inl rfl)
  | false =>
    rw [← LogEvent.isSome_consoleText?, or_iff_right nofun]
    rfl

/-- The library's logger and all below it, the quiet ones among them, have a threshold of at least a
warning. -/
theorem warning_le_thresholdOf {asked : List String} (level : LogLevel)
    (h : ∃ base ∈ libraryLogger :: quietLoggers, base = logger ∨ below asked base logger = true) :
    LogLevel.warning.rank ≤ (thresholdOf level asked logger).rank := by
  obtain ⟨base, hbase, hlogger⟩ := h
  have hmet : (base == logger || below asked base logger) = true := by
    rwa [Bool.or_eq_true, beq_iff_eq]
  unfold thresholdOf
  split
  · cases level <;> decide
  · next hnone =>
    rcases List.mem_cons.1 hbase with rfl | hquiet
    · rw [if_pos hmet]
    · exact absurd (List.any_eq_true.2 ⟨base, hquiet, hmet⟩) hnone

end

/-- After any calls that ask for levels that there are, the last call alone counts, and there is one
output.  Then an event is printed once if it reaches the threshold of its logger's name and the
output can show it, and else not at all.  Nothing below a warning is printed of the library's
loggers.  A name in which no two dots stand side by side lies below another one if it goes on behind
it with a dot; any name does if the dots that it goes on with are odd in number, as long as no event
came before from a logger whose name is that other one with dots behind it. -/
theorem printed_configured (calls : List (Bool × String)) (json : Bool) (name : String)
    (hcalls : ∀ call ∈ calls, Text.uppered call.2 ∈ LogLevel.thresholds.map LogLevel.name)
    (hname : Text.uppered name ∈ LogLevel.thresholds.map LogLevel.name) :
    ∃ level ls, level.name = Text.uppered name ∧
      initial.configureAll (calls ++ [(json, name)]) = .ok ls ∧
      initial.configureAll [(json, name)] = .ok ls ∧ ls.outputs.length = 1 ∧
      (∀ events, (ls.printed events).length = events.length) ∧
      ∀ before logger e after, ∃ texts,
        (ls.printed (before ++ (logger, e) :: after))[before.length]? = some texts ∧
        texts.length ≤ 1 ∧
        (texts ≠ [] ↔
          (thresholdOf level (before.map Prod.fst) logger).rank ≤ e.level.rank ∧
            (json = true ∨ e.ShowsOnConsole)) ∧
        ((∃ base ∈ libraryLogger :: quietLoggers,
            base = logger ∨ below (before.map Prod.fst) base logger = true) →
          e.level.rank < LogLevel.warning.rank → texts = []) ∧
        (¬ ['.', '.'] <:+: logger.toList → ∀ base,
          below (before.map Prod.fst) base logger = true ↔
            ∃ rest, logger = base ++ "." ++ rest) ∧
        ∀ base, (∀ n, dotted base (n + 1) ∉ before.map Prod.fst) →
          (below (before.map Prod.fst) base logger = true ↔
            ∃ n rest, logger = dotted base n ++ rest ∧ rest.toList.head? ≠ some '.' ∧
              n % 2 = 1) := by
  obtain ⟨level, hlevel, hsetup⟩ := exists_ofName? json hname
  refine ⟨level, initial.configure ⟨json, level⟩, hlevel, configureAll_append hcalls hsetup initial,
    configureAll_singleton hsetup initial, rfl, fun events => length_printed events _, ?_⟩
  intro before logger e after
  have hset := (isSetTo_configure ⟨json, level⟩).askAll (before.map Prod.fst)
  have hthreshold : ((initial.configure ⟨json, level⟩).askAll (before.map Prod.fst)).threshold
      logger = thresholdOf level (before.map Prod.fst) logger := hset.threshold
  have hprinted : ((initial.configure ⟨json, level⟩).askAll (before.map Prod.fst)).texts logger e ≠
      [] ↔ (thresholdOf level (before.map Prod.fst) logger).rank ≤ e.level.rank ∧
        (json = true ∨ e.ShowsOnConsole) := by
    rw [texts_ne_nil_iff rfl, prints, hthreshold, decide_eq_true_eq, isSome_text?]
  refine ⟨_, getElem?_printed before after _, length_texts_le rfl, hprinted, ?_,
    fun hspaced base => below_iff_of_spaced hspaced, fun base => below_iff_of_notMem⟩
  intro hlibrary hless
  -- what is printed reaches the threshold, which is a warning at least
  by_contra hne
  have hreaches := (hprinted.1 hne).1
  have hwarning := warning_le_thresholdOf level hlibrary
  omega

theorem printed_configured_twice :
    let debug : LogEvent := .of "q" .debug []
    let info : LogEvent := .of "q" .info []
    ∃ ls, initial.configureAll [(true, "warning"), (false, "Debug")] = .ok ls ∧
      (ls.printed [("a.b", debug), ("sqlalchemy.engine.Engine", info)])[1]? = some [] ∧
      ∃ texts, (ls.printed [("a.b", debug)])[0]? = some texts ∧ texts ≠ [] := by
  intro debug info
  obtain ⟨level, ls, hlevel, hls, -, -, -, hprinted⟩ :=
    printed_configured [(true, "warning")] false "Debug" (by decide +kernel) (by decide +kernel)
  have hdebug : level = .debug := by
    have hname : level.name = "DEBUG" := hlevel.trans (by decide +kernel)
    revert hname
    cases level <;> decide
  subst hdebug
  refine ⟨ls, hls, ?_, ?_⟩
  · obtain ⟨texts, hget, -, -, hquiet, -⟩ :=
      hprinted [("a.b", debug)] "sqlalchemy.engine.Engine" info []
    have hnone : texts = [] :=
      hquiet ⟨"sqlalchemy.engine", by decide, .inr (by decide +kernel)⟩ (by decide)
    exact hnone ▸ hget
  · obtain ⟨texts, hget, -, hreaches, -, -⟩ := hprinted [] "a.b" debug []
    have hshows : debug.ShowsOnConsole := ⟨.inr nofun, .inr nofun⟩
    exact ⟨texts, hget, hreaches.2 ⟨by decide +kernel, .inr hshows⟩⟩

/-- Not everything that goes on behind a quiet logger's name with a dot has its threshold, and not
every event that reaches its threshold is printed on a console. -/
theorem printed_past_two_dots :
    (∃ ls, initial.configureAll [(false, "ERROR")] = .ok ls ∧
      "sqlalchemy.pool..x" = "sqlalchemy.pool" ++ "." ++ ".x" ∧ "sqlalchemy.pool" ∈ quietLoggers ∧
      LogLevel.warning.rank < (LogLevel.error.atLeast .warning).rank ∧
      ls.printed [("sqlalchemy.pool..x", .of "w" .warning [])] = [["<TS> [warning  ] w"]]) ∧
    ∃ ls, initial.configureAll [(false, "DEBUG")] = .ok ls ∧
      "sqlalchemy..engine" = "sqlalchemy" ++ "." ++ ".engine" ∧
      LogLevel.info.rank < LogLevel.warning.rank ∧
      ls.printed [("sqlalchemy..engine", .of "w" .info []),
        ("k", .of "e" .info [("stack", .int 1)])] = [["<TS> [info     ] w"], []] := by
  have herror : LogSetup.ofName? false "ERROR" = some ⟨false, .error⟩ := by decide +kernel
  have hdebug : LogSetup.ofName? false "DEBUG" = some ⟨false, .debug⟩ := by decide +kernel
  exact ⟨⟨_, configureAll_singleton herror initial, by decide, by decide, by decide,
      by decide +kernel⟩,
    _, configureAll_singleton hdebug initial, by decide, by decide, by decide +kernel⟩

end Loggers

end RunLedger
