import RunLedger.Proofs.Paging.Layout

/-!
# Reported products

A driver reports its product by a name and perhaps a version.  DB2 goes under many names, all with
the same beginning: each of them, with any version or none, is one of four dialects, which share
their pages.  Of other products the version tells nothing.

    isMidrangeVersion cs = true ↔ IsMidrangeVersion cs                    (isMidrangeVersion_iff)
    "DB2".toList <+: p.toList → ∃ d ∈ db2Family, ofMetadata (some p) v = .ok d ∧
      (d = .db2as400 ↔ IsMidrange p.toList (v.getD "").toList)                   (exists_flavour)
-/

namespace RunLedger.Dialect

/-! ## Versions of the midrange system -/

/-- Whether a character is a decimal digit of some script. -/
def IsDecimalDigit (c : Char) : Prop :=
  ∃ least ∈ Text.digitZeros, least ≤ c.toNat ∧ c.toNat ≤ least + 9

/-- A release as the midrange system writes it. -/
inductive IsMidrangeRelease : List Char → Prop where
  | mk {version release level letter : Char} (hversion : IsDecimalDigit version)
      (hrelease : IsDecimalDigit release) (hletter : letter = 'M' ∨ letter = 'm')
      (hlevel : IsDecimalDigit level) :
      IsMidrangeRelease ['V', version, 'R', release, letter, level]

/-- A version of the midrange system begins with `QSQ`, or is a release from its first `V` on. -/
def IsMidrangeVersion (version : List Char) : Prop :=
  "QSQ".toList <+: version ∨
    ∃ before release, version = before ++ release ∧ 'V' ∉ before ∧ IsMidrangeRelease release

/-- Whether a product's name and version are those of the midrange system. -/
structure IsMidrange (product version : List Char) : Prop where
  product : "AS".toList <:+: product
  notVse : ¬ "ARI".toList <+: version
  notZos : ¬ "DSN".toList <+: version
  version : IsMidrangeVersion version

theorem isSome_digitValue?_iff {c : Char} :
    (Text.digitValue? c).isSome = true ↔ IsDecimalDigit c := by
  simp [Text.digitValue?, IsDecimalDigit]

theorem isMidrangeRelease_iff {cs : List Char} :
    isMidrangeRelease cs = true ↔ IsMidrangeRelease cs := by
  constructor
  · intro h
    unfold isMidrangeRelease at h
    split at h
    · simp only [Bool.and_eq_true, Bool.or_eq_true, decide_eq_true_eq, isSome_digitValue?_iff] at h
      obtain ⟨⟨⟨⟨⟨rfl, rfl⟩, hletter⟩, hversion⟩, hrelease⟩, hlevel⟩ := h
      exact ⟨hversion, hrelease, hletter.symm, hlevel⟩
    · cases h
  · rintro ⟨hversion, hrelease, hletter, hlevel⟩
    simp only [isMidrangeRelease, isSome_digitValue?_iff.2 hversion,
      isSome_digitValue?_iff.2 hrelease, isSome_digitValue?_iff.2 hlevel, Bool.and_true,
      decide_true, Bool.true_and]
    simpa using hletter.symm

/-- A text from its first `V` on. -/
theorem dropWhile_ne_iff {cs release : List Char} (h : release.head? = some 'V') :
    cs.dropWhile (· ≠ 'V') = release ↔ ∃ before, cs = before ++ release ∧ 'V' ∉ before := by
  constructor
  · rintro rfl
    refine ⟨cs.takeWhile (· ≠ 'V'), List.takeWhile_append_dropWhile.symm, fun hmem => ?_⟩
    simpa using List.all_eq_true.1 List.all_takeWhile _ hmem
  · rintro ⟨before, rfl, hbefore⟩
    have hpassed : ∀ c ∈ before, decide (c ≠ 'V') = true := by
      intro c hc
      rw [decide_eq_true_eq]
      rintro rfl
      exact hbefore hc
    rw [List.dropWhile_append_of_pos hpassed]
    exact Text.dropWhile_of_head fun c hc => by rw [h] at hc; cases hc; rfl

theorem isMidrangeVersion_iff {cs : List Char} :
    isMidrangeVersion cs = true ↔ IsMidrangeVersion cs := by
  have hrelease : isMidrangeRelease (cs.dropWhile (· ≠ 'V')) = true ↔
      ∃ before release, cs = before ++ release ∧ 'V' ∉ before ∧ IsMidrangeRelease release := by
    rw [isMidrangeRelease_iff]
    constructor
    · intro h
      have hhead : (cs.dropWhile (· ≠ 'V')).head? = some 'V' := by
        generalize cs.dropWhile (· ≠ 'V') = release at h ⊢
        cases h
        rfl
      obtain ⟨before, hcs, hbefore⟩ := (dropWhile_ne_iff hhead).1 rfl
      exact ⟨before, _, hcs, hbefore, h⟩
    · rintro ⟨before, release, hcs, hbefore, h⟩
      have hhead : release.head? = some 'V' := by
        cases h
        rfl
      rwa [(dropWhile_ne_iff hhead).2 ⟨before, hcs, hbefore⟩]
  rw [isMidrangeVersion, Bool.or_eq_true, List.isPrefixOf_iff_prefix, hrelease, IsMidrangeVersion]

/-! ## The flavours of DB2 -/

/-- The dialects that DB2 is reported as. -/
def db2Family : List Dialect := [db2, db2vse, db2zos, db2as400]

theorem ofProductName_productName (d : Dialect) : ofProductName d.productName = .ok d := by
  have hkeys : ∀ d ∈ all, ofProductKey? (lookupKey d.productName) = some d := by decide +kernel
  delta ofProductName
  rw [hkeys d (mem_all d)]

theorem ofMetadata_of_ne {p : String} (hp : p ≠ "") (v : Option String) :
    ofMetadata (some p) v = ofProductName (canonicalProduct p v) := by
  unfold ofMetadata
  split
  · next h => cases h
  · next h => exact absurd (Option.some.inj h) hp
  · next h => rw [Option.some.inj h]

theorem canonicalProduct_of_other {p : String} (hp : ¬ "DB2".toList <+: p.toList)
    (v : Option String) : canonicalProduct p v = p := by
  rw [canonicalProduct, if_pos]
  simpa [← List.isPrefixOf_iff_prefix] using hp

/-- A report of DB2 stands for the product name of one of its dialects. -/
theorem exists_canonicalProduct {p : String} (hp : "DB2".toList <+: p.toList)
    (v : Option String) : ∃ d ∈ db2Family, canonicalProduct p v = d.productName ∧
      (d = .db2as400 ↔ IsMidrange p.toList (v.getD "").toList) := by
  have hnot : ¬ (!"DB2".toList.isPrefixOf p.toList) = true := by
    rw [List.isPrefixOf_iff_prefix.2 hp]
    decide
  -- one case for each branch of the classifier: the later ones know what the earlier ones refused
  unfold canonicalProduct
  dsimp only
  rw [if_neg hnot]
  split
  · next hlinux =>
    -- the exceptional name has no `AS` in it
    refine ⟨.db2, by decide, rfl, iff_of_false (by decide) fun h => ?_⟩
    have hcontains := Text.contains_iff.2 h.product
    rw [hlinux] at hcontains
    exact absurd hcontains (by decide)
  · split
    · next hvse =>
      exact ⟨.db2vse, by decide, rfl, iff_of_false (by decide) fun h =>
        h.notVse (List.isPrefixOf_iff_prefix.1 hvse)⟩
    · next hvse =>
      split
      · next hzos =>
        exact ⟨.db2zos, by decide, rfl, iff_of_false (by decide) fun h =>
          h.notZos (List.isPrefixOf_iff_prefix.1 hzos)⟩
      · next hzos =>
        rw [List.isPrefixOf_iff_prefix] at hvse hzos
        split
        · next hmidrange =>
          rw [Bool.and_eq_true, Text.contains_iff, isMidrangeVersion_iff] at hmidrange
          exact ⟨.db2as400, by decide, rfl,
            iff_of_true rfl ⟨hmidrange.1, hvse, hzos, hmidrange.2⟩⟩
        · next hother =>
          refine ⟨.db2, by decide, rfl, iff_of_false (by decide) fun h => hother ?_⟩
          rw [Bool.and_eq_true, Text.contains_iff, isMidrangeVersion_iff]
          exact ⟨h.product, h.version⟩

/-- A report of DB2 is that of one of its dialects. -/
theorem exists_flavour {p : String} (hp : "DB2".toList <+: p.toList) (v : Option String) :
    ∃ d ∈ db2Family, ofMetadata (some p) v = .ok d ∧
      (d = .db2as400 ↔ IsMidrange p.toList (v.getD "").toList) := by
  have hne : p ≠ "" := by
    rintro rfl
    exact absurd hp (by decide)
  obtain ⟨d, hd, hname, hmidrange⟩ := exists_canonicalProduct hp v
  refine ⟨d, hd, ?_, hmidrange⟩
  rw [ofMetadata_of_ne hne, hname, ofProductName_productName]

/-! ## Pages -/

/-- Whether two dialects have the same pages: what a caller gives for a page query is accepted for
both or refused alike, and makes the same query for every page. -/
def SamePages (d d' : Dialect) : Prop :=
  ∀ connection columns source sortKeys filter offset limit,
    (Pager.create (some (.dialect d)) connection columns source sortKeys filter).map
        (·.pageSql offset limit) =
      (Pager.create (some (.dialect d')) connection columns source sortKeys filter).map
        (·.pageSql offset limit)

theorem pageSql_ofQuery (d : Dialect) (q : PageQuery) (offset limit : Int) :
    (Pager.ofQuery d q).map (·.pageSql offset limit) =
      (Parameters.ofSql q.baseSql).map fun _ =>
        (Window.of? offset limit).map fun w => d.pageForm.pageSql q w := by
  rw [Pager.ofQuery]
  cases Parameters.ofSql q.baseSql <;> rfl

/-- The dialect has an influence on the pages through their form alone. -/
theorem samePages_of_pageForm {d d' : Dialect} (h : d.pageForm = d'.pageForm) :
    SamePages d d' := by
  intro connection columns source sortKeys filter offset limit
  have hcreate : ∀ d : Dialect,
      Pager.create (some (.dialect d)) connection columns source sortKeys filter =
        (PageQuery.configure columns source sortKeys filter).bind (Pager.ofQuery d) := fun _ => rfl
  rw [hcreate, hcreate]
  cases PageQuery.configure columns source sortKeys filter with
  | error e => rfl
  | ok q =>
    dsimp only [Except.bind]
    rw [pageSql_ofQuery, pageSql_ofQuery, h]

theorem pageForm_of_mem_db2Family {d : Dialect} (h : d ∈ db2Family) : d.pageForm = .db2 := by
  simp only [db2Family, List.mem_cons, List.not_mem_nil, or_false] at h
  rcases h with rfl | rfl | rfl | rfl <;> rfl

/-- What a driver reports of its product tells the dialect.  A name that begins with `DB2`, with any
version or none, is that of one of four dialects, with the same pages for all versions; it is that
of the midrange system just where name and version are.  Any other name is looked up as it is,
whatever the version, and refused where no product has it. -/
theorem ofMetadata_reported (p : String) (v : Option String) :
    ("DB2".toList <+: p.toList →
      ∃ d ∈ db2Family, ofMetadata (some p) v = .ok d ∧
        (d = .db2as400 ↔ IsMidrange p.toList (v.getD "").toList) ∧
        ∀ w, ∃ d', ofMetadata (some p) w = .ok d' ∧ SamePages d d') ∧
    (¬ "DB2".toList <+: p.toList → p ≠ "" → ofMetadata (some p) v = ofProductName p) := by
  refine ⟨fun hp => ?_, fun hp hne => ?_⟩
  · obtain ⟨d, hd, htold, hmidrange⟩ := exists_flavour hp v
    refine ⟨d, hd, htold, hmidrange, fun w => ?_⟩
    obtain ⟨d', hd', htold', -⟩ := exists_flavour hp w
    have hform : d.pageForm = d'.pageForm := by
      rw [pageForm_of_mem_db2Family hd, pageForm_of_mem_db2Family hd']
    exact ⟨d', htold', samePages_of_pageForm hform⟩
  · rw [ofMetadata_of_ne hne, canonicalProduct_of_other hp]

/-- A release behind other text in a version of the midrange system, and a name of DB2 with a blank
before it, of which the version tells nothing. -/
theorem ofMetadata_reported_release :
    let midrange := "DB2 UDB for AS/400"
    ("DB2".toList <+: midrange.toList ∧
      ofMetadata (some midrange) (some "07.01.0000 V7R1m0") = .ok .db2as400 ∧
      ∀ w, ∃ d', ofMetadata (some midrange) w = .ok d' ∧ SamePages .db2as400 d') ∧
    ¬ "DB2".toList <+: " DB2".toList ∧ " DB2" ≠ "" ∧
      ofMetadata (some " DB2") (some "DSN11015") = ofProductName " DB2" := by
  intro midrange
  have hbegins : "DB2".toList <+: midrange.toList := by decide
  have hother : ¬ "DB2".toList <+: " DB2".toList := by decide
  have hne : " DB2" ≠ "" := by decide
  have hmidrange : IsMidrange midrange.toList "07.01.0000 V7R1m0".toList :=
    ⟨Text.contains_iff.1 (by decide), by decide, by decide, isMidrangeVersion_iff.1 (by decide)⟩
  obtain ⟨d, -, htold, hflavour, hpages⟩ :=
    (ofMetadata_reported midrange (some "07.01.0000 V7R1m0")).1 hbegins
  rw [hflavour.2 hmidrange] at htold hpages
  exact ⟨⟨hbegins, htold, hpages⟩, hother, hne,
    (ofMetadata_reported " DB2" (some "DSN11015")).2 hother hne⟩

end RunLedger.Dialect
