/-
Is a core decoded by the right table?

An implementation passes through five mappings: its name to an id, the
id to an architecture, a MIDR to an id, a MIDR to a name, a uid to the
name of its table. A requested row that reads a core is a `Hit`, and it
has the right table whenever the names and the ids agree. The first
mapping gives the Cortex-A9 the id of the Cortex-A7: under that name the
rows of the Cortex-A7 are hit, and nothing else goes wrong.
-/
import Maplesyrup.Decode.Proofs.Names
import Maplesyrup.Library.Listing
import Maplesyrup.Library.Proofs.Request

namespace Maplesyrup

open Base

variable {heap : List BitfieldInfoHeap} {info : MatchInfo}
  {x : IoctlResult} {h : BitfieldInfoHeap} {p : BitfieldInfoPopulated}
  {includeDevices : Int}

-- =========================================================== the statement

/-- The result is of a system register. -/
def SystemResult (heap : List BitfieldInfoHeap)
    (p : BitfieldInfoPopulated) : Prop :=
  ∃ h ∈ heap, h.info.uid = p.uid ∧ h.tableType ≠ .mm

/-- The result is decoded by the requested table, and by one of its
core. -/
structure RightTable (arch impl : String) (architecture : U32)
    (p : BitfieldInfoPopulated) : Prop where
  requested : getDecodeTable p.uid = arch
    ∨ impl ≠ "all" ∧ getDecodeTable p.uid = impl
    ∨ impl = "all"
      ∧ getArchFromImpl (mscodePartnumber p.uid) = architecture
  core : p.midr ≠ 0 →
    mscodePartnumber p.uid = getArchFromMidr p.midr
      ∨ getDecodeTable p.uid = getPartnumberFromMidr p.midr

/-- No result is read by a row of the Cortex-A7. With `noparse`, a row
that is not the first to read the register's word on its cpu with its
status reports nothing. -/
def NoCortexA7Read (heap : List BitfieldInfoHeap) (info : MatchInfo)
    (xs : List IoctlResult) : Prop :=
  ∀ x ∈ xs, ∀ h ∈ heap, h.tableType ≠ .mm →
    mscodePartnumber h.info.uid = implCortexA7 →
    readsEntry heap info x h = true →
    info.noparse = 1
      ∧ (pairs heap info xs).find? (fun q => pairKey q == pairKey (x, h))
        ≠ some (x, h)

-- =============================================================== the names

/-- The system register tables by name. -/
def decodeNames : List (U32 × String) := [
  (archArmv7a, "armv7a"), (archArmv8a, "armv8a"),
  (implCortexA7, "cortex-a7"), (implCortexA15, "cortex-a15"),
  (implCortexA53, "cortex-a53"), (implCortexA57, "cortex-a57")]

theorem getDecodeTable_name {uid : U32} {name : String}
    (h : (mscodePartnumber uid, name) ∈ decodeNames) :
    getDecodeTable uid = name := by
  simp only [decodeNames, List.mem_cons, Prod.mk.injEq, List.not_mem_nil,
    or_false] at h
  unfold getDecodeTable
  rcases h with ⟨hp, rfl⟩ | ⟨hp, rfl⟩ | ⟨hp, rfl⟩ | ⟨hp, rfl⟩ | ⟨hp, rfl⟩
    | ⟨hp, rfl⟩
  all_goals
    rw [hp]
    decide +kernel

theorem decodeNames_lookup {id : U32} {name : String}
    (h : (id, name) ∈ decodeNames) : decodeNames.lookup id = some name := by
  have hall : ∀ q ∈ decodeNames, decodeNames.lookup q.1 = some q.2 := by
    decide +kernel
  exact hall _ h

/-- The id and the name of a core go together. -/
theorem getPartnumberFromMidr_name {midr : U32} {name : String}
    (h : (getImplFromMidr midr, name) ∈ decodeNames) :
    getPartnumberFromMidr midr = name := by
  have hlookup := decodeNames_lookup h
  unfold getImplFromMidr at hlookup
  unfold getPartnumberFromMidr
  dsimp only at hlookup ⊢
  split_ifs at hlookup ⊢
  · rw [strncpy_of_le (by decide)]
    exact Option.some.inj hlookup
  · -- no table is of the Cortex-A9
    cases hlookup
  · rw [strncpy_of_le (by decide)]
    exact Option.some.inj hlookup
  · rw [strncpy_of_le (by decide)]
    exact Option.some.inj hlookup
  · rw [strncpy_of_le (by decide)]
    exact Option.some.inj hlookup
  · cases hlookup

-- =============================================================== the hits

/-- The part numbers of the system register tables, by their types. -/
theorem shipped_part
    (hh : h ∈ expanded (included includeDevices bitfieldTable))
    (hsys : h.tableType ≠ .mm) :
    h.tableType = .arch
        ∧ mscodePartnumber h.info.uid ∈ [archArmv7a, archArmv8a]
      ∨ h.tableType = .impl
        ∧ mscodePartnumber h.info.uid ∈ [implCortexA7, implCortexA15,
          implCortexA53, implCortexA57] := by
  obtain ⟨i, hi⟩ := List.getElem?_of_mem hh
  obtain ⟨t, ht, row, hrow, hentry⟩ := expanded_allExpand _ i h hi
  obtain ⟨hmem, -⟩ := included_mem ht
  rcases hentry with ⟨hsys', rfl⟩ | ⟨hmm, k, -, rfl⟩
  · rw [sysEntry_part hmem hsys' hrow]
    have hall : ∀ t ∈ bitfieldTable, t.tableType ≠ .mm →
        t.tableType = .arch ∧ t.partNumber ∈ [archArmv7a, archArmv8a]
          ∨ t.tableType = .impl
            ∧ t.partNumber ∈ [implCortexA7, implCortexA15,
              implCortexA53, implCortexA57] := by
      decide +kernel
    exact hall t hmem hsys'
  · exact absurd hmm hsys

/-- A requested row that reads the core. -/
structure Hit (info : MatchInfo) (midr : U32) (h : BitfieldInfoHeap) :
    Prop where
  table : info.matchesTable h = true
  midr : midrMatches midr (mscodePartnumber h.info.uid) = true

/-- A request for an implementation by name. -/
structure ByName (arch impl : String) (info : MatchInfo) : Prop where
  arch : (info.architecture, arch)
    ∈ [(archArmv7a, "armv7a"), (archArmv8a, "armv8a")]
  impl : (impl, info.implementation) ∈ implementations

/-- A system register table has a name. -/
theorem shipped_named
    (hh : h ∈ expanded (included includeDevices bitfieldTable))
    (hsys : h.tableType ≠ .mm) :
    ∃ name, (mscodePartnumber h.info.uid, name) ∈ decodeNames := by
  have hpart := shipped_part hh hsys
  have hparts : decodeNames.map Prod.fst
      = [archArmv7a, archArmv8a] ++ [implCortexA7, implCortexA15,
        implCortexA53, implCortexA57] := rfl
  have hmem : mscodePartnumber h.info.uid ∈ decodeNames.map Prod.fst := by
    rw [hparts]
    exact List.mem_append.2 (hpart.imp And.right And.right)
  obtain ⟨q, hq, hname⟩ := List.mem_map.1 hmem
  exact ⟨q.2, by rwa [← hname]⟩

/-- A requested system register is one of the requested table, unless it
is a row of the Cortex-A7 under the name of the Cortex-A9. -/
theorem requested_of_matches {arch impl : String}
    (hinfo : ByName arch impl info)
    (hh : h ∈ expanded (included includeDevices bitfieldTable))
    (hsys : h.tableType ≠ .mm) (htable : info.matchesTable h = true)
    (hnot : impl = "cortex-a9" →
      mscodePartnumber h.info.uid ≠ implCortexA7) :
    getDecodeTable h.info.uid = arch
      ∨ impl ≠ "all" ∧ getDecodeTable h.info.uid = impl
      ∨ impl = "all"
        ∧ getArchFromImpl (mscodePartnumber h.info.uid)
          = info.architecture := by
  unfold MatchInfo.matchesTable at htable
  rcases shipped_part hh hsys with ⟨htype, -⟩ | ⟨htype, -⟩
  · -- the architecture's own table
    rw [htype] at htable
    have harch := beq_iff_eq.1 htable
    have hmem : (mscodePartnumber h.info.uid, arch) ∈ decodeNames := by
      rw [harch]
      exact List.mem_append_left _ hinfo.arch
    exact Or.inl (getDecodeTable_name hmem)
  · simp only [htype, Bool.and_eq_true, Bool.or_eq_true, beq_iff_eq]
      at htable
    obtain ⟨harch, hid⟩ := htable
    by_cases hall : impl = "all"
    · exact Or.inr (Or.inr ⟨hall, harch.symm⟩)
    · refine Or.inr (Or.inl ⟨hall, getDecodeTable_name ?_⟩)
      have himpl := hinfo.impl
      rcases hid with hid | hid
      · rw [hid] at himpl
        have hnone : ∀ q ∈ implementations, q.2 = implAll →
            q.1 = "all" := by
          decide +kernel
        exact absurd (hnone _ himpl rfl) hall
      · rw [hid] at himpl
        have hback : ∀ q ∈ implementations, q.1 ≠ "all" →
            (q.1 = "cortex-a9" → q.2 ≠ implCortexA7) →
            (q.2, q.1) ∈ decodeNames := by
          decide +kernel
        exact hback _ himpl hall hnot

/-- A row that reads a core is of its architecture or has its name. -/
theorem core_of_midrMatches
    (hh : h ∈ expanded (included includeDevices bitfieldTable))
    (hsys : h.tableType ≠ .mm) {midr : U32}
    (hcore : midrMatches midr (mscodePartnumber h.info.uid) = true)
    (hne : midr ≠ 0) :
    mscodePartnumber h.info.uid = getArchFromMidr midr
      ∨ getDecodeTable h.info.uid = getPartnumberFromMidr midr := by
  rcases (midrMatches_iff ..).1 hcore with hzero | himpl | harch
  · exact absurd hzero hne
  · obtain ⟨name, hname⟩ := shipped_named hh hsys
    have hnamed : (getImplFromMidr midr, name) ∈ decodeNames := by
      rwa [himpl]
    rw [getDecodeTable_name hname, getPartnumberFromMidr_name hnamed]
    exact Or.inr rfl
  · exact Or.inl harch.symm

/-- A hit of a system register has the right table, unless it is a row of
the Cortex-A7 under the name of the Cortex-A9. -/
theorem Hit.right {arch impl : String} (hinfo : ByName arch impl info)
    (hh : h ∈ expanded (included includeDevices bitfieldTable))
    (hsys : h.tableType ≠ .mm) {midr : U32} (hhit : Hit info midr h)
    (hnot : impl = "cortex-a9" →
      mscodePartnumber h.info.uid ≠ implCortexA7)
    (huid : p.uid = h.info.uid) (hmidr : p.midr = midr) :
    RightTable arch impl info.architecture p := by
  constructor
  · rw [huid]
    exact requested_of_matches hinfo hh hsys hhit.table hnot
  · rw [hmidr, huid]
    exact core_of_midrMatches hh hsys hhit.midr

/-- A row of the Cortex-A7 under the name of the Cortex-A9 has not. -/
theorem not_right_of_cortexA7 {arch : String}
    (hinfo : ByName arch "cortex-a9" info)
    (hpart : mscodePartnumber p.uid = implCortexA7) :
    ¬ RightTable arch "cortex-a9" info.architecture p := by
  intro hright
  have hname : getDecodeTable p.uid = "cortex-a7" :=
    getDecodeTable_name (by rw [hpart]; decide +kernel)
  have harch : ∀ q ∈ [(archArmv7a, "armv7a"), (archArmv8a, "armv8a")],
      "cortex-a7" ≠ q.2 := by
    decide +kernel
  have hrequested := hright.requested
  rw [hname] at hrequested
  rcases hrequested with h | ⟨-, h⟩ | ⟨h, -⟩
  · exact harch _ hinfo.arch h
  · exact absurd h (by decide +kernel)
  · exact absurd h (by decide +kernel)

-- ============================================================ the results

/-- What is asked for and read is a hit. -/
theorem hit_of_asked (hnd : (heap.map fun h => h.info.uid).Nodup)
    (hasked : Asked heap (requests heap info) x h) :
    Hit info x.midr h := by
  have hsel := hasked.selected hnd
  unfold MatchInfo.selects at hsel
  rw [Bool.and_eq_true] at hsel
  obtain ⟨r, hr, huid, hmidr⟩ := hasked.requested
  obtain ⟨g, -, rfl⟩ := List.mem_map.1 hr
  have hkey : g.info.uid = h.info.uid := huid
  refine ⟨hsel.2, ?_⟩
  rw [← hkey]
  exact hmidr

/-- A pair of the join is of a row that is asked for. -/
theorem asked_of_pair {xs : List IoctlResult}
    {q : IoctlResult × BitfieldInfoHeap} (hq : q ∈ pairs heap info xs) :
    Asked heap (requests heap info) q.1 q.2 := by
  obtain ⟨-, hh, hreads⟩ := mem_pairs.1 hq
  have hreg := readsEntry_register hreads
  unfold readsEntry at hreads
  rw [Bool.and_eq_true, Bool.and_eq_true, List.any_eq_true] at hreads
  obtain ⟨⟨-, hmidr⟩, g, hg, hboth⟩ := hreads
  rw [Bool.and_eq_true, beq_iff_eq] at hboth
  obtain ⟨hsel, hkey⟩ := hboth
  refine ⟨hh, hreg, requestOf info g,
    List.mem_map_of_mem (List.mem_filter.2 ⟨hg, hsel⟩), hkey, ?_⟩
  show midrMatches q.1.midr (mscodePartnumber g.info.uid) = true
  rwa [hkey]

/-- A pair of the join that is reported: with `noparse` the first of its
register, cpu and status. -/
def Reported (heap : List BitfieldInfoHeap) (info : MatchInfo)
    (xs : List IoctlResult) (q : IoctlResult × BitfieldInfoHeap) : Prop :=
  q ∈ pairs heap info xs
    ∧ (info.noparse = 1 →
      (pairs heap info xs).find? (fun q' => pairKey q' == pairKey q)
        = some q)

/-- What is reported of it. -/
def reportOf (heap : List BitfieldInfoHeap) (info : MatchInfo)
    (q : IoctlResult × BitfieldInfoHeap) : BitfieldInfoPopulated :=
  if info.noparse = 1 then wordOf heap q else parsedOf heap q

theorem reportOf_uid (heap : List BitfieldInfoHeap) (info : MatchInfo)
    (q : IoctlResult × BitfieldInfoHeap) :
    (reportOf heap info q).uid = q.2.info.uid := by
  unfold reportOf
  split <;> rfl

theorem reportOf_midr (heap : List BitfieldInfoHeap) (info : MatchInfo)
    (q : IoctlResult × BitfieldInfoHeap) :
    (reportOf heap info q).midr = q.1.midr := by
  unfold reportOf
  split <;> rfl

/-- A run without failed allocations reports these. -/
theorem decoded_ok (heap : List BitfieldInfoHeap) (info : MatchInfo)
    {xs : List IoctlResult} (hxs : xs ≠ []) :
    ∃ l, breakoutParseResults .ok heap xs
        (breakoutSearchTable .ok heap info []).2.1 [] = some (0, l, .ok)
      ∧ ∀ p, p ∈ l ↔ ∃ q, Reported heap info xs q
        ∧ reportOf heap info q = p := by
  unfold Reported reportOf
  by_cases hnp : info.noparse = 1
  · have hrun : parseWith heap info xs 1 = _ := parseWith_unparsed hxs
    have hmode : { info with noparse := 1 } = info := by rw [← hnp]
    rw [parseWith, hmode] at hrun
    refine ⟨_, hrun, fun p => ?_⟩
    simp only [hnp, ↓reduceIte, forall_const, List.mem_map]
    refine exists_congr fun q => and_congr_left fun _ => ?_
    rw [mem_firsts]
    exact ⟨fun h => ⟨List.mem_of_find?_eq_some h, h⟩, And.right⟩
  · have hrun : parseWith heap info xs info.noparse = _ :=
      parseWith_other hnp hxs
    refine ⟨_, hrun, fun p => ?_⟩
    simp only [hnp, ↓reduceIte, false_implies, and_true, List.mem_map]

theorem byName_of_request {c : FindCall} (hinfo : c.request = some info)
    {arch impl : String} (harch : c.args.arch = some arch)
    (himpl : c.args.impl = some impl) : ByName arch impl info := by
  obtain ⟨base, hset, hkey⟩ := FindCall.request_some hinfo
  obtain ⟨a, i, architecture, implementation, ha, hi, hmarch, hmimpl,
    rfl⟩ := setMatchInfo_some hset
  obtain ⟨hsame, hsame'⟩ := FindKey.set_ids hkey
  obtain rfl := Option.some.inj (ha.symm.trans harch)
  obtain rfl := Option.some.inj (hi.symm.trans himpl)
  constructor
  · rw [hsame]
    rcases matchArchitecture_iff.1 hmarch with ⟨rfl, rfl⟩ | ⟨rfl, rfl⟩
    · simp
    · simp
  · rw [hsame']
    exact matchImplementation_iff.1 hmimpl

/-- The row a system-register result is of, the only one with its uid, is
not a device's. -/
theorem systemResult_row (hnd : (heap.map fun h => h.info.uid).Nodup)
    (hh : h ∈ heap) (huid : p.uid = h.info.uid)
    (hsys : SystemResult heap p) : h.tableType ≠ .mm := by
  obtain ⟨g, hg, hguid, htype⟩ := hsys
  obtain rfl := List.inj_on_of_nodup_map hnd hg hh (hguid.trans huid)
  exact htype

/-- A system register that was asked for and read has the right table. -/
theorem right_of_asked {arch impl : String} (hinfo : ByName arch impl info)
    (hasked : Asked (expanded (included includeDevices bitfieldTable))
      (requests (expanded (included includeDevices bitfieldTable)) info)
      x h)
    (huid : p.uid = h.info.uid) (hmidr : p.midr = x.midr)
    (hsys : SystemResult
      (expanded (included includeDevices bitfieldTable)) p)
    (hnot : h.tableType ≠ .mm → impl = "cortex-a9" →
      mscodePartnumber h.info.uid ≠ implCortexA7) :
    RightTable arch impl info.architecture p := by
  have hnd := shipped_uid_nodup includeDevices
  have htype := systemResult_row hnd hasked.mem huid hsys
  exact (hit_of_asked hnd hasked).right hinfo hasked.mem htype
    (hnot htype) huid hmidr

/-- What a run reports is of a row that was asked for, even if some of
the requests are lost. -/
theorem asked_of_reported {a a' b : Alloc} {r : Int}
    {xs : List IoctlResult} {l : List BitfieldInfoPopulated}
    (hl : breakoutParseResults a heap xs
        (breakoutSearchTable a' heap info []).2.1 [] = some (r, l, b))
    (hp : p ∈ l) :
    ∃ x ∈ xs, ∃ h, Asked heap (requests heap info) x h
      ∧ p.uid = h.info.uid ∧ p.midr = x.midr := by
  have hxs : xs ≠ [] := by
    rintro rfl
    cases hl
  obtain ⟨kept, hsub, hkept⟩ := breakoutSearchTable_sublist a' heap info []
  obtain ⟨r', ps, b', hends, hps⟩ := breakoutParseResults_mem heap
    (breakoutSearchTable a' heap info []).2.1 hxs a []
  rw [hl] at hends
  simp only [Option.some.injEq, Prod.mk.injEq, List.nil_append] at hends
  obtain ⟨-, rfl, -⟩ := hends
  obtain ⟨x, hx, h, hasked, hread⟩ := hps p hp
  rw [hkept, List.nil_append] at hasked
  obtain ⟨r, hr, hmatch⟩ := hasked.requested
  exact ⟨x, hx, h, ⟨hasked.mem, hasked.register, r,
    (hsub.map _).subset hr, hmatch⟩, hread.uid, hread.midr⟩

/-- Under the Cortex-A9's name a row of the Cortex-A7 that reads a result
reports nothing, if every result has the right table. -/
theorem noCortexA7Read_of_right {arch : String}
    (hinfo : ByName arch "cortex-a9" info) {xs : List IoctlResult}
    (hall : ∀ l, breakoutParseResults .ok heap xs
        (breakoutSearchTable .ok heap info []).2.1 [] = some (0, l, .ok) →
      ∀ p ∈ l, SystemResult heap p →
        RightTable arch "cortex-a9" info.architecture p) :
    NoCortexA7Read heap info xs := by
  intro x hx h hh hsys hpart hreads
  by_contra hfirst
  have hfirst : info.noparse = 1 →
      (pairs heap info xs).find? (fun q => pairKey q == pairKey (x, h))
        = some (x, h) := by
    intro hnp
    by_contra hne
    exact hfirst ⟨hnp, hne⟩
  obtain ⟨l, hl, hmem⟩ := decoded_ok heap info (List.ne_nil_of_mem hx)
  have hpair : (x, h) ∈ pairs heap info xs :=
    mem_pairs.2 ⟨hx, hh, hreads⟩
  have huid := reportOf_uid heap info (x, h)
  have hright := hall l hl _ ((hmem _).2 ⟨(x, h), ⟨hpair, hfirst⟩, rfl⟩)
    ⟨h, hh, huid.symm, hsys⟩
  exact not_right_of_cortexA7 hinfo (by rw [huid, hpart]) hright

/-- And no row of the Cortex-A7 is behind a result if none reads one. -/
theorem reported_not_cortexA7 {xs : List IoctlResult}
    (hnone : NoCortexA7Read heap info xs)
    {q : IoctlResult × BitfieldInfoHeap} (hq : Reported heap info xs q)
    (hsys : q.2.tableType ≠ .mm) :
    mscodePartnumber q.2.info.uid ≠ implCortexA7 := by
  intro hpart
  obtain ⟨hx, hh, hreads⟩ := mem_pairs.1 hq.1
  obtain ⟨hnp, hne⟩ := hnone q.1 hx q.2 hh hsys hpart hreads
  exact hne (hq.2 hnp)

/-- Every system-register result has the right table exactly when the
request is not for the Cortex-A9 or no result is read by a row of the
Cortex-A7. Under any other name it has, whatever allocations fail. -/
theorem decode_table_iff (includeDevices : Int) {c : FindCall}
    (hinfo : c.request = some info) {arch impl : String}
    (harch : c.args.arch = some arch) (himpl : c.args.impl = some impl)
    (xs : List IoctlResult) :
    let heap := expanded (included includeDevices bitfieldTable)
    ((∀ l, breakoutParseResults .ok heap xs
          (breakoutSearchTable .ok heap info []).2.1 []
            = some (0, l, .ok) →
          ∀ p ∈ l, SystemResult heap p →
            RightTable arch impl info.architecture p)
        ↔ (impl = "cortex-a9" → NoCortexA7Read heap info xs))
      ∧ (impl ≠ "cortex-a9" → ∀ a a' r l b,
        breakoutParseResults a heap xs
            (breakoutSearchTable a' heap info []).2.1 []
          = some (r, l, b) →
        ∀ p ∈ l, SystemResult heap p →
          RightTable arch impl info.architecture p) := by
  intro heap
  have hname := byName_of_request hinfo harch himpl
  refine ⟨⟨?_, ?_⟩, ?_⟩
  · intro hall ha9
    subst ha9
    exact noCortexA7Read_of_right hname hall
  · intro hnone l hl p hp hsys
    have hxs : xs ≠ [] := by
      rintro rfl
      cases hl
    obtain ⟨l', hl', hmem⟩ := decoded_ok heap info hxs
    rw [hl'] at hl
    simp only [Option.some.injEq, Prod.mk.injEq, true_and, and_true] at hl
    subst hl
    obtain ⟨q, hq, rfl⟩ := (hmem p).1 hp
    exact right_of_asked hname (asked_of_pair hq.1)
      (reportOf_uid heap info q) (reportOf_midr heap info q) hsys
      fun htype ha9 => reported_not_cortexA7 (hnone ha9) hq htype
  · intro hother a a' r l b hl p hp hsys
    obtain ⟨x, -, h, hasked, huid, hmidr⟩ := asked_of_reported hl hp
    exact right_of_asked hname hasked huid hmidr hsys
      fun _ ha9 => absurd ha9 hother

-- ============================================================ one instance

/-- The first row of the Cortex-A7. -/
def revidrRow : BitfieldInfo :=
  ⟨1, 0, MsSysreg.REVIDR, nsPrivilegeLevel1, 0, 32, "ID Number", "ident",
    "REVIDR", "Revision information"⟩

/-- Its entry. -/
def revidrEntry : BitfieldInfoHeap :=
  sysEntry ⟨.impl, implCortexA7, bitfieldCortexA7Table⟩ revidrRow

theorem revidrEntry_shipped (includeDevices : Int) :
    revidrEntry ∈ expanded (included includeDevices bitfieldTable) := by
  refine expanded_sysEntry ?_ (by simp) (List.mem_cons_self ..)
  unfold included
  split
  · exact List.mem_cons_self ..
  · exact List.mem_cons_self ..

/-- A search for it on a Cortex-A9. -/
def revidrFind : FindCall :=
  ⟨{}, { arch := some "armv7a", impl := some "cortex-a9" },
    .bitfield revidrEntry.info.uid⟩

/-- Its request is one of the Cortex-A7. -/
def revidrRequest : MatchInfo :=
  { uid := revidrEntry.info.uid
    architecture := archArmv7a
    implementation := implCortexA7
    pl := preferredPl
    cpu := .allOnes 32 }

/-- REVIDR as read on a Cortex-A7. -/
def revidrRead : IoctlResult :=
  ⟨MsSysreg.REVIDR, 0, 0, 0, 0, 0x410FC073, nsPrivilegeLevel1,
    msErrorSuccess⟩

theorem revidrRequest_made : revidrFind.request = some revidrRequest := by
  decide +kernel

/-- The table of the Cortex-A7 is used under the Cortex-A9's name. -/
theorem decode_table_fails :
    ¬ ∀ (c : FindCall) (info : MatchInfo) (arch impl : String)
        (xs : List IoctlResult) (l : List BitfieldInfoPopulated),
        c.request = some info → c.args.arch = some arch →
        c.args.impl = some impl →
        let heap := expanded (included 0 bitfieldTable)
        breakoutParseResults .ok heap xs
            (breakoutSearchTable .ok heap info []).2.1 []
          = some (0, l, .ok) →
        ∀ p ∈ l, SystemResult heap p →
          RightTable arch impl info.architecture p := by
  intro hall
  have hentry := revidrEntry_shipped 0
  have hsel : revidrRequest.selects revidrEntry = true := by
    decide +kernel
  have hreads : readsEntry (expanded (included 0 bitfieldTable))
      revidrRequest revidrRead revidrEntry = true := by
    unfold readsEntry
    rw [Bool.and_eq_true, Bool.and_eq_true, List.any_eq_true]
    exact ⟨⟨by decide +kernel, by decide +kernel⟩, revidrEntry, hentry,
      by rw [hsel, beq_self_eq_true]; rfl⟩
  have hxs : [revidrRead] ≠ [] := List.cons_ne_nil _ _
  obtain ⟨l, hl, hmem⟩ := decoded_ok (expanded (included 0 bitfieldTable))
    revidrRequest hxs
  have hp := (hmem _).2 ⟨(revidrRead, revidrEntry),
    ⟨mem_pairs.2 ⟨List.mem_singleton.2 rfl, hentry, hreads⟩,
      fun hnp => absurd hnp (by decide)⟩, rfl⟩
  have huid := reportOf_uid (expanded (included 0 bitfieldTable))
    revidrRequest (revidrRead, revidrEntry)
  have hright := hall revidrFind revidrRequest "armv7a" "cortex-a9"
    [revidrRead] l revidrRequest_made rfl rfl hl _ hp
    ⟨revidrEntry, hentry, huid.symm, by decide⟩
  have hname : ByName "armv7a" "cortex-a9" revidrRequest :=
    byName_of_request revidrRequest_made rfl rfl
  exact not_right_of_cortexA7 hname
    (by rw [huid]; decide +kernel) hright

theorem decode_table_iff_revidr :
    (∀ l, breakoutParseResults .ok (expanded (included 0 bitfieldTable))
          [revidrRead] (breakoutSearchTable .ok
            (expanded (included 0 bitfieldTable)) revidrRequest []).2.1 []
            = some (0, l, .ok) →
          ∀ p ∈ l,
            SystemResult (expanded (included 0 bitfieldTable)) p →
            RightTable "armv7a" "cortex-a9" archArmv7a p)
        ↔ ("cortex-a9" = "cortex-a9" →
          NoCortexA7Read (expanded (included 0 bitfieldTable))
            revidrRequest [revidrRead]) :=
  (@decode_table_iff revidrRequest 0 revidrFind revidrRequest_made
    "armv7a" "cortex-a9" rfl rfl [revidrRead]).1

end Maplesyrup
