/-
--calc: a value that is typed, in place of one that is read.

The tool decodes it as if it had been read, of no level and on no core
that is known: its lines are those of that one reading
(`supplied_shows`), the device is left alone, and of the lines the value
can be rebuilt (`supplied_rebuilds`). What is typed has to be of one
register; a name that no register has, or several, is refused.
-/
import Maplesyrup.Decode.Proofs.Value
import Maplesyrup.System.Proofs.Rebuilt

namespace Maplesyrup

open Base

variable {δ : Type} {H : Host δ} {tables : List BitfieldTableEntry}
  {heap : List BitfieldInfoHeap} {c : FindCall} {info : MatchInfo}

-- =========================================================== the statement

/-- A value taken for a reading of the register. -/
def suppliedReading (registerUid : U32) (v : U64) : Reading :=
  ⟨registerUid, 0, 0, 0, v⟩

/-- What is asked for is there, and is of one register. -/
structure OneRegister (heap : List BitfieldInfoHeap) (info : MatchInfo)
    (registerUid : U32) : Prop where
  any : ∃ h ∈ heap, info.selects h = true
  all : ∀ h ∈ heap, info.selects h = true →
    h.info.registerUid = registerUid

/-- The call brings a value, and has memory for all it does. -/
structure FindCall.Calculates (c : FindCall) : Prop where
  resultsOut : c.args.resultsOut = true
  calcValue : c.key.calcValue ≠ none
  alloc : c.outcome.alloc = .ok

-- ============================================================ the decoding

/-- The value of one register is found in its reading. -/
theorem parseResultsValue_found {registerUid : U32}
    (hone : OneRegister heap info registerUid)
    (hnp : info.noparse = 0 ∨ info.noparse = 1) :
    breakoutParseResultsValue .ok heap (requests heap info) []
      = some (0, found heap info
          [readOf registerUid info.calcValue 0 0], .ok) := by
  obtain ⟨h, hh, hsel⟩ := hone.any
  have hne : requests heap info ≠ [] := List.ne_nil_of_mem
    (List.mem_map_of_mem (List.mem_filter.2 ⟨hh, hsel⟩))
  have hvalue : ∀ r ∈ requests heap info,
      r.calcValue = info.calcValue := by
    intro r hr
    obtain ⟨g, -, rfl⟩ := List.mem_map.1 hr
    rfl
  have hreg : ∀ r ∈ requests heap info, r.registerUid = registerUid := by
    intro r hr
    obtain ⟨g, hg, rfl⟩ := List.mem_map.1 hr
    obtain ⟨hmem, hsel'⟩ := List.mem_filter.1 hg
    exact hone.all g hmem hsel'
  rw [parseResultsValue_eq heap
    (breakoutValueValidate_some hne hvalue hreg)
    (valueToLong_wide info.calcValue)]
  exact breakoutParseResults_found hnp (List.cons_ne_nil _ _)

/-- The value of none, or of several, is refused. -/
theorem parseResultsValue_refused
    (hnone : ∀ registerUid, ¬ OneRegister heap info registerUid)
    (out : List BitfieldInfoPopulated) :
    breakoutParseResultsValue .ok heap (requests heap info) out
      = some (-1, out, .ok) := by
  have hinvalid : breakoutValueValidate (requests heap info) = none := by
    cases hfirst : heap.filter info.selects with
    | nil =>
        rw [requests, hfirst]
        rfl
    | cons h hs =>
        have hmem : h ∈ heap.filter info.selects := by
          rw [hfirst]
          exact List.mem_cons_self ..
        obtain ⟨hh, hsel⟩ := List.mem_filter.1 hmem
        obtain ⟨h', hh', hsel', hne⟩ : ∃ h' ∈ heap,
            info.selects h' = true
              ∧ h'.info.registerUid ≠ h.info.registerUid := by
          by_contra hall
          push Not at hall
          exact hnone h.info.registerUid ⟨⟨h, hh, hsel⟩, hall⟩
        have hr : requestOf info h ∈ requests heap info :=
          List.mem_map_of_mem hmem
        have hr' : requestOf info h' ∈ requests heap info :=
          List.mem_map_of_mem (List.mem_filter.2 ⟨hh', hsel'⟩)
        exact breakoutValueValidate_none hr' hr hne
  rw [breakoutParseResultsValue, hinvalid]

-- ================================================================ the call

/-- A call with a value comes to its decoding, and leaves the device. -/
theorem FindCall.run_calculates (H : Host δ)
    (tables : List BitfieldTableEntry) (hc : c.Calculates)
    (hinfo : c.request = some info) {r : Int}
    {list : List BitfieldInfoPopulated}
    (hself : heap = expanded (included c.args.includeDevices tables))
    (hparse : breakoutParseResultsValue .ok heap (requests heap info) []
      = some (r, list, .ok)) (p : Process δ) :
    ∃ q, q.dev = p.dev
      ∧ c.run H tables p
        = if r = 0 then
            .ok ⟨(flattenResults .ok heap list).1,
              (flattenResults .ok heap list).2.1, q⟩
          else .ok ⟨-1, none, q⟩ := by
  obtain ⟨base, hset, hkey⟩ := FindCall.request_some hinfo
  have hdevice : c.key.calcValue.isNone = false := by
    cases hcase : c.key.calcValue with
    | none => exact absurd hcase hc.calcValue
    | some s => rfl
  have hrequest : c.run H tables p
      = findRequest H tables false c.outcome info c.args.includeDevices []
          p := by
    rw [FindCall.run_eq, msFind_value hc.resultsOut hc.calcValue,
      findStarted, if_neg (by simp), hset]
    dsimp only
    rw [hkey, ok_bind, hdevice]
  obtain ⟨tbl, hread, hheap⟩ := tables_loaded tables
    c.args.includeDevices p.tables
  have hvalid : ¬ info.calcValid = 0 := fun hzero =>
    hc.calcValue ((FindCall.request_mode hinfo).2.1.1 hzero)
  have hsearch : breakoutSearchTable .ok heap info []
      = (0, requests heap info, .ok) := breakoutSearchTable_ok heap info []
  have hfind : Stack.findBitfields (H.platform p.msFd) .ok heap p.dev
      (some info) (some [])
      = .ok ((if r = 0 then 0 else -1, list, .ok), p.dev) := by
    by_cases hr : r = 0 <;>
      simp only [Stack.findBitfields, hsearch, hvalid, msListInit,
        Stack.breakoutParseResultsValue_eq, hparse, orFault_some, ok_bind,
        Stack.findDone_some, hr, ne_eq, not_true_eq_false,
        not_false_eq_true, ↓reduceIte]
  rw [hrequest]
  unfold findRequest
  rw [hc.alloc, hread]
  dsimp only
  rw [hheap, ← hself]
  rw [ok_bind, hfind, ok_bind]
  dsimp only
  refine ⟨{ p with tables := eraseTables tbl }, rfl, ?_⟩
  by_cases hr : r = 0
  · rw [if_pos hr, if_pos hr, if_neg (by simp)]
    by_cases hflat : (flattenResults .ok heap list).1 = 0
    · rw [if_neg (not_not.2 hflat), hflat]
      rfl
    · rw [if_pos hflat, (flattenResults_failed _ _ _ hflat).1,
        (flattenResults_failed _ _ _ hflat).2]
      rfl
  · rw [if_neg hr, if_neg hr, if_pos (by simp)]
    rfl

/-- Every entry that is asked for fits the value. -/
theorem OneRegister.fits {registerUid : U32} {h : BitfieldInfoHeap}
    (hone : OneRegister heap info registerUid) (hh : h ∈ heap)
    (hsel : info.selects h = true) (v : U64) :
    (suppliedReading registerUid v).fits h = true := by
  rw [Reading.fits, hone.all h hh hsel]
  exact Bool.and_eq_true_iff.2
    ⟨beq_self_eq_true _, (midrMatches_iff _ _).2 (Or.inl rfl)⟩

/-- All that is asked for are fields of the value. -/
theorem OneRegister.fieldsOf_eq {registerUid : U32}
    (hone : OneRegister heap info registerUid) (v : U64) :
    fieldsOf heap info (suppliedReading registerUid v)
      = heap.filter info.selects := by
  refine List.filter_congr fun h hh => ?_
  cases hsel : info.selects h with
  | false => rfl
  | true =>
      rw [hone.fits hh hsel v]
      rfl

/-- A value of one register is shown as its reading would be. -/
theorem FindCall.run_supplied (H : Host δ) (hc : c.Calculates)
    (hinfo : c.request = some info) (hparsed : c.args.noparse = 0)
    (hself : heap = expanded (included c.args.includeDevices tables))
    (hheap : Readable heap) {registerUid : U32}
    (hone : OneRegister heap info registerUid) (p : Process δ) :
    ∃ r, c.run H tables p = .ok r ∧ r.ret = 0 ∧ r.process.dev = p.dev
      ∧ linesOf (showResults false r.stored)
        = (shown heap info [suppliedReading registerUid
            info.calcValue]).map (fieldLine heap) := by
  have hmode := (FindCall.request_mode hinfo).1
  rw [hparsed] at hmode
  obtain ⟨q, hdev, hrun⟩ := FindCall.run_calculates H tables hc hinfo hself
    (parseResultsValue_found hone (Or.inl hmode)) p
  rw [if_pos rfl] at hrun
  have hfound : (found heap info
      [readOf registerUid info.calcValue 0 0]).filter
        (fun x => x.status == msErrorSuccess)
      = shown heap info
        [suppliedReading registerUid info.calcValue] := by
    rw [found_shown hheap.heapOk hmode]
    have hreading : (readOf registerUid info.calcValue 0 0).reading
        = some (suppliedReading registerUid info.calcValue) := by
      rw [IoctlResult.reading, if_pos (by rfl), readingOf,
        IoctlResult.word, readOf, valueToLong_wide]
      rfl
    rw [List.filterMap_cons, hreading]
    rfl
  have hcount : (found heap info
      [readOf registerUid info.calcValue 0 0]).length < 2 ^ 31 := by
    have hpairs := pairs_length_le hheap.heapOk.uids info
      [readOf registerUid info.calcValue 0 0]
    rw [List.length_singleton, Nat.one_mul] at hpairs
    exact ((found_length_le _ _).trans hpairs).trans_lt hheap.length_lt
  refine ⟨_, hrun, ?_, hdev, ?_⟩
  · obtain ⟨h, hh, hsel⟩ := hone.any
    have hmem : (suppliedReading registerUid info.calcValue).field h
        ∈ shown heap info
          [suppliedReading registerUid info.calcValue] := by
      refine List.mem_flatMap.2 ⟨_, List.mem_singleton.2 rfl,
        List.mem_map_of_mem (List.mem_filter.2 ⟨hh, ?_⟩)⟩
      rw [hsel, hone.fits hh hsel]
      rfl
    rw [← hfound] at hmem
    have hpos := List.length_pos_of_mem (List.mem_filter.1 hmem).1
    dsimp only
    unfold flattenResults
    rw [if_neg hpos.ne']
    rfl
  · dsimp only
    rw [linesOf_flattened hcount, hfound]

-- ============================================================== the screen

/-- The command line brings a value to decode into fields. -/
structure Supplies (t : Target) (stale : Stale)
    (tables : List BitfieldTableEntry) (argv : List Text) (o : Outcome)
    (heap : List BitfieldInfoHeap) (c : FindCall) (info : MatchInfo) :
    Prop extends Asks t stale tables argv o heap c info where
  runs : c.Calculates
  parsed : c.args.noparse = 0

variable {t : Target} {stale : Stale} {argv : List Text}
  {o : Nat → Outcome}

theorem Supplies.main_lines
    (h : Supplies t stale tables argv (o 0) heap c info) (H : Host δ)
    (listing : Outcome) {registerUid : U32}
    (hone : OneRegister heap info registerUid) (p : Process δ) :
    ∃ run, main H tables t stale argv listing o p = .ok run
      ∧ run.result = 0 ∧ run.process.dev = p.dev
      ∧ screenLines run.screen
        = readingLines heap info
          (suppliedReading registerUid info.calcValue) := by
  obtain ⟨r, hrun, hret, hdev, hlines⟩ := FindCall.run_supplied H h.runs
    h.request h.parsed h.table h.readable hone p
  obtain ⟨run, hmain, hscreen, hresult, hprocess⟩ := h.main_call H listing
    hrun fun hne => absurd hret hne
  rw [shown_lines, List.flatMap_singleton] at hlines
  refine ⟨run, hmain, ?_, ?_, hscreen.trans hlines⟩
  · rw [hresult, if_pos hret]
  · rw [hprocess, hdev]

/-- What the tool shows of a value: the fields of the register it is for,
whatever device there is. A name of none or of several is refused. -/
theorem supplied_shows
    (h : Supplies t stale tables argv (o 0) heap c info) (H : Host δ)
    (listing : Outcome) (p : Process δ) :
    (∀ registerUid, OneRegister heap info registerUid →
        ∃ run, main H tables t stale argv listing o p = .ok run
          ∧ run.result = 0 ∧ run.process.dev = p.dev
          ∧ screenLines run.screen
            = readingLines heap info
              (suppliedReading registerUid info.calcValue))
      ∧ ((∀ registerUid, ¬ OneRegister heap info registerUid) →
        ∃ run, main H tables t stale argv listing o p = .ok run
          ∧ run.result = -1 ∧ run.process.dev = p.dev
          ∧ screenLines run.screen = []) := by
  constructor
  · intro registerUid hone
    exact h.main_lines H listing hone p
  · intro hnone
    obtain ⟨q, hdev, hrun⟩ := FindCall.run_calculates H tables h.runs
      h.request h.table (parseResultsValue_refused hnone []) p
    rw [if_neg (by decide)] at hrun
    obtain ⟨run, hmain, hscreen, hresult, hprocess⟩ := h.main_call H listing
      hrun fun _ => rfl
    refine ⟨run, hmain, hresult, ?_, hscreen⟩
    rw [hprocess, hdev]

def typedWords : List Text :=
  ["--register".toList, "PMCR".toList, "--arch".toList, "armv7a".toList,
    "-iall".toList, "--calc=0x41002001".toList]

def typedCall : FindCall :=
  ⟨{}, { arch := some "armv7a", impl := some "all" },
    .register (some "PMCR") (some "0x41002001")⟩

def typedInfo : MatchInfo where
  architecture := archArmv7a
  implementation := implAll
  registerName := "PMCR"
  pl := preferredPl
  cpu := 0xFFFFFFFF
  calcValid := 1
  calcValue := 0x41002001

theorem pmcr_supplies :
    Supplies .aarch32 someStale bitfieldTable typedWords {} systemHeap
      typedCall typedInfo where
  goesOn := by decide
  searches := by decide
  plain := by decide
  call := by rfl
  request := by decide +kernel
  table := rfl
  readable := shipped_readable 0
  runs := ⟨rfl, by decide, rfl⟩
  parsed := rfl

/-- PMCR is in one shipped table of the architecture. -/
theorem pmcr_one {h : BitfieldInfoHeap} (hh : h ∈ systemHeap)
    (hsel : typedInfo.selects h = true) :
    h.info.registerUid = MsSysreg.PMCR
      ∧ mscodePartnumber h.info.uid = archArmv7a := by
  have hrows : ∀ t ∈ bitfieldTable, ∀ row ∈ t.tablePtr,
      row.registerName = "PMCR" →
        t.tableType = .arch ∧ row.registerUid = MsSysreg.PMCR := by
    decide +kernel
  obtain ⟨hkey, htable⟩ := Bool.and_eq_true_iff.1 hsel
  rw [matchesKey_eq (shipped_searchable 0) (c := typedCall)
    (by decide +kernel) hh] at hkey
  have hname : some "PMCR" = some h.registerNameExpanded :=
    of_decide_eq_true hkey
  obtain ⟨i, hi⟩ := List.getElem?_of_mem hh
  obtain ⟨t, ht, row, hrow, hentry⟩ := expanded_allExpand _ i h hi
  obtain ⟨ht', hdevice⟩ := included_mem ht
  rcases hentry with ⟨hsys, rfl⟩ | ⟨hmm, -, -, -⟩
  · have hlen := shipped_names t ht' row hrow
    have hself : (sysEntry t row).registerNameExpanded
        = row.registerName :=
      strncpy_of_le (by unfold parseMaxRegister; omega)
    rw [hself] at hname
    obtain ⟨harch, hreg⟩ := hrows t ht' row hrow
      (Option.some.inj hname).symm
    refine ⟨hreg, ?_⟩
    unfold MatchInfo.matchesTable at htable
    rw [show (sysEntry t row).tableType = .arch from harch] at htable
    exact beq_iff_eq.1 htable
  · exact absurd (hdevice hmm) (by decide)

theorem pmcr_oneRegister :
    OneRegister systemHeap typedInfo MsSysreg.PMCR where
  any := by
    obtain ⟨row, hrow, -, hsel⟩ : ∃ row ∈ bitfieldArmv7aTable,
        row.registerUid = MsSysreg.PMCR
          ∧ typedInfo.selects (sysEntry
            ⟨.arch, archArmv7a, bitfieldArmv7aTable⟩ row) = true := by
      decide +kernel
    have hmem : sysEntry ⟨.arch, archArmv7a, bitfieldArmv7aTable⟩ row
        ∈ systemHeap :=
      expanded_sysEntry (List.mem_filter.2 ⟨by simp [bitfieldTable], rfl⟩)
        (by simp) hrow
    exact ⟨_, hmem, hsel⟩
  all := fun _ hh hsel => (pmcr_one hh hsel).1

theorem supplied_shows_pmcr :
    ∃ run, main a7Host bitfieldTable .aarch32 someStale typedWords {}
        (fun _ => {}) ⟨{}, -1, {}, ()⟩ = .ok run
      ∧ run.result = 0 ∧ run.process.dev = ()
      ∧ screenLines run.screen
        = readingLines systemHeap typedInfo
          (suppliedReading MsSysreg.PMCR typedInfo.calcValue) :=
  (supplied_shows (o := fun _ => {}) pmcr_supplies a7Host {}
    ⟨{}, -1, {}, ()⟩).1 _ pmcr_oneRegister

-- ========================================================== there and back

/-- A value in hexadecimal below 2^63 is taken as it is. -/
theorem carriedValue_spelled {s : String} {v : U64}
    (hs : Spells s v.toNat) (hlt : v.toNat < 2 ^ 63) :
    carriedValue false (some s) = v := by
  have hback : BitVec.ofInt 64 (v.toNat : Int) = v := by
    rw [BitVec.ofInt_natCast, BitVec.ofNat_toNat, BitVec.setWidth_eq]
  unfold carriedValue
  dsimp only
  rw [strtollHex_spelled hs, if_pos hlt]
  exact hback

/-- A value typed in hexadecimal can be read off the screen, but for the
bits that no field has, where its register is of one table and no
misfit. -/
theorem supplied_rebuilds
    (h : Supplies t stale bitfieldTable argv (o 0) heap c info)
    (hinc : c.args.includeDevices ≠ 1) (H : Host δ) (listing : Outcome)
    (p : Process δ) {s : String} {v : U64}
    (htext : c.key.calcValue = some s) (hs : Spells s v.toNat)
    (hlt : v.toNat < 2 ^ 63) (herrno : c.outcome.errnoRange = false)
    {registerUid part : U32} (hone : OneRegister heap info registerUid)
    (hpart : ∀ g ∈ heap, info.selects g = true →
      mscodePartnumber g.info.uid = part)
    (hfit : (part, registerUid) ∉ misfits) :
    ∃ run, main H bitfieldTable t stale argv listing o p = .ok run
      ∧ rebuilt (screenLines run.screen)
        = restrict ((heap.filter info.selects).map fun g => g.info.bits)
          v.toNat := by
  obtain ⟨run, hmain, -, -, hlines⟩ := h.main_lines H listing hone p
  have hvalue : info.calcValue = v := by
    rw [(FindCall.request_mode h.request).2.2, htext, herrno]
    exact carriedValue_spelled hs hlt
  refine ⟨run, hmain, ?_⟩
  have huids := h.readable.heapOk.uids
  rw [hlines, hvalue, ← hone.fieldsOf_eq v]
  obtain rfl := h.table
  refine rebuilt_reading huids (Links.shipped_stampsFit _)
    (shipped_whole hinc (fun g hg => ?_) hfit)
  rw [hone.fieldsOf_eq v] at hg
  obtain ⟨hmem, hsel⟩ := List.mem_filter.1 hg
  exact hpart g hmem hsel

theorem supplied_rebuilds_pmcr :
    ∃ run, main a7Host bitfieldTable .aarch32 someStale typedWords {}
        (fun _ => {}) ⟨{}, -1, {}, ()⟩ = .ok run
      ∧ rebuilt (screenLines run.screen)
        = restrict ((systemHeap.filter typedInfo.selects).map
            fun g => g.info.bits) (0x41002001 : U64).toNat :=
  supplied_rebuilds (o := fun _ => {}) (s := "0x41002001") pmcr_supplies
    (by decide) a7Host {} ⟨{}, -1, {}, ()⟩ rfl
    ⟨['0', 'x'], by simp, "41002001".toList, [4, 1, 0, 0, 2, 0, 0, 1],
      by decide, by decide, by decide, by decide⟩
    (by decide) rfl pmcr_oneRegister (fun _ hg hsel => (pmcr_one hg hsel).2)
    (by decide)

end Maplesyrup
