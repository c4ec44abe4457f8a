/-
Which register names denote one register.

Names are told apart row by row: those of system registers against each
other, those of memory-mapped rows up to the decimal a word is numbered
with, which cannot run one name into another because none is a prefix of
another. A few names are given to several registers; every other name of
the heap has one.
-/
import Maplesyrup.Decode.Proofs.Origin
import Maplesyrup.Decode.Proofs.Uid
import Maplesyrup.Decode.Proofs.Value

namespace Maplesyrup

open Base MsGic

-- ============================================================== the names

/-- The system-register tables of an architecture: its own, and those of
its implementations. -/
def archTables (arch : U32) : List BitfieldTableEntry :=
  bitfieldTable.filter fun t =>
    match t.tableType with
    | .impl => arch == getArchFromImpl t.partNumber
    | .arch => t.partNumber == arch
    | .mm => false

/-- The names of its system registers. -/
def sysNames (arch : U32) : List (String × U32) :=
  (archTables arch).flatMap fun t =>
    t.tablePtr.map fun row => (row.registerName, row.registerUid)

/-- The names of the memory-mapped rows: part, offset, words. -/
def deviceNames : List (String × U32 × U32 × U32) :=
  deviceTables.flatMap fun t =>
    t.tablePtr.map fun row =>
      (row.registerName, t.partNumber, row.registerUid, row.range)

/-- System-register names that several registers have: the ARMv7-A rows
of TTBR0LPAE and TTBR1LPAE are named TTBR0 and TTBR1, the ARMv8-A table
swaps TTBR0 and TTBR1 against the Cortex-A57 one, TPIDR is two registers
there. -/
def sharedSysNames (arch : U32) : List String :=
  if arch = archArmv8a then ["TTBR0", "TTBR1", "TPIDR"]
  else ["TTBR0", "TTBR1"]

/-- Two rows of the cpu interface have this name, of 4 words and of 3. -/
def reservedName : String := "GICC_RESERVED"

/-- So their first words are numbered alike. -/
def sharedWordNames : List String :=
  ["GICC_RESERVED0", "GICC_RESERVED1", "GICC_RESERVED2"]

/-- Names that several registers have. -/
def sharedNames (arch : U32) (includeDevices : Int) : List String :=
  sharedSysNames arch
    ++ if includeDevices = 1 then sharedWordNames else []

-- =========================================================== their checks

/-- A checked list of system-register names. -/
structure SysNamesOk (shared : List String) (names : List (String × U32)) :
    Prop where
  length : ∀ p ∈ names, p.1.length ≤ 30
  head : ∀ p ∈ names, p.1.toList.head? ≠ some 'G'
  one : ∀ p ∈ names, ∀ q ∈ names, p.1 = q.1 → p.2 = q.2 ∨ p.1 ∈ shared

theorem sysNames_ok {arch : U32}
    (harch : arch = archArmv7a ∨ arch = archArmv8a) :
    SysNamesOk (sharedSysNames arch) (sysNames arch) := by
  have hcheck : ((collect (fun k => (sharedSysNames arch).contains k) []
      (sysNames arch)).any fun names => names.all fun p =>
        decide (p.1.length ≤ 30) && p.1.toList.head? != some 'G')
      = true := by
    rcases harch with rfl | rfl
    · decide +kernel
    · decide +kernel
  obtain ⟨names, hall, hone, hmem⟩ := oneValue_of_collect hcheck
  rw [List.all_eq_true] at hall
  constructor
  · intro p hp
    have hp' := hall p (hmem p hp)
    rw [Bool.and_eq_true] at hp'
    exact of_decide_eq_true hp'.1
  · intro p hp
    have hp' := hall p (hmem p hp)
    rw [Bool.and_eq_true] at hp'
    simpa using hp'.2
  · intro p hp q hq hpq
    refine (hone p (hmem p hp) q (hmem q hq) hpq).imp_right fun hfree => ?_
    simpa using hfree

/-- A checked list of names of memory-mapped rows. -/
structure DeviceNamesOk (names : List (String × U32 × U32 × U32)) :
    Prop where
  length : ∀ p ∈ names, p.1.length ≤ 20
  head : ∀ p ∈ names, p.1.toList.head? = some 'G'
  range : ∀ p ∈ names, p.2.2.2.toNat ≤ 1000
  apart : ∀ p ∈ names, ∀ q ∈ names,
    p.1.toList <+: q.1.toList → p.1 = q.1
  one : ∀ p ∈ names, ∀ q ∈ names, p.1 = q.1 →
    p.2 = q.2 ∨ p.1 = reservedName
  reserved : ∀ p ∈ names, p.1 = reservedName →
    p.2 = (giccV2, GICC_RESERVED_00, 4)
      ∨ p.2 = (giccV2, GICC_RESERVED_01, 3)

theorem deviceNames_ok : DeviceNamesOk deviceNames := by
  have hcheck : ((collect (fun k => k == reservedName) []
      deviceNames).any fun names => names.all fun p =>
        decide (p.1.length ≤ 20) && p.1.toList.head? == some 'G'
          && decide (p.2.2.2.toNat ≤ 1000)
          && (p.1 != reservedName || p.2 == (giccV2, GICC_RESERVED_00, 4)
            || p.2 == (giccV2, GICC_RESERVED_01, 3))
          && names.all fun q =>
            !p.1.toList.isPrefixOf q.1.toList || p.1 == q.1)
      = true := by
    decide +kernel
  obtain ⟨names, hall, hone, hmem⟩ := oneValue_of_collect hcheck
  have hrow : ∀ p ∈ deviceNames, _ := fun p hp =>
    List.all_eq_true.1 hall p (hmem p hp)
  simp only [Bool.and_eq_true, Bool.or_eq_true, decide_eq_true_eq,
    beq_iff_eq, bne_iff_ne, List.all_eq_true, Bool.not_eq_true',
    ← Bool.not_eq_true, List.isPrefixOf_iff_prefix] at hrow
  constructor
  · exact fun p hp => (hrow p hp).1.1.1.1
  · exact fun p hp => (hrow p hp).1.1.1.2
  · exact fun p hp => (hrow p hp).1.1.2
  · intro p hp q hq hpre
    exact ((hrow p hp).2 q (hmem q hq)).resolve_left fun hno => hno hpre
  · intro p hp q hq hpq
    refine (hone p (hmem p hp) q (hmem q hq) hpq).imp_right fun hfree => ?_
    simpa using hfree
  · intro p hp hname
    rcases (hrow p hp).1.2 with (hne | hfirst) | hsecond
    · exact absurd hname hne
    · exact Or.inl hfirst
    · exact Or.inr hsecond

-- ======================================================= names of entries

/-- The register uid of the word. -/
def wordUid (p : U32 × U32 × U32) (k : Nat) : U32 :=
  mscode p.1 p.2.1 (p.2.1 + .ofNat 32 k * msGicv2Alignment)

/-- What names an entry that queries on the architecture can select. -/
def NamedEntry (arch : U32) (includeDevices : Int) (h : BitfieldInfoHeap) :
    Prop :=
  (∃ p ∈ sysNames arch,
      h.registerNameExpanded = p.1 ∧ h.info.registerUid = p.2)
    ∨ includeDevices = 1 ∧ ∃ p ∈ deviceNames, ∃ k < p.2.2.2.toNat,
      h.registerNameExpanded = wordName p.1 p.2.2.2 k
        ∧ h.info.registerUid = wordUid p.2 k

variable {arch : U32} {includeDevices : Int} {h h' : BitfieldInfoHeap}
  {info : MatchInfo} {t : BitfieldTableEntry} {row : BitfieldInfo}

theorem included_mem (ht : t ∈ included includeDevices bitfieldTable) :
    t ∈ bitfieldTable ∧ (t.tableType = .mm → includeDevices = 1) := by
  unfold included at ht
  split at ht
  · rename_i hinc
    exact ⟨ht, fun _ => hinc⟩
  · obtain ⟨hmem, hsys⟩ := List.mem_filter.1 ht
    refine ⟨hmem, fun hmm => ?_⟩
    simp [BitfieldTableEntry.system, hmm] at hsys

/-- A system register's codes carry its table's part number. -/
theorem sysEntry_part (ht : t ∈ bitfieldTable) (hsys : t.tableType ≠ .mm)
    (hrow : row ∈ t.tablePtr) :
    mscodePartnumber (sysEntry t row).info.uid = t.partNumber := by
  have hall : ∀ t ∈ bitfieldTable, t.tableType ≠ .mm →
      ∀ row ∈ t.tablePtr,
        mscodePartnumber (mscode t.partNumber row.registerUid row.uid)
          = t.partNumber := by
    decide +kernel
  exact hall t ht hsys row hrow

/-- A query selects the system registers of its architecture only. -/
theorem sysEntry_arch (ht : t ∈ bitfieldTable) (hsys : t.tableType ≠ .mm)
    (hrow : row ∈ t.tablePtr)
    (htable : info.matchesTable (sysEntry t row) = true) :
    t ∈ archTables info.architecture := by
  have hpart := sysEntry_part ht hsys hrow
  refine List.mem_filter.2 ⟨ht, ?_⟩
  unfold MatchInfo.matchesTable at htable
  rw [hpart] at htable
  have htype : (sysEntry t row).tableType = t.tableType := rfl
  rw [htype] at htable
  cases hty : t.tableType with
  | mm => exact absurd hty hsys
  | impl =>
      simp only [hty, Bool.and_eq_true] at htable
      exact htable.1
  | arch =>
      simp only [hty] at htable
      exact htable

/-- With all implementations, it selects all of these. -/
theorem sysEntry_selected (ht : t ∈ archTables info.architecture)
    (himpl : info.implementation = implAll) (hrow : row ∈ t.tablePtr) :
    info.matchesTable (sysEntry t row) = true := by
  obtain ⟨hmem, harch⟩ := List.mem_filter.1 ht
  have hsys : t.tableType ≠ .mm := by
    intro hmm
    simp [hmm] at harch
  have hpart := sysEntry_part hmem hsys hrow
  unfold MatchInfo.matchesTable
  rw [hpart]
  show (match t.tableType with
    | .impl => _
    | .arch => _
    | .mm => _) = true
  cases hty : t.tableType with
  | mm => exact absurd hty hsys
  | impl =>
      simp only [hty] at harch
      simp [himpl, beq_iff_eq.1 harch]
  | arch =>
      simp only [hty] at harch
      exact harch

/-- The name of a memory-mapped entry is not cut. -/
theorem mmEntry_name
    (hp : (row.registerName, t.partNumber, row.registerUid, row.range)
      ∈ deviceNames) {k : Nat} (hk : k < row.range.toNat) (i : Nat) :
    (mmEntry t row k i).registerNameExpanded
      = wordName row.registerName row.range k := by
  have hlen : row.registerName.length ≤ 20 := deviceNames_ok.length _ hp
  exact mmEntry_wordName t (hlen.trans (by decide)) hk i

theorem namedEntry (harch : arch = archArmv7a ∨ arch = archArmv8a)
    (hinfo : info.architecture = arch)
    (hh : h ∈ expanded (included includeDevices bitfieldTable))
    (htable : info.matchesTable h = true) :
    NamedEntry arch includeDevices h := by
  obtain ⟨i, hi⟩ := List.getElem?_of_mem hh
  obtain ⟨t, ht, row, hrow, hentry⟩ := expanded_allExpand _ i h hi
  obtain ⟨hmem, hinc⟩ := included_mem ht
  rcases hentry with ⟨hsys, rfl⟩ | ⟨hmm, k, hk, rfl⟩
  · have htarch := sysEntry_arch hmem hsys hrow htable
    rw [hinfo] at htarch
    have hp : (row.registerName, row.registerUid) ∈ sysNames arch :=
      List.mem_flatMap.2 ⟨t, htarch, List.mem_map_of_mem hrow⟩
    have hlen := (sysNames_ok harch).length _ hp
    exact Or.inl ⟨_, hp, strncpy_of_le (hlen.trans (by decide)), rfl⟩
  · have hdev : t ∈ deviceTables :=
      List.mem_filter.2 ⟨hmem, by simp [BitfieldTableEntry.system, hmm]⟩
    have hp : (row.registerName, t.partNumber, row.registerUid, row.range)
        ∈ deviceNames :=
      List.mem_flatMap.2 ⟨t, hdev, List.mem_map_of_mem hrow⟩
    exact Or.inr ⟨hinc hmm, _, hp, k, hk, mmEntry_name hp hk i, rfl⟩

-- ============================================================ equal names

/-- A word's name is its row's with something behind it. -/
theorem wordName_toList (name : String) (range : U32) (k : Nat) :
    ∃ digits, (wordName name range k).toList = name.toList ++ digits := by
  unfold wordName
  split
  · exact ⟨(toString k).toList, String.toList_append⟩
  · exact ⟨[], (List.append_nil _).symm⟩

/-- Words of rows with different names have different names. -/
theorem wordName_row {p q : String × U32 × U32 × U32}
    (hp : p ∈ deviceNames) (hq : q ∈ deviceNames) {k l : Nat}
    (hname : wordName p.1 p.2.2.2 k = wordName q.1 q.2.2.2 l) :
    p.1 = q.1 := by
  obtain ⟨ds, hds⟩ := wordName_toList p.1 p.2.2.2 k
  obtain ⟨es, hes⟩ := wordName_toList q.1 q.2.2.2 l
  have hsame : p.1.toList ++ ds = q.1.toList ++ es := by
    rw [← hds, ← hes, hname]
  have hpre : p.1.toList <+: p.1.toList ++ ds := List.prefix_append _ _
  have hpre' : q.1.toList <+: p.1.toList ++ ds := by
    rw [hsame]
    exact List.prefix_append _ _
  rcases List.prefix_or_prefix_of_prefix hpre hpre' with hle | hle
  · exact deviceNames_ok.apart p hp q hq hle
  · exact (deviceNames_ok.apart q hq p hp hle).symm

/-- Words of one row with one name are one word. -/
theorem wordName_index {name : String} {range : U32} {k l : Nat}
    (hk : k < range.toNat) (hl : l < range.toNat)
    (hname : wordName name range k = wordName name range l) : k = l := by
  unfold wordName at hname
  split at hname
  · have hdigits : (toString k).toList = (toString l).toList := by
      have hlist := congrArg String.toList hname
      rw [String.toList_append, String.toList_append] at hlist
      exact List.append_cancel_left hlist
    exact Nat.repr_inj.1 (String.toList_inj.1 hdigits)
  · omega

/-- A system register's name is no word's. -/
theorem sysName_ne_wordName
    (harch : arch = archArmv7a ∨ arch = archArmv8a) {p : String × U32}
    (hp : p ∈ sysNames arch) {q : String × U32 × U32 × U32}
    (hq : q ∈ deviceNames) (k : Nat) : p.1 ≠ wordName q.1 q.2.2.2 k := by
  intro hname
  obtain ⟨ds, hds⟩ := wordName_toList q.1 q.2.2.2 k
  have hhead := deviceNames_ok.head q hq
  have hnot := (sysNames_ok harch).head p hp
  rw [hname, hds, List.head?_append, hhead] at hnot
  exact hnot rfl

/-- The words of the second reserved row share their names. -/
theorem reserved_shared {k : Nat} (hk : k < 3) :
    wordName reservedName 3 k ∈ sharedWordNames := by
  have hall : ∀ k < 3, wordName reservedName 3 k ∈ sharedWordNames := by
    decide +kernel
  exact hall k hk

/-- A word with a name of its own is not of that row. -/
theorem reserved_first {p : String × U32 × U32 × U32}
    (hp : p ∈ deviceNames) (hres : p.1 = reservedName) {k : Nat}
    (hk : k < p.2.2.2.toNat)
    (hfree : wordName p.1 p.2.2.2 k ∉ sharedWordNames) :
    p.2 = (giccV2, GICC_RESERVED_00, 4) := by
  rcases deviceNames_ok.reserved p hp hres with hfirst | hsecond
  · exact hfirst
  · rw [hsecond] at hk
    rw [hres, hsecond] at hfree
    exact absurd (reserved_shared hk) hfree

/-- Words with one name are one register, unless the name is shared. -/
theorem word_one {p q : String × U32 × U32 × U32}
    (hp : p ∈ deviceNames) (hq : q ∈ deviceNames) {k l : Nat}
    (hk : k < p.2.2.2.toNat) (hl : l < q.2.2.2.toNat)
    (hname : wordName p.1 p.2.2.2 k = wordName q.1 q.2.2.2 l)
    (hfree : wordName p.1 p.2.2.2 k ∉ sharedWordNames) :
    wordUid p.2 k = wordUid q.2 l := by
  have hrow := wordName_row hp hq hname
  have hsame : p.2 = q.2 := by
    rcases deviceNames_ok.one p hp q hq hrow with hsame | hres
    · exact hsame
    · have hfree' := hfree
      rw [hname] at hfree'
      rw [reserved_first hp hres hk hfree,
        reserved_first hq (hrow ▸ hres) hl hfree']
  obtain ⟨pn, pv⟩ := p
  obtain ⟨qn, qv⟩ := q
  obtain rfl : pv = qv := hsame
  obtain rfl : pn = qn := hrow
  rw [wordName_index hk hl hname]

-- ============================================================== the queries

/-- A query that `ms_find_by_register` makes on the architecture. -/
structure RegisterQuery (arch : U32) (info : MatchInfo) : Prop where
  architecture : info.architecture = arch
  functionalGroup : info.functionalGroup = ""
  uid : info.uid = 0

/-- No entry is without a group. -/
theorem shipped_group (hh : h ∈ expanded
    (included includeDevices bitfieldTable)) :
    h.info.functionalGroup ≠ "" := by
  have hall : ∀ t ∈ bitfieldTable, ∀ row ∈ t.tablePtr,
      row.functionalGroup ≠ "" := by
    decide +kernel
  obtain ⟨i, hi⟩ := List.getElem?_of_mem hh
  obtain ⟨t, ht, row, hrow, hentry⟩ := expanded_allExpand _ i h hi
  have hne := hall t (included_mem ht).1 row hrow
  rcases hentry with ⟨-, rfl⟩ | ⟨-, k, -, rfl⟩
  · exact hne
  · exact hne

/-- It selects by name and table. -/
theorem RegisterQuery.selects_iff (hq : RegisterQuery arch info)
    (hh : h ∈ expanded (included includeDevices bitfieldTable)) :
    info.selects h = true ↔
      strncmp h.registerNameExpanded info.registerName
          (parseMaxRegister - 1) = true
        ∧ info.matchesTable h = true := by
  have huid := shipped_uid_ne_zero includeDevices h hh
  have hgroup := shipped_group hh
  have hnotgroup : ¬ strncmp h.info.functionalGroup info.functionalGroup
      (parseMaxFunctional - 1) = true := by
    rw [hq.functionalGroup, strncmp_empty (by decide)]
    exact hgroup
  unfold MatchInfo.selects MatchInfo.matchesKey
  rw [hq.uid, Bool.and_eq_true, Bool.or_eq_true, Bool.or_eq_true,
    beq_iff_eq]
  constructor
  · intro hcase
    rcases hcase with ⟨(hcon | hcon) | hname, htable⟩
    · exact absurd hcon huid
    · exact absurd hcon hnotgroup
    · exact ⟨hname, htable⟩
  · intro hall'
    obtain ⟨hname, htable⟩ := hall'
    exact ⟨Or.inr hname, htable⟩

theorem NamedEntry.length
    (harch : arch = archArmv7a ∨ arch = archArmv8a)
    (hn : NamedEntry arch includeDevices h) :
    h.registerNameExpanded.length ≤ 30 := by
  rcases hn with ⟨p, hp, hname, -⟩ | ⟨-, p, hp, k, hk, hname, -⟩
  · rw [hname]
    exact (sysNames_ok harch).length p hp
  · have hlen := deviceNames_ok.length p hp
    have hrange := deviceNames_ok.range p hp
    have hdigits : (toString k).length ≤ 3 :=
      (Nat.length_repr_le_iff (by omega)).2 (by omega)
    rw [hname, wordName]
    split
    · rw [String.length_append]
      omega
    · omega

/-- Entries with one name are of one register, unless the name is
shared. -/
theorem NamedEntry.one (harch : arch = archArmv7a ∨ arch = archArmv8a)
    (hn : NamedEntry arch includeDevices h)
    (hn' : NamedEntry arch includeDevices h')
    (hname : h.registerNameExpanded = h'.registerNameExpanded)
    (hfree : h.registerNameExpanded ∉ sharedNames arch includeDevices) :
    h.info.registerUid = h'.info.registerUid := by
  unfold sharedNames at hfree
  rw [List.mem_append, not_or] at hfree
  rcases hn with ⟨p, hp, hpn, hpu⟩ | ⟨hinc, p, hp, k, hk, hpn, hpu⟩
  · rcases hn' with ⟨q, hq, hqn, hqu⟩ | ⟨-, q, hq, l, hl, hqn, hqu⟩
    · rw [hpn, hqn] at hname
      rw [hpn] at hfree
      rw [hpu, hqu]
      exact ((sysNames_ok harch).one p hp q hq hname).resolve_right
        hfree.1
    · rw [hpn, hqn] at hname
      exact absurd hname (sysName_ne_wordName harch hp hq l)
  · rcases hn' with ⟨q, hq, hqn, hqu⟩ | ⟨-, q, hq, l, hl, hqn, hqu⟩
    · rw [hpn, hqn] at hname
      exact absurd hname.symm (sysName_ne_wordName harch hq hp k)
    · rw [hpn, hqn] at hname
      rw [hpn, if_pos hinc] at hfree
      rw [hpu, hqu]
      exact word_one hp hq hk hl hname hfree.2

-- ============================================================ shared names

/-- Two entries a query selects together have this name and are of
different registers. -/
def TwoRegisters (arch : U32) (heap : List BitfieldInfoHeap)
    (name : String) : Prop :=
  ∃ info, RegisterQuery arch info ∧ ∃ h ∈ heap, ∃ h' ∈ heap,
    info.selects h = true ∧ info.selects h' = true
      ∧ h.registerNameExpanded = name ∧ h'.registerNameExpanded = name
      ∧ h.info.registerUid ≠ h'.info.registerUid

/-- The query for a name, in all implementations. -/
def nameQuery (arch : U32) (name : String) : MatchInfo :=
  { architecture := arch
    implementation := implAll
    registerName := strncpy name (parseMaxRegister - 1) }

theorem nameQuery_selects {name : String}
    (hh : h ∈ expanded (included includeDevices bitfieldTable))
    (hname : h.registerNameExpanded = name) (hlen : name.length ≤ 30)
    (htable : (nameQuery arch name).matchesTable h = true) :
    (nameQuery arch name).selects h = true := by
  have hquery : RegisterQuery arch (nameQuery arch name) :=
    ⟨rfl, rfl, rfl⟩
  have hshort : name.length < parseMaxRegister - 1 :=
    hlen.trans_lt (by decide)
  refine (hquery.selects_iff hh).2 ⟨?_, htable⟩
  rw [hname]
  exact (strncmp_strncpy hshort).2 rfl

/-- A row of a system register has its entry in the heap, however it was
read, and queries for its name select it. -/
theorem sysName_entry (harch : arch = archArmv7a ∨ arch = archArmv8a)
    (includeDevices : Int) {p : String × U32} (hp : p ∈ sysNames arch) :
    ∃ h ∈ expanded (included includeDevices bitfieldTable),
      (nameQuery arch p.1).selects h = true
        ∧ h.registerNameExpanded = p.1 ∧ h.info.registerUid = p.2 := by
  obtain ⟨t, ht, hrow⟩ := List.mem_flatMap.1 hp
  obtain ⟨row, hmemrow, rfl⟩ := List.mem_map.1 hrow
  obtain ⟨hmem, hof⟩ := List.mem_filter.1 ht
  have hsys : t.tableType ≠ .mm := by
    intro hmm
    simp [hmm] at hof
  have hinc : t ∈ included includeDevices bitfieldTable := by
    unfold included
    split
    · exact hmem
    · exact List.mem_filter.2
        ⟨hmem, by simpa [BitfieldTableEntry.system] using hsys⟩
  have hlen : row.registerName.length ≤ 30 :=
    (sysNames_ok harch).length _ hp
  have hh := expanded_sysEntry hinc hsys hmemrow
  have hname : (sysEntry t row).registerNameExpanded = row.registerName :=
    strncpy_of_le (hlen.trans (by decide))
  exact ⟨_, hh, nameQuery_selects hh hname hlen
    (sysEntry_selected ht rfl hmemrow), hname, rfl⟩

/-- Every word of a memory-mapped row has its own. -/
theorem wordName_entry (arch : U32) {p : String × U32 × U32 × U32}
    (hp : p ∈ deviceNames) {k : Nat} (hk : k < p.2.2.2.toNat) :
    ∃ h ∈ expanded (included 1 bitfieldTable),
      (nameQuery arch (wordName p.1 p.2.2.2 k)).selects h = true
        ∧ h.registerNameExpanded = wordName p.1 p.2.2.2 k
        ∧ h.info.registerUid = wordUid p.2 k := by
  obtain ⟨t, ht, hrow⟩ := List.mem_flatMap.1 hp
  obtain ⟨row, hmemrow, rfl⟩ := List.mem_map.1 hrow
  have hmm := deviceTables_mm t ht
  have hinc : t ∈ included 1 bitfieldTable := (List.mem_filter.1 ht).1
  obtain ⟨i, hh⟩ := expanded_hasWord hinc hmm hmemrow hk
  have hname := mmEntry_name hp hk i
  have hnamed : NamedEntry archArmv7a 1 (mmEntry t row k i) :=
    Or.inr ⟨rfl, _, hp, k, hk, hname, rfl⟩
  have hlen := hnamed.length (Or.inl rfl)
  rw [hname] at hlen
  have htype : (mmEntry t row k i).tableType = .mm := hmm
  refine ⟨_, hh, nameQuery_selects hh hname hlen ?_, hname, rfl⟩
  unfold MatchInfo.matchesTable
  rw [htype]

/-- The shared names of system registers are. -/
theorem sharedSysName_two (harch : arch = archArmv7a ∨ arch = archArmv8a)
    {name : String} (hname : name ∈ sharedSysNames arch) :
    ∃ p ∈ sysNames arch, ∃ q ∈ sysNames arch,
      p.1 = name ∧ q.1 = name ∧ p.2 ≠ q.2 := by
  have hall : ((sharedSysNames arch).all fun name =>
      (sysNames arch).any fun p => p.1 == name
        && (sysNames arch).any fun q => q.2 != p.2 && q.1 == name)
      = true := by
    rcases harch with rfl | rfl
    · decide +kernel
    · decide +kernel
  obtain ⟨p, hp, hpq⟩ := List.any_eq_true.1
    (List.all_eq_true.1 hall name hname)
  rw [Bool.and_eq_true, beq_iff_eq] at hpq
  obtain ⟨q, hq, hqp⟩ := List.any_eq_true.1 hpq.2
  rw [Bool.and_eq_true, bne_iff_ne, beq_iff_eq] at hqp
  exact ⟨p, hp, q, hq, hpq.1, hqp.2, hqp.1.symm⟩

/-- So are those of words. -/
theorem sharedWordName_two {name : String} (hname : name ∈ sharedWordNames) :
    ∃ p ∈ deviceNames, ∃ q ∈ deviceNames, ∃ k,
      k < p.2.2.2.toNat ∧ k < q.2.2.2.toNat
        ∧ wordName p.1 p.2.2.2 k = name ∧ wordName q.1 q.2.2.2 k = name
        ∧ wordUid p.2 k ≠ wordUid q.2 k := by
  have hrows : deviceNames.contains
        (reservedName, giccV2, GICC_RESERVED_00, 4) = true
      ∧ deviceNames.contains
        (reservedName, giccV2, GICC_RESERVED_01, 3) = true := by
    decide +kernel
  have hindex : ∀ name ∈ sharedWordNames, ∃ k < 3,
      wordName reservedName 4 k = name ∧ wordName reservedName 3 k = name
        ∧ wordUid (giccV2, GICC_RESERVED_00, 4) k
          ≠ wordUid (giccV2, GICC_RESERVED_01, 3) k := by
    decide +kernel
  obtain ⟨k, hk, hfirst, hsecond, hne⟩ := hindex name hname
  exact ⟨_, List.contains_iff_mem.1 hrows.1,
    _, List.contains_iff_mem.1 hrows.2, k, Nat.lt_succ_of_lt hk, hk,
    hfirst, hsecond, hne⟩

theorem sharedName_two (harch : arch = archArmv7a ∨ arch = archArmv8a)
    {name : String} (hname : name ∈ sharedNames arch includeDevices) :
    TwoRegisters arch (expanded (included includeDevices bitfieldTable))
      name := by
  rcases List.mem_append.1 hname with hsys | hword
  · obtain ⟨p, hp, q, hq, rfl, hqn, hne⟩ := sharedSysName_two harch hsys
    obtain ⟨h, hh, hsel, hhn, hhu⟩ := sysName_entry harch includeDevices hp
    obtain ⟨h', hh', hsel', hhn', hhu'⟩ :=
      sysName_entry harch includeDevices hq
    rw [hqn] at hsel' hhn'
    rw [← hhu, ← hhu'] at hne
    exact ⟨nameQuery arch p.1, ⟨rfl, rfl, rfl⟩, h, hh, h', hh', hsel, hsel',
      hhn, hhn', hne⟩
  · split at hword
    · rename_i hinc
      obtain ⟨p, hp, q, hq, k, hk, hk', rfl, hqn, hne⟩ :=
        sharedWordName_two hword
      obtain ⟨h, hh, hsel, hhn, hhu⟩ := wordName_entry arch hp hk
      obtain ⟨h', hh', hsel', hhn', hhu'⟩ := wordName_entry arch hq hk'
      rw [hqn] at hsel' hhn'
      rw [← hhu, ← hhu'] at hne
      rw [hinc]
      exact ⟨nameQuery arch (wordName p.1 p.2.2.2 k), ⟨rfl, rfl, rfl⟩, h, hh,
        h', hh', hsel, hsel', hhn, hhn', hne⟩
    · exact absurd hword List.not_mem_nil

-- =========================================================== one register

/-- The name denotes one register. -/
structure DenotesOne (arch : U32) (heap : List BitfieldInfoHeap)
    (name : String) : Prop where
  /-- Entries that a query selects together and that have this name. -/
  entries : ∀ info, RegisterQuery arch info → ∀ h ∈ heap, ∀ h' ∈ heap,
    info.selects h = true → info.selects h' = true →
    h.registerNameExpanded = name → h'.registerNameExpanded = name →
    h.info.registerUid = h'.info.registerUid
  /-- What a query for the name decodes, whatever was read. -/
  readings : ∀ info, RegisterQuery arch info →
    info.registerName = strncpy name (parseMaxRegister - 1) →
    ∀ a xs r out b,
      breakoutParseResults a heap xs (requests heap info) []
        = some (r, out, b) →
      ∀ p ∈ out, ∀ q ∈ out, p.ioctl = q.ioctl
  /-- A value supplied with such a query. -/
  supplied : ∀ info, RegisterQuery arch info →
    info.registerName = strncpy name (parseMaxRegister - 1) →
    requests heap info ≠ [] →
    ∃ registerUid, breakoutValueValidate (requests heap info)
      = some (registerUid, info.calcValue)

/-- A query for a name selects entries with that name. -/
theorem RegisterQuery.name (harch : arch = archArmv7a ∨ arch = archArmv8a)
    (hq : RegisterQuery arch info) {name : String}
    (hname : info.registerName = strncpy name (parseMaxRegister - 1))
    (hh : h ∈ expanded (included includeDevices bitfieldTable))
    (hsel : info.selects h = true) : h.registerNameExpanded = name := by
  obtain ⟨hcmp, htable⟩ := (hq.selects_iff hh).1 hsel
  have hlen := (namedEntry harch hq.architecture hh htable).length harch
  rw [hname] at hcmp
  exact (strncmp_strncpy (Nat.lt_succ_of_le hlen)).1 hcmp

/-- All requests of a query for a name that is not shared are of one
register. -/
theorem requests_one (harch : arch = archArmv7a ∨ arch = archArmv8a)
    {name : String} (hfree : name ∉ sharedNames arch includeDevices)
    (hq : RegisterQuery arch info)
    (hh : h ∈ expanded (included includeDevices bitfieldTable))
    (hh' : h' ∈ expanded (included includeDevices bitfieldTable))
    (hsel : info.selects h = true) (hsel' : info.selects h' = true)
    (hname : h.registerNameExpanded = name)
    (hname' : h'.registerNameExpanded = name) :
    h.info.registerUid = h'.info.registerUid := by
  have hnamed := namedEntry harch hq.architecture hh
    ((hq.selects_iff hh).1 hsel).2
  have hnamed' := namedEntry harch hq.architecture hh'
    ((hq.selects_iff hh').1 hsel').2
  exact hnamed.one harch hnamed' (hname.trans hname'.symm)
    (by rwa [hname])

/-- With distinct uids, a requested entry is a selected one. -/
theorem Asked.selected {heap : List BitfieldInfoHeap} {x : IoctlResult}
    (hasked : Asked heap (requests heap info) x h)
    (hnd : (heap.map fun h => h.info.uid).Nodup) :
    info.selects h = true := by
  obtain ⟨r, hr, huid, -⟩ := hasked.requested
  obtain ⟨g, hg, rfl⟩ := List.mem_map.1 hr
  obtain ⟨hmem, hsel⟩ := List.mem_filter.1 hg
  have hkey : g.info.uid = h.info.uid := huid
  rwa [List.inj_on_of_nodup_map hnd hmem hasked.mem hkey] at hsel

/-- A name denotes one register iff it is not shared. -/
theorem denotes_one_iff (harch : arch = archArmv7a ∨ arch = archArmv8a)
    (includeDevices : Int) (name : String) :
    DenotesOne arch (expanded (included includeDevices bitfieldTable)) name
      ↔ name ∉ sharedNames arch includeDevices := by
  constructor
  · intro hone hshared
    obtain ⟨info, hq, h, hh, h', hh', hsel, hsel', hn, hn', hne⟩ :=
      sharedName_two harch hshared
    exact hne (hone.entries info hq h hh h' hh' hsel hsel' hn hn')
  · intro hfree
    have hnd := shipped_uid_nodup includeDevices
    constructor
    · intro info hq h hh h' hh' hsel hsel' hn hn'
      exact requests_one harch hfree hq hh hh' hsel hsel' hn hn'
    · intro info hq hname a xs r out b hrun p hp q hq'
      have hxs : xs ≠ [] := by
        rintro rfl
        exact absurd hrun (by simp [breakoutParseResults])
      obtain ⟨r', ps, b', hends, hps⟩ := breakoutParseResults_mem
        (expanded (included includeDevices bitfieldTable))
        (requests _ info) hxs a []
      have hout : ps = out := by
        rw [hends] at hrun
        exact congrArg (·.2.1) (Option.some.inj hrun)
      rw [hout] at hps
      obtain ⟨x, -, h, hasked, hread⟩ := hps p hp
      obtain ⟨x', -, h', hasked', hread'⟩ := hps q hq'
      have hsel := hasked.selected hnd
      have hsel' := hasked'.selected hnd
      rw [hread.ioctl, hread'.ioctl]
      exact requests_one harch hfree hq hasked.mem hasked'.mem hsel hsel'
        (hq.name harch hname hasked.mem hsel)
        (hq.name harch hname hasked'.mem hsel')
    · intro info hq hname hne
      obtain ⟨r, hr⟩ := List.exists_mem_of_ne_nil _ hne
      refine ⟨r.registerUid, breakoutValueValidate_some hne ?_ ?_⟩
      · intro r' hr'
        obtain ⟨h, -, rfl⟩ := List.mem_map.1 hr'
        rfl
      · intro r' hr'
        obtain ⟨h, hh, rfl⟩ := List.mem_map.1 hr
        obtain ⟨h', hh', rfl⟩ := List.mem_map.1 hr'
        obtain ⟨hmem, hsel⟩ := List.mem_filter.1 hh
        obtain ⟨hmem', hsel'⟩ := List.mem_filter.1 hh'
        exact requests_one harch hfree hq hmem' hmem hsel' hsel
          (hq.name harch hname hmem' hsel') (hq.name harch hname hmem hsel)

theorem denotes_one_iff_midr :
    DenotesOne archArmv8a (expanded (included 0 bitfieldTable)) "MIDR"
      ↔ "MIDR" ∉ sharedNames archArmv8a 0 :=
  denotes_one_iff (Or.inr rfl) 0 "MIDR"

/-- TTBR0 is two registers on ARMv8-A: a query for it selects rows of
both, and no value can be supplied for it. -/
theorem denotes_one_fails :
    TwoRegisters archArmv8a (expanded (included 0 bitfieldTable)) "TTBR0"
      ∧ ∀ v, breakoutValueValidate
          (requests (expanded (included 0 bitfieldTable))
            { nameQuery archArmv8a "TTBR0" with
              calcValid := 1
              calcValue := v }) = none := by
  have hshared : "TTBR0" ∈ sharedNames archArmv8a 0 := by decide +kernel
  refine ⟨sharedName_two (Or.inr rfl) hshared, fun v => ?_⟩
  have hsys : "TTBR0" ∈ sharedSysNames archArmv8a := by decide +kernel
  obtain ⟨p, hp, q, hq, hpn, hqn, hne⟩ :=
    sharedSysName_two (Or.inr rfl) hsys
  obtain ⟨h, hh, hsel, -, hreg⟩ := sysName_entry (Or.inr rfl) 0 hp
  obtain ⟨h', hh', hsel', -, hreg'⟩ := sysName_entry (Or.inr rfl) 0 hq
  rw [hpn] at hsel
  rw [hqn] at hsel'
  refine breakoutValueValidate_none
    (List.mem_map_of_mem (List.mem_filter.2 ⟨hh, hsel⟩))
    (List.mem_map_of_mem (List.mem_filter.2 ⟨hh', hsel'⟩)) ?_
  show h.info.registerUid ≠ h'.info.registerUid
  rwa [hreg, hreg']

end Maplesyrup
