/-
From a row of the GIC tables to the word the kernel reads: which device
and which address a request for an expanded register reaches.

The library packs the device and the offset into one code twice, in the
register uid and in the entry uid, and takes the device for the request
out of the latter again. An offset wider than the eleven bits of the
instruction field is ORed into the device there, so the request names the
row's device exactly when these bits add nothing to it.

# The device

`recorder` is a device that keeps what it is sent and answers as it
likes; what a query sends is what the recorder has at its end.
-/
import Maplesyrup.Decode.Proofs.Driver
import Maplesyrup.Decode.Proofs.Heap
import Maplesyrup.Decode.Proofs.Parse
import Maplesyrup.Decode.Proofs.Sort
import Maplesyrup.Kernel.Proofs.Bounds

namespace Maplesyrup

open Base

-- ================================================================ sorting

/-- The driver's worklist of a list of requests. -/
def driverWork (l : List ResultsInfo) : List UsedIoctl :=
  (l.foldl sortStep { alloc := .ok }).toDriver

variable {l : List ResultsInfo} {r : ResultsInfo}

theorem driverWork_mem {x : UsedIoctl} (hx : x ∈ driverWork l) :
    ∃ r ∈ l, x = workOf r := by
  rw [driverWork, sorted] at hx
  obtain ⟨r, hr, rfl⟩ := List.mem_map.1 hx
  have hlead := mem_leaders.1 (List.mem_filter.1 hr).1
  exact ⟨r, (leader_mem hlead).1, rfl⟩

/-- A requested register whose requests all call for level 1 is on it. -/
theorem driverWork_used {uid : U32}
    (hlev : ∀ r ∈ l, r.registerUid = uid →
      r.levels &&& nsPrivilegeLevel1 ≠ 0)
    (hr : r ∈ l) (huid : r.registerUid = uid) :
    ∃ x ∈ driverWork l, x.registerUid = uid := by
  have hcalls : ∀ q ∈ l, q.registerUid = uid →
      q.callsFor nsPrivilegeLevel1 = true :=
    fun q hq hquid => bne_iff_ne.2 (hlev q hq hquid)
  have hreadable : ∀ q : ResultsInfo,
      q.callsFor nsPrivilegeLevel1 = true → q.readable = true :=
    fun q hq => by simp [ResultsInfo.readable, hq]
  have hcount : occurrences (driverWork l) uid = 1 := by
    have honce := (occurrences_iff hreadable).2 fun s hs _ _ _ _ =>
      hcalls s (leader_mem hs).1 (leader_mem hs).2
    rwa [wanted_of_mem hr huid (hcalls r hr huid), if_pos rfl,
      ← show driverWork l = workAt nsPrivilegeLevel1 l by
        rw [driverWork, sorted]] at honce
  have hpos : 0 < occurrences (driverWork l) uid := by omega
  obtain ⟨x, hx, heq⟩ := List.countP_pos_iff.1 hpos
  exact ⟨x, hx, beq_iff_eq.1 heq⟩

-- =============================================================== sending

/-- What a device has been sent: commands and buffers. -/
abbrev Sent := List (U32 × MsDataCpu)

/-- The answers of a device to what it was sent, and of user mode. -/
structure Answers where
  device : Sent → Int × MsDataCpu
  usermode : Sent → U32 → MsData → Int × MsData

/-- The device that keeps what it is sent. -/
def recorder (ans : Answers) : Platform Sent where
  msFd := 3
  ioctl sent cmd u :=
    let sent := sent ++ [(cmd, u)]
    ((ans.device sent).1, (ans.device sent).2, sent)
  usermodeResults sent code d :=
    ((ans.usermode sent code d).1, (ans.usermode sent code d).2, sent)

/-- Everything a query of a heap table sends. -/
def sentFor (heap : List BitfieldInfoHeap) (ans : Answers)
    (info : MatchInfo) : Sent :=
  let requested := (breakoutSearchTable .ok heap info []).2.1
  (breakoutSortIoctls (recorder ans) .ok [] requested []).2.dev

/-- What of a sent buffer comes from the worklist. -/
def workSent (q : U32 × MsDataCpu) : U32 × UsedIoctl :=
  (q.1, ⟨q.2.code, q.2.pcpu, q.2.partNumber⟩)

variable {ans : Answers} {info : MatchInfo}

/-- Recording the slots sends nothing. -/
theorem saveSlot_dev {δ : Type*} (uid : U32) (s : DriverState δ)
    (i : Fin msMaxCpus) : (saveSlot uid s i).dev = s.dev := rfl

/-- Each worklist entry is sent once. -/
theorem callDriverStep_sent (s : DriverState Sent) (x : UsedIoctl) :
    (callDriverStep (recorder ans) s x).dev.map workSent
      = s.dev.map workSent ++ [(driverCmd x.partnumber, x)] := by
  have hsend : ∀ u, (driverResults (recorder ans) s.dev
      (driverCmd x.partnumber) u).2.2
      = s.dev ++ [(driverCmd x.partnumber, { u with
          cpu := fun i => { u.cpu i with status := msErrorNoresult } })] := by
    intro u
    have hopen : (recorder ans).msFd ≠ -1 :=
      show (3 : Int) ≠ -1 by omega
    unfold driverResults
    rw [if_neg hopen]
    dsimp only [recorder]
    split <;> rfl
  have hdev : (callDriverStep (recorder ans) s x).dev
      = (driverResults (recorder ans) s.dev (driverCmd x.partnumber)
          { s.localResult with
            code := x.registerUid
            pcpu := x.cpu
            partNumber := x.partnumber }).2.2 := by
    unfold callDriverStep
    dsimp only
    split
    · rfl
    · exact foldl_keeps (I := fun t : DriverState Sent => t.dev = _)
        (fun t i _ ht => (saveSlot_dev _ t i).trans ht) rfl
  rw [hdev, hsend, List.map_append]
  rfl

theorem callDriver_sent (xs : List UsedIoctl) (s : DriverState Sent) :
    (xs.foldl (callDriverStep (recorder ans)) s).dev.map workSent
      = s.dev.map workSent
        ++ xs.map fun x => (driverCmd x.partnumber, x) := by
  rw [List.map_eq_flatMap (l := xs)]
  exact foldl_log (I := fun _ => True)
    (fun s : DriverState Sent => s.dev.map workSent)
    (fun _ _ _ _ => trivial) (fun s x _ _ => callDriverStep_sent s x)
    trivial

/-- User mode sends nothing. -/
theorem callUsermode_sent (a : Alloc) (dev : Sent) (xs : List UsedIoctl)
    (out : List IoctlResult) :
    (breakoutCallUsermode (recorder ans) a dev xs out).2.dev = dev := by
  refine foldl_keeps (I := fun t : UsermodeState Sent => t.dev = dev)
    (fun t x _ ht => ?_) rfl
  unfold callUsermodeStep
  dsimp only
  split <;> exact ht

/-- A query sends its driver worklist, in order. -/
theorem sentFor_work (heap : List BitfieldInfoHeap) (ans : Answers)
    (info : MatchInfo) :
    (sentFor heap ans info).map workSent
      = (driverWork (requests heap info)).map
          fun x => (driverCmd x.partnumber, x) := by
  have hsearch : (breakoutSearchTable .ok heap info []).2.1
      = requests heap info := by
    rw [breakoutSearchTable_ok]
    exact List.nil_append _
  unfold sentFor breakoutSortIoctls
  dsimp only
  rw [hsearch, callUsermode_sent]
  exact callDriver_sent _ _

-- ============================================================ the GIC rows

/-- The heap table with the shipped tables, devices included. -/
def deviceHeap : List BitfieldInfoHeap :=
  match (readTablesToMemory .ok bitfieldTable 1 {}).2.1.gBitfieldTableHeap
    with
  | some block => block.entries
  | none => []

theorem deviceHeap_eq : deviceHeap = expanded bitfieldTable := by
  unfold deviceHeap
  rw [readTablesToMemory_ok]

/-- The part number an expanded register's codes carry: the device, with
what of the offset is wider than the instruction field. -/
def namedPart (t : BitfieldTableEntry) (row : BitfieldInfo) : U32 :=
  (t.partNumber ||| row.registerUid >>> 11) &&& 0x1F

/-- A shipped GIC row: its device, its offsets, its level. -/
structure GicRow (t : BitfieldTableEntry) (row : BitfieldInfo) : Prop where
  device : t.partNumber ∈ [giccV2, gicdV2]
  offsets : row.registerUid.toNat + 4 * row.range.toNat ≤ 2 ^ 16
  uid : row.uid.toNat < 2 ^ 16
  ppl : row.ppl = nsPrivilegeLevel1
  named : namedPart t row ≠ 0
    ∧ (namedPart t row = t.partNumber
      ↔ t.partNumber ||| row.registerUid >>> 11 = t.partNumber)

theorem gicRow_of_mem {t : BitfieldTableEntry} {row : BitfieldInfo}
    (ht : t ∈ bitfieldTable) (hmm : t.tableType = .mm)
    (hrow : row ∈ t.tablePtr) : GicRow t row := by
  have hall : ∀ t ∈ bitfieldTable, t.tableType = .mm →
      ∀ row ∈ t.tablePtr, t.partNumber ∈ [giccV2, gicdV2]
        ∧ row.registerUid.toNat + 4 * row.range.toNat ≤ 2 ^ 16
        ∧ row.uid.toNat < 2 ^ 16 ∧ row.ppl = nsPrivilegeLevel1
        ∧ namedPart t row ≠ 0
        ∧ (namedPart t row = t.partNumber
          ↔ t.partNumber ||| row.registerUid >>> 11 = t.partNumber) := by
    decide +kernel
  obtain ⟨hdev, hoff, huid, hppl, hnamed⟩ := hall t ht hmm row hrow
  exact ⟨hdev, hoff, huid, hppl, hnamed⟩

/-- The uids of system registers leave the part number of a code free. -/
theorem sysRow_uid : ∀ t ∈ bitfieldTable, t.tableType ≠ .mm →
    ∀ row ∈ t.tablePtr, row.registerUid.toNat < 2 ^ 27 := by
  decide +kernel

theorem deviceHeap_length : deviceHeap.length < 2 ^ 16 := by
  rw [deviceHeap_eq, expanded_length]
  decide +kernel

variable {t : BitfieldTableEntry} {row : BitfieldInfo} {k : Nat}

theorem GicRow.offset_toNat (hok : GicRow t row)
    (hk : k < row.range.toNat) :
    (row.registerUid + .ofNat 32 k * msGicv2Alignment).toNat
      = row.registerUid.toNat + 4 * k := by
  have hoff := hok.offsets
  have hk32 : k < 2 ^ 32 := by omega
  have halign : msGicv2Alignment.toNat = 4 := rfl
  rw [BitVec.toNat_add, BitVec.toNat_mul, BitVec.toNat_ofNat, halign,
    Nat.mod_eq_of_lt hk32]
  omega

/-- The code of an expanded register gives back the part number its
device and offset make, and the offset. -/
theorem GicRow.code (hok : GicRow t row)
    (hk : k < row.range.toNat) :
    mscodePartnumber (createUid row k t.partNumber) = namedPart t row
      ∧ (mscodeField (createUid row k t.partNumber)).toNat
        = row.registerUid.toNat + 4 * k := by
  have hoff := hok.offsets
  have hfield := hok.offset_toNat hk
  constructor
  · exact mscodePartnumber_mscode (by rw [hfield]; omega)
  · unfold createUid
    rw [mscodeField_mscode (by rw [hfield]; omega), hfield]

/-- Whatever entry has the register's code, its uid names the same part
number, and it is read at level 1. -/
theorem GicRow.entry (hok : GicRow t row) (hk : k < row.range.toNat)
    {h : BitfieldInfoHeap} (hmem : h ∈ deviceHeap)
    (hcode : h.info.registerUid = createUid row k t.partNumber) :
    mscodePartnumber h.info.uid = namedPart t row
      ∧ h.info.ppl = nsPrivilegeLevel1 := by
  obtain ⟨i, hi⟩ := List.mem_iff_getElem?.1 hmem
  have hlen : i < 2 ^ 16 :=
    (List.getElem?_eq_some_iff.1 hi).1.trans deviceHeap_length
  rw [deviceHeap_eq] at hi
  obtain ⟨t', ht', row', hrow', hcase⟩ := expanded_allExpand _ i h hi
  have hpart := (hok.code hk).1
  rw [← hcode] at hpart
  rcases hcase with ⟨hsys, rfl⟩ | ⟨hmm, k', hk', rfl⟩
  · -- a system register's code names no device
    have hsmall := sysRow_uid t' ht' hsys row' hrow'
    have hzero : mscodePartnumber (sysEntry t' row').info.registerUid = 0 :=
      mscodePartnumber_small hsmall
    exact absurd (hpart.symm.trans hzero) hok.named.1
  · have hok' := gicRow_of_mem ht' hmm hrow'
    have hpart' := (hok'.code hk').1
    have hsame : namedPart t' row' = namedPart t row :=
      hpart'.symm.trans hpart
    refine ⟨?_, hok'.ppl⟩
    rw [← hsame]
    show mscodePartnumber (if 1 < row'.range.toNat then _ else _) = _
    have huid := hok'.uid
    split
    · refine mscodePartnumber_mscode ?_
      rw [BitVec.toNat_ofNat]
      omega
    · exact mscodePartnumber_mscode (by omega)

-- =============================================================== dispatch

/-- The mapping of a device of the GIC tables. -/
def deviceMapping (m : MsGicMap) (device : U32) : Nat :=
  if device = giccV2 then m.giccVirt else m.gicdVirt

/-- A sent request reaches the word at an offset of a device: it is a GIC
request, names the device, and what the kernel reads for it, on the cpus
it reaches, is that word. -/
def ReachesWord (device : U32) (offset : Nat) (q : U32 × MsDataCpu) :
    Prop :=
  q.1 = msIoctlGic ∧ q.2.partNumber = device
    ∧ ∀ (b : Build) (mc : Machine) (g : KGlobals) (cpu addr : Nat),
        KEvent.readl cpu addr ∈ (msIoctl b mc g q.1 q.2).trace
          ↔ ReadsWord b mc (deviceMapping g.gicMap device) q.2
            ∧ addr = deviceMapping g.gicMap device + offset
            ∧ ∃ c ∈ kickCpus q.2.pcpu, reach b mc c = .ran
              ∧ cpu = b.cpuIndex c

/-- The query asks for the register, on level 1. -/
def AsksFor (info : MatchInfo) (uid : U32) : Prop :=
  (∃ h ∈ deviceHeap, h.info.registerUid = uid ∧ info.selects h = true)
    ∧ (info.pl &&& preferredPl ≠ 0 ∨ info.pl &&& nsPrivilegeLevel1 ≠ 0)

/-- Word `k` of the row is dispatched to its place: every query that asks
for it sends a request for its code, and every request for its code
reaches the word at the row's offset of the table's device. -/
def DispatchedRight (t : BitfieldTableEntry) (row : BitfieldInfo)
    (k : Nat) : Prop :=
  ∀ (ans : Answers) (info : MatchInfo),
    (AsksFor info (createUid row k t.partNumber) →
      ∃ q ∈ sentFor deviceHeap ans info,
        q.2.code = createUid row k t.partNumber)
    ∧ ∀ q ∈ sentFor deviceHeap ans info,
        q.2.code = createUid row k t.partNumber →
        ReachesWord t.partNumber (row.registerUid.toNat + 4 * k) q

/-- A request for the register's code names what its codes carry. -/
theorem GicRow.sent (hok : GicRow t row) (hk : k < row.range.toNat)
    {q : U32 × MsDataCpu} (hq : q ∈ sentFor deviceHeap ans info)
    (hcode : q.2.code = createUid row k t.partNumber) :
    q.1 = driverCmd (namedPart t row)
      ∧ q.2.partNumber = namedPart t row := by
  have hwork : workSent q ∈ (sentFor deviceHeap ans info).map workSent :=
    List.mem_map_of_mem hq
  rw [sentFor_work] at hwork
  obtain ⟨x, hx, hsent⟩ := List.mem_map.1 hwork
  obtain ⟨r, hr, rfl⟩ := driverWork_mem hx
  obtain ⟨h, hh, rfl⟩ := List.mem_map.1 hr
  obtain ⟨hmem, -⟩ := List.mem_filter.1 hh
  obtain ⟨hcmd, hx'⟩ := Prod.ext_iff.1 hsent
  have hreg : h.info.registerUid = q.2.code :=
    congrArg UsedIoctl.registerUid hx'
  have hpart : mscodePartnumber h.info.uid = q.2.partNumber :=
    congrArg UsedIoctl.partnumber hx'
  have hnamed := (hok.entry hk hmem (hreg.trans hcode)).1
  have hcmd' : driverCmd (mscodePartnumber h.info.uid) = q.1 := hcmd
  rw [← hcmd', ← hpart, hnamed]
  exact ⟨rfl, rfl⟩

/-- A query that asks for the register sends a request for it. -/
theorem GicRow.asked (hok : GicRow t row) (hk : k < row.range.toNat)
    (hask : AsksFor info (createUid row k t.partNumber)) :
    ∃ q ∈ sentFor deviceHeap ans info,
      q.2.code = createUid row k t.partNumber := by
  obtain ⟨⟨h, hmem, hreg, hsel⟩, hpl⟩ := hask
  have hlev : ∀ r ∈ requests deviceHeap info,
      r.registerUid = createUid row k t.partNumber →
      r.levels &&& nsPrivilegeLevel1 ≠ 0 := by
    intro r hr hreg'
    obtain ⟨h', hh', rfl⟩ := List.mem_map.1 hr
    obtain ⟨hmem', -⟩ := List.mem_filter.1 hh'
    have hppl := (hok.entry hk hmem' hreg').2
    unfold ResultsInfo.levels
    show (if info.pl &&& preferredPl ≠ 0 then h'.info.ppl else info.pl)
      &&& nsPrivilegeLevel1 ≠ 0
    split
    · rw [hppl]
      decide
    · rename_i hnot
      exact hpl.resolve_left hnot
  have hr : requestOf info h ∈ requests deviceHeap info :=
    List.mem_map_of_mem (List.mem_filter.2 ⟨hmem, hsel⟩)
  obtain ⟨x, hx, huid⟩ := driverWork_used hlev hr hreg
  have hsent : (driverCmd x.partnumber, x)
      ∈ (sentFor deviceHeap ans info).map workSent := by
    rw [sentFor_work]
    exact List.mem_map.2 ⟨x, hx, rfl⟩
  obtain ⟨q, hq, hqx⟩ := List.mem_map.1 hsent
  have hcode : q.2.code = x.registerUid :=
    congrArg UsedIoctl.registerUid (Prod.ext_iff.1 hqx).2
  exact ⟨q, hq, hcode.trans huid⟩

/-- Both devices of the tables are read with GIC requests, from their own
mappings. -/
theorem GicRow.gic (hok : GicRow t row) :
    driverCmd t.partNumber = MsCmd.gic.ioctl
      ∧ ∀ m, gicBase m t.partNumber
        = some (deviceMapping m t.partNumber) := by
  have hdev := hok.device
  generalize t.partNumber = d at hdev
  rcases List.mem_cons.1 hdev with rfl | hdev
  · exact ⟨rfl, fun m => rfl⟩
  · obtain rfl := List.mem_singleton.1 hdev
    exact ⟨rfl, fun m => rfl⟩

/-- A GIC request for the code of an expanded register that names the
row's device reaches the register's word. -/
theorem GicRow.reachesWord (hok : GicRow t row)
    (hk : k < row.range.toNat) {q : U32 × MsDataCpu}
    (hcmd : q.1 = driverCmd t.partNumber)
    (hpart : q.2.partNumber = t.partNumber)
    (hcode : q.2.code = createUid row k t.partNumber) :
    ReachesWord t.partNumber (row.registerUid.toNat + 4 * k) q := by
  obtain ⟨cmd, u⟩ := q
  dsimp only at hcmd hpart hcode
  obtain ⟨hgic, hmapping⟩ := hok.gic
  rw [hgic] at hcmd
  subst hcmd
  refine ⟨rfl, hpart, fun b mc g cpu addr => ?_⟩
  have hbase : gicBase g.gicMap u.partNumber
      = some (deviceMapping g.gicMap t.partNumber) := by
    rw [hpart, hmapping]
  show KEvent.readl cpu addr ∈ (msIoctl b mc g MsCmd.gic.ioctl u).trace ↔ _
  rw [msIoctl_cmd]
  show KEvent.readl cpu addr ∈ (callCmd mc (gicReturnResults b mc) g
    u).trace ↔ _
  rw [readl_mem_gic hbase, hcode, (hok.code hk).2]

/-- Where the offset's upper bits do not add to the device number, the
word is dispatched to its place. -/
theorem GicRow.dispatchedRight (hok : GicRow t row)
    (hk : k < row.range.toNat) (hnamed : namedPart t row = t.partNumber) :
    DispatchedRight t row k := by
  intro ans info
  refine ⟨hok.asked hk, fun q hq hcode => ?_⟩
  obtain ⟨hcmd, hpart⟩ := hok.sent hk hq hcode
  rw [hnamed] at hcmd hpart
  exact hok.reachesWord hk hcmd hpart hcode

/-- The query for one entry, by its uid, on level 1. -/
def entryQuery (h : BitfieldInfoHeap) : MatchInfo :=
  { uid := h.info.uid, pl := nsPrivilegeLevel1 }

/-- Devices that refuse everything. -/
def refusing : Answers :=
  ⟨fun _ => (-1, {}), fun _ _ d => (-1, d)⟩

/-- Where they do, the query for the word names another device. -/
theorem GicRow.dispatched_elsewhere (hok : GicRow t row)
    (hk : k < row.range.toNat) (hword : HasWord t row k deviceHeap)
    (hmm : t.tableType = .mm) (hnamed : namedPart t row ≠ t.partNumber) :
    ¬ DispatchedRight t row k := by
  intro h
  obtain ⟨i, hmem⟩ := hword
  obtain ⟨hsent, hright⟩ := h refusing (entryQuery (mmEntry t row k i))
  have hkey : (entryQuery (mmEntry t row k i)).selects
      (mmEntry t row k i) = true := by
    unfold MatchInfo.selects MatchInfo.matchesKey MatchInfo.matchesTable
    simp [entryQuery, mmEntry, hmm]
  have hlevel : nsPrivilegeLevel1 &&& nsPrivilegeLevel1 ≠ 0 := by decide
  obtain ⟨q, hq, hcode⟩ := hsent ⟨⟨_, hmem, rfl, hkey⟩, Or.inr hlevel⟩
  have hpart := (hok.sent hk hq hcode).2
  exact hnamed (hpart.symm.trans (hright q hq hcode).2.1)

/-- A word of a GIC row is dispatched to its place exactly when the
offset's bits from the eleventh on are in the device number already. -/
theorem gic_dispatch_iff (ht : t ∈ bitfieldTable)
    (hmm : t.tableType = .mm) (hrow : row ∈ t.tablePtr)
    (hk : k < row.range.toNat) :
    DispatchedRight t row k
      ↔ t.partNumber ||| row.registerUid >>> 11 = t.partNumber := by
  have hok := gicRow_of_mem ht hmm hrow
  rw [← hok.named.2]
  constructor
  · intro h
    by_contra hnamed
    have hword : HasWord t row k deviceHeap := by
      rw [deviceHeap_eq]
      exact expanded_hasWord ht hmm hrow hk
    exact hok.dispatched_elsewhere hk hword hmm hnamed h
  · exact hok.dispatchedRight hk

/-- The cpu interface's table and its row for the deactivate register, at
offset 0x1000. -/
def giccTable : BitfieldTableEntry := ⟨.mm, giccV2, bitfieldGiccv2Table⟩

def dirRow : BitfieldInfo :=
  ⟨1, 0, MsGic.GICC_DIR, nsPrivilegeLevel1, 0, 10, "InterruptID",
    "gicc", "GICC_DIR", "The interrupt ID"⟩

/-- Bit 12 of the offset of GICC_DIR makes 10 of device 8: the request
goes to the virtual interface control block. -/
theorem gic_dispatch_fails :
    ¬ ∀ t ∈ bitfieldTable, t.tableType = .mm → ∀ row ∈ t.tablePtr,
        ∀ k < row.range.toNat, DispatchedRight t row k := by
  intro h
  have ht : giccTable ∈ bitfieldTable := by
    unfold bitfieldTable giccTable
    simp
  have hrow : dirRow ∈ giccTable.tablePtr := by decide +kernel
  have hk : 0 < dirRow.range.toNat := by decide
  have hword : HasWord giccTable dirRow 0 deviceHeap := by
    rw [deviceHeap_eq]
    exact expanded_hasWord ht rfl hrow hk
  exact (gicRow_of_mem ht rfl hrow).dispatched_elsewhere hk hword rfl
    (by decide) (h giccTable ht rfl dirRow hrow 0 hk)

theorem gic_dispatch_iff_dir :
    DispatchedRight giccTable dirRow 0
      ↔ giccTable.partNumber ||| dirRow.registerUid >>> 11
        = giccTable.partNumber :=
  gic_dispatch_iff (by unfold bitfieldTable giccTable; simp) rfl
    (by decide +kernel) (by decide)

end Maplesyrup
