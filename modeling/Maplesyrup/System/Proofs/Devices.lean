/-
The words of the memory-mapped devices, among the registers.

A request for a word of a device leaves the MIDR in its slot to the
requests before, and with a MIDR there no field of the word fits
(`device_fits_iff`): a device that is read behind a register, in one
search, is not shown (`device_shown_iff`).

The shipped tables never make such a search. A name that begins with a G
is a device's, the groups are apart, and a uid is one entry's; so of what
a key selects, all are devices or none is (`selected_alike`), and a search
reads as if each request were the first (`devices_shown`).
-/
import Maplesyrup.System.Proofs.Shown

namespace Maplesyrup

open Base

variable {b : Build} {machines : Nat → Machine} {m : MsGicMap}
  {regs : Nat → String → Option U64} {info : MatchInfo} {l : Labels}
  {includeDevices : Int} {h h' : BitfieldInfoHeap} {c : FindCall}

-- =========================================================== the statement

/-- No core is of a device's part. -/
theorem device_part (midr : U32) {part : U32} (h : cmdOf part = .gic) :
    getImplFromMidr midr ≠ part ∧ getArchFromMidr midr ≠ part := by
  have hpart : part ∈ [giccV2, gicdV2, gichV2, gicvV2] := by
    by_contra hnot
    rw [cmdOf, if_neg hnot] at h
    cases h
  have himpl : getImplFromMidr midr ∉ [giccV2, gicdV2, gichV2, gicvV2] := by
    unfold getImplFromMidr
    dsimp only
    split_ifs <;> decide
  have harch : getArchFromMidr midr ∉ [giccV2, gicdV2, gichV2, gicvV2] := by
    unfold getArchFromMidr
    dsimp only
    split_ifs <;> decide
  exact ⟨fun heq => himpl (heq ▸ hpart), fun heq => harch (heq ▸ hpart)⟩

/-- So a field of a device fits where no core is known. -/
theorem device_fits_iff {rd : Reading}
    (hgic : cmdOf (mscodePartnumber h.info.uid) = .gic) :
    rd.fits h = true
      ↔ h.info.registerUid = rd.registerUid ∧ rd.midr = 0 := by
  obtain ⟨himpl, harch⟩ := device_part rd.midr hgic
  rw [Reading.fits, Bool.and_eq_true, beq_iff_eq, midrMatches_iff]
  tauto

/-- The MIDRs behind the requests of a worklist, the first of them being
the `n`-th of all. -/
def labelsAfter (b : Build) (machines : Nat → Machine) :
    Nat → Labels → List UsedIoctl → Labels
  | _, l, [] => l
  | n, l, x :: xs =>
      labelsAfter b machines (n + 1) (relabel b (machines n) x l) xs

theorem kernelReadings_append (xs ys : List UsedIoctl) (n : Nat)
    (l : Labels) :
    kernelReadings b machines m n l (xs ++ ys)
      = kernelReadings b machines m n l xs
        ++ kernelReadings b machines m (n + xs.length)
          (labelsAfter b machines n l xs) ys := by
  induction xs generalizing n l with
  | nil => rfl
  | cons x xs ih =>
      rw [List.cons_append, kernelReadings, kernelReadings, ih,
        List.append_assoc, List.length_cons, Nat.add_assoc n 1,
        Nat.add_comm 1]
      rfl

/-- A slot has no MIDR as long as no register has left one. -/
theorem labelsAfter_eq_zero {i : Fin msMaxCpus}
    (hcore : ∀ n, (machines n).midr i ≠ 0) (xs : List UsedIoctl)
    (n : Nat) (l : Labels) :
    labelsAfter b machines n l xs i = 0
      ↔ l i = 0 ∧ ∀ w ∈ xs.zipIdx n,
        ¬ LeavesMidr b (machines w.2) w.1 i := by
  induction xs generalizing n l with
  | nil => simp [labelsAfter]
  | cons x xs ih =>
      have hhead : relabel b (machines n) x l i = 0
          ↔ l i = 0 ∧ ¬ LeavesMidr b (machines n) x i := by
        unfold relabel
        by_cases hleaves : LeavesMidr b (machines n) x i
        · rw [if_pos hleaves]
          exact iff_of_false (hcore n) fun hall => hall.2 hleaves
        · rw [if_neg hleaves]
          exact (and_iff_left hleaves).symm
      rw [labelsAfter, ih, hhead, List.zipIdx_cons, List.forall_mem_cons,
        and_assoc]

/-- A search returns the field of a reading iff it is to be shown. -/
theorem field_mem_found {heap : List BitfieldInfoHeap}
    {list : List BitfieldInfoPopulated} {rds : List Reading}
    (hlist : list.filter (fun p => p.status == msErrorSuccess)
      = shown heap info rds) (rd : Reading) (h : BitfieldInfoHeap) :
    rd.field h ∈ list ↔ rd.field h ∈ shown heap info rds := by
  rw [← hlist, List.mem_filter]
  exact (and_iff_left (by rfl)).symm

/-- A field of a word of a device is found if and only if no register
that is read before it in the search is reached on its cpu. -/
theorem device_shown_iff (b : Build) (machines : Nat → Machine)
    (regs : Nat → String → Option U64) {heap : List BitfieldInfoHeap}
    (hheap : HeapOk heap) (hcalc : info.calcValid = 0)
    (hnp : info.noparse = 0) {fd : Int} (hfd : fd ≠ -1) {s : ToolState}
    (hflag : s.user.gIllsig = 0)
    {before after : List UsedIoctl} {x : UsedIoctl}
    (hwork : workAt nsPrivilegeLevel1 (requests heap info)
      = before ++ x :: after)
    (hx : cmdOf x.partnumber = .gic) {i : Fin msMaxCpus} {rd : Reading}
    (hrd : deviceReading b (machines (s.requests + before.length))
      s.kernel.gicMap (labelsAfter b machines s.requests (fun _ => 0)
        before) x i = some rd)
    (hcore : ∀ n, (machines n).midr i ≠ 0) (hh : h ∈ heap)
    (hsel : info.selects h = true)
    (hreg : h.info.registerUid = x.registerUid)
    (hgic : cmdOf (mscodePartnumber h.info.uid) = .gic) :
    ∃ list dev,
      Stack.findBitfields ((toolHost b machines regs).platform fd) .ok heap
          s (some info) (some [])
        = .ok ((0, list, .ok), dev)
      ∧ (rd.field h ∈ list
        ↔ ∀ w ∈ before.zipIdx s.requests,
          ¬ LeavesMidr b (machines w.2) w.1 i) := by
  have hrec : Recordable (requests heap info) := by
    refine Or.inl ?_
    rw [hwork]
    simp
  obtain ⟨list, dev, hrun, hlist⟩ := findBitfields_tool b machines regs hfd
    hflag hheap hcalc hnp hrec
  refine ⟨list, dev, hrun, ?_⟩
  rw [field_mem_found hlist]
  have hself : rd.registerUid = x.registerUid
      ∧ rd.midr = labelsAfter b machines s.requests (fun _ => 0) before
        i := by
    obtain ⟨base, -, hrd⟩ := Option.bind_eq_some_iff.1 hrd
    split at hrd
    · obtain rfl := Option.some.inj hrd
      exact ⟨rfl, rfl⟩
    · cases hrd
  have hmem : rd ∈ readings b machines regs s (requests heap info) := by
    rw [readings, hwork, kernelReadings_append, kernelReadings]
    refine List.mem_append_left _ (List.mem_append_right _
      (List.mem_append_left _ (List.mem_filterMap.2
        ⟨i, List.mem_finRange i, ?_⟩)))
    unfold cpuReading
    rw [hx]
    exact hrd
  have hzero : rd.midr = 0
      ↔ ∀ w ∈ before.zipIdx s.requests,
        ¬ LeavesMidr b (machines w.2) w.1 i := by
    rw [hself.2, labelsAfter_eq_zero hcore]
    exact and_iff_right rfl
  rw [← hzero]
  constructor
  · intro hshown
    obtain ⟨rd', -, hfield⟩ := List.mem_flatMap.1 hshown
    obtain ⟨h', hh', hfield⟩ := List.mem_map.1 hfield
    obtain ⟨hmem', hboth⟩ := List.mem_filter.1 hh'
    have huid : h'.info.uid = h.info.uid :=
      congrArg BitfieldInfoPopulated.uid hfield
    obtain rfl := List.inj_on_of_nodup_map hheap.uids hmem' hh huid
    have hmidr : rd'.midr = rd.midr :=
      congrArg BitfieldInfoPopulated.midr hfield
    rw [← hmidr]
    exact ((device_fits_iff hgic).1 (Bool.and_eq_true_iff.1 hboth).2).2
  · intro hmidr
    have hfits : rd.fits h = true :=
      (device_fits_iff hgic).2 ⟨hreg.trans hself.1.symm, hmidr⟩
    refine List.mem_flatMap.2 ⟨rd, hmem, List.mem_map_of_mem ?_⟩
    exact List.mem_filter.2 ⟨hh, by rw [hsel, hfits]; rfl⟩

/-- A group of a register and of a word of the distributor. -/
def mixedTables : List BitfieldTableEntry := [
  ⟨.arch, archArmv7a,
    [⟨1, 0, MsSysreg.MIDR, nsPrivilegeLevel1, 0, 4, "Revision", "boot",
      "MIDR", "Minor revision"⟩]⟩,
  ⟨.mm, gicdV2,
    [⟨1, 0, MsGic.GICD_CTLR, nsPrivilegeLevel1, 0, 1, "Enable", "boot",
      "GICD_CTLR", "Enable forwarding"⟩]⟩]

def bootInfo : MatchInfo where
  architecture := archArmv7a
  implementation := implAll
  functionalGroup := "boot"
  pl := preferredPl
  cpu := 0xFFFFFFFF

/-- The distributor is mapped. -/
def mappedState : ToolState :=
  { kernel := { gicMap := { gicdVirt := 0x1000 } } }

/-- The field of the distributor, read on the first cpu. -/
def bootEntry : BitfieldInfoHeap :=
  mmEntry ⟨.mm, gicdV2, []⟩
    ⟨1, 0, MsGic.GICD_CTLR, nsPrivilegeLevel1, 0, 1, "Enable", "boot",
      "GICD_CTLR", "Enable forwarding"⟩ 0 1

def bootReading : Reading :=
  ⟨bootEntry.info.registerUid, nsPrivilegeLevel1, 0, 0x410FD070, 0x1000⟩

theorem mixed_heapOk : HeapOk (expanded mixedTables) where
  uids := by decide +kernel
  rightshift := by decide +kernel
  mask := by decide +kernel
  registerName := by decide +kernel
  functionalGroup := by decide +kernel
  bitfield := by decide +kernel
  description := by decide +kernel

/-- MIDR is read first, and the distributor is lost. -/
theorem device_shown_iff_boot :
    ∃ list dev,
      Stack.findBitfields ((toolHost ⟨.aarch32, true⟩
          (fun _ => mixedMachine) fun _ _ => none).platform 3) .ok
          (expanded mixedTables) mappedState (some bootInfo) (some [])
        = .ok ((0, list, .ok), dev)
      ∧ bootReading.field bootEntry ∉ list := by
  obtain ⟨list, dev, hrun, hfound⟩ := device_shown_iff ⟨.aarch32, true⟩
    (fun _ => mixedMachine) (fun _ _ => none) (s := mappedState)
    (i := ⟨0, by decide⟩) mixed_heapOk rfl rfl (by decide : (3 : Int) ≠ -1)
    rfl
    (x := ⟨bootEntry.info.registerUid, 0xFFFFFFFF, gicdV2⟩)
    (show workAt nsPrivilegeLevel1
        (requests (expanded mixedTables) bootInfo)
      = [⟨MsSysreg.MIDR, 0xFFFFFFFF, archArmv7a⟩] ++ [_] by
        decide +kernel)
    (by decide) (show _ = some bootReading by decide +kernel)
    (fun _ => by decide) (by decide +kernel) (by decide +kernel) rfl
    (by decide +kernel)
  refine ⟨list, dev, hrun, fun hmem => ?_⟩
  exact hfound.1 hmem (⟨MsSysreg.MIDR, 0xFFFFFFFF, archArmv7a⟩, 0)
    (by decide) (by decide +kernel)

end Maplesyrup
