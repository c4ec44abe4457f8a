/-
What a search of the whole system finds: the elements with a success are
what the user is to see, no more and no less, in the order of the reads.

The two loops over the worklists are followed entry by entry. What a
kernel request leaves in the slots it did not get to is of earlier
requests, so only the slots with a success are looked at; each of those
is a reading of its own request (`cpuReading_slot`). The one thing a
request does leave to the next is the MIDR in a slot, which the induction
carries along (`replySlot_label`). A read at user level is one by itself.
Behind the loops decoding is a join, and a join over the successes alone
is `shown` (`found_shown`).
-/
import Maplesyrup.Decode.Proofs.Dispatch
import Maplesyrup.Decode.Proofs.Failure
import Maplesyrup.Decode.Proofs.Join
import Maplesyrup.Frontend.Proofs.All
import Maplesyrup.Library.Proofs.Usermode
import Maplesyrup.System.Tool

namespace Maplesyrup

open Base

variable {b : Build} {machines : Nat → Machine}
  {regs : Nat → String → Option U64} {fd : Int}

/-- A result as a reading. -/
def readingOf (x : IoctlResult) : Reading :=
  ⟨x.registerUid, x.epl, x.cpu, x.midr, x.word⟩

/-- The reading a result is, if it is a success. -/
def IoctlResult.reading (x : IoctlResult) : Option Reading :=
  if x.status = msErrorSuccess then some (readingOf x) else none

-- ============================================================ the decoding

/-- The field of a success is the field of its reading. -/
theorem element_field {x : IoctlResult} (hx : x.status = msErrorSuccess)
    (h : BitfieldInfoHeap) : element x h = (readingOf x).field h := by
  unfold element Reading.field
  rw [hx]
  rfl

/-- A result hits the requested entries that fit its reading. -/
theorem allHits_fits {heap : List BitfieldInfoHeap} (hheap : HeapOk heap)
    (info : MatchInfo) (x : IoctlResult) :
    allHits heap (requests heap info) x
      = heap.filter fun h => info.selects h && (readingOf x).fits h := by
  have hes : ∀ h ∈ heap.filter info.selects, h ∈ heap := fun h hh =>
    (List.mem_filter.1 hh).1
  rw [requests, allHits_requests hheap.uids hes, List.filter_filter]
  congr 1
  funext h
  have hfits : decide (joins x (requestOf info h))
      = (readingOf x).fits h := by
    rw [Bool.eq_iff_iff, decide_eq_true_iff, Reading.fits,
      Bool.and_eq_true, beq_iff_eq, midrMatches_iff]
    rfl
  rw [hfits, Bool.and_comm]

/-- An entry that fits a reading is of its register. -/
theorem Reading.fits_register {rd : Reading} {h : BitfieldInfoHeap}
    (hfits : rd.fits h = true) : h.info.registerUid = rd.registerUid :=
  beq_iff_eq.1 (Bool.and_eq_true_iff.1 hfits).1

/-- Decoding finds the requested fields of each result. -/
theorem found_elements {heap : List BitfieldInfoHeap}
    (hheap : HeapOk heap) {info : MatchInfo} (hnp : info.noparse = 0)
    (xs : List IoctlResult) :
    found heap info xs = xs.flatMap fun x =>
      (heap.filter fun h => info.selects h && (readingOf x).fits h).map
        (element x) := by
  have hmode : ¬ info.noparse = 1 := by
    rw [hnp]
    decide
  rw [found, if_neg hmode, pairs, List.map_flatMap]
  congr 1
  funext x
  rw [allHits_fits hheap, List.map_map]
  refine List.map_congr_left fun h hh => ?_
  obtain ⟨hmem, hboth⟩ := List.mem_filter.1 hh
  have hfits := (Bool.and_eq_true_iff.1 hboth).2
  exact populated_eq_element hheap hmem (Reading.fits_register hfits)

/-- Of what is found, the successes are what is to be shown of the
readings. -/
theorem found_shown {heap : List BitfieldInfoHeap} (hheap : HeapOk heap)
    {info : MatchInfo} (hnp : info.noparse = 0) (xs : List IoctlResult) :
    (found heap info xs).filter (fun p => p.status == msErrorSuccess)
      = shown heap info (xs.filterMap IoctlResult.reading) := by
  rw [found_elements hheap hnp, shown]
  induction xs with
  | nil => rfl
  | cons x xs ih =>
      rw [List.flatMap_cons, List.filter_append, ih, List.filterMap_cons,
        IoctlResult.reading]
      have hstatus : ∀ p ∈ (heap.filter fun h =>
          info.selects h && (readingOf x).fits h).map (element x),
          p.status = x.status := by
        intro p hp
        obtain ⟨h, -, rfl⟩ := List.mem_map.1 hp
        rfl
      by_cases hx : x.status = msErrorSuccess
      · rw [if_pos hx, List.flatMap_cons,
          List.filter_eq_self.2 fun p hp =>
            beq_iff_eq.2 ((hstatus p hp).trans hx)]
        congr 1
        exact List.map_congr_left fun h _ => element_field hx h
      · rw [if_neg hx, List.filter_eq_nil_iff.2 fun p hp h =>
          hx ((hstatus p hp).symm.trans (beq_iff_eq.1 h))]
        rfl

-- =========================================================== kernel requests

/-- The kernel's reply to the request of a worklist entry. -/
def toolReply (b : Build) (machines : Nat → Machine)
    (s : DriverState ToolState) (x : UsedIoctl) : Reply :=
  msIoctl b (machines s.dev.requests) s.dev.kernel
    (cmdOf x.partnumber).ioctl (requestFor x s.localResult.cpu)

/-- The results read off it. -/
def replyResults (b : Build) (machines : Nat → Machine)
    (s : DriverState ToolState) (x : UsedIoctl) : List IoctlResult :=
  (List.finRange msMaxCpus).map fun i =>
    resultOf x ((toolReply b machines s x).buffer.cpu i)

/-- One entry of the driver's worklist. -/
theorem callDriverStep_tool (hfd : fd ≠ -1) {s : DriverState ToolState}
    (hs : s.alloc = .ok) (x : UsedIoctl) :
    callDriverStep ((toolHost b machines regs).platform fd) s x
      = { localResult := (toolReply b machines s x).buffer
          listOut := s.listOut ++ replyResults b machines s x
          alloc := .ok
          dev := { s.dev with
            kernel := (toolReply b machines s x).globals
            requests := s.dev.requests + 1 } } := by
  have hret : (toolReply b machines s x).ret = 0 :=
    (msIoctl_slots b _ _ _ _).1
  have hioctl : ((toolHost b machines regs).platform fd).ioctl s.dev
      (driverCmd x.partnumber) (requestFor x s.localResult.cpu)
      = ((toolReply b machines s x).ret,
          (toolReply b machines s x).buffer,
          { s.dev with
            kernel := (toolReply b machines s x).globals
            requests := s.dev.requests + 1 }) := by
    rw [driverCmd_eq]
    rfl
  have hsent : driverResults ((toolHost b machines regs).platform fd)
      s.dev (driverCmd x.partnumber)
      { s.localResult with
        code := x.registerUid
        pcpu := x.cpu
        partNumber := x.partnumber }
      = (0, (toolReply b machines s x).buffer,
          { s.dev with
            kernel := (toolReply b machines s x).globals
            requests := s.dev.requests + 1 }) :=
    driverResults_open hfd hioctl (by omega)
  rw [callDriverStep, hsent]
  dsimp only
  rw [if_neg (not_not.2 rfl)]
  obtain ⟨saved, a, hsaved, -, hok⟩ := saveSlots_saved x
    (List.finRange msMaxCpus)
    { localResult := (toolReply b machines s x).buffer
      listOut := s.listOut
      alloc := s.alloc
      dev := { s.dev with
        kernel := (toolReply b machines s x).globals
        requests := s.dev.requests + 1 } }
  obtain ⟨rfl, rfl⟩ := hok hs
  exact hsaved

/-- A request for a register of the dispatch table runs its row. -/
theorem cmdSlot_row {mc : Machine} (m : MsGicMap) {u : MsDataCpu}
    {e : FuncTableEntry} (i : Nat) (d : MsData)
    (hrow : rowOf u.code = some e) :
    cmdSlot b mc m .co u i d = ranSlot b mc i (b.cpuIndex i) e 0 d := by
  unfold cmdSlot
  dsimp only
  rw [hrow]

theorem cmdSlot_unknown {mc : Machine} (m : MsGicMap) {u : MsDataCpu}
    (i : Nat) (d : MsData) (hrow : rowOf u.code = none) :
    cmdSlot b mc m .co u i d = d := by
  unfold cmdSlot
  dsimp only
  rw [hrow]

/-- What a register request leaves in a slot of a cpu it gets to. -/
theorem replySlot_gets {mc : Machine} {m : MsGicMap} {x : UsedIoctl}
    {e : FuncTableEntry} (hrow : rowOf x.registerUid = some e) {i : Nat}
    (hgets : GetsTo b mc x.cpu i) (cpu : Fin msMaxCpus → MsData)
    (d : MsData) :
    replySlot b mc m .co (requestFor x cpu) i d
      = ranSlot b mc i (b.cpuIndex i) e 0 d := by
  obtain ⟨hfrom, hto, hrange, hfate⟩ := hgets
  have hcode : e.code = x.registerUid := by
    simpa using List.find?_some hrow
  have hserved : Served mc .co (requestFor x cpu) :=
    ⟨hfrom, hto, ⟨e, List.mem_of_find?_eq_some hrow, hcode⟩, hrange⟩
  have hcmd : cmdSlot b mc m .co (requestFor x cpu) i
      = ranSlot b mc i (b.cpuIndex i) e 0 := by
    funext d
    exact cmdSlot_row m i d hrow
  rw [replySlot, if_pos hserved, hcmd]
  show (fate b mc x.cpu i).slot _ d = _
  rw [hfate]
  rfl

/-- There is a reading of a cpu iff its slot comes back with a success,
and then the slot holds it. -/
theorem kernelReading_slot {mc : Machine} {m : MsGicMap} (x : UsedIoctl)
    (cpu : Fin msMaxCpus → MsData) (i : Fin msMaxCpus) {d : MsData}
    (hsent : d.status = msErrorNoresult) :
    kernelReading b mc x i
      = (resultOf x
          (replySlot b mc m .co (requestFor x cpu) i d)).reading := by
  unfold IoctlResult.reading
  split
  · rename_i hsuccess
    obtain ⟨⟨hfrom, hto, -, hrange⟩, hfate, hslot⟩ :=
      success_ran hsent hsuccess
    have hgets : GetsTo b mc x.cpu i := ⟨hfrom, hto, hrange, hfate⟩
    cases hrow : rowOf x.registerUid with
    | none =>
        have hkept : cmdSlot b mc m .co (requestFor x cpu) i d = d :=
          cmdSlot_unknown m i d hrow
        rw [hkept, hsent] at hslot
        exact absurd hslot (by decide)
    | some e =>
        rw [replySlot_gets hrow hgets] at hsuccess ⊢
        have hstatus := ranSlot_status b mc i (b.cpuIndex i) e d
        rw [show (ranSlot b mc i (b.cpuIndex i) e 0 d).status
          = msErrorSuccess from hsuccess] at hstatus
        have hdone : e.supported = true
            ∧ (callEffect b mc i e.funcPtr).trapped = false := by
          revert hstatus
          cases e.supported <;>
            cases (callEffect b mc i e.funcPtr).trapped <;> decide
        rw [kernelReading, hrow, Option.bind_some]
        exact if_pos ⟨hgets, hdone⟩
  · rename_i hfailed
    cases hrow : rowOf x.registerUid with
    | none =>
        rw [kernelReading, hrow]
        rfl
    | some e =>
        rw [kernelReading, hrow, Option.bind_some]
        refine if_neg fun hall => hfailed ?_
        obtain ⟨hgets, hsup, htrap⟩ := hall
        rw [replySlot_gets hrow hgets]
        show (ranSlot b mc i (b.cpuIndex i) e 0 d).status = _
        rw [ranSlot_status, if_pos hsup, htrap]
        rfl

/-- There is a word of a device iff its slot comes back with a success. -/
theorem deviceReading_slot {mc : Machine} {m : MsGicMap} {x : UsedIoctl}
    (hgic : cmdOf x.partnumber = .gic) (cpu : Fin msMaxCpus → MsData)
    (i : Fin msMaxCpus) {l : Labels} {d : MsData}
    (hsent : d.status = msErrorNoresult) (hlabel : d.midr = l i) :
    deviceReading b mc m l x i
      = (resultOf x
          (replySlot b mc m .gic (requestFor x cpu) i d)).reading := by
  have hacc : x.partnumber ∈ [giccV2, gicdV2, gichV2, gicvV2] := by
    by_contra hnot
    rw [cmdOf, if_neg hnot] at hgic
    cases hgic
  obtain ⟨base, hbase⟩ := (gicBase_isSome m x.partnumber).2 hacc
  have hcmd : cmdSlot b mc m .gic (requestFor x cpu) i d
      = if base = 0 then d
        else gicSlot mc i (b.cpuIndex i)
          (base + (mscodeField x.registerUid).toNat) d := by
    unfold cmdSlot
    dsimp only
    rw [show gicBase m (requestFor x cpu).partNumber = some base
      from hbase]
    rfl
  rw [deviceReading, hbase, Option.bind_some]
  unfold IoctlResult.reading
  split
  · rename_i hall
    obtain ⟨⟨hfrom, hto, hrange, hfate⟩, hne⟩ := hall
    have hserved : Served mc .gic (requestFor x cpu) :=
      ⟨hfrom, hto, hacc, hrange⟩
    have hslot : replySlot b mc m .gic (requestFor x cpu) i d
        = gicSlot mc i (b.cpuIndex i)
          (base + (mscodeField x.registerUid).toNat) d := by
      rw [replySlot, if_pos hserved,
        show fate b mc (requestFor x cpu).pcpu i = .ran from hfate]
      show cmdSlot b mc m .gic (requestFor x cpu) i d = _
      rw [hcmd, if_neg hne]
    have hword : (resultOf x (gicSlot mc i (b.cpuIndex i)
        (base + (mscodeField x.registerUid).toNat) d)).word
        = (mc.readl i
          (base + (mscodeField x.registerUid).toNat)).setWidth 64 :=
      valueToLong_low _
    rw [hslot, if_pos (by rfl), readingOf, hword, ← hlabel]
    rfl
  · rename_i hnot
    refine (if_neg fun hsuccess => hnot ?_).symm
    obtain ⟨⟨hfrom, hto, -, hrange⟩, hfate, hslot⟩ :=
      success_ran hsent hsuccess
    refine ⟨⟨hfrom, hto, hrange, hfate⟩, fun hzero => ?_⟩
    rw [hcmd, if_pos hzero, hsent] at hslot
    exact absurd hslot (by decide)

/-- A request keeps the MIDR of a slot unless its function has run there
and changed it. -/
theorem replySlot_midr {mc : Machine} {m : MsGicMap} {cmd : MsCmd}
    {u : MsDataCpu} {i : Nat} {d : MsData}
    (h : fate b mc u.pcpu i = .ran → Served mc cmd u →
      (cmdSlot b mc m cmd u i d).midr = d.midr) :
    (replySlot b mc m cmd u i d).midr = d.midr := by
  unfold replySlot
  split
  · rename_i hserved
    cases hfate : fate b mc u.pcpu i with
    | untouched => rfl
    | down => rfl
    | failed => rfl
    | ran => exact h hfate hserved
  · rfl

/-- What a request leaves of the MIDR in a slot. -/
theorem replySlot_label {mc : Machine} {m : MsGicMap} (x : UsedIoctl)
    (cpu : Fin msMaxCpus → MsData) (i : Fin msMaxCpus) {l : Labels}
    {d : MsData} (hlabel : d.midr = l i) :
    (replySlot b mc m (cmdOf x.partnumber) (requestFor x cpu) i d).midr
      = relabel b mc x l i := by
  unfold relabel
  split
  · rename_i hall
    obtain ⟨hco, hrow, hgets⟩ := hall
    obtain ⟨e, hrow⟩ := Option.isSome_iff_exists.1 hrow
    rw [hco, replySlot_gets hrow hgets]
    rfl
  · rename_i hnot
    rw [← hlabel]
    refine replySlot_midr fun hfate hserved => ?_
    cases hcmd : cmdOf x.partnumber with
    | gic =>
        unfold cmdSlot
        dsimp only
        split
        · rfl
        · split <;> rfl
    | co =>
        cases hrow : rowOf x.registerUid with
        | none => rw [cmdSlot_unknown m i d hrow]
        | some e =>
            obtain ⟨hfrom, hto, -, hrange⟩ := hserved
            exact absurd ⟨hcmd, by rw [hrow]; rfl, hfrom, hto, hrange,
              hfate⟩ hnot

/-- The readings of a reply are those of its request. -/
theorem replyResults_readings (s : DriverState ToolState) (x : UsedIoctl)
    {l : Labels} (hlabel : ∀ i, (s.localResult.cpu i).midr = l i) :
    (replyResults b machines s x).filterMap IoctlResult.reading
      = (List.finRange msMaxCpus).filterMap
          (cpuReading b (machines s.dev.requests) s.dev.kernel.gicMap l
            x) := by
  rw [replyResults, List.filterMap_map]
  congr 1
  funext i
  rw [Function.comp, toolReply, (msIoctl_slots b _ _ _ _).2.2, cpuReading]
  cases hcmd : cmdOf x.partnumber with
  | co => exact (kernelReading_slot x s.localResult.cpu i rfl).symm
  | gic =>
      exact (deviceReading_slot hcmd s.localResult.cpu i
        (d := (requestFor x s.localResult.cpu).cpu i) rfl (hlabel i)).symm

/-- The driver's loop: it adds the readings of its worklist, and eight
results for each entry. -/
theorem callDriver_tool (b : Build) (machines : Nat → Machine)
    (regs : Nat → String → Option U64) (hfd : fd ≠ -1) (xs : List UsedIoctl)
    {s : DriverState ToolState} (hs : s.alloc = .ok) {l : Labels}
    (hlabel : ∀ i, (s.localResult.cpu i).midr = l i) :
    ∃ added localResult kernel,
      xs.foldl (callDriverStep ((toolHost b machines regs).platform fd)) s
          = { localResult := localResult
              listOut := s.listOut ++ added
              alloc := .ok
              dev := { s.dev with
                kernel := kernel
                requests := s.dev.requests + xs.length } }
        ∧ kernel.gicMap = s.dev.kernel.gicMap
        ∧ added.length = msMaxCpus * xs.length
        ∧ added.filterMap IoctlResult.reading
          = kernelReadings b machines s.dev.kernel.gicMap s.dev.requests l
              xs := by
  induction xs generalizing s l with
  | nil =>
      refine ⟨[], s.localResult, s.dev.kernel, ?_, rfl, rfl, rfl⟩
      rw [List.append_nil, ← hs]
      rfl
  | cons x xs ih =>
      have hslots := msIoctl_slots b (machines s.dev.requests) s.dev.kernel
        (cmdOf x.partnumber) (requestFor x s.localResult.cpu)
      have hmore : ∀ i, ((callDriverStep
          ((toolHost b machines regs).platform fd) s x).localResult.cpu
            i).midr = relabel b (machines s.dev.requests) x l i := by
        intro i
        rw [callDriverStep_tool hfd hs]
        show ((toolReply b machines s x).buffer.cpu i).midr = _
        rw [toolReply, hslots.2.2]
        exact replySlot_label x s.localResult.cpu i (hlabel i)
      obtain ⟨added, localResult, kernel, hrun, hmap, hlen, hread⟩ :=
        ih (s := callDriverStep ((toolHost b machines regs).platform fd)
            s x) (by rw [callDriverStep_tool hfd hs]) hmore
      rw [callDriverStep_tool hfd hs] at hrun hmap hread
      have hkept : (toolReply b machines s x).globals.gicMap
          = s.dev.kernel.gicMap := hslots.2.1
      refine ⟨replyResults b machines s x ++ added, localResult, kernel,
        ?_, hmap.trans hkept, ?_, ?_⟩
      · rw [List.foldl_cons, callDriverStep_tool hfd hs, hrun,
          List.append_assoc, List.length_cons]
        simp only [Nat.add_assoc, Nat.add_comm 1]
      · rw [List.length_append, hlen, replyResults, List.length_map,
          List.length_finRange, List.length_cons, Nat.mul_succ,
          Nat.add_comm]
      · rw [List.filterMap_append, hread, replyResults_readings s x hlabel,
          kernelReadings]
        dsimp only
        rw [hkept]

-- ========================================================== user-level reads

/-- The result recorded from a read at user level. -/
def userResult (x : UsedIoctl) (d : MsData) : IoctlResult where
  registerUid := x.registerUid
  val64 := d.out64
  low := d.out1
  high := d.out2
  cpu := 0
  midr := 0
  epl := nsPrivilegeLevel0
  status := d.status

/-- The results of one entry of the user-level worklist: none where the
register is not in the dispatch table. -/
def userResults (t : Target) (reg : String → Option U64) (x : UsedIoctl)
    (d : MsData) : List IoctlResult :=
  (rowOf x.registerUid).toList.map fun e =>
    userResult x (userSlot t reg e 0 d)

/-- They are its reading, while the flag is down. -/
theorem userResults_readings (t : Target) (reg : String → Option U64)
    (x : UsedIoctl) (d : MsData) :
    (userResults t reg x d).filterMap IoctlResult.reading
      = (userReading t reg x).toList := by
  unfold userResults userReading
  cases rowOf x.registerUid with
  | none => rfl
  | some e =>
      have hstatus : (userResult x (userSlot t reg e 0 d)).status
          = if e.supported then
              if (tryEffect t reg e.funcPtr).trapped then msErrorIllinst
              else msErrorSuccess
            else msErrorTable := by
        cases htrap : (tryEffect t reg e.funcPtr).trapped <;>
          simp [userResult, userSlot, raisedFlag, illsigVerdict, htrap]
      have hdone : (userResult x (userSlot t reg e 0 d)).status
          = msErrorSuccess
          ↔ e.supported = true
            ∧ (tryEffect t reg e.funcPtr).trapped = false := by
        rw [hstatus]
        cases e.supported <;>
          cases (tryEffect t reg e.funcPtr).trapped <;> decide
      simp only [Option.toList_some, List.map_cons, List.map_nil,
        List.filterMap_cons, List.filterMap_nil, IoctlResult.reading,
        Option.bind_some]
      by_cases hread : e.supported = true
          ∧ (tryEffect t reg e.funcPtr).trapped = false
      · rw [if_pos hread, if_pos (hdone.2 hread)]
        rfl
      · rw [if_neg hread, if_neg (mt hdone.1 hread)]
        rfl

/-- One entry of the user-level worklist. -/
theorem callUsermodeStep_tool (b : Build) (machines : Nat → Machine)
    (regs : Nat → String → Option U64) (fd : Int)
    {s : UsermodeState ToolState}
    (hs : s.alloc = .ok) (hflag : s.dev.user.gIllsig = 0)
    (x : UsedIoctl) :
    ∃ localResult d user,
      callUsermodeStep ((toolHost b machines regs).platform fd) s x
          = { localResult := localResult
              listOut := s.listOut
                ++ userResults b.target (regs s.dev.reads) x d
              alloc := .ok
              dev := { s.dev with
                user := user, reads := s.dev.reads + 1 } }
        ∧ user.gIllsig = 0 := by
  let c : UserCall := ⟨x.registerUid, regs s.dev.reads, s.localResult⟩
  have hlow := c.run_flag (t := b.target) hflag
  have hcall : ((toolHost b machines regs).platform fd).usermodeResults
      s.dev x.registerUid s.localResult
      = ((c.run b.target s.dev.user).1, (c.run b.target s.dev.user).2.1,
          { s.dev with
            user := (c.run b.target s.dev.user).2.2
            reads := s.dev.reads + 1 }) := rfl
  unfold callUsermodeStep
  rw [hcall]
  dsimp only
  cases hrow : rowOf x.registerUid with
  | none =>
      have hrun := UserCall.run_unknown (t := b.target) (c := c) hrow
        s.dev.user
      refine ⟨(c.run b.target s.dev.user).2.1, {},
        (c.run b.target s.dev.user).2.2, ?_, hlow⟩
      rw [if_pos (by rw [hrun]; simp), userResults, hrow, ← hs,
        Option.toList_none, List.map_nil, List.append_nil]
  | some e =>
      have hrun := UserCall.run_row (t := b.target) (c := c) hrow
        s.dev.user
      refine ⟨(c.run b.target s.dev.user).2.1,
        { s.localResult with status := msErrorNoresult },
        (c.run b.target s.dev.user).2.2, ?_, hlow⟩
      rw [if_neg (by rw [hrun]; simp), userResults, hrow]
      unfold breakoutAddIoctlResult
      rw [hs, msListAdd_ok, hrun, hflag]
      rfl

/-- The loop over the user-level worklist. -/
theorem callUsermode_tool (b : Build) (machines : Nat → Machine)
    (regs : Nat → String → Option U64) (fd : Int) (xs : List UsedIoctl)
    {s : UsermodeState ToolState} (hs : s.alloc = .ok)
    (hflag : s.dev.user.gIllsig = 0) :
    ∃ added localResult user,
      xs.foldl (callUsermodeStep
          ((toolHost b machines regs).platform fd)) s
          = { localResult := localResult
              listOut := s.listOut ++ added
              alloc := .ok
              dev := { s.dev with
                user := user, reads := s.dev.reads + xs.length } }
        ∧ user.gIllsig = 0
        ∧ (added = [] ↔ ∀ x ∈ xs, rowOf x.registerUid = none)
        ∧ added.filterMap IoctlResult.reading
          = (xs.zipIdx s.dev.reads).filterMap fun w =>
              userReading b.target (regs w.2) w.1 := by
  induction xs generalizing s with
  | nil =>
      refine ⟨[], s.localResult, s.dev.user, ?_, hflag, by simp, rfl⟩
      rw [List.append_nil, ← hs]
      rfl
  | cons x xs ih =>
      obtain ⟨_, d, user, hstep, hlow⟩ := callUsermodeStep_tool b
        machines regs fd hs hflag x
      obtain ⟨added, localResult, user', hrun, hlow', hnil, hread⟩ :=
        ih (s := callUsermodeStep ((toolHost b machines regs).platform fd)
            s x) (by rw [hstep]) (by rw [hstep]; exact hlow)
      rw [hstep] at hrun hread
      refine ⟨userResults b.target (regs s.dev.reads) x d ++ added,
        localResult, user', ?_, hlow', ?_, ?_⟩
      · rw [List.foldl_cons, hstep, hrun, List.append_assoc,
          List.length_cons]
        simp only [Nat.add_assoc, Nat.add_comm 1]
      · rw [List.append_eq_nil_iff, hnil, List.forall_mem_cons]
        refine and_congr_left fun _ => ?_
        unfold userResults
        rw [List.map_eq_nil_iff, Option.toList_eq_nil_iff]
      · rw [List.filterMap_append, hread, userResults_readings,
          List.zipIdx_cons, List.filterMap_cons]
        cases userReading b.target (regs s.dev.reads) x <;> rfl

-- =============================================================== both loops

/-- A search for the requests records something: the kernel is asked for
a register, or one in the dispatch table is read at user level. -/
def Recordable (reqs : List ResultsInfo) : Prop :=
  workAt nsPrivilegeLevel1 reqs ≠ []
    ∨ ∃ x ∈ workAt nsPrivilegeLevel0 reqs,
        (rowOf x.registerUid).isSome = true

instance (reqs : List ResultsInfo) : Decidable (Recordable reqs) :=
  inferInstanceAs (Decidable (_ ∨ _))

/-- An entry that is selected is asked for in the kernel, where all entries
of its register that are selected prefer level 1. -/
theorem recordable_of_selected {heap : List BitfieldInfoHeap}
    {info : MatchInfo} (hpl : info.pl &&& preferredPl ≠ 0)
    {h : BitfieldInfoHeap} (hh : h ∈ heap) (hsel : info.selects h = true)
    (hlevel : ∀ g ∈ heap, info.selects g = true →
      g.info.registerUid = h.info.registerUid →
        g.info.ppl &&& nsPrivilegeLevel1 ≠ 0) :
    Recordable (requests heap info) := by
  have hlevels : ∀ r ∈ requests heap info,
      r.registerUid = h.info.registerUid →
        r.levels &&& nsPrivilegeLevel1 ≠ 0 := by
    intro r hr huid
    obtain ⟨g, hg, rfl⟩ := List.mem_map.1 hr
    obtain ⟨hmem, hsel'⟩ := List.mem_filter.1 hg
    rw [show (requestOf info g).levels = g.info.ppl from if_pos hpl]
    exact hlevel g hmem hsel' huid
  have hreq : requestOf info h ∈ requests heap info :=
    List.mem_map_of_mem (List.mem_filter.2 ⟨hh, hsel⟩)
  obtain ⟨x, hx, -⟩ := driverWork_used hlevels hreq rfl
  rw [driverWork, sorted] at hx
  exact Or.inl (List.ne_nil_of_mem hx)

/-- What the two loops read, and how often they ask. -/
theorem readState_tool (b : Build) (machines : Nat → Machine)
    (regs : Nat → String → Option U64) (hfd : fd ≠ -1) {s : ToolState}
    (hflag : s.user.gIllsig = 0) (reqs : List ResultsInfo) :
    let u := readState ((toolHost b machines regs).platform fd) s reqs
    u.listOut.filterMap IoctlResult.reading
        = readings b machines regs s reqs
      ∧ (u.listOut = [] ↔ ¬ Recordable reqs)
      ∧ u.dev.kernel.gicMap = s.kernel.gicMap
      ∧ u.dev.requests
        = s.requests + (workAt nsPrivilegeLevel1 reqs).length
      ∧ u.dev.reads
        = s.reads + (workAt nsPrivilegeLevel0 reqs).length := by
  obtain ⟨added, result, kernel, hdriver, hmap, hlen, hread⟩ :=
    callDriver_tool b machines regs hfd (workAt nsPrivilegeLevel1 reqs)
      (s := { localResult := {}, listOut := [], alloc := .ok, dev := s })
      rfl (l := fun _ => 0) fun _ => rfl
  obtain ⟨added', result', user, huser, -, hnil, hread'⟩ :=
    callUsermode_tool b machines regs fd (workAt nsPrivilegeLevel0 reqs)
      (s :=
        { localResult := {}
          listOut := [] ++ added
          alloc := .ok
          dev := { s with
            kernel := kernel
            requests := s.requests
              + (workAt nsPrivilegeLevel1 reqs).length } })
      rfl hflag
  unfold readState breakoutSortIoctls breakoutCallDriver
    breakoutCallUsermode
  rw [sorted]
  dsimp only
  rw [hdriver]
  dsimp only
  rw [huser]
  refine ⟨?_, ?_, hmap, rfl, rfl⟩
  · dsimp only
    rw [List.nil_append, List.filterMap_append, hread, hread']
    rfl
  · dsimp only
    have hempty : added = [] ↔ workAt nsPrivilegeLevel1 reqs = [] := by
      rw [← List.length_eq_zero_iff, hlen, ← List.length_eq_zero_iff,
        show msMaxCpus = 8 from rfl]
      omega
    rw [List.nil_append, List.append_eq_nil_iff, hempty, hnil, Recordable,
      not_or, not_not]
    push Not
    simp only [Bool.not_eq_true, Option.isSome_eq_false_iff,
      Option.isNone_iff_eq_none]

/-- What `find_bitfields` makes of the requests on the whole system. -/
theorem findBitfields_tool (b : Build) (machines : Nat → Machine)
    (regs : Nat → String → Option U64) (hfd : fd ≠ -1) {s : ToolState}
    (hflag : s.user.gIllsig = 0) {heap : List BitfieldInfoHeap}
    (hheap : HeapOk heap) {info : MatchInfo} (hcalc : info.calcValid = 0)
    (hnp : info.noparse = 0) (hrec : Recordable (requests heap info)) :
    ∃ list dev,
      Stack.findBitfields ((toolHost b machines regs).platform fd) .ok heap
          s (some info) (some [])
        = .ok ((0, list, .ok), dev)
      ∧ list.filter (fun p => p.status == msErrorSuccess)
        = shown heap info
          (readings b machines regs s (requests heap info)) := by
  obtain ⟨hread, hempty, -⟩ := readState_tool b machines regs hfd hflag
    (requests heap info)
  have hrun := findBitfields_found
    ((toolHost b machines regs).platform fd) heap s hcalc (Or.inl hnp)
  dsimp only at hrun
  rw [if_neg fun hnil => hempty.1 hnil hrec] at hrun
  exact ⟨_, _, hrun, by rw [found_shown hheap hnp, hread]⟩

end Maplesyrup
