/-
What the driver loop records for a worklist entry, and what of it comes
from the entries before.

The library clears the shared buffer once and then only its statuses;
the kernel writes the slots of the cpus it ran on and hands the rest
back. So every slot field is that of the last entry that wrote it
(`Base.foldl_last`), and the entry itself may not have.
-/
import Maplesyrup.Base.Cells
import Maplesyrup.Decode.Driver
import Maplesyrup.Kernel.Proofs.Request

namespace Maplesyrup

open Base

variable {b : Build} {mc : Machine}

-- ======================================================== one kernel reply

/-- The command a part number is read with. -/
def cmdOf (partnumber : U32) : MsCmd :=
  if partnumber ∈ [giccV2, gicdV2, gichV2, gicvV2] then .gic else .co

/-- The ioctl number of a command. -/
def MsCmd.ioctl : MsCmd → U32
  | .co => msIoctlCo
  | .gic => msIoctlGic

theorem driverCmd_eq (partnumber : U32) :
    driverCmd partnumber = (cmdOf partnumber).ioctl := by
  unfold driverCmd cmdOf
  simp only [List.mem_cons, List.not_mem_nil, or_false]
  split_ifs <;> simp_all [MsCmd.ioctl]

theorem msIoctl_cmd (cmd : MsCmd) (g : KGlobals) (u : MsDataCpu) :
    msIoctl b mc g cmd.ioctl u
      = { callCmd mc (cmd.pcall b mc) g u with ret := 0 } := by
  cases cmd with
  | co => exact if_pos rfl
  | gic =>
      have hne : msIoctlGic ≠ msIoctlCo := by decide
      exact (if_neg hne).trans (if_pos rfl)

/-- The request is carried out: copied in and out, accepted, and its cpu
number has slots. -/
def Served (mc : Machine) (cmd : MsCmd) (u : MsDataCpu) : Prop :=
  mc.copyFromUser = true ∧ mc.copyToUser = true ∧ cmd.accepts u
    ∧ InRange u.pcpu

instance : (cmd : MsCmd) → (u : MsDataCpu) → Decidable (cmd.accepts u)
  | .co, u =>
      inferInstanceAs (Decidable (∃ e ∈ funcTable, e.code = u.code))
  | .gic, u =>
      inferInstanceAs
        (Decidable (u.partNumber ∈ [giccV2, gicdV2, gichV2, gicvV2]))

instance (mc : Machine) (cmd : MsCmd) (u : MsDataCpu) :
    Decidable (Served mc cmd u) :=
  inferInstanceAs (Decidable (_ ∧ _ ∧ _ ∧ _))

/-- The row a code is served by. -/
def rowOf (code : U32) : Option FuncTableEntry :=
  funcTable.find? fun e => e.code == code

/-- It is the row the kernel finds. -/
theorem findFunctionIndex_rowOf {code : U32} {e : FuncTableEntry}
    (h : rowOf code = some e) :
    ∃ index, findFunctionIndex code = some index
      ∧ funcTable[index]? = some e := by
  have hmem : e ∈ funcTable := List.mem_of_find?_eq_some h
  have hcode : e.code = code := by simpa using List.find?_some h
  obtain ⟨index, hidx⟩ := Option.isSome_iff_exists.1
    ((findFunctionIndex_isSome code).2 ⟨e, hmem, hcode⟩)
  exact ⟨index, hidx, (findFunctionIndex_find hidx).symm.trans h⟩

/-- A row the executor has a case for has a handler. -/
theorem supported_handler :
    ∀ e ∈ funcTable, e.supported = true → e.funcPtr.isSome = true := by
  decide +kernel

/-- What the cpu function of a command makes of its slot. -/
def cmdSlot (b : Build) (mc : Machine) (m : MsGicMap) (cmd : MsCmd)
    (u : MsDataCpu) (i : Nat) (d : MsData) : MsData :=
  match cmd with
  | .co =>
      match rowOf u.code with
      | none => d
      | some e => ranSlot b mc i (b.cpuIndex i) e 0 d
  | .gic =>
      match gicBase m u.partNumber with
      | none => d
      | some base =>
          if base = 0 then d
          else gicSlot mc i (b.cpuIndex i)
            (base + (mscodeField u.code).toNat) d

/-- What a request makes of slot `i`. -/
def replySlot (b : Build) (mc : Machine) (m : MsGicMap) (cmd : MsCmd)
    (u : MsDataCpu) (i : Nat) (d : MsData) : MsData :=
  if Served mc cmd u then
    (fate b mc u.pcpu i).slot (cmdSlot b mc m cmd u i) d
  else d

/-- The slots after a request that was accepted and is in range. -/
theorem pcall_slots {cmd : MsCmd} {g : KGlobals} {u : MsDataCpu}
    (hg : g.gUndefFlag = 0) (hacc : cmd.accepts u) (hp : InRange u.pcpu) :
    (cmd.pcall b mc g u).ret = 0
      ∧ (cmd.pcall b mc g u).buffer
        = { u with
            cpu := fun j =>
              (fate b mc u.pcpu j).slot (cmdSlot b mc g.gicMap cmd u j)
                (u.cpu j) } := by
  cases cmd with
  | co =>
      obtain ⟨idx, hidx⟩ := Option.isSome_iff_exists.1
        ((findFunctionIndex_isSome u.code).2 hacc)
      obtain ⟨e, he, -⟩ := findFunctionIndex_spec hidx
      have hrow : rowOf u.code = some e :=
        (findFunctionIndex_find hidx).trans he
      have hcmd : ∀ j, cmdSlot b mc g.gicMap .co u j
          = ranSlot b mc j (b.cpuIndex j) e 0 := by
        intro j
        funext d
        rw [cmdSlot, hrow]
      rw [MsCmd.pcall, callFuncReturnResults_some hidx,
        kickReply_slots (u := u) (callFuncPtr_cpuFn he) ⟨hg, rfl⟩ rfl
          rfl hp, kickReply_ret, onEachCpuKick_ret]
      refine ⟨if_pos (Or.inl hp), ?_⟩
      simp only [hcmd]
  | gic =>
      obtain ⟨base, hbase⟩ := (gicBase_isSome g.gicMap _).2 hacc
      have hcmd : ∀ j, cmdSlot b mc g.gicMap .gic u j = fun d =>
          if base = 0 then d
          else gicSlot mc j (b.cpuIndex j)
            (base + (mscodeField u.code).toNat) d := by
        intro j
        funext d
        rw [cmdSlot, hbase]
      rw [MsCmd.pcall, gicReturnResults_some hbase,
        kickReply_slots (u := u) (gicBarRead_cpuFn base u.code)
          ⟨rfl, rfl⟩ rfl rfl hp, kickReply_ret, onEachCpuKick_ret]
      refine ⟨if_pos (Or.inl hp), ?_⟩
      simp only [hcmd]

theorem not_served_slot {cmd : MsCmd} {u : MsDataCpu}
    (h : ¬ Served mc cmd u) (m : MsGicMap) (i : Nat) :
    replySlot b mc m cmd u i = id := by
  funext d
  exact if_neg h

/-- A request that names the cpu behind the last slot changes none. -/
theorem pcall_boundary {cmd : MsCmd} {g : KGlobals} {u : MsDataCpu}
    (hacc : cmd.accepts u) (h8 : u.pcpu.toNat = msMaxCpus) :
    (cmd.pcall b mc g u).buffer = u := by
  obtain ⟨fn, s, hpcpu, hcpu, hpcall⟩ := pcall_accepted b mc hacc g
  have h8' : s.data.pcpu.toNat = msMaxCpus := by rw [hpcpu, h8]
  have hsame : (s.slot msMaxCpus fun d =>
      { d with status := msErrorSmp }).data.results.cpu = u.cpu := by
    funext j
    have hj : j.val ≠ msMaxCpus := Nat.ne_of_lt j.isLt
    rw [← hcpu]
    exact if_neg hj
  rw [hpcall, onEachCpuKick_boundary h8', kickReply_buffer g u rfl]
  show { u with cpu := (s.slot msMaxCpus fun d =>
      { d with status := msErrorSmp }).data.results.cpu } = u
  rw [hsame]

/-- A request that is turned away fails. -/
theorem pcall_reject {cmd : MsCmd} {g : KGlobals} {u : MsDataCpu}
    (hp : ¬ InRange u.pcpu) (h8 : u.pcpu.toNat ≠ msMaxCpus) :
    (cmd.pcall b mc g u).ret ≠ 0 := by
  by_cases hacc : cmd.accepts u
  · obtain ⟨fn, s, hpcpu, -, hpcall⟩ := pcall_accepted b mc hacc g
    intro hret
    rw [hpcall, kickReply_ret, onEachCpuKick_ret, hpcpu,
      if_neg (not_or.2 ⟨hp, h8⟩)] at hret
    exact absurd hret (by decide)
  · rw [pcall_rejected b mc hacc]
    exact show (-1 : Int) ≠ 0 by omega

/-- A request that failed leaves the caller's buffer as it was. -/
theorem callCmd_failed {pcall : KGlobals → MsDataCpu → Reply}
    {g : KGlobals} {u : MsDataCpu} (h : (callCmd mc pcall g u).ret ≠ 0) :
    (callCmd mc pcall g u).buffer = u := by
  revert h
  unfold callCmd
  dsimp only
  generalize { g with gUndefFlag := (0 : U32) } = g'
  cases mc.copyFromUser
  · exact fun _ => rfl
  · by_cases hcall : (pcall g' u).ret = 0
    · cases mc.copyToUser <;> simp [hcall]
    · simp [hcall]

/-- The slots the caller finds, and the map, after any request. -/
theorem msIoctl_slots (b : Build) (mc : Machine) (g : KGlobals)
    (cmd : MsCmd) (u : MsDataCpu) :
    (msIoctl b mc g cmd.ioctl u).ret = 0
      ∧ (msIoctl b mc g cmd.ioctl u).globals.gicMap = g.gicMap
      ∧ (msIoctl b mc g cmd.ioctl u).buffer
        = { u with
            cpu := fun j => replySlot b mc g.gicMap cmd u j (u.cpu j) }
      := by
  rw [msIoctl_cmd]
  refine ⟨rfl, ?_, ?_⟩
  · exact callCmd_gicMap cmd g u
  · show (callCmd mc (cmd.pcall b mc) g u).buffer = _
    by_cases hret : (callCmd mc (cmd.pcall b mc) g u).ret = 0
    · obtain ⟨hfrom, hcall, hto⟩ := (callCmd_ret mc _ g u).1 hret
      rw [callCmd_buffer hret]
      have hacc : cmd.accepts u := by
        by_contra hacc
        rw [pcall_rejected b mc hacc] at hcall
        exact absurd hcall (show ¬ (-1 : Int) = 0 by omega)
      by_cases hp : InRange u.pcpu
      · rw [(pcall_slots rfl hacc hp).2]
        have hserved : Served mc cmd u := ⟨hfrom, hto, hacc, hp⟩
        simp only [replySlot, if_pos hserved]
      · have h8 : u.pcpu.toNat = msMaxCpus := by
          by_contra h8
          exact pcall_reject hp h8 hcall
        have hnot : ¬ Served mc cmd u := fun h => hp h.2.2.2
        rw [pcall_boundary hacc h8]
        simp only [not_served_slot hnot, id]
    · rw [callCmd_failed hret]
      have hnot : ¬ Served mc cmd u := by
        intro hall
        obtain ⟨hfrom, hto, hacc, hp⟩ := hall
        exact hret ((callCmd_ret mc _ g u).2
          ⟨hfrom, (pcall_slots rfl hacc hp).1, hto⟩)
      simp only [not_served_slot hnot, id]

-- ======================================================= one driver entry

/-- The kernel as the library's device. The outcome of a request is fixed
by its code, cpu number and part number. -/
def kernelPlatform (b : Build) (mcOf : U32 → U32 → U32 → Machine) :
    Platform KGlobals where
  msFd := 3
  ioctl g cmd u :=
    let r := msIoctl b (mcOf u.code u.pcpu u.partNumber) g cmd u
    (r.ret, r.buffer, r.globals)
  usermodeResults g _ d := (-1, d, g)

variable {mcOf : U32 → U32 → U32 → Machine} {m : MsGicMap}

/-- The request of a worklist entry, over given slots. -/
def requestFor (x : UsedIoctl) (cpu : Fin msMaxCpus → MsData) :
    MsDataCpu :=
  { code := x.registerUid
    pcpu := x.cpu
    partNumber := x.partnumber
    cpu := fun i => { cpu i with status := msErrorNoresult } }

/-- The machine an entry meets. -/
def machineFor (mcOf : U32 → U32 → U32 → Machine) (x : UsedIoctl) :
    Machine :=
  mcOf x.registerUid x.cpu x.partnumber

/-- What an entry makes of slot `i`. -/
def entrySlot (b : Build) (mcOf : U32 → U32 → U32 → Machine)
    (m : MsGicMap) (x : UsedIoctl) (i : Nat) (d : MsData) : MsData :=
  replySlot b (machineFor mcOf x) m (cmdOf x.partnumber)
    (requestFor x fun _ => {}) i { d with status := msErrorNoresult }

/-- The ioctl result recorded from a slot. -/
def resultOf (x : UsedIoctl) (d : MsData) : IoctlResult where
  registerUid := x.registerUid
  val64 := d.out64
  low := d.out1
  high := d.out2
  cpu := d.cpu
  midr := d.midr
  epl := nsPrivilegeLevel1
  status := d.status

/-- The device keeps its map and no allocation fails. -/
def DriverInv (m : MsGicMap) (s : DriverState KGlobals) : Prop :=
  s.alloc = .ok ∧ s.dev.gicMap = m

/-- Recording the slots appends the results of those that can be, all of
them if no allocation fails. -/
theorem saveSlots_saved {δ : Type*} (x : UsedIoctl)
    (l : List (Fin msMaxCpus)) (s : DriverState δ) :
    ∃ saved a, l.foldl (saveSlot x.registerUid) s
        = { s with
            listOut := s.listOut
              ++ saved.map fun i => resultOf x (s.localResult.cpu i)
            alloc := a }
      ∧ saved.Sublist l ∧ (s.alloc = .ok → a = .ok ∧ saved = l) := by
  induction l generalizing s with
  | nil =>
      refine ⟨[], s.alloc, ?_, List.Sublist.slnil, fun h => ⟨h, rfl⟩⟩
      rw [List.map_nil, List.append_nil]
      rfl
  | cons i l ih =>
      obtain ⟨saved, a, hrest, hsub, hok⟩ := ih (saveSlot x.registerUid s i)
      cases ha : s.alloc 0 with
      | true =>
          have hsave : saveSlot x.registerUid s i
              = { s with
                  listOut :=
                    s.listOut ++ [resultOf x (s.localResult.cpu i)]
                  alloc := s.alloc.rest } := by
            simp only [saveSlot, breakoutAddIoctlResult, msListAdd, ha,
              ↓reduceIte]
            rfl
          rw [hsave] at hrest hok
          refine ⟨i :: saved, a, ?_, hsub.cons_cons i, fun h => ?_⟩
          · rw [List.foldl_cons, hsave, hrest, List.append_assoc]
            rfl
          · have hrest' : s.alloc.rest = .ok := by
              rw [h]
              rfl
            obtain ⟨hend, rfl⟩ := hok hrest'
            exact ⟨hend, rfl⟩
      | false =>
          have hsave : saveSlot x.registerUid s i
              = { s with alloc := s.alloc.rest } := by
            simp only [saveSlot, breakoutAddIoctlResult, msListAdd, ha,
              Bool.false_eq_true, ↓reduceIte]
          rw [hsave] at hrest
          refine ⟨saved, a, ?_, hsub.cons i, fun h => ?_⟩
          · rw [List.foldl_cons, hsave, hrest]
          · rw [h] at ha
            exact absurd ha (by decide)

/-- With nothing failing, one result for each. -/
theorem saveSlots_eq (x : UsedIoctl) (l : List (Fin msMaxCpus))
    {s : DriverState KGlobals} (hs : s.alloc = .ok) :
    l.foldl (saveSlot x.registerUid) s
      = { s with
          listOut := s.listOut
            ++ l.map fun i => resultOf x (s.localResult.cpu i) } := by
  obtain ⟨saved, a, hrun, -, hok⟩ := saveSlots_saved x l s
  obtain ⟨rfl, rfl⟩ := hok hs
  rw [hrun, ← hs]

/-- The request does not depend on the slots it carries along. -/
theorem replySlot_request (x : UsedIoctl) (u : MsDataCpu)
    (hu : u.code = x.registerUid ∧ u.pcpu = x.cpu
      ∧ u.partNumber = x.partnumber) (i : Nat) :
    replySlot b mc m (cmdOf x.partnumber) u i
      = replySlot b mc m (cmdOf x.partnumber)
          (requestFor x fun _ => {}) i := by
  obtain ⟨code, pcpu, part, cpu⟩ := u
  obtain ⟨rfl, rfl, rfl⟩ := hu
  generalize cmdOf x.partnumber = cmd
  cases cmd <;> rfl

/-- A request over an open device gives what the device answers. -/
theorem driverResults_open {δ : Type*} {P : Platform δ}
    (hfd : P.msFd ≠ -1) {dev dev' : δ} {cmd : U32} {u u' : MsDataCpu} {r : Int}
    (h : P.ioctl dev cmd { u with
      cpu := fun i => { u.cpu i with status := msErrorNoresult } }
      = (r, u', dev')) (hr : r ≠ -1) :
    driverResults P dev cmd u = (0, u', dev') := by
  simp only [driverResults, hfd, h, hr, ↓reduceIte]

/-- What the kernel makes of an entry's request. -/
def entryReply (b : Build) (mcOf : U32 → U32 → U32 → Machine)
    (s : DriverState KGlobals) (x : UsedIoctl) : Reply :=
  msIoctl b (machineFor mcOf x) s.dev (cmdOf x.partnumber).ioctl
    (requestFor x s.localResult.cpu)

theorem entryReply_slots (s : DriverState KGlobals) (x : UsedIoctl)
    (i : Fin msMaxCpus) :
    (entryReply b mcOf s x).buffer.cpu i
      = entrySlot b mcOf s.dev.gicMap x i (s.localResult.cpu i) := by
  have hbuf := (msIoctl_slots b (machineFor mcOf x) s.dev
    (cmdOf x.partnumber) (requestFor x s.localResult.cpu)).2.2
  rw [entryReply, hbuf]
  show replySlot b _ _ _ (requestFor x s.localResult.cpu) i _ = _
  rw [replySlot_request x (requestFor x s.localResult.cpu)
    ⟨rfl, rfl, rfl⟩]
  rfl

/-- The entry's request goes out and the kernel's reply comes back. -/
theorem driverResults_entry (s : DriverState KGlobals) (x : UsedIoctl) :
    driverResults (kernelPlatform b mcOf) s.dev (driverCmd x.partnumber)
        { s.localResult with
          code := x.registerUid
          pcpu := x.cpu
          partNumber := x.partnumber }
      = (0, (entryReply b mcOf s x).buffer,
          (entryReply b mcOf s x).globals) := by
  have hopen : (kernelPlatform b mcOf).msFd ≠ -1 :=
    show (3 : Int) ≠ -1 by omega
  have hret : (entryReply b mcOf s x).ret = 0 :=
    (msIoctl_slots b (machineFor mcOf x) s.dev (cmdOf x.partnumber)
      (requestFor x s.localResult.cpu)).1
  have hioctl : (kernelPlatform b mcOf).ioctl s.dev
      (driverCmd x.partnumber) (requestFor x s.localResult.cpu)
      = ((entryReply b mcOf s x).ret, (entryReply b mcOf s x).buffer,
          (entryReply b mcOf s x).globals) := by
    rw [driverCmd_eq]
    rfl
  exact driverResults_open hopen hioctl (by omega)

/-- One entry: its slots, its eight results, the device's map. -/
theorem callDriverStep_eq {s : DriverState KGlobals}
    (hs : DriverInv m s) (x : UsedIoctl) :
    DriverInv m (callDriverStep (kernelPlatform b mcOf) s x)
      ∧ (∀ i, (callDriverStep (kernelPlatform b mcOf)
          s x).localResult.cpu i
        = entrySlot b mcOf m x i (s.localResult.cpu i))
      ∧ (callDriverStep (kernelPlatform b mcOf) s x).listOut
        = s.listOut ++ (List.finRange msMaxCpus).map
            fun i : Fin msMaxCpus => resultOf x
              (entrySlot b mcOf m x i (s.localResult.cpu i)) := by
  obtain ⟨halloc, rfl⟩ := hs
  have hstep : callDriverStep (kernelPlatform b mcOf) s x
      = { localResult := (entryReply b mcOf s x).buffer
          listOut := s.listOut ++ (List.finRange msMaxCpus).map fun i =>
            resultOf x ((entryReply b mcOf s x).buffer.cpu i)
          alloc := s.alloc
          dev := (entryReply b mcOf s x).globals } := by
    rw [callDriverStep, driverResults_entry]
    dsimp only
    rw [if_neg (not_not.2 rfl)]
    exact saveSlots_eq x _ halloc
  have hmap : (entryReply b mcOf s x).globals.gicMap = s.dev.gicMap :=
    (msIoctl_slots b (machineFor mcOf x) s.dev (cmdOf x.partnumber)
      (requestFor x s.localResult.cpu)).2.1
  rw [hstep]
  refine ⟨⟨halloc, hmap⟩, entryReply_slots s x, ?_⟩
  simp only [entryReply_slots]

-- ================================================= what an entry writes

/-- The fields of a slot that carry a reading, the MIDR apart. -/
def MsData.payload (d : MsData) : U64 × U32 × U32 × U32 :=
  (d.out64, d.out1, d.out2, d.cpu)

/-- The entry's read ran with slot `i`. -/
def ranOn (b : Build) (mcOf : U32 → U32 → U32 → Machine) (x : UsedIoctl)
    (i : Nat) : Prop :=
  Served (machineFor mcOf x) (cmdOf x.partnumber)
      (requestFor x fun _ => {})
    ∧ fate b (machineFor mcOf x) x.cpu i = .ran

instance (x : UsedIoctl) (i : Nat) : Decidable (ranOn b mcOf x i) :=
  inferInstanceAs (Decidable (_ ∧ _))

/-- The reading the entry puts in slot `i`, if it puts one there: a
register's words, or the GIC word of a mapped interface. -/
def payloadBy (b : Build) (mcOf : U32 → U32 → U32 → Machine)
    (m : MsGicMap) (i : Nat) (x : UsedIoctl) :
    Option (U64 × U32 × U32 × U32) :=
  if ranOn b mcOf x i then
    match cmdOf x.partnumber with
    | .co => (rowOf x.registerUid).map fun e =>
        let w := readWords b.target e
          (callEffect b (machineFor mcOf x) i e.funcPtr)
        (w.1, w.2.1, w.2.2, .ofNat 32 (b.cpuIndex i))
    | .gic => (gicBase m x.partnumber).bind fun base =>
        if base = 0 then none
        else some (0, (machineFor mcOf x).readl i
          (base + (mscodeField x.registerUid).toNat), 0,
          .ofNat 32 (b.cpuIndex i))
  else none

/-- The MIDR the entry puts in slot `i`: a register read puts its core's,
a GIC read none. -/
def midrBy (b : Build) (mcOf : U32 → U32 → U32 → Machine) (i : Nat)
    (x : UsedIoctl) : Option U32 :=
  if ranOn b mcOf x i then
    match cmdOf x.partnumber with
    | .co => (rowOf x.registerUid).map fun _ => (machineFor mcOf x).midr i
    | .gic => none
  else none

/-- A slot with these readings, under a status. -/
def MsData.withReading (d : MsData) (p : U64 × U32 × U32 × U32)
    (midr status : U32) : MsData :=
  { d with
    out64 := p.1
    out1 := p.2.1
    out2 := p.2.2.1
    cpu := p.2.2.2
    midr := midr
    status := status }

/-- A slot the entry ran on: what its command writes there, over what
was there. -/
theorem entrySlot_ran {x : UsedIoctl} {i : Nat}
    (hran : ranOn b mcOf x i) :
    ∃ st, ∀ d, entrySlot b mcOf m x i d
      = d.withReading ((payloadBy b mcOf m i x).getD d.payload)
          ((midrBy b mcOf i x).getD d.midr) st := by
  have hslot : ∀ d, entrySlot b mcOf m x i d
      = cmdSlot b (machineFor mcOf x) m (cmdOf x.partnumber)
          (requestFor x fun _ => {}) i
          { d with status := msErrorNoresult } := by
    intro d
    have hfate : fate b (machineFor mcOf x)
        (requestFor x fun _ => {}).pcpu i = .ran := hran.2
    rw [entrySlot, replySlot, if_pos hran.1, hfate]
    rfl
  have hcode : (requestFor x fun _ => {}).code = x.registerUid := rfl
  have hpart : (requestFor x fun _ => {}).partNumber
      = x.partnumber := rfl
  simp only [hslot, payloadBy, midrBy, if_pos hran]
  generalize cmdOf x.partnumber = cmd
  cases cmd with
  | co =>
      simp only [cmdSlot, hcode]
      cases rowOf x.registerUid with
      | none => exact ⟨msErrorNoresult, fun d => rfl⟩
      | some e => exact ⟨_, fun d => rfl⟩
  | gic =>
      simp only [cmdSlot, hpart, hcode]
      cases gicBase m x.partnumber with
      | none => exact ⟨msErrorNoresult, fun d => rfl⟩
      | some base =>
          by_cases h0 : base = 0
          · simp only [Option.bind_some, h0, ↓reduceIte]
            exact ⟨msErrorNoresult, fun d => rfl⟩
          · simp only [Option.bind_some, h0, ↓reduceIte]
            exact ⟨msErrorSuccess, fun d => rfl⟩

/-- A slot it did not run on gets a status at most. -/
theorem entrySlot_not_ran {x : UsedIoctl} {i : Nat}
    (hnot : ¬ ranOn b mcOf x i) :
    ∃ st, ∀ d, entrySlot b mcOf m x i d = { d with status := st } := by
  by_cases hs : Served (machineFor mcOf x) (cmdOf x.partnumber)
      (requestFor x fun _ => {})
  · have hslot : ∀ d, entrySlot b mcOf m x i d
        = (fate b (machineFor mcOf x) x.cpu i).slot
            (cmdSlot b (machineFor mcOf x) m (cmdOf x.partnumber)
              (requestFor x fun _ => {}) i)
            { d with status := msErrorNoresult } := fun d => if_pos hs
    simp only [hslot]
    cases hfate : fate b (machineFor mcOf x) x.cpu i with
    | ran => exact absurd ⟨hs, hfate⟩ hnot
    | untouched => exact ⟨msErrorNoresult, fun d => rfl⟩
    | down => exact ⟨msErrorSmp, fun d => rfl⟩
    | failed => exact ⟨msErrorSmpSingle, fun d => rfl⟩
  · exact ⟨msErrorNoresult, fun d => if_neg hs⟩

/-- Slot `i` after an entry: what it wrote, over what was there, under a
status of its own. -/
theorem entrySlot_eq (b : Build) (mcOf : U32 → U32 → U32 → Machine)
    (m : MsGicMap) (x : UsedIoctl) (i : Nat) :
    ∃ st, ∀ d, entrySlot b mcOf m x i d
      = d.withReading ((payloadBy b mcOf m i x).getD d.payload)
          ((midrBy b mcOf i x).getD d.midr) st := by
  by_cases hran : ranOn b mcOf x i
  · exact entrySlot_ran hran
  · obtain ⟨st, hslot⟩ := entrySlot_not_ran (m := m) hran
    refine ⟨st, fun d => ?_⟩
    rw [hslot, payloadBy, midrBy, if_neg hran, if_neg hran]
    rfl

/-- Two recordings of one entry differ in what the slot held before where
the entry does not write. -/
theorem resultOf_entrySlot_iff (x : UsedIoctl) (i : Nat)
    (d d' : MsData) :
    resultOf x (entrySlot b mcOf m x i d)
        = resultOf x (entrySlot b mcOf m x i d')
      ↔ (payloadBy b mcOf m i x = none → d.payload = d'.payload)
        ∧ (midrBy b mcOf i x = none → d.midr = d'.midr) := by
  obtain ⟨st, hslot⟩ := entrySlot_eq b mcOf m x i
  have hresult : resultOf x (entrySlot b mcOf m x i d)
        = resultOf x (entrySlot b mcOf m x i d')
      ↔ (payloadBy b mcOf m i x).getD d.payload
          = (payloadBy b mcOf m i x).getD d'.payload
        ∧ (midrBy b mcOf i x).getD d.midr
          = (midrBy b mcOf i x).getD d'.midr := by
    rw [hslot, hslot, resultOf, resultOf, IoctlResult.mk.injEq,
      Prod.ext_iff, Prod.ext_iff, Prod.ext_iff]
    simp only [true_and]
    tauto
  rw [hresult]
  refine and_congr ?_ ?_
  · cases payloadBy b mcOf m i x with
    | none => exact ⟨fun h _ => h, fun h => h rfl⟩
    | some p => exact ⟨fun _ h => absurd h (by simp), fun _ => rfl⟩
  · cases midrBy b mcOf i x with
    | none => exact ⟨fun h _ => h, fun h => h rfl⟩
    | some v => exact ⟨fun _ h => absurd h (by simp), fun _ => rfl⟩

-- ============================================================= whole runs

/-- The ioctl results of a worklist. -/
def driverRun (b : Build) (mcOf : U32 → U32 → U32 → Machine)
    (g : KGlobals) (xs : List UsedIoctl) : List IoctlResult :=
  (breakoutCallDriver (kernelPlatform b mcOf) .ok g xs []).2.listOut

/-- The eight results recorded for entry `x` after the entries `pre`, in
a run that goes on with `post`. -/
def recordedFor (b : Build) (mcOf : U32 → U32 → U32 → Machine)
    (g : KGlobals) (pre : List UsedIoctl) (x : UsedIoctl)
    (post : List UsedIoctl) : List IoctlResult :=
  ((driverRun b mcOf g (pre ++ x :: post)).drop
    (driverRun b mcOf g pre).length).take msMaxCpus

/-- The reading the entries `pre` leave in slot `i`: the last one's that
put one there, or zeros. -/
def leftPayload (b : Build) (mcOf : U32 → U32 → U32 → Machine)
    (m : MsGicMap) (pre : List UsedIoctl) (i : Nat) :
    U64 × U32 × U32 × U32 :=
  (pre.filterMap (payloadBy b mcOf m i)).getLast?.getD (0, 0, 0, 0)

/-- The MIDR they leave there. -/
def leftMidr (b : Build) (mcOf : U32 → U32 → U32 → Machine)
    (pre : List UsedIoctl) (i : Nat) : U32 :=
  (pre.filterMap (midrBy b mcOf i)).getLast?.getD 0

/-- The state of the loop after the entries `pre`. -/
def stateAfter (b : Build) (mcOf : U32 → U32 → U32 → Machine)
    (g : KGlobals) (pre : List UsedIoctl) : DriverState KGlobals :=
  pre.foldl (callDriverStep (kernelPlatform b mcOf)) ⟨{}, [], .ok, g⟩

variable {g : KGlobals}

theorem stateAfter_inv (pre : List UsedIoctl) :
    DriverInv g.gicMap (stateAfter b mcOf g pre) :=
  foldl_keeps (I := DriverInv g.gicMap)
    (fun _ x _ hs => (callDriverStep_eq hs x).1) ⟨rfl, rfl⟩

/-- What the slots hold after the entries `pre`. -/
theorem stateAfter_slot (pre : List UsedIoctl) (i : Fin msMaxCpus) :
    ((stateAfter b mcOf g pre).localResult.cpu i).payload
        = leftPayload b mcOf g.gicMap pre i
      ∧ ((stateAfter b mcOf g pre).localResult.cpu i).midr
        = leftMidr b mcOf pre i := by
  have hkeep : ∀ s, ∀ x ∈ pre, DriverInv g.gicMap s →
      DriverInv g.gicMap (callDriverStep (kernelPlatform b mcOf) s x) :=
    fun s x _ hs => (callDriverStep_eq hs x).1
  constructor
  · refine foldl_last
      (fun s : DriverState KGlobals => (s.localResult.cpu i).payload)
      (payloadBy b mcOf g.gicMap i) hkeep (fun s x _ hs => ?_) ⟨rfl, rfl⟩
    obtain ⟨st, hslot⟩ := entrySlot_eq b mcOf g.gicMap x i
    rw [(callDriverStep_eq hs x).2.1 i, hslot]
    rfl
  · refine foldl_last
      (fun s : DriverState KGlobals => (s.localResult.cpu i).midr)
      (midrBy b mcOf i) hkeep (fun s x _ hs => ?_) ⟨rfl, rfl⟩
    obtain ⟨st, hslot⟩ := entrySlot_eq b mcOf g.gicMap x i
    rw [(callDriverStep_eq hs x).2.1 i, hslot]
    rfl

/-- Entries only append to the results. -/
theorem listOut_prefix (post : List UsedIoctl)
    {s : DriverState KGlobals} (hs : DriverInv g.gicMap s) :
    s.listOut <+: (post.foldl (callDriverStep (kernelPlatform b mcOf))
      s).listOut := by
  refine (foldl_keeps (I := fun t => DriverInv g.gicMap t
    ∧ s.listOut <+: t.listOut) (fun t x _ ht => ?_)
    ⟨hs, List.prefix_refl _⟩).2
  obtain ⟨hinv, -, hout⟩ := callDriverStep_eq ht.1 x
  refine ⟨hinv, ht.2.trans ?_⟩
  rw [hout]
  exact List.prefix_append _ _

/-- What is recorded for an entry is read off the slots as the entries
before left them. -/
theorem recordedFor_eq (pre : List UsedIoctl) (x : UsedIoctl)
    (post : List UsedIoctl) :
    recordedFor b mcOf g pre x post
      = (List.finRange msMaxCpus).map fun i : Fin msMaxCpus =>
          resultOf x (entrySlot b mcOf g.gicMap x i
            ((stateAfter b mcOf g pre).localResult.cpu i)) := by
  obtain ⟨hinv, -, hout⟩ := callDriverStep_eq (b := b)
    (stateAfter_inv pre) x
  obtain ⟨rest, hrest⟩ := listOut_prefix (b := b) post hinv
  have hrun : driverRun b mcOf g (pre ++ x :: post)
      = ((stateAfter b mcOf g pre).listOut
        ++ (List.finRange msMaxCpus).map fun i : Fin msMaxCpus =>
          resultOf x (entrySlot b mcOf g.gicMap x i
            ((stateAfter b mcOf g pre).localResult.cpu i))) ++ rest := by
    rw [← hout, hrest]
    show ((pre ++ x :: post).foldl (callDriverStep
      (kernelPlatform b mcOf)) ⟨{}, [], .ok, g⟩).listOut = _
    rw [List.foldl_append]
    rfl
  rw [recordedFor, hrun]
  show (List.drop (stateAfter b mcOf g pre).listOut.length _).take _ = _
  rw [List.append_assoc, List.drop_left]
  refine List.take_left' ?_
  simp

/-- An entry's results are the same after two prefixes exactly when these
leave the same readings in the slots it does not fill, and the same
MIDRs in those it does not put its core's in. -/
theorem recorded_same_iff (b : Build)
    (mcOf : U32 → U32 → U32 → Machine) (g : KGlobals) (x : UsedIoctl)
    (pre post pre' post' : List UsedIoctl) :
    recordedFor b mcOf g pre x post = recordedFor b mcOf g pre' x post'
      ↔ ∀ i : Fin msMaxCpus,
          (payloadBy b mcOf g.gicMap i x = none →
            leftPayload b mcOf g.gicMap pre i
              = leftPayload b mcOf g.gicMap pre' i)
          ∧ (midrBy b mcOf i x = none →
            leftMidr b mcOf pre i = leftMidr b mcOf pre' i) := by
  rw [recordedFor_eq, recordedFor_eq, List.map_inj_left]
  simp only [List.mem_finRange, true_implies, resultOf_entrySlot_iff,
    (stateAfter_slot _ _).1, (stateAfter_slot _ _).2]

/-- A code the kernel does not know, alone and behind a MIDR read. -/
theorem recorded_same_fails :
    ¬ ∀ (b : Build) (mcOf : U32 → U32 → U32 → Machine) (g : KGlobals)
        (x : UsedIoctl) (pre post pre' post' : List UsedIoctl),
        recordedFor b mcOf g pre x post
          = recordedFor b mcOf g pre' x post' := by
  intro h
  have hsame := h ⟨.aarch64, true⟩ (fun _ _ _ => mixedMachine) {}
    ⟨0x7777, msCpuAll, archArmv8a⟩ [] []
    [⟨MsSysreg.MIDR, msCpuAll, archArmv8a⟩] []
  exact absurd hsame (by decide +kernel)

end Maplesyrup
