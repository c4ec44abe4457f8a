/-
A kernel request that fails leaves no reading.

The kernel's error code is lost, so what tells a failed request is the
status the library put in every slot before it was sent. On each way a
request can fail the buffer comes back as it was sent, and a slot comes
back with a success only from a cpu the read ran on.

# The device

`kernelDevice` is the kernel behind the driver's file: the n-th request
meets the n-th machine, so every request may find Linux and the hardware
as it likes.
-/
import Maplesyrup.Decode.Proofs.Driver
import Maplesyrup.Kernel.Proofs.Bounds

namespace Maplesyrup

open Base

-- ============================================================= the device

/-- The kernel as the library's device: its variables, and how many
requests it has had. -/
def kernelDevice (b : Build) (machines : Nat → Machine) :
    Platform (KGlobals × Nat) where
  msFd := 3
  ioctl dev cmd u :=
    let r := msIoctl b (machines dev.2) dev.1 cmd u
    (r.ret, r.buffer, (r.globals, dev.2 + 1))
  usermodeResults dev _ d := (-1, d, dev)

-- ====================================================== failing requests

variable {b : Build} {mc : Machine} {g : KGlobals} {cmd : MsCmd}
  {u : MsDataCpu}

/-- What a request fails on: a copy, its code or part number, a cpu
number that is turned away. -/
def RequestFails (mc : Machine) (cmd : MsCmd) (u : MsDataCpu) : Prop :=
  mc.copyFromUser = false ∨ ¬ cmd.accepts u
    ∨ (u.pcpu ≠ msCpuAll ∧ msMaxCpus < u.pcpu.toNat)
    ∨ mc.copyToUser = false

/-- These are the ways `call_cmd` fails. -/
theorem callCmd_fails_iff :
    (callCmd mc (cmd.pcall b mc) g u).ret ≠ 0 ↔ RequestFails mc cmd u := by
  have hnum : InRange u.pcpu ∨ u.pcpu.toNat = msMaxCpus
      ↔ ¬ (u.pcpu ≠ msCpuAll ∧ msMaxCpus < u.pcpu.toNat) := by
    unfold InRange
    by_cases hall : u.pcpu = msCpuAll
    · simp [hall]
    · simp only [hall, false_or, ne_eq, not_false_eq_true, true_and]
      omega
  have hpcall : ∀ g, (cmd.pcall b mc g u).ret = 0
      ↔ cmd.accepts u
        ∧ ¬ (u.pcpu ≠ msCpuAll ∧ msMaxCpus < u.pcpu.toNat) := by
    intro g
    by_cases hacc : cmd.accepts u
    · obtain ⟨fn, s, hpcpu, -, hcall⟩ := pcall_accepted b mc hacc g
      rw [hcall, kickReply_ret, onEachCpuKick_ret, hpcpu, ← hnum]
      split
      · rename_i hp
        simp [hacc, hp]
      · rename_i hp
        simp [hp]
    · rw [pcall_rejected b mc hacc]
      simp [hacc]
  rw [ne_eq, callCmd_ret, hpcall]
  unfold RequestFails
  cases mc.copyFromUser <;> cases mc.copyToUser <;> simp
  tauto

-- ============================================================== who ran

/-- What was asked for was read on cpu `i`: the handler of the code was
called there, or the GIC word read. -/
def RanOn (m : MsGicMap) (cmd : MsCmd) (u : MsDataCpu)
    (trace : List KEvent) (i : Nat) : Prop :=
  match cmd with
  | .co => ∃ e h, rowOf u.code = some e ∧ e.funcPtr = some h
      ∧ KEvent.call i (some h) ∈ trace
  | .gic => ∃ base, gicBase m u.partNumber = some base
      ∧ KEvent.readl i (base + (mscodeField u.code).toNat) ∈ trace

/-- A cpu that is reached calls the handler. -/
theorem call_mem_co {e : FuncTableEntry} (hrow : rowOf u.code = some e)
    (hs : e.supported = true) (hfrom : mc.copyFromUser = true)
    (hp : InRange u.pcpu) {c : Nat} (hc : c ∈ kickCpus u.pcpu)
    (hreach : reach b mc c = .ran) :
    KEvent.call (b.cpuIndex c) e.funcPtr
      ∈ (callCmd mc (callFuncReturnResults b mc) g u).trace := by
  obtain ⟨idx, hidx, he⟩ := findFunctionIndex_rowOf hrow
  rw [callCmd_trace, if_pos hfrom, callFuncReturnResults_some hidx,
    kickReply_trace,
    onEachCpuKick_trace (callFuncPtr_cpuFn he)
      (s := coState { g with gUndefFlag := 0 } u idx) ⟨rfl, rfl⟩]
  show _ ∈ [] ++ kickTrace b mc _ u.pcpu
  rw [List.nil_append, kickTrace, if_pos hp]
  refine List.mem_flatMap.2 ⟨c, hc, ?_⟩
  rw [passTrace, hreach]
  unfold ranTrace
  rw [if_pos hs]
  exact List.mem_append_right _ (List.mem_cons_self ..)

/-- A slot that was sent without a result and comes back with a success
is of a cpu that was asked for, reached, and served. -/
theorem success_ran {d : MsData} (hsent : d.status = msErrorNoresult)
    {m : MsGicMap} {i : Fin msMaxCpus}
    (hsuccess : (replySlot b mc m cmd u i d).status = msErrorSuccess) :
    Served mc cmd u ∧ fate b mc u.pcpu i = .ran
      ∧ (cmdSlot b mc m cmd u i d).status = msErrorSuccess := by
  unfold replySlot at hsuccess
  split at hsuccess
  · rename_i hserved
    cases hfate : fate b mc u.pcpu i with
    | ran =>
        rw [hfate] at hsuccess
        exact ⟨hserved, rfl, hsuccess⟩
    | untouched =>
        rw [hfate] at hsuccess
        exact absurd (hsent.symm.trans hsuccess) (by decide)
    | down =>
        rw [hfate] at hsuccess
        exact absurd (show msErrorSmp = msErrorSuccess from hsuccess)
          (by decide)
    | failed =>
        rw [hfate] at hsuccess
        exact absurd (show msErrorSmpSingle = msErrorSuccess from hsuccess)
          (by decide)
  · exact absurd (hsent.symm.trans hsuccess) (by decide)

/-- The fate of a cpu of a CONFIG_SMP build. -/
theorem fate_ran (hsmp : b.configSmp = true) {pcpu : U32}
    {i : Fin msMaxCpus} (h : fate b mc pcpu i = .ran) :
    i.val ∈ kickCpus pcpu ∧ reach b mc i = .ran := by
  unfold fate at h
  rw [if_pos hsmp] at h
  split at h
  · rename_i hreq
    exact ⟨(mem_kickCpus i.isLt).2 hreq, h⟩
  · exact absurd h (by decide)

/-- On such a cpu what was asked for was read. -/
theorem success_ranOn (hsmp : b.configSmp = true) {i : Fin msMaxCpus}
    (hsent : (u.cpu i).status = msErrorNoresult)
    (hsuccess : ((msIoctl b mc g cmd.ioctl u).buffer.cpu i).status
      = msErrorSuccess) :
    RanOn g.gicMap cmd u (msIoctl b mc g cmd.ioctl u).trace i := by
  rw [(msIoctl_slots b mc g cmd u).2.2] at hsuccess
  obtain ⟨⟨hfrom, -, hacc, hp⟩, hfate, hslot⟩ :=
    success_ran hsent hsuccess
  obtain ⟨hkick, hreach⟩ := fate_ran hsmp hfate
  have hindex := cpuIndex_smp hsmp i.val
  rw [msIoctl_cmd]
  cases cmd with
  | co =>
      simp only [cmdSlot] at hslot
      cases hrow : rowOf u.code with
      | none =>
          rw [hrow] at hslot
          exact absurd (hsent.symm.trans hslot) (by decide)
      | some e =>
          simp only [hrow, ranSlot_status] at hslot
          have hs : e.supported = true := by
            by_contra hs
            rw [if_neg hs] at hslot
            exact absurd hslot (by decide)
          obtain ⟨h, hh⟩ := Option.isSome_iff_exists.1
            (supported_handler e (List.mem_of_find?_eq_some hrow) hs)
          have hcall := call_mem_co (g := g) hrow hs hfrom hp hkick hreach
          rw [hindex, hh] at hcall
          exact ⟨e, h, hrow, hh, hcall⟩
  | gic =>
      obtain ⟨base, hbase⟩ := (gicBase_isSome g.gicMap _).2 hacc
      refine ⟨base, hbase, (readl_mem_gic hbase _ _).2 ⟨?_, rfl,
        i, hkick, hreach, hindex.symm⟩⟩
      refine ⟨hfrom, fun h0 => ?_, hp, i, hkick, hreach⟩
      simp only [cmdSlot, hbase, h0, ↓reduceIte] at hslot
      exact absurd (hsent.symm.trans hslot) (by decide)

-- ============================================================== the loop

variable {δ : Type*} {P : Platform δ} {x : UsedIoctl}

/-- The kernel's reply to the request of entry `x`. -/
def deviceReply (b : Build) (machines : Nat → Machine)
    (s : DriverState (KGlobals × Nat)) (x : UsedIoctl) : Reply :=
  msIoctl b (machines s.dev.2) s.dev.1 (cmdOf x.partnumber).ioctl
    (requestFor x s.localResult.cpu)

/-- The loop over a worklist entry: the reply's buffer is what the next
entry finds, and the results are read off it. -/
theorem callDriverStep_device (b : Build) (machines : Nat → Machine)
    (s : DriverState (KGlobals × Nat)) (x : UsedIoctl) :
    ∃ saved a, callDriverStep (kernelDevice b machines) s x
        = { localResult := (deviceReply b machines s x).buffer
            listOut := s.listOut ++ saved.map fun i =>
              resultOf x ((deviceReply b machines s x).buffer.cpu i)
            alloc := a
            dev := ((deviceReply b machines s x).globals, s.dev.2 + 1) }
      ∧ saved.Sublist (List.finRange msMaxCpus)
      ∧ (s.alloc = .ok →
        a = .ok ∧ saved = List.finRange msMaxCpus) := by
  have hopen : (kernelDevice b machines).msFd ≠ -1 :=
    show (3 : Int) ≠ -1 by omega
  have hret : (deviceReply b machines s x).ret = 0 :=
    (msIoctl_slots b _ _ _ _).1
  have hioctl : (kernelDevice b machines).ioctl s.dev
      (driverCmd x.partnumber) (requestFor x s.localResult.cpu)
      = ((deviceReply b machines s x).ret,
          (deviceReply b machines s x).buffer,
          ((deviceReply b machines s x).globals, s.dev.2 + 1)) := by
    rw [driverCmd_eq]
    rfl
  have hsent : driverResults (kernelDevice b machines) s.dev
      (driverCmd x.partnumber)
      { s.localResult with
        code := x.registerUid
        pcpu := x.cpu
        partNumber := x.partnumber }
      = (0, (deviceReply b machines s x).buffer,
          ((deviceReply b machines s x).globals, s.dev.2 + 1)) :=
    driverResults_open hopen hioctl (by omega)
  rw [callDriverStep, hsent]
  dsimp only
  rw [if_neg (not_not.2 rfl)]
  exact saveSlots_saved x (List.finRange msMaxCpus)
    { localResult := (deviceReply b machines s x).buffer
      listOut := s.listOut
      alloc := s.alloc
      dev := ((deviceReply b machines s x).globals, s.dev.2 + 1) }

/-- Entries only append, and a run without failing allocations goes on
without. -/
theorem callDriver_device (b : Build) (machines : Nat → Machine)
    (xs : List UsedIoctl) (s : DriverState (KGlobals × Nat)) :
    s.listOut <+: (xs.foldl (callDriverStep (kernelDevice b machines))
        s).listOut
      ∧ (s.alloc = .ok → (xs.foldl
        (callDriverStep (kernelDevice b machines)) s).alloc = .ok) := by
  refine foldl_keeps (I := fun t : DriverState (KGlobals × Nat) =>
    s.listOut <+: t.listOut ∧ (s.alloc = .ok → t.alloc = .ok))
    (fun t x _ ht => ?_) ⟨List.prefix_refl _, id⟩
  obtain ⟨added, a, hstep, -, hok⟩ := callDriverStep_device b machines t x
  rw [hstep]
  exact ⟨ht.1.trans (List.prefix_append _ _), fun h => (hok (ht.2 h)).1⟩

/-- What is recorded for a request is true of it. -/
structure TrueOfRequest (b : Build) (mc : Machine) (g : KGlobals)
    (cmd : MsCmd) (u : MsDataCpu) (x : UsedIoctl)
    (recorded : List IoctlResult) : Prop where
  /-- The caller sees no error. -/
  ret : (msIoctl b mc g cmd.ioctl u).ret = 0
  /-- A failure leaves the buffer as it was sent. -/
  unchanged : RequestFails mc cmd u → (msIoctl b mc g cmd.ioctl u).buffer = u
  /-- And is recorded as one. -/
  noresult : RequestFails mc cmd u →
    ∀ r ∈ recorded, r.status = msErrorNoresult
  /-- What is recorded is what the slots hold. -/
  slots : ∀ r ∈ recorded, ∃ i,
    r = resultOf x ((msIoctl b mc g cmd.ioctl u).buffer.cpu i)
  /-- A success is of a cpu that did the read. -/
  success : ∀ i, ((msIoctl b mc g cmd.ioctl u).buffer.cpu i).status
      = msErrorSuccess →
    RanOn g.gicMap cmd u (msIoctl b mc g cmd.ioctl u).trace i

/-- A failed request is never recorded as a reading. Whatever was sent
before it and is sent after it, the results recorded for entry `x` of a
worklist (all eight, if they can be allocated) are those of the reply to
its request. -/
theorem failed_never_reading (t : Target) (machines : Nat → Machine)
    (a : Alloc) (g : KGlobals) (out : List IoctlResult)
    (pre post : List UsedIoctl) (x : UsedIoctl) :
    let P := kernelDevice ⟨t, true⟩ machines
    let s := (breakoutCallDriver P a (g, 0) pre out).2
    ∃ recorded rest,
      (breakoutCallDriver P a (g, 0) (pre ++ x :: post) out).2.listOut
          = s.listOut ++ recorded ++ rest
        ∧ (a = .ok → recorded = (List.finRange msMaxCpus).map fun i =>
            resultOf x ((deviceReply ⟨t, true⟩ machines s x).buffer.cpu i))
        ∧ TrueOfRequest ⟨t, true⟩ (machines s.dev.2) s.dev.1
            (cmdOf x.partnumber) (requestFor x s.localResult.cpu) x
            recorded := by
  intro P s
  obtain ⟨saved, a', hstep, -, hok⟩ :=
    callDriverStep_device ⟨t, true⟩ machines s x
  obtain ⟨rest, hrest⟩ := (callDriver_device ⟨t, true⟩ machines post
    (callDriverStep (kernelDevice ⟨t, true⟩ machines) s x)).1
  rw [hstep] at hrest
  refine ⟨saved.map fun i =>
    resultOf x ((deviceReply ⟨t, true⟩ machines s x).buffer.cpu i),
    rest, ?_, fun hall => ?_, ?_⟩
  · show ((pre ++ x :: post).foldl (callDriverStep P)
      ⟨{}, out, a, (g, 0)⟩).listOut = _
    rw [List.foldl_append, List.foldl_cons]
    show (post.foldl (callDriverStep P) (callDriverStep P s x)).listOut = _
    rw [hstep, ← hrest]
  · have hpre := (callDriver_device ⟨t, true⟩ machines pre
      ⟨{}, out, a, (g, 0)⟩).2 hall
    rw [(hok hpre).2]
  · have hsent : ∀ i, ((requestFor x s.localResult.cpu).cpu i).status
        = msErrorNoresult := fun _ => rfl
    have hunchanged : RequestFails (machines s.dev.2) (cmdOf x.partnumber)
        (requestFor x s.localResult.cpu) →
        (deviceReply ⟨t, true⟩ machines s x).buffer
          = requestFor x s.localResult.cpu := by
      intro hfails
      rw [deviceReply, msIoctl_cmd]
      exact callCmd_failed (callCmd_fails_iff.2 hfails)
    constructor
    · exact (msIoctl_slots _ _ _ _ _).1
    · exact hunchanged
    · intro hfails r hr
      obtain ⟨i, -, rfl⟩ := List.mem_map.1 hr
      rw [hunchanged hfails]
      exact hsent i
    · intro r hr
      obtain ⟨i, -, rfl⟩ := List.mem_map.1 hr
      exact ⟨i, rfl⟩
    · intro i hsuccess
      exact success_ranOn rfl (hsent i) hsuccess

end Maplesyrup
