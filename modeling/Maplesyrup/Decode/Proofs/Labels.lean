/-
Is a recorded result labelled with the core of its slot?

The label is the slot's cpu field. The library zeroes it once, before
the first request; the kernel fills it in on a core its read runs on, and
the buffer is handed on from request to request. So slot `i` has its own
number from the first request on that was read on its core, and 0 before
that. Every request may meet another machine: cores come and go, copies
fail, words change.
-/
import Maplesyrup.Decode.Proofs.Failure
import Maplesyrup.Decode.Proofs.Hardware

namespace Maplesyrup

open Base

variable {b : Build} {mc : Machine} {m : MsGicMap} {x : UsedIoctl}

-- =========================================================== the statement

/-- The driver loop's variables after a worklist. -/
def driverAfter (b : Build) (machines : Nat → Machine) (a : Alloc)
    (g : KGlobals) (out : List IoctlResult) (xs : List UsedIoctl) :
    DriverState (KGlobals × Nat) :=
  (breakoutCallDriver (kernelDevice b machines) a (g, 0) xs out).2

/-- The entry's request is read on the core of slot `i`: it is carried
out, it names that core, the core came up and took the call, and a GIC
interface it asks for is mapped. -/
def ReadOn (b : Build) (mc : Machine) (m : MsGicMap) (x : UsedIoctl)
    (i : Nat) : Prop :=
  Served mc (cmdOf x.partnumber) (requestFor x fun _ => {})
    ∧ fate b mc x.cpu i = .ran ∧ gicBase m x.partnumber ≠ some 0

-- ================================================================ one slot

/-- An entry puts a reading in a slot exactly where it is read. -/
theorem payloadBy_isSome (i : Nat) :
    (payloadBy b (fun _ _ _ => mc) m i x).isSome = true
      ↔ ReadOn b mc m x i := by
  have hread : ReadOn b mc m x i ↔ ranOn b (fun _ _ _ => mc) x i
      ∧ gicBase m x.partnumber ≠ some 0 := and_assoc.symm
  rw [hread, payloadBy]
  by_cases hran : ranOn b (fun _ _ _ => mc) x i
  · rw [if_pos hran]
    have hacc := hran.1.2.2.1
    cases hcmd : cmdOf x.partnumber with
    | co =>
        have hpart : x.partnumber ∉ [giccV2, gicdV2, gichV2, gicvV2] := by
          intro hmem
          rw [cmdOf, if_pos hmem] at hcmd
          cases hcmd
        have hbase : gicBase m x.partnumber ≠ some 0 := fun hbase =>
          hpart ((gicBase_isSome m _).1 ⟨0, hbase⟩)
        rw [hcmd] at hacc
        obtain ⟨e, he, hcode⟩ := hacc
        have hrow : (rowOf x.registerUid).isSome = true :=
          List.find?_isSome.2 ⟨e, he, beq_iff_eq.2 hcode⟩
        simpa [hran, hbase] using hrow
    | gic =>
        rw [hcmd] at hacc
        obtain ⟨base, hbase⟩ := (gicBase_isSome m x.partnumber).2 hacc
        by_cases hzero : base = 0
        · simp [hbase, hzero]
        · simp [hbase, hzero, hran]
  · simp [hran]

/-- A function that ran into slot `i` ran as cpu `i`. -/
theorem cpuIndex_of_ran {pcpu : U32} {i : Nat}
    (h : fate b mc pcpu i = .ran) : b.cpuIndex i = i := by
  unfold Build.cpuIndex
  cases hsmp : b.configSmp with
  | true => rfl
  | false =>
      by_cases hi : i = 0
      · exact hi.symm
      · simp [fate, hsmp, hi] at h

/-- The label of a reading is its slot's. -/
theorem payloadBy_cpu {i : Nat} {p : U64 × U32 × U32 × U32}
    (h : payloadBy b (fun _ _ _ => mc) m i x = some p) :
    p.2.2.2 = .ofNat 32 i := by
  rw [payloadBy] at h
  split at h
  · rename_i hran
    have hindex := cpuIndex_of_ran hran.2
    split at h
    · obtain ⟨e, -, rfl⟩ := Option.map_eq_some_iff.1 h
      rw [hindex]
    · obtain ⟨base, -, h⟩ := Option.bind_eq_some_iff.1 h
      split at h
      · cases h
      · obtain rfl := Option.some.inj h
        rw [hindex]
  · cases h

/-- A slot's label after an entry. -/
theorem entrySlot_cpu (i : Nat) (d : MsData) :
    (entrySlot b (fun _ _ _ => mc) m x i d).cpu
        = .ofNat 32 i
      ↔ d.cpu = .ofNat 32 i ∨ ReadOn b mc m x i := by
  obtain ⟨st, hslot⟩ := entrySlot_eq b (fun _ _ _ => mc) m x i
  rw [hslot, ← payloadBy_isSome]
  cases hpayload : payloadBy b (fun _ _ _ => mc) m i x with
  | none => simp [MsData.withReading, MsData.payload]
  | some p => simp [MsData.withReading, payloadBy_cpu hpayload]

-- ============================================================== whole runs

/-- A slot after an entry. -/
theorem callDriverStep_slot (b : Build) (machines : Nat → Machine)
    (s : DriverState (KGlobals × Nat)) (x : UsedIoctl)
    (i : Fin msMaxCpus) :
    (callDriverStep (kernelDevice b machines) s x).localResult.cpu i
      = entrySlot b (fun _ _ _ => machines s.dev.2) s.dev.1.gicMap x i
          (s.localResult.cpu i) := by
  obtain ⟨saved, a, hstep, -, -⟩ := callDriverStep_device b machines s x
  rw [hstep]
  show (entryReply b (fun _ _ _ => machines s.dev.2)
    ⟨s.localResult, s.listOut, s.alloc, s.dev.1⟩ x).buffer.cpu i = _
  exact entryReply_slots ..

variable (b : Build) (machines : Nat → Machine) (a : Alloc) (g : KGlobals)
  (out : List IoctlResult)

/-- The map stays, and every entry takes its machine. -/
theorem driverAfter_dev (xs : List UsedIoctl) :
    (driverAfter b machines a g out xs).dev.1.gicMap = g.gicMap
      ∧ (driverAfter b machines a g out xs).dev.2 = xs.length := by
  induction xs using List.reverseRecOn with
  | nil => exact ⟨rfl, rfl⟩
  | append_singleton xs x ih =>
      obtain ⟨saved, a', hstep, -, -⟩ := callDriverStep_device b machines
        (driverAfter b machines a g out xs) x
      have hlast : driverAfter b machines a g out (xs ++ [x])
          = callDriverStep (kernelDevice b machines)
              (driverAfter b machines a g out xs) x :=
        List.foldl_concat ..
      rw [hlast, hstep, List.length_append, List.length_singleton]
      refine ⟨?_, congrArg (· + 1) ih.2⟩
      exact (msIoctl_gicMap ..).trans ih.1

theorem label_zero (i : Fin msMaxCpus) :
    (0 : U32) = .ofNat 32 i ↔ i.val = 0 := by
  revert i
  decide

/-- Slot `i` has its own number after a worklist if it is the first, or
an entry was read on its core. -/
theorem driverAfter_cpu (xs : List UsedIoctl) (i : Fin msMaxCpus) :
    ((driverAfter b machines a g out xs).localResult.cpu i).cpu
        = .ofNat 32 i
      ↔ i.val = 0 ∨ ∃ pre y post, xs = pre ++ y :: post
          ∧ ReadOn b (machines pre.length) g.gicMap y i := by
  have hstep : ∀ (s : DriverState (KGlobals × Nat)) y,
      ((callDriverStep (kernelDevice b machines) s y).localResult.cpu
          i).cpu = .ofNat 32 i
        ↔ (s.localResult.cpu i).cpu = .ofNat 32 i
          ∨ ReadOn b (machines s.dev.2) s.dev.1.gicMap y i := by
    intro s y
    rw [callDriverStep_slot]
    exact entrySlot_cpu ..
  have hfound := @foldl_found _ _
    (fun s => (s.localResult.cpu i).cpu = .ofNat 32 i)
    (fun s y => ReadOn b (machines s.dev.2) s.dev.1.gicMap y i)
    (callDriverStep (kernelDevice b machines)) hstep xs
    ⟨{}, out, a, (g, 0)⟩
  refine hfound.trans (or_congr (label_zero i) ?_)
  refine exists_congr fun pre => exists_congr fun y => exists_congr
    fun post => and_congr_right fun _ => ?_
  obtain ⟨hmap, hmachine⟩ := driverAfter_dev b machines a g out pre
  show ReadOn b (machines (driverAfter b machines a g out pre).dev.2)
    (driverAfter b machines a g out pre).dev.1.gicMap y i ↔ _
  rw [hmap, hmachine]

/-- The result recorded from slot `i` for entry `x` after the entries
`pre`. -/
def slotResult (pre : List UsedIoctl) (x : UsedIoctl) (i : Fin msMaxCpus) :
    IoctlResult :=
  resultOf x ((driverAfter b machines a g out (pre ++ [x])).localResult.cpu i)

/-- An entry's results are those of its slots, as far as they can be
recorded, and the one from slot `i` has label `i` if and only if `i` is 0
or this entry or one before it was read on that core. -/
theorem core_labels_iff (pre : List UsedIoctl) (x : UsedIoctl)
    (post : List UsedIoctl) :
    ∃ saved rest,
      (driverAfter b machines a g out (pre ++ x :: post)).listOut
        = (driverAfter b machines a g out pre).listOut
          ++ saved.map (slotResult b machines a g out pre x) ++ rest
      ∧ saved.Sublist (List.finRange msMaxCpus)
      ∧ (a = .ok → saved = List.finRange msMaxCpus)
      ∧ ∀ i : Fin msMaxCpus,
          (slotResult b machines a g out pre x i).cpu = .ofNat 32 i
            ↔ i.val = 0 ∨ ∃ before y after, pre ++ [x] = before ++ y :: after
              ∧ ReadOn b (machines before.length) g.gicMap y i := by
  have hlast : driverAfter b machines a g out (pre ++ [x])
      = callDriverStep (kernelDevice b machines)
          (driverAfter b machines a g out pre) x :=
    List.foldl_concat ..
  obtain ⟨saved, a', hstep, hsub, hok⟩ := callDriverStep_device b machines
    (driverAfter b machines a g out pre) x
  obtain ⟨rest, hrest⟩ := (callDriver_device b machines post
    (driverAfter b machines a g out (pre ++ [x]))).1
  refine ⟨saved, rest, ?_, hsub, fun ha => ?_, fun i => ?_⟩
  · have hwhole : driverAfter b machines a g out (pre ++ x :: post)
        = post.foldl (callDriverStep (kernelDevice b machines))
            (driverAfter b machines a g out (pre ++ [x])) := by
      rw [hlast]
      exact List.foldl_append ..
    rw [hwhole, ← hrest]
    unfold slotResult
    rw [hlast, hstep]
  · have hpre := (callDriver_device b machines pre
      ⟨{}, out, a, (g, 0)⟩).2 ha
    exact (hok hpre).2
  · exact driverAfter_cpu b machines a g out (pre ++ [x]) i

/-- A read of MIDR on cpu 1: every other slot's result has label 0. -/
theorem core_labels_fails :
    ¬ ∀ (b : Build) (machines : Nat → Machine) (g : KGlobals)
        (xs : List UsedIoctl) (k : Nat) (i : Fin msMaxCpus),
        (driverAfter b machines .ok g [] xs).listOut[msMaxCpus * k + i]?.all
          (fun r => r.cpu == .ofNat 32 i) = true := by
  intro h
  have hall := h ⟨.aarch64, true⟩ (fun _ => steadyMachine 0) {}
    [⟨MsSysreg.MIDR, 1, archArmv8a⟩] 0 ⟨2, by decide⟩
  exact absurd hall (by decide +kernel)

end Maplesyrup
