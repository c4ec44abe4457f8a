/-
A trapped read is skipped: whatever the hook's caller has left in the
registers, the interrupted context is resumed as it was, one instruction
on.

The code is two blocks of pops with the exception registers set in
between. X21 and X22 carry the saved pc and pstate to there, and the
second block is the one that restores them. The loads are of the words of
the frame, each of them once.
-/
import Maplesyrup.Kernel.Return

namespace Maplesyrup

open Base.A64

variable {o : AsmOffsets} {s t : State} {c : Context}

theorem msKernelReturn_eq (o : AsmOffsets) :
    msKernelReturn o
      = [.movSp 0, .ldp 21 22 o.sPc, .add 21 21 4] ++ pops lowPairs
        ++ [.msrElr 21, .msrSpsr 22] ++ pops highPairs
        ++ [.ldrPost 30 (o.sFrameSize - o.sLr), .eret] := rfl

theorem lowPairs_at : ∀ i : Reg, i.val < 10 →
    (popped lowPairs)[i.val]? = some i := by
  decide

theorem highPairs_at : ∀ i : Reg, 10 ≤ i.val → i.val < 30 →
    (popped highPairs)[i.val - 10]? = some i := by
  decide

/-- The words of ten registers, of twenty more, and of the link
register. -/
theorem wordsAt_frame (regs : Doubleword) :
    wordsAt regs 31
      = wordsAt regs 10 ++ wordsAt (regs + 80) 20 ++ [regs + 240] := by
  have hlink : wordsAt (regs + 240) 1 = [regs + 240] :=
    congrArg (fun a => [a]) (BitVec.add_zero (regs + 240))
  calc wordsAt regs (30 + 1)
      = wordsAt regs (10 + 20) ++ wordsAt (regs + 240) 1 :=
        wordsAt_add regs 30 1
    _ = _ := by
        rw [wordsAt_add regs 10 20, hlink]
        rfl

/-- The frame's pc and pstate are taken up. -/
theorem exec_head (h : Saved o s.mem (s.x 0) c) :
    ∃ t, exec [.movSp 0, .ldp 21 22 o.sPc, .add 21 21 4] s = some t
      ∧ t.x 21 = c.pc + 4 ∧ t.x 22 = c.pstate ∧ t.sp = s.x 0
      ∧ t.mem = s.mem
      ∧ t.reads = s.reads ++ [s.x 0 + o.sPc, s.x 0 + o.sPc + 8] := by
  let s₁ : State := { s.next with sp := s.x 0 }
  let s₂ := (s₁.next.load 21 (s₁.sp + o.sPc)).load 22 (s₁.sp + o.sPc + 8)
  let s₃ : State :=
    { s₂.next with x := Function.update s₂.x 21 (s₂.x 21 + 4) }
  have hmov : step s (.movSp 0) = some s₁ := rfl
  have hldp : step s₁ (.ldp 21 22 o.sPc) = some s₂ :=
    if_pos ⟨h.aligned, by decide⟩
  have hadd : step s₂ (.add 21 21 4) = some s₃ := rfl
  refine ⟨s₃, ?_, ?_, ?_, rfl, rfl, List.append_assoc ..⟩
  · rw [exec_cons _ hmov, exec_cons _ hldp, exec_cons _ hadd]
    rfl
  · show Function.update s₂.x 21 (s₂.x 21 + 4) 21 = _
    rw [Function.update_self]
    show s.mem (s.x 0 + o.sPc) + 4 = _
    rw [h.pc]
  · show s.mem (s.x 0 + o.sPc + 8) = _
    rw [h.pstate]

/-- The exception registers are set. -/
theorem exec_msr (s : State) :
    exec [.msrElr 21, .msrSpsr 22] s
      = some { s with
          pc := s.pc + 4 + 4, elr := s.x 21, spsr := s.x 22 } := rfl

/-- The link register is restored, and the exception left. -/
theorem exec_tail (hsp : Aligned s.sp) (offset : Doubleword) :
    ∃ t, exec [.ldrPost 30 offset, .eret] s = some t
      ∧ t.x 30 = s.mem s.sp ∧ (∀ i, i ≠ 30 → t.x i = s.x i)
      ∧ t.sp = s.sp + offset ∧ t.pc = s.elr ∧ t.pstate = s.spsr
      ∧ t.mem = s.mem ∧ t.reads = s.reads ++ [s.sp] := by
  let s₁ : State := { s.next.load 30 s.sp with sp := s.sp + offset }
  have hldr : step s (.ldrPost 30 offset) = some s₁ := if_pos hsp
  refine ⟨{ s₁ with pc := s.elr, pstate := s.spsr }, ?_, ?_, ?_, rfl, rfl,
    rfl, rfl, rfl⟩
  · rw [exec_cons _ hldr]
    rfl
  · show Function.update s.x 30 (s.mem s.sp) 30 = _
    rw [Function.update_self]
  · intro i hi
    show Function.update s.x 30 (s.mem s.sp) i = _
    rw [Function.update_of_ne hi]

/-- From any state of the cpu, `ms_kernel_return` resumes the context of
the frame it is given behind the instruction that trapped, leaves the
memory alone, and loads the words of the frame and no others. -/
theorem trap_skips (hlr : o.sLr = 240) (h : Saved o s.mem (s.x 0) c) :
    ∃ t, exec (msKernelReturn o) s = some t
      ∧ contextOf t = { c with pc := c.pc + 4 } ∧ t.mem = s.mem
      ∧ t.reads = s.reads ++ frameWords o (s.x 0) := by
  obtain ⟨s₁, hhead, hpc, hpstate, hsp, hmem, hreads⟩ := exec_head h
  obtain ⟨s₂, hlow, hpop⟩ := exec_pops lowPairs (by decide)
    (s := s₁) (by rw [hsp]; exact h.aligned)
  have hsp₂ : s₂.sp = s.x 0 + 80 := by
    rw [hpop.sp, hsp]
    rfl
  let s₃ : State := { s₂ with
    pc := s₂.pc + 4 + 4, elr := s₂.x 21, spsr := s₂.x 22 }
  have hmsr : exec [.msrElr 21, .msrSpsr 22] s₂ = some s₃ := exec_msr s₂
  have haligned : Aligned s₃.sp := by
    show Aligned s₂.sp
    rw [hsp₂]
    exact h.aligned.add 5
  obtain ⟨s₄, hhigh, hpop'⟩ := exec_pops highPairs (by decide)
    haligned
  have hsp₄ : s₄.sp = s.x 0 + 240 := by
    rw [hpop'.sp]
    show s₂.sp + _ = _
    rw [hsp₂, BitVec.add_assoc]
    rfl
  obtain ⟨t, htail, hlink, hkept, hspt, hpct, hpstatet, hmemt, hreadst⟩ :=
    exec_tail (s := s₄) (by rw [hsp₄]; exact h.aligned.add 15)
      (o.sFrameSize - o.sLr)
  have hmem₂ : s₂.mem = s.mem := hpop.mem.trans hmem
  have hmem₄ : s₄.mem = s.mem := hpop'.mem.trans hmem₂
  refine ⟨t, ?_, ?_, hmemt.trans hmem₄, ?_⟩
  · rw [msKernelReturn_eq, List.append_assoc, List.append_assoc,
      List.append_assoc, exec_append _ hhead, exec_append _ hlow,
      exec_append _ hmsr, exec_append _ hhigh, htail]
  · apply Context.ext
    · funext i
      show t.x i = c.x i
      rw [← h.x i]
      by_cases h30 : i = 30
      · rw [h30, hlink, hmem₄, hsp₄]
        rfl
      rw [hkept i h30]
      have hbound : i.val < 30 :=
        Nat.lt_of_le_of_ne (Nat.le_of_lt_succ i.isLt)
          fun hval => h30 (Fin.ext hval)
      rcases Nat.lt_or_ge i.val 10 with hlow | hhigh
      · rw [hpop'.kept i (by revert hlow; revert i; decide)]
        show s₂.x i = _
        rw [hpop.loaded i i (lowPairs_at i hlow), hmem, hsp]
      · rw [hpop'.loaded _ i (highPairs_at i hhigh hbound)]
        show s₂.mem (s₂.sp + _) = _
        rw [hmem₂, hsp₂]
        show s.mem (s.x 0 + .ofNat 64 (8 * 10)
          + .ofNat 64 (8 * (i.val - 10))) = _
        rw [add_words, Nat.add_sub_cancel' hhigh]
    · show t.sp = c.sp
      rw [hspt, hsp₄, h.sp, hlr, BitVec.add_assoc, BitVec.add_comm 240,
        BitVec.sub_add_cancel]
    · show t.pc = c.pc + 4
      rw [hpct, hpop'.elr]
      show s₂.x 21 = _
      rw [hpop.kept 21 (by decide), hpc]
    · show t.pstate = c.pstate
      rw [hpstatet, hpop'.spsr]
      show s₂.x 22 = _
      rw [hpop.kept 22 (by decide), hpstate]
  · have hreads₄ : s₄.reads
        = s.reads ++ [s.x 0 + o.sPc, s.x 0 + o.sPc + 8]
          ++ wordsAt (s.x 0) 10 ++ wordsAt (s.x 0 + 80) 20 := by
      rw [hpop'.reads]
      show s₂.reads ++ wordsAt s₂.sp 20 = _
      rw [hpop.reads, hreads, hsp, hsp₂]
      rfl
    rw [hreadst, hreads₄, hsp₄, frameWords, wordsAt_frame]
    simp only [List.append_assoc]

/-- The offsets of a 64-bit Linux, and a frame whose words are their own
addresses. -/
def linuxOffsets : AsmOffsets := ⟨240, 256, 288⟩

def frameContext : Context where
  x := fun i => 0x1000 + .ofNat 64 (8 * i)
  sp := 0x1000 + 288
  pc := 0x1000 + 256
  pstate := 0x1000 + 256 + 8

/-- In the hook, every register holds the address of the frame. -/
def inHook : State where
  x := fun _ => 0x1000
  sp := 0x800
  pc := 0
  pstate := 0
  elr := 0
  spsr := 0
  mem := id

theorem trap_skips_frame :
    ∃ t, exec (msKernelReturn linuxOffsets) inHook = some t
      ∧ contextOf t = { frameContext with pc := frameContext.pc + 4 }
      ∧ t.mem = inHook.mem
      ∧ t.reads = inHook.reads ++ frameWords linuxOffsets (inHook.x 0) :=
  trap_skips rfl
    ⟨by decide, fun _ => rfl, rfl, rfl, rfl⟩

end Maplesyrup
