/-
The way out of a trapped read (`undef_hook` of module/undef_hook.c, with
module/kernel_return.S).

Linux has saved what it interrupted in a frame (`struct pt_regs`) on the
kernel stack and calls the hook with its address. On aarch32 the hook
moves the saved pc on and returns to Linux, which restores the frame. On
aarch64 it does not return: `ms_kernel_return` restores the frame itself
and leaves the exception.

The offsets into the frame are Linux's own (`asm-offsets.h`).
-/
import Maplesyrup.Base.A64

namespace Maplesyrup

open Base.A64

/-- What a program was about when it was interrupted. -/
@[ext]
structure Context where
  x : Reg → Doubleword
  sp : Doubleword
  pc : Doubleword
  pstate : Doubleword

/-- What a cpu is about. -/
def contextOf (s : State) : Context := ⟨s.x, s.sp, s.pc, s.pstate⟩

/-- Linux's offsets: of the saved link register and pc, and the size of a
frame. -/
structure AsmOffsets where
  sLr : Doubleword
  sPc : Doubleword
  sFrameSize : Doubleword

/-- `ms_kernel_return(regs)`, `regs` in X0. -/
def msKernelReturn (o : AsmOffsets) : List Instr := [
  .movSp 0,
  .ldp 21 22 o.sPc,
  .add 21 21 0x4,
  .ldpPost 0 1 0x10,
  .ldpPost 2 3 0x10,
  .ldpPost 4 5 0x10,
  .ldpPost 6 7 0x10,
  .ldpPost 8 9 0x10,
  .msrElr 21,
  .msrSpsr 22,
  .ldpPost 10 11 0x10,
  .ldpPost 12 13 0x10,
  .ldpPost 14 15 0x10,
  .ldpPost 16 17 0x10,
  .ldpPost 18 19 0x10,
  .ldpPost 20 21 0x10,
  .ldpPost 22 23 0x10,
  .ldpPost 24 25 0x10,
  .ldpPost 26 27 0x10,
  .ldpPost 28 29 0x10,
  .ldrPost 30 (o.sFrameSize - o.sLr),
  .eret]

/-- The pairs popped before and after the exception registers are set. -/
def lowPairs : List (Reg × Reg) := [(0, 1), (2, 3), (4, 5), (6, 7), (8, 9)]

def highPairs : List (Reg × Reg) := [
  (10, 11), (12, 13), (14, 15), (16, 17), (18, 19), (20, 21), (22, 23),
  (24, 25), (26, 27), (28, 29)]

/-- The frame at an address is of this context. Linux pushes it on the
stack of what it interrupts, and stacks are aligned. -/
structure Saved (o : AsmOffsets) (mem : Doubleword → Doubleword)
    (regs : Doubleword) (c : Context) : Prop where
  aligned : Aligned regs
  x : ∀ i : Reg, mem (regs + .ofNat 64 (8 * i)) = c.x i
  pc : mem (regs + o.sPc) = c.pc
  pstate : mem (regs + o.sPc + 8) = c.pstate
  sp : c.sp = regs + o.sFrameSize

/-- Where the words of a frame are: pc and pstate, and the registers. -/
def frameWords (o : AsmOffsets) (regs : Doubleword) : List Doubleword :=
  [regs + o.sPc, regs + o.sPc + 8] ++ wordsAt regs 31

end Maplesyrup
