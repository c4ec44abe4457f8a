/-
As much of A64 as it takes to leave an exception: loads of register pairs
off the stack, moves to the exception registers, `eret`.

Code is straight-line here: a list of instructions, each 4 bytes, run in
order. What the architecture leaves open is `none`: a load through a
stack pointer that is not a multiple of 16 (alignment is checked), a pair
loaded into one register twice.

# Popping

`pops` loads pairs one after the other off the stack, and `exec_pops`
says what that comes to when no register is met twice: the registers get
the words of the stack in order, and nothing else changes but the stack
pointer.

# Loads

Memory is total here, so a load that code has no business to make gives
some word as well. `reads` keeps the addresses, for a result to say where
the loads of a run go.
-/
import Mathlib

namespace Maplesyrup.Base.A64

abbrev Doubleword := BitVec 64

/-- X0 to X30; X30 is the link register. -/
abbrev Reg := Fin 31

structure State where
  x : Reg → Doubleword
  sp : Doubleword
  pc : Doubleword
  pstate : Doubleword
  elr : Doubleword
  spsr : Doubleword
  /-- The word a load at an address gives. -/
  mem : Doubleword → Doubleword
  /-- Where the loads so far went, in order. -/
  reads : List Doubleword := []

inductive Instr
  /-- `mov sp, xn` -/
  | movSp (n : Reg)
  /-- `add xd, xn, #imm` -/
  | add (d n : Reg) (imm : Doubleword)
  /-- `ldp xt, xu, [sp, #offset]` -/
  | ldp (t u : Reg) (offset : Doubleword)
  /-- `ldp xt, xu, [sp], #offset` -/
  | ldpPost (t u : Reg) (offset : Doubleword)
  /-- `ldr xt, [sp], #offset` -/
  | ldrPost (t : Reg) (offset : Doubleword)
  /-- `msr elr_el1, xn` -/
  | msrElr (n : Reg)
  /-- `msr spsr_el1, xn` -/
  | msrSpsr (n : Reg)
  | eret
deriving DecidableEq, Repr

/-- A stack pointer loads may go through. -/
def Aligned (sp : Doubleword) : Prop := sp.toNat % 16 = 0

instance (sp : Doubleword) : Decidable (Aligned sp) :=
  inferInstanceAs (Decidable (_ = _))

/-- Load a register. -/
def State.load (s : State) (t : Reg) (address : Doubleword) : State :=
  { s with
    x := Function.update s.x t (s.mem address)
    reads := s.reads ++ [address] }

/-- On to the next instruction. -/
def State.next (s : State) : State := { s with pc := s.pc + 4 }

/-- Load a pair. -/
def State.loadPair (s : State) (t u : Reg) (address : Doubleword) :
    Option State :=
  if Aligned s.sp ∧ t ≠ u then
    some ((s.load t address).load u (address + 8))
  else none

def step (s : State) : Instr → Option State
  | .movSp n => some { s.next with sp := s.x n }
  | .add d n imm =>
      some { s.next with x := Function.update s.x d (s.x n + imm) }
  | .ldp t u offset => s.next.loadPair t u (s.sp + offset)
  | .ldpPost t u offset =>
      (s.next.loadPair t u s.sp).map fun s =>
        { s with sp := s.sp + offset }
  | .ldrPost t offset =>
      if Aligned s.sp then
        some { s.next.load t s.sp with sp := s.sp + offset }
      else none
  | .msrElr n => some { s.next with elr := s.x n }
  | .msrSpsr n => some { s.next with spsr := s.x n }
  | .eret => some { s with pc := s.elr, pstate := s.spsr }

/-- Run code. -/
def exec : List Instr → State → Option State
  | [], s => some s
  | i :: code, s => (step s i).bind (exec code)

theorem exec_cons {s t : State} {i : Instr} (code : List Instr)
    (h : step s i = some t) : exec (i :: code) s = exec code t := by
  rw [exec, h]
  rfl

theorem exec_append {s t : State} {code : List Instr}
    (rest : List Instr) (h : exec code s = some t) :
    exec (code ++ rest) s = exec rest t := by
  induction code generalizing s with
  | nil =>
      rw [exec] at h
      rw [Option.some.inj h, List.nil_append]
  | cons i code ih =>
      rw [exec, Option.bind_eq_some_iff] at h
      obtain ⟨u, hu, h⟩ := h
      rw [List.cons_append, exec_cons _ hu, ih h]

-- ============================================================== the stack

theorem Aligned.add {sp : Doubleword} (h : Aligned sp) (n : Nat) :
    Aligned (sp + .ofNat 64 (16 * n)) := by
  unfold Aligned at h ⊢
  rw [BitVec.toNat_add, BitVec.toNat_ofNat]
  omega

/-- Load pairs off the stack. -/
def pops (pairs : List (Reg × Reg)) : List Instr :=
  pairs.map fun p => .ldpPost p.1 p.2 16

/-- The registers of the pairs, in the order of the stack. -/
def popped (pairs : List (Reg × Reg)) : List Reg :=
  pairs.flatMap fun p => [p.1, p.2]

@[simp] theorem popped_cons (p : Reg × Reg) (pairs : List (Reg × Reg)) :
    popped (p :: pairs) = p.1 :: p.2 :: popped pairs := rfl

/-- The addresses of `n` words from `sp` on. -/
def wordsAt (sp : Doubleword) (n : Nat) : List Doubleword :=
  (List.range n).map fun j => sp + .ofNat 64 (8 * j)

theorem add_words (sp : Doubleword) (m n : Nat) :
    sp + .ofNat 64 (8 * m) + .ofNat 64 (8 * n)
      = sp + .ofNat 64 (8 * (m + n)) := by
  rw [BitVec.add_assoc, ← BitVec.ofNat_add, Nat.mul_add]

/-- Words behind words. -/
theorem wordsAt_add (sp : Doubleword) (m n : Nat) :
    wordsAt sp (m + n)
      = wordsAt sp m ++ wordsAt (sp + .ofNat 64 (8 * m)) n := by
  unfold wordsAt
  rw [List.range_add, List.map_append, List.map_map]
  congr 1
  refine List.map_congr_left fun j _ => ?_
  exact (add_words sp m j).symm

/-- The state after them. -/
structure Popped (regs : List Reg) (s t : State) : Prop where
  loaded : ∀ j r, regs[j]? = some r →
    t.x r = s.mem (s.sp + .ofNat 64 (8 * j))
  kept : ∀ r, r ∉ regs → t.x r = s.x r
  sp : t.sp = s.sp + .ofNat 64 (8 * regs.length)
  elr : t.elr = s.elr
  spsr : t.spsr = s.spsr
  mem : t.mem = s.mem
  reads : t.reads = s.reads ++ wordsAt s.sp regs.length

theorem step_pop {s : State} (hsp : Aligned s.sp) {p : Reg × Reg}
    (hne : p.1 ≠ p.2) :
    ∃ t, step s (.ldpPost p.1 p.2 16) = some t
      ∧ Popped [p.1, p.2] s t := by
  refine ⟨_, by rw [step, State.loadPair, if_pos ⟨hsp, hne⟩]; rfl, ?_⟩
  constructor
  · intro j r hj
    rcases j with _ | _ | j
    · obtain rfl := Option.some.inj hj
      show Function.update (Function.update s.x _ _) _ _ _ = _
      rw [Function.update_of_ne hne, Function.update_self]
      exact congrArg s.mem (BitVec.add_zero s.sp).symm
    · obtain rfl := Option.some.inj hj
      exact Function.update_self ..
    · simp at hj
  · intro r hr
    rw [List.mem_pair, not_or] at hr
    show Function.update (Function.update s.x _ _) _ _ _ = _
    rw [Function.update_of_ne hr.2, Function.update_of_ne hr.1]
  · rfl
  · rfl
  · rfl
  · rfl
  · show s.reads ++ [s.sp] ++ [s.sp + 8] = _
    rw [List.append_assoc]
    congr 1
    show [s.sp, s.sp + 8] = [s.sp + 0, s.sp + 8]
    rw [show s.sp + 0 = s.sp from BitVec.add_zero s.sp]

/-- Pops one behind the other. -/
theorem Popped.trans {s t u : State} {regs more : List Reg}
    (hdisj : ∀ r ∈ regs, r ∉ more) (h : Popped regs s t)
    (h' : Popped more t u) : Popped (regs ++ more) s u := by
  have haddr : ∀ j, t.sp + .ofNat 64 (8 * j)
      = s.sp + .ofNat 64 (8 * (regs.length + j)) := by
    intro j
    rw [h.sp, add_words]
  constructor
  · intro j r hj
    rcases Nat.lt_or_ge j regs.length with hlt | hge
    · rw [List.getElem?_append_left hlt] at hj
      rw [h'.kept r (hdisj r (List.mem_of_getElem? hj)), h.loaded j r hj]
    · rw [List.getElem?_append_right hge] at hj
      rw [h'.loaded _ r hj, h.mem, haddr]
      congr 4
      omega
  · intro r hr
    rw [List.mem_append, not_or] at hr
    rw [h'.kept r hr.2, h.kept r hr.1]
  · rw [h'.sp, haddr, List.length_append]
  · rw [h'.elr, h.elr]
  · rw [h'.spsr, h.spsr]
  · rw [h'.mem, h.mem]
  · rw [h'.reads, h.reads, h.sp, List.append_assoc, ← wordsAt_add,
      List.length_append]

theorem Popped.nil (s : State) : Popped [] s s where
  loaded := fun j r hj => by simp at hj
  kept := fun _ _ => rfl
  sp := (BitVec.add_zero s.sp).symm
  elr := rfl
  spsr := rfl
  mem := rfl
  reads := (List.append_nil _).symm

/-- Pairs without a register twice get the words of the stack. -/
theorem exec_pops (pairs : List (Reg × Reg)) (hnd : (popped pairs).Nodup)
    {s : State} (hsp : Aligned s.sp) :
    ∃ t, exec (pops pairs) s = some t ∧ Popped (popped pairs) s t := by
  induction pairs generalizing s with
  | nil => exact ⟨s, rfl, Popped.nil s⟩
  | cons p pairs ih =>
      rw [popped_cons, List.nodup_cons, List.nodup_cons, List.mem_cons,
        not_or] at hnd
      obtain ⟨⟨hne, hfirst⟩, hsecond, hnd⟩ := hnd
      obtain ⟨t, hstep, hpop⟩ := step_pop hsp hne
      have haligned : Aligned t.sp := by
        rw [hpop.sp]
        exact hsp.add 1
      obtain ⟨u, hrest, hpops⟩ := ih hnd haligned
      refine ⟨u, (exec_cons _ hstep).trans hrest, ?_⟩
      show Popped ([p.1, p.2] ++ popped pairs) s u
      refine Popped.trans ?_ hpop hpops
      intro r hr
      rcases List.mem_pair.1 hr with rfl | rfl
      · exact hfirst
      · exact hsecond

end Maplesyrup.Base.A64
