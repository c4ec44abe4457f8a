/-
The register handlers (`do_*_read`, common/*.c) and what running one
does to the variables it is given.

A handler body is at most one `asm volatile` statement per target, so a
handler is a record of its parameter types and of the instruction it
issues on AArch64 and on AArch32 (none where the `#ifdef` branch is
empty). The instruction is where the handlers differ; what a run stores
is one definition, `Handler.run`.

# Reads that trap

The asm operands are in-out (`"+r"`): the variable is loaded, the
instruction replaces it, the result is stored back. An undefined
instruction is skipped with the loaded value untouched, so a read that
traps stores nothing new.
-/
import Maplesyrup.Common.Registers

namespace Maplesyrup

/-- Which architecture the sources were compiled for. -/
inductive Target
  | aarch32
  | aarch64
deriving DecidableEq, Repr

/-- Type a handler's first output parameter points to. -/
inductive OutType
  | uint
  | ulonglong
  | retdatatype
deriving DecidableEq, Repr

/-- Is the type 64 bits wide? `retdatatype` is the target's word. -/
def OutType.wide (t : Target) : OutType → Bool
  | .uint => false
  | .ulonglong => true
  | .retdatatype => t == .aarch64

/-- One asm statement: an instruction with one output operand
(`ASM_01`, `ASM_FP`) or two (`ASM_02`). -/
inductive Asm
  | asm01 (instruction : String)
  | asm02 (instruction : String)
deriving DecidableEq, Repr

/-- A register handler: its first output type, whether it takes a
second output (an `unsigned int *`), and its body per target. -/
structure Handler where
  out : OutType
  out2 : Bool
  aarch64 : Option Asm
  aarch32 : Option Asm
deriving DecidableEq, Repr

/-- The body the target compiles. -/
def Handler.body (t : Target) (h : Handler) : Option Asm :=
  match t with
  | .aarch32 => h.aarch32
  | .aarch64 => h.aarch64

/-- A value stored through an output pointer, with the store's width. -/
inductive Word
  | w32 (v : U32)
  | w64 (v : U64)
deriving DecidableEq, Repr

/-- The store a parameter type makes of a 64-bit register value. -/
def Word.ofValue (wide : Bool) (v : U64) : Word :=
  if wide then .w64 v else .w32 (v.setWidth 32)

/-- What running a handler did: did its instruction trap, and what was
stored through the first and the second pointer. -/
structure Effect where
  trapped : Bool := false
  first : Option Word := none
  second : Option U32 := none
deriving DecidableEq, Repr

/-- Run a handler. `reg i` is the value instruction `i` delivers, `none`
when the instruction is undefined where it runs. -/
def Handler.run (t : Target) (reg : String → Option U64) (h : Handler) :
    Effect :=
  match h.body t with
  | none => {}
  | some (.asm01 i) =>
      match reg i with
      | none => { trapped := true }
      | some v => { first := some (Word.ofValue (h.out.wide t) v) }
  | some (.asm02 i) =>
      match reg i with
      | none => { trapped := true }
      | some v =>
          { first := some (.w32 (v.setWidth 32))
            second := some ((v >>> 32).setWidth 32) }

-- ================================================ an executor's variables

/-- A 32-bit variable after an optional store through its address. A
64-bit store leaves its low half there; the rest lands past it. -/
def into32 (old : U32) : Option Word → U32
  | none => old
  | some (.w32 v) => v
  | some (.w64 v) => v.setWidth 32

/-- A 64-bit variable after an optional store through its address. A
32-bit store replaces its low half only. -/
def into64 (old : U64) : Option Word → U64
  | none => old
  | some (.w32 v) => (old >>> 32 <<< 32) ||| v.setWidth 64
  | some (.w64 v) => v

/-- The variables the executors read a handler's results from. -/
structure Locals where
  cmdResult64 : U64 := 0
  cmdResult1 : U32 := 0
  cmdResult2 : U32 := 0
deriving DecidableEq, Repr

/-- Which of them a call passes the addresses of. -/
inductive Args
  | one32
  | one64
  | two32
  | two64
deriving DecidableEq, Repr

/-- The zeroed variables after a call with these arguments. -/
def Effect.locals (e : Effect) : Args → Locals
  | .one32 => { cmdResult1 := into32 0 e.first }
  | .one64 => { cmdResult64 := into64 0 e.first }
  | .two32 =>
      { cmdResult1 := into32 0 e.first, cmdResult2 := e.second.getD 0 }
  | .two64 =>
      { cmdResult64 := into64 0 e.first, cmdResult2 := e.second.getD 0 }

-- ==================================================== identification (ident.c)

def doAIDRRead : Handler :=
  ⟨.uint, false, some (.asm01 "MRS %0, AIDR_EL1"),
    some (.asm01 "MRC p15, 1, %0, c0, c0, 7")⟩

def doREVIDRRead : Handler :=
  ⟨.uint, false, some (.asm01 "MRS %0, REVIDR_EL1"),
    some (.asm01 "MRC p15, 0, %0, c0, c0, 6")⟩

def doTLBTRRead : Handler :=
  ⟨.uint, false, none,
    some (.asm01 "MRC p15, 0, %0, c0, c0, 3")⟩

def doAFR0Read : Handler :=
  ⟨.uint, false, some (.asm01 "MRS %0, ID_AFR0_EL1"),
    some (.asm01 "MRC p15, 0, %0, c0, c1, 3")⟩

def doCCSIDRRead : Handler :=
  ⟨.uint, false, some (.asm01 "MRS %0, CCSIDR_EL1"),
    some (.asm01 "MRC p15, 1, %0, c0, c0, 0")⟩

def doCLIDRRead : Handler :=
  ⟨.retdatatype, false, some (.asm01 "MRS %0, CLIDR_EL1"),
    some (.asm01 "MRC p15, 1, %0, c0, c0, 1")⟩

def doCSSELRRead : Handler :=
  ⟨.uint, false, some (.asm01 "MRS %0, CSSELR_EL1"),
    some (.asm01 "MRC p15, 2, %0, c0, c0, 0")⟩

def doCTRRead : Handler :=
  ⟨.uint, false, some (.asm01 "MRS %0, CTR_EL0"),
    some (.asm01 "MRC p15, 0, %0, c0, c0, 1")⟩

def doTCMTRRead : Handler :=
  ⟨.uint, false, none,
    some (.asm01 "MRC p15, 0, %0, c0, c0, 2")⟩

def doMIDRRead : Handler :=
  ⟨.uint, false, some (.asm01 "MRS %0, MIDR_EL1"),
    some (.asm01 "MRC p15, 0, %0, c0, c0, 0")⟩

def doMPIDRRead : Handler :=
  ⟨.uint, false, some (.asm01 "MRS %0, MPIDR_EL1"),
    some (.asm01 "MRC p15, 0, %0, c0, c0, 5")⟩

def doDFR0Read : Handler :=
  ⟨.uint, false, some (.asm01 "MRS %0, ID_DFR0_EL1"),
    some (.asm01 "MRC p15, 0, %0, c0, c1, 2")⟩

def doISAR0Read : Handler :=
  ⟨.uint, false, some (.asm01 "MRS %0, ID_ISAR0_EL1"),
    some (.asm01 "MRC p15, 0, %0, c0, c2, 0")⟩

def doISAR1Read : Handler :=
  ⟨.uint, false, some (.asm01 "MRS %0, ID_ISAR1_EL1"),
    some (.asm01 "MRC p15, 0, %0, c0, c2, 1")⟩

def doISAR2Read : Handler :=
  ⟨.uint, false, some (.asm01 "MRS %0, ID_ISAR2_EL1"),
    some (.asm01 "MRC p15, 0, %0, c0, c2, 2")⟩

def doISAR3Read : Handler :=
  ⟨.uint, false, some (.asm01 "MRS %0, ID_ISAR3_EL1"),
    some (.asm01 "MRC p15, 0, %0, c0, c2, 3")⟩

def doISAR4Read : Handler :=
  ⟨.uint, false, some (.asm01 "MRS %0, ID_ISAR4_EL1"),
    some (.asm01 "MRC p15, 0, %0, c0, c2, 4")⟩

def doISAR5Read : Handler :=
  ⟨.uint, false, some (.asm01 "MRS %0, ID_ISAR5_EL1"),
    some (.asm01 "MRC p15, 0, %0, c0, c2, 5")⟩

def doMMFR0Read : Handler :=
  ⟨.retdatatype, false, some (.asm01 "MRS %0, ID_MMFR0_EL1"),
    some (.asm01 "MRC p15, 0, %0, c0, c1, 4")⟩

def doMMFR1Read : Handler :=
  ⟨.uint, false, some (.asm01 "MRS %0, ID_MMFR1_EL1"),
    some (.asm01 "MRC p15, 0, %0, c0, c1, 5")⟩

def doMMFR2Read : Handler :=
  ⟨.uint, false, some (.asm01 "MRS %0, ID_MMFR2_EL1"),
    some (.asm01 "MRC p15, 0, %0, c0, c1, 6")⟩

def doMMFR3Read : Handler :=
  ⟨.uint, false, some (.asm01 "MRS %0, ID_MMFR3_EL1"),
    some (.asm01 "MRC p15, 0, %0, c0, c1, 7")⟩

def doPFR0Read : Handler :=
  ⟨.uint, false, some (.asm01 "MRS %0, ID_PFR0_EL1"),
    some (.asm01 "MRC p15, 0, %0, c0, c1, 0")⟩

def doPFR1Read : Handler :=
  ⟨.uint, false, some (.asm01 "MRS %0, ID_PFR1_EL1"),
    some (.asm01 "MRC p15, 0, %0, c0, c1, 1")⟩

-- ==================================================== virtual memory (virtmem.c)

def doNMRRRead : Handler :=
  ⟨.uint, false, none,
    some (.asm01 "MRC p15, 0, %0, c10, c2, 1")⟩

def doPRRRRead : Handler :=
  ⟨.uint, false, none,
    some (.asm01 "MRC p15, 0, %0, c10, c2, 0")⟩

def doSCTLRRead : Handler :=
  ⟨.uint, false, some (.asm01 "MRS %0, SCTLR_EL1"),
    some (.asm01 "MRC p15, 0, %0, c1, c0, 0")⟩

def doTTBCRRead : Handler :=
  ⟨.retdatatype, false, some (.asm01 "MRS %0, TCR_EL1"),
    some (.asm01 "MRC p15, 0, %0, c2, c0, 2")⟩

def doTTBR0Read : Handler :=
  ⟨.retdatatype, false, some (.asm01 "MRS %0, TTBR0_EL1"),
    some (.asm01 "MRC p15, 0, %0, c2, c0, 0")⟩

def doTTBR0LPAERead : Handler :=
  ⟨.uint, true, none,
    some (.asm02 "MRRC p15, 0, %0, %1, c2")⟩

def doTTBR1Read : Handler :=
  ⟨.retdatatype, false, some (.asm01 "MRS %0, TTBR1_EL1"),
    some (.asm01 "MRC p15, 0, %0, c2, c0, 1")⟩

def doTTBR1LPAERead : Handler :=
  ⟨.uint, true, none,
    some (.asm02 "MRRC p15, 1, %0, %1, c2")⟩

def doCONTEXTIDRRead : Handler :=
  ⟨.uint, false, some (.asm01 "MRS %0, CONTEXTIDR_EL1"),
    some (.asm01 "MRC p15, 0, %0, c13, c0, 1")⟩

def doDACRRead : Handler :=
  ⟨.uint, false, none,
    some (.asm01 "MRC p15, 0, %0, c3, c0, 0")⟩

def doMAIRRead : Handler :=
  ⟨.ulonglong, false, some (.asm01 "MRS %0, MAIR_EL1"),
    none⟩

def doMAIR0Read : Handler :=
  ⟨.uint, false, none,
    some (.asm01 "MRC p15, 0, %0, c10, c2, 0")⟩

def doMAIR1Read : Handler :=
  ⟨.uint, false, none,
    some (.asm01 "MRC p15, 0, %0, c10, c2, 1")⟩

def doAMAIRRead : Handler :=
  ⟨.ulonglong, false, some (.asm01 "MRS %0, AMAIR_EL1"),
    none⟩

def doAMAIR0Read : Handler :=
  ⟨.uint, false, none,
    some (.asm01 "MRC p15, 0, %0, c10, c3, 0")⟩

def doAMAIR1Read : Handler :=
  ⟨.uint, false, none,
    some (.asm01 "MRC p15, 0, %0, c10, c3, 1")⟩

def doDCZIDRead : Handler :=
  ⟨.uint, false, some (.asm01 "MRS %0, DCZID_EL0"),
    none⟩

-- ==================================================== fault handling (fault.c)

def doADFSRRead : Handler :=
  ⟨.uint, false, some (.asm01 "MRS %0, AFSR0_EL1"),
    some (.asm01 "MRC p15, 0, %0, c5, c1, 0")⟩

def doAIFSRRead : Handler :=
  ⟨.uint, false, some (.asm01 "MRS %0, AFSR1_EL1"),
    some (.asm01 "MRC p15, 0, %0, c5, c1, 1")⟩

def doIFARRead : Handler :=
  ⟨.uint, false, none,
    some (.asm01 "MRC p15, 0, %0, c6, c0, 2")⟩

def doIFSRRead : Handler :=
  ⟨.uint, false, none,
    some (.asm01 "MRC p15, 0, %0, c5, c0, 1")⟩

def doDFARRead : Handler :=
  ⟨.uint, false, none,
    some (.asm01 "MRC p15, 0, %0, c6, c0, 0")⟩

def doDFSRRead : Handler :=
  ⟨.uint, false, some (.asm01 "MRS %0, ESR_EL1"),
    some (.asm01 "MRC p15, 0, %0, c5, c0, 0")⟩

def doFARRead : Handler :=
  ⟨.ulonglong, false, some (.asm01 "MRS %0, FAR_EL1"),
    none⟩

-- ============================================== performance monitors (perfmon.c)

def doPMCCFILTRRead : Handler :=
  ⟨.uint, false, some (.asm01 "MRS %0, PMCCFILTR_EL0"),
    none⟩

def doPMCCNTRRead : Handler :=
  ⟨.retdatatype, false, some (.asm01 "MRS %0, PMCCNTR_EL0"),
    some (.asm01 "MRC p15, 0, %0, c9, c13, 0")⟩

def doPMCEID0Read : Handler :=
  ⟨.uint, false, some (.asm01 "MRS %0, PMCEID0_EL0"),
    some (.asm01 "MRC p15, 0, %0, c9, c12, 6")⟩

def doPMCEID1Read : Handler :=
  ⟨.uint, false, some (.asm01 "MRS %0, PMCEID1_EL0"),
    some (.asm01 "MRC p15, 0, %0, c9, c12, 7")⟩

def doPMCNTENSETRead : Handler :=
  ⟨.uint, false, some (.asm01 "MRS %0, PMCNTENSET_EL0"),
    some (.asm01 "MRC p15, 0, %0, c9, c12, 1")⟩

def doPMCNTENCLRRead : Handler :=
  ⟨.uint, false, some (.asm01 "MRS %0, PMCNTENCLR_EL0"),
    some (.asm01 "MRC p15, 0, %0, c9, c12, 2")⟩

def doPMCRRead : Handler :=
  ⟨.uint, false, some (.asm01 "MRS %0, PMCR_EL0"),
    some (.asm01 "MRC p15, 0, %0, c9, c12, 0")⟩

def doPMSELRRead : Handler :=
  ⟨.uint, false, some (.asm01 "MRS %0, PMSELR_EL0"),
    some (.asm01 "MRC p15, 0, %0, c9, c12, 5")⟩

def doPMXEVTYPERRead : Handler :=
  ⟨.uint, false, some (.asm01 "MRS %0, PMXEVTYPER_EL0"),
    some (.asm01 "MRC p15, 0, %0, c9, c13, 2")⟩

def doPMXEVCNTRRead : Handler :=
  ⟨.uint, false, some (.asm01 "MRS %0, PMXEVCNTR_EL0"),
    some (.asm01 "MRC p15, 0, %0, c9, c13, 1")⟩

def doPMUSERENRRead : Handler :=
  ⟨.uint, false, some (.asm01 "MRS %0, PMUSERENR_EL0"),
    some (.asm01 "MRC p15, 0, %0, c9, c14, 0")⟩

def doPMOVSRRead : Handler :=
  ⟨.uint, false, none,
    some (.asm01 "MRC p15, 0, %0, c9, c12, 3")⟩

def doPMINTENCLRRead : Handler :=
  ⟨.uint, false, some (.asm01 "MRS %0, PMINTENCLR_EL1"),
    some (.asm01 "MRC p15, 0, %0, c9, c14, 1")⟩

def doPMINTENSETRead : Handler :=
  ⟨.uint, false, some (.asm01 "MRS %0, PMINTENSET_EL1"),
    some (.asm01 "MRC p15, 0, %0, c9, c14, 1")⟩

def doPMOVSCLRRead : Handler :=
  ⟨.uint, false, some (.asm01 "MRS %0, PMOVSCLR_EL0"),
    none⟩

def doPMOVSSETRead : Handler :=
  ⟨.uint, false, some (.asm01 "MRS %0, PMOVSSET_EL0"),
    some (.asm01 "MRC p15, 0, %0, c9, c14, 3")⟩

def doPMSWINCRead : Handler :=
  ⟨.uint, false, some (.asm01 "MRS %0, PMSWINC_EL0"),
    some (.asm01 "MRC p15, 0, %0, c9, c12, 4")⟩

-- =============================================== security extensions (secext.c)

def doISRRead : Handler :=
  ⟨.uint, false, some (.asm01 "MRS %0, ISR_EL1"),
    some (.asm01 "MRC p15, 0, %0, c12, c1, 0")⟩

def doMVBARRead : Handler :=
  ⟨.retdatatype, false, none,
    some (.asm01 "MRC p15, 0, %0, c12, c0, 1")⟩

def doNSACRRead : Handler :=
  ⟨.uint, false, none,
    some (.asm01 "MRC p15, 0, %0, c1, c1, 2")⟩

def doSDERRead : Handler :=
  ⟨.uint, false, none,
    some (.asm01 "MRC p15, 0, %0, c1, c1, 1")⟩

def doSCRRead : Handler :=
  ⟨.uint, false, none,
    some (.asm01 "MRC p15, 0, %0, c1, c1, 0")⟩

def doVBARRead : Handler :=
  ⟨.retdatatype, false, some (.asm01 "MRS %0, VBAR_EL1"),
    some (.asm01 "MRC p15, 0, %0, c12, c0, 0")⟩

-- ============================================================= other (other.c)

def doCPACRRead : Handler :=
  ⟨.uint, false, some (.asm01 "MRS %0, CPACR_EL1"),
    some (.asm01 "MRC p15, 0, %0, c1, c0, 2")⟩

def doFCSEIDRRead : Handler :=
  ⟨.uint, false, none,
    some (.asm01 "MRC p15, 0, %0, c13, c0, 0")⟩

def doRMRRead : Handler :=
  ⟨.uint, false, some (.asm01 "MRS %0, RMR_EL1"),
    none⟩

def doRVBARRead : Handler :=
  ⟨.uint, false, some (.asm01 "MRS %0, RVBAR_EL1"),
    none⟩

-- =============================================== address translation (addrtrans.c)

def doPARRead : Handler :=
  ⟨.retdatatype, false, some (.asm01 "MRS %0, PAR_EL1"),
    some (.asm01 "MRC p15, 0, %0, c7, c4, 0")⟩

-- ==================================================== floating point (fp.c)

def doFPEXCRead : Handler :=
  ⟨.retdatatype, false, none,
    some (.asm01 "VMRS %0, FPEXC")⟩

def doMVFR0Read : Handler :=
  ⟨.uint, false, some (.asm01 "MRS %0, MVFR0_EL1"),
    some (.asm01 "VMRS %0, MVFR0")⟩

def doMVFR1Read : Handler :=
  ⟨.uint, false, some (.asm01 "MRS %0, MVFR1_EL1"),
    some (.asm01 "VMRS %0, MVFR1")⟩

def doMVFR2Read : Handler :=
  ⟨.uint, false, some (.asm01 "MRS %0, MVFR2_EL1"),
    none⟩

def doFPSIDRead : Handler :=
  ⟨.retdatatype, false, none,
    some (.asm01 "VMRS %0, FPSID")⟩

def doFPSCRRead : Handler :=
  ⟨.retdatatype, false, none,
    some (.asm01 "VMRS %0, FPSCR")⟩

-- ============================================================= debug (debug.c)

def doDBGDIDRRead : Handler :=
  ⟨.uint, false, none,
    some (.asm01 "MRC p14, 0, %0, c0, c0, 0")⟩

def doDBGAUTHSTATUSRead : Handler :=
  ⟨.uint, false, some (.asm01 "MRS %0, DBGAUTHSTATUS_EL1"),
    some (.asm01 "MRC p14, 0, %0, c7, c14, 6")⟩

def doDBGDRARRead : Handler :=
  ⟨.ulonglong, false, some (.asm01 "MRS %0, MDRAR_EL1"),
    some (.asm01 "MRC p14, 0, %0, c1, c0, 0")⟩

def doDBGDSCRRead : Handler :=
  ⟨.uint, false, some (.asm01 "MRS %0, MDSCR_EL1"),
    some (.asm01 "MRC p14, 0, %0, c1, c0, 0")⟩

-- ============================================================== misc (misc.c)

def doTPIDRPRWRead : Handler :=
  ⟨.retdatatype, false, some (.asm01 "MRS %0, TPIDR_EL1"),
    some (.asm01 "MRC p15, 0, %0, c13, c0, 4")⟩

def doTPIDRURORead : Handler :=
  ⟨.retdatatype, false, some (.asm01 "MRS %0, TPIDRRO_EL0"),
    some (.asm01 "MRC p15, 0, %0, c13, c0, 3")⟩

def doTPIDRURWRead : Handler :=
  ⟨.retdatatype, false, some (.asm01 "MRS %0, TPIDR_EL0"),
    some (.asm01 "MRC p15, 0, %0, c13, c0, 2")⟩

-- =========================================================== jazelle (jazelle.c)

def doJIDRRead : Handler :=
  ⟨.retdatatype, false, none,
    some (.asm01 "MRC p14, 7, %0, c0, c0, 0")⟩

def doJMCRRead : Handler :=
  ⟨.retdatatype, false, none,
    some (.asm01 "MRC p14, 7, %0, c2, c0, 0")⟩

def doJOSCRRead : Handler :=
  ⟨.retdatatype, false, none,
    some (.asm01 "MRC p14, 7, %0, c1, c0, 0")⟩

-- ============================================================= thumb (thumb.c)

def doTEECRRead : Handler :=
  ⟨.uint, false, none,
    some (.asm01 "MRC p14, 0, %0, c0, c0, 0")⟩

def doTEEHBRRead : Handler :=
  ⟨.uint, false, none,
    some (.asm01 "MRC p14, 6, %0, c1, c0, 0")⟩

-- ============================================ implementation defined (impl_def.c)

def doL2CTLRRead : Handler :=
  ⟨.uint, false, some (.asm01 "MRS %0, S3_1_C11_C0_2"),
    some (.asm01 "MRC p15, 1, %0, c9, c0, 2")⟩

def doL2ACTLRRead : Handler :=
  ⟨.uint, false, some (.asm01 "MRS %0, S3_1_C15_C0_0"),
    some (.asm01 "MRC p15, 1, %0, c15, c0, 0")⟩

def doL2PFRRead : Handler :=
  ⟨.uint, false, none,
    some (.asm01 "MRC p15, 1, %0, c15, c0, 3")⟩

def doCPUACTLRRead : Handler :=
  ⟨.ulonglong, false, some (.asm01 "MRS %0, S3_1_C15_C2_0"),
    none⟩

def doACTLRRead : Handler :=
  ⟨.retdatatype, false, some (.asm01 "MRS %0, ACTLR_EL1"),
    some (.asm01 "MRC p15, 0, %0, c1, c0, 1")⟩

def doACTLR2Read : Handler :=
  ⟨.uint, false, none,
    some (.asm01 "MRC p15, 1, %0, c15, c0, 4")⟩

def doCPUMERRSRRead : Handler :=
  ⟨.retdatatype, true, some (.asm01 "MRS %0, S3_1_C15_C2_2"),
    some (.asm02 "MRRC p15, 0, %0, %1, c15")⟩

def doL2MERRSRRead : Handler :=
  ⟨.retdatatype, true, some (.asm01 "MRS %0, S3_1_C15_C2_3"),
    some (.asm02 "MRRC p15, 1, %0, %1, c15")⟩

def doL2ECTLRRead : Handler :=
  ⟨.uint, false, some (.asm01 "MRS %0, S3_1_C11_C0_3"),
    some (.asm01 "MRC p15, 1, %0, c9, c0, 3")⟩

def doCPUECTLRRead : Handler :=
  ⟨.ulonglong, false, some (.asm01 "MRS %0, S3_1_C15_C2_1"),
    none⟩

def doCBARRead : Handler :=
  ⟨.retdatatype, false, some (.asm01 "MRS %0, S3_1_C15_C3_0"),
    some (.asm01 "MRC p15, 4, %0, c15, c0, 0")⟩

def doIL1DATA0Read : Handler :=
  ⟨.uint, false, none,
    some (.asm01 "MRC p15, 0, %0, c15, c0, 0")⟩

def doIL1DATA1Read : Handler :=
  ⟨.uint, false, none,
    some (.asm01 "MRC p15, 0, %0, c15, c0, 1")⟩

def doIL1DATA2Read : Handler :=
  ⟨.uint, false, none,
    some (.asm01 "MRC p15, 0, %0, c15, c0, 2")⟩

def doIL1DATA3Read : Handler :=
  ⟨.uint, false, none,
    some (.asm01 "MRC p15, 0, %0, c15, c0, 3")⟩

def doDL1DATA0Read : Handler :=
  ⟨.uint, false, none,
    some (.asm01 "MRC p15, 0, %0, c15, c1, 0")⟩

def doDL1DATA1Read : Handler :=
  ⟨.uint, false, none,
    some (.asm01 "MRC p15, 0, %0, c15, c1, 1")⟩

def doDL1DATA2Read : Handler :=
  ⟨.uint, false, none,
    some (.asm01 "MRC p15, 0, %0, c15, c1, 2")⟩

def doDL1DATA3Read : Handler :=
  ⟨.uint, false, none,
    some (.asm01 "MRC p15, 0, %0, c15, c1, 3")⟩

-- =========================================================== aarch64 (aarch64.c)

def doAA64AFR0Read : Handler :=
  ⟨.ulonglong, false, some (.asm01 "MRS %0, ID_AA64AFR0_EL1"),
    none⟩

def doAA64AFR1Read : Handler :=
  ⟨.ulonglong, false, some (.asm01 "MRS %0, ID_AA64AFR1_EL1"),
    none⟩

def doAA64DFR0Read : Handler :=
  ⟨.ulonglong, false, some (.asm01 "MRS %0, ID_AA64DFR0_EL1"),
    none⟩

def doAA64DFR1Read : Handler :=
  ⟨.ulonglong, false, some (.asm01 "MRS %0, ID_AA64DFR1_EL1"),
    none⟩

def doAA64ISAR0Read : Handler :=
  ⟨.ulonglong, false, some (.asm01 "MRS %0, ID_AA64ISAR0_EL1"),
    none⟩

def doAA64ISAR1Read : Handler :=
  ⟨.ulonglong, false, some (.asm01 "MRS %0, ID_AA64ISAR1_EL1"),
    none⟩

def doAA64MMFR0Read : Handler :=
  ⟨.ulonglong, false, some (.asm01 "MRS %0, ID_AA64MMFR0_EL1"),
    none⟩

def doAA64MMFR1Read : Handler :=
  ⟨.ulonglong, false, some (.asm01 "MRS %0, ID_AA64MMFR1_EL1"),
    none⟩

def doAA64PFR0Read : Handler :=
  ⟨.ulonglong, false, some (.asm01 "MRS %0, ID_AA64PFR0_EL1"),
    none⟩

def doAA64PFR1Read : Handler :=
  ⟨.ulonglong, false, some (.asm01 "MRS %0, ID_AA64PFR1_EL1"),
    none⟩

def doCURRENTELRead : Handler :=
  ⟨.uint, false, some (.asm01 "MRS %0, CurrentEL"),
    none⟩

def doDAIFRead : Handler :=
  ⟨.uint, false, some (.asm01 "MRS %0, DAIF"),
    none⟩

def doFPCRRead : Handler :=
  ⟨.uint, false, some (.asm01 "MRS %0, FPCR"),
    none⟩

def doFPSRRead : Handler :=
  ⟨.uint, false, some (.asm01 "MRS %0, FPSR"),
    none⟩

def doNZCVRead : Handler :=
  ⟨.uint, false, some (.asm01 "MRS %0, NZCV"),
    none⟩

def doSPSELRead : Handler :=
  ⟨.uint, false, some (.asm01 "MRS %0, SPSEL"),
    none⟩

-- =========================================== program status register (psr.c)

def doAPSRRead : Handler :=
  ⟨.uint, false, none,
    some (.asm01 "MRS %0, APSR")⟩

def doCPSRRead : Handler :=
  ⟨.uint, false, none,
    some (.asm01 "MRS %0, CPSR")⟩

def doSPSRRead : Handler :=
  ⟨.uint, false, none,
    some (.asm01 "MRS %0, SPSR")⟩

end Maplesyrup
