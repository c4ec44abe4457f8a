/-
The dispatch table `func_table` (common/jumptable.c) and its search,
which the kernel module and the library each have a copy of
(`find_function_index`).

The table ends in an all-zero row that the size counts, so the search
runs over it: code 0 finds it. Its prototype tag is the legal
`FUNCTYPE_OUT_1`, its size tag no legal size.
-/
import Maplesyrup.Common.Handlers

namespace Maplesyrup

open MsSysreg

-- ============================================== prototype and size tags

def functypeOut1 : U32 := 0
def functypeOut2 : U32 := 1
def functypeBits32 : U32 := 2
def functypeBits64 : U32 := 3
def functypeBitsArch : U32 := 4

/-- A row of the dispatch table. -/
structure FuncTableEntry where
  code : U32
  funcPtr : Option Handler
  functionPrototype : U32
  dataSize : U32
deriving DecidableEq, Repr

/-- The executors have a case for this prototype and size. -/
def FuncTableEntry.supported (e : FuncTableEntry) : Bool :=
  (e.functionPrototype == functypeOut1
      && (e.dataSize == functypeBits32 || e.dataSize == functypeBits64
        || e.dataSize == functypeBitsArch))
    || (e.functionPrototype == functypeOut2
      && (e.dataSize == functypeBits32 || e.dataSize == functypeBitsArch))

-- ============================================================ the table

def funcTable : List FuncTableEntry := [
  ⟨MIDR, some doMIDRRead, functypeOut1, functypeBits32⟩,
  ⟨CTR, some doCTRRead, functypeOut1, functypeBits32⟩,
  ⟨TCMTR, some doTCMTRRead, functypeOut1, functypeBits32⟩,
  ⟨TLBTR, some doTLBTRRead, functypeOut1, functypeBits32⟩,
  ⟨MPIDR, some doMPIDRRead, functypeOut1, functypeBitsArch⟩,
  ⟨REVIDR, some doREVIDRRead, functypeOut1, functypeBits32⟩,
  ⟨AFR0, some doAFR0Read, functypeOut1, functypeBits32⟩,
  ⟨MMFR0, some doMMFR0Read, functypeOut1, functypeBits32⟩,
  ⟨MMFR1, some doMMFR1Read, functypeOut1, functypeBits32⟩,
  ⟨MMFR2, some doMMFR2Read, functypeOut1, functypeBits32⟩,
  ⟨MMFR3, some doMMFR3Read, functypeOut1, functypeBits32⟩,
  ⟨PFR0, some doPFR0Read, functypeOut1, functypeBits32⟩,
  ⟨PFR1, some doPFR1Read, functypeOut1, functypeBits32⟩,
  ⟨ISAR0, some doISAR0Read, functypeOut1, functypeBits32⟩,
  ⟨ISAR1, some doISAR1Read, functypeOut1, functypeBits32⟩,
  ⟨ISAR2, some doISAR2Read, functypeOut1, functypeBits32⟩,
  ⟨ISAR3, some doISAR3Read, functypeOut1, functypeBits32⟩,
  ⟨ISAR4, some doISAR4Read, functypeOut1, functypeBits32⟩,
  ⟨ISAR5, some doISAR5Read, functypeOut1, functypeBits32⟩,
  ⟨CLIDR, some doCLIDRRead, functypeOut1, functypeBitsArch⟩,
  ⟨AIDR, some doAIDRRead, functypeOut1, functypeBits32⟩,
  ⟨CSSELR, some doCSSELRRead, functypeOut1, functypeBits32⟩,
  ⟨DFR0, some doDFR0Read, functypeOut1, functypeBits32⟩,
  ⟨CCSIDR, some doCCSIDRRead, functypeOut1, functypeBits32⟩,
  ⟨SCTLR, some doSCTLRRead, functypeOut1, functypeBits32⟩,
  ⟨PRRR, some doPRRRRead, functypeOut1, functypeBits32⟩,
  ⟨MAIR, some doMAIRRead, functypeOut1, functypeBits64⟩,
  ⟨MAIR0, some doMAIR0Read, functypeOut1, functypeBits32⟩,
  ⟨MAIR1, some doMAIR1Read, functypeOut1, functypeBits32⟩,
  ⟨NMRR, some doNMRRRead, functypeOut1, functypeBits32⟩,
  ⟨TTBCR, some doTTBCRRead, functypeOut1, functypeBitsArch⟩,
  ⟨TTBR0, some doTTBR0Read, functypeOut1, functypeBitsArch⟩,
  ⟨TTBR0LPAE, some doTTBR0LPAERead, functypeOut2, functypeBits32⟩,
  ⟨TTBR1, some doTTBR1Read, functypeOut1, functypeBitsArch⟩,
  ⟨TTBR1LPAE, some doTTBR1LPAERead, functypeOut2, functypeBits32⟩,
  ⟨CONTEXTIDR, some doCONTEXTIDRRead, functypeOut1, functypeBits32⟩,
  ⟨AMAIR0, some doAMAIR0Read, functypeOut1, functypeBits32⟩,
  ⟨AMAIR1, some doAMAIR1Read, functypeOut1, functypeBits32⟩,
  ⟨AMAIR, some doAMAIRRead, functypeOut1, functypeBits64⟩,
  ⟨DACR, some doDACRRead, functypeOut1, functypeBits32⟩,
  ⟨DCZID, some doDCZIDRead, functypeOut1, functypeBits32⟩,
  ⟨IFAR, some doIFARRead, functypeOut1, functypeBits32⟩,
  ⟨IFSR, some doIFSRRead, functypeOut1, functypeBits32⟩,
  ⟨ADFSR, some doADFSRRead, functypeOut1, functypeBits32⟩,
  ⟨AIFSR, some doAIFSRRead, functypeOut1, functypeBits32⟩,
  ⟨DFAR, some doDFARRead, functypeOut1, functypeBits32⟩,
  ⟨DFSR, some doDFSRRead, functypeOut1, functypeBits32⟩,
  ⟨FAR, some doFARRead, functypeOut1, functypeBits64⟩,
  ⟨PMCCFILTR, some doPMCCFILTRRead, functypeOut1, functypeBits32⟩,
  ⟨PMCR, some doPMCRRead, functypeOut1, functypeBits32⟩,
  ⟨PMCCNTR, some doPMCCNTRRead, functypeOut1, functypeBitsArch⟩,
  ⟨PMCEID0, some doPMCEID0Read, functypeOut1, functypeBits32⟩,
  ⟨PMCEID1, some doPMCEID1Read, functypeOut1, functypeBits32⟩,
  ⟨PMCNTENCLR, some doPMCNTENCLRRead, functypeOut1, functypeBits32⟩,
  ⟨PMCNTENSET, some doPMCNTENSETRead, functypeOut1, functypeBits32⟩,
  ⟨PMINTENCLR, some doPMINTENCLRRead, functypeOut1, functypeBits32⟩,
  ⟨PMINTENSET, some doPMINTENSETRead, functypeOut1, functypeBits32⟩,
  ⟨PMOVSR, some doPMOVSRRead, functypeOut1, functypeBits32⟩,
  ⟨PMOVSCLR, some doPMOVSCLRRead, functypeOut1, functypeBits32⟩,
  ⟨PMOVSSET, some doPMOVSSETRead, functypeOut1, functypeBits32⟩,
  ⟨PMSELR, some doPMSELRRead, functypeOut1, functypeBits32⟩,
  ⟨PMSWINC, some doPMSWINCRead, functypeOut1, functypeBits32⟩,
  ⟨PMUSERENR, some doPMUSERENRRead, functypeOut1, functypeBits32⟩,
  ⟨PMXEVCNTR, some doPMXEVCNTRRead, functypeOut1, functypeBits32⟩,
  ⟨PMXEVTYPER, some doPMXEVTYPERRead, functypeOut1, functypeBits32⟩,
  ⟨VBAR, some doVBARRead, functypeOut1, functypeBitsArch⟩,
  ⟨ISR, some doISRRead, functypeOut1, functypeBits32⟩,
  ⟨MVBAR, some doMVBARRead, functypeOut1, functypeBits32⟩,
  ⟨NSACR, some doNSACRRead, functypeOut1, functypeBits32⟩,
  ⟨SCR, some doSCRRead, functypeOut1, functypeBits32⟩,
  ⟨SDER, some doSDERRead, functypeOut1, functypeBits32⟩,
  ⟨CPACR, some doCPACRRead, functypeOut1, functypeBits32⟩,
  ⟨FCSEIDR, some doFCSEIDRRead, functypeOut1, functypeBits32⟩,
  ⟨RMR, some doRMRRead, functypeOut1, functypeBits32⟩,
  ⟨RVBAR, some doRVBARRead, functypeOut1, functypeBits32⟩,
  ⟨PAR, some doPARRead, functypeOut1, functypeBitsArch⟩,
  ⟨FPEXC, some doFPEXCRead, functypeOut1, functypeBits32⟩,
  ⟨FPSCR, some doFPSCRRead, functypeOut1, functypeBits32⟩,
  ⟨FPSID, some doFPSIDRead, functypeOut1, functypeBits32⟩,
  ⟨MVFR0, some doMVFR0Read, functypeOut1, functypeBits32⟩,
  ⟨MVFR1, some doMVFR1Read, functypeOut1, functypeBits32⟩,
  ⟨MVFR2, some doMVFR2Read, functypeOut1, functypeBits32⟩,
  ⟨DBGDIDR, some doDBGDIDRRead, functypeOut1, functypeBits32⟩,
  ⟨DBGAUTHSTATUS, some doDBGAUTHSTATUSRead, functypeOut1, functypeBits32⟩,
  ⟨DBGDRAR, some doDBGDRARRead, functypeOut1, functypeBits64⟩,
  ⟨DBGDSCR, some doDBGDSCRRead, functypeOut1, functypeBits32⟩,
  ⟨TPIDRPRW, some doTPIDRPRWRead, functypeOut1, functypeBitsArch⟩,
  ⟨TPIDRURO, some doTPIDRURORead, functypeOut1, functypeBitsArch⟩,
  ⟨TPIDRURW, some doTPIDRURWRead, functypeOut1, functypeBitsArch⟩,
  ⟨JIDR, some doJIDRRead, functypeOut1, functypeBits32⟩,
  ⟨JMCR, some doJMCRRead, functypeOut1, functypeBits32⟩,
  ⟨JOSCR, some doJOSCRRead, functypeOut1, functypeBits32⟩,
  ⟨TEECR, some doTEECRRead, functypeOut1, functypeBits32⟩,
  ⟨TEEHBR, some doTEEHBRRead, functypeOut1, functypeBits32⟩,
  ⟨CPUMERRSR, some doCPUMERRSRRead, functypeOut2, functypeBitsArch⟩,
  ⟨L2MERRSR, some doL2MERRSRRead, functypeOut2, functypeBitsArch⟩,
  ⟨L2ACTLR, some doL2ACTLRRead, functypeOut1, functypeBits32⟩,
  ⟨ACTLR, some doACTLRRead, functypeOut1, functypeBits32⟩,
  ⟨ACTLR2, some doACTLR2Read, functypeOut1, functypeBits32⟩,
  ⟨CPUACTLR, some doCPUACTLRRead, functypeOut1, functypeBits64⟩,
  ⟨L2PFR, some doL2PFRRead, functypeOut1, functypeBits32⟩,
  ⟨L2CTLR, some doL2CTLRRead, functypeOut1, functypeBits32⟩,
  ⟨L2ECTLR, some doL2ECTLRRead, functypeOut1, functypeBits32⟩,
  ⟨CPUECTLR, some doCPUECTLRRead, functypeOut1, functypeBits64⟩,
  ⟨IL1DATA0, some doIL1DATA0Read, functypeOut1, functypeBits32⟩,
  ⟨IL1DATA1, some doIL1DATA1Read, functypeOut1, functypeBits32⟩,
  ⟨IL1DATA2, some doIL1DATA2Read, functypeOut1, functypeBits32⟩,
  ⟨IL1DATA3, some doIL1DATA3Read, functypeOut1, functypeBits32⟩,
  ⟨DL1DATA0, some doDL1DATA0Read, functypeOut1, functypeBits32⟩,
  ⟨DL1DATA1, some doDL1DATA1Read, functypeOut1, functypeBits32⟩,
  ⟨DL1DATA2, some doDL1DATA2Read, functypeOut1, functypeBits32⟩,
  ⟨DL1DATA3, some doDL1DATA3Read, functypeOut1, functypeBits32⟩,
  ⟨CBAR, some doCBARRead, functypeOut1, functypeBitsArch⟩,
  ⟨AA64AFR0, some doAA64AFR0Read, functypeOut1, functypeBits64⟩,
  ⟨AA64AFR1, some doAA64AFR1Read, functypeOut1, functypeBits64⟩,
  ⟨AA64DFR0, some doAA64DFR0Read, functypeOut1, functypeBits64⟩,
  ⟨AA64DFR1, some doAA64DFR1Read, functypeOut1, functypeBits64⟩,
  ⟨AA64ISAR0, some doAA64ISAR0Read, functypeOut1, functypeBits64⟩,
  ⟨AA64ISAR1, some doAA64ISAR1Read, functypeOut1, functypeBits64⟩,
  ⟨AA64MMFR0, some doAA64MMFR0Read, functypeOut1, functypeBits64⟩,
  ⟨AA64MMFR1, some doAA64MMFR1Read, functypeOut1, functypeBits64⟩,
  ⟨AA64PFR0, some doAA64PFR0Read, functypeOut1, functypeBits64⟩,
  ⟨AA64PFR1, some doAA64PFR1Read, functypeOut1, functypeBits64⟩,
  ⟨CURRENTEL, some doCURRENTELRead, functypeOut1, functypeBits32⟩,
  ⟨DAIF, some doDAIFRead, functypeOut1, functypeBits32⟩,
  ⟨FPCR, some doFPCRRead, functypeOut1, functypeBits32⟩,
  ⟨FPSR, some doFPSRRead, functypeOut1, functypeBits32⟩,
  ⟨NZCV, some doNZCVRead, functypeOut1, functypeBits32⟩,
  ⟨SPSEL, some doSPSELRead, functypeOut1, functypeBits32⟩,
  ⟨APSR, some doAPSRRead, functypeOut1, functypeBits32⟩,
  ⟨CPSR, some doCPSRRead, functypeOut1, functypeBits32⟩,
  ⟨SPSR, some doSPSRRead, functypeOut1, functypeBits32⟩,
  ⟨0, none, 0, 0⟩]

/-- Entries in the table, the terminating row included. -/
def returnTableSize : Nat := funcTable.length

/-- Index of the first row with this code. -/
def findFunctionIndex (ioctl : U32) : Option Nat :=
  funcTable.findIdx? fun e => e.code == ioctl

/-- A found index is in the table and its row has the code. -/
theorem findFunctionIndex_spec {ioctl : U32} {i : Nat}
    (h : findFunctionIndex ioctl = some i) :
    ∃ e, funcTable[i]? = some e ∧ e.code = ioctl := by
  obtain ⟨hlt, hcode, -⟩ := List.findIdx?_eq_some_iff_getElem.1 h
  exact ⟨funcTable[i], List.getElem?_eq_getElem hlt, by simpa using hcode⟩

/-- The search succeeds exactly on the codes of the table. -/
theorem findFunctionIndex_isSome (ioctl : U32) :
    (findFunctionIndex ioctl).isSome
      ↔ ∃ e ∈ funcTable, e.code = ioctl := by
  simp [findFunctionIndex]

end Maplesyrup
