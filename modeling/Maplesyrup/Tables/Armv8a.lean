/-
The ARMv8-A decode table and the tables of its implementations
(lib/src/bitfields/bitfield_armv8a.c, bitfield_cortex-a53.c and
bitfield_cortex-a57.c), row by row.
-/
import Maplesyrup.Common.Registers

namespace Maplesyrup

open MsSysreg

def bitfieldArmv8aTable : List BitfieldInfo := [
  ⟨1, 0, PFR0, nsPrivilegeLevel1, 0, 4, "State0", "ident", "PFR0", "ARM instruction set support"⟩,
  ⟨1, 1, PFR0, nsPrivilegeLevel1, 4, 4, "State1", "ident", "PFR0", "Thumb instruction set support"⟩,
  ⟨1, 2, PFR0, nsPrivilegeLevel1, 8, 4, "State2", "ident", "PFR0", "Jazelle extension support"⟩,
  ⟨1, 3, PFR0, nsPrivilegeLevel1, 12, 4, "State3", "ident", "PFR0", "ThumbEE instruction set support"⟩,
  ⟨1, 4, PFR0, nsPrivilegeLevel1, 16, 16, "Reserved", "ident", "PFR0", "Reserved"⟩,
  ⟨1, 0, PFR1, nsPrivilegeLevel1, 0, 4, "Programmers' model", "ident", "PFR1", "Programmers' model"⟩,
  ⟨1, 1, PFR1, nsPrivilegeLevel1, 4, 4, "Security", "ident", "PFR1", "Security support"⟩,
  ⟨1, 2, PFR1, nsPrivilegeLevel1, 8, 4, "M profile programmers' model", "ident", "PFR1", "M profile programmers' model"⟩,
  ⟨1, 3, PFR1, nsPrivilegeLevel1, 12, 4, "Virtualization Extensions", "ident", "PFR1", "Virtualization Extensions"⟩,
  ⟨1, 4, PFR1, nsPrivilegeLevel1, 16, 4, "Generic Timer Extension", "ident", "PFR1", "Generic Timer Extension"⟩,
  ⟨1, 5, PFR1, nsPrivilegeLevel1, 20, 4, "Sec_frac", "ident", "PFR1", "Security fractional field"⟩,
  ⟨1, 6, PFR1, nsPrivilegeLevel1, 24, 4, "Virt_frac", "ident", "PFR1", "Virtualization fractional field"⟩,
  ⟨1, 7, PFR1, nsPrivilegeLevel1, 28, 4, "GIC", "ident", "PFR1", "System Register GIC CPU interface"⟩,
  ⟨1, 0, AA64PFR0, nsPrivilegeLevel1, 0, 4, "EL0", "ident", "AA64PFR0", "EL0 exception handling"⟩,
  ⟨1, 1, AA64PFR0, nsPrivilegeLevel1, 4, 4, "EL1", "ident", "AA64PFR0", "EL1 exception handling"⟩,
  ⟨1, 2, AA64PFR0, nsPrivilegeLevel1, 8, 4, "EL2", "ident", "AA64PFR0", "EL2 exception handling"⟩,
  ⟨1, 3, AA64PFR0, nsPrivilegeLevel1, 12, 4, "EL3", "ident", "AA64PFR0", "EL3 exception handling"⟩,
  ⟨1, 4, AA64PFR0, nsPrivilegeLevel1, 16, 4, "FP", "ident", "AA64PFR0", "Floating-point implemented"⟩,
  ⟨1, 5, AA64PFR0, nsPrivilegeLevel1, 20, 4, "AdvSIMD", "ident", "AA64PFR0", "Advanced SIMD implemented"⟩,
  ⟨1, 6, AA64PFR0, nsPrivilegeLevel1, 24, 4, "GIC", "ident", "AA64PFR0", "System Register GIC interface"⟩,
  ⟨1, 7, AA64PFR0, nsPrivilegeLevel1, 28, 36, "Reserved", "ident", "AA64PFR0", "Reserved"⟩,
  ⟨1, 0, AA64PFR1, nsPrivilegeLevel1, 0, 64, "Reserved", "ident", "AA64PFR1", "Reserved"⟩,
  ⟨1, 0, DFR0, nsPrivilegeLevel1, 0, 4, "Coprocessor debug model", "ident", "DFR0", "Coprocessor debug model"⟩,
  ⟨1, 1, DFR0, nsPrivilegeLevel1, 4, 4, "Coprocessor secure debug model", "ident", "DFR0", "Coprocessor secure debug model"⟩,
  ⟨1, 2, DFR0, nsPrivilegeLevel1, 8, 4, "Memory-mapped debug model", "ident", "DFR0", " Memory-mapped debug model"⟩,
  ⟨1, 3, DFR0, nsPrivilegeLevel1, 12, 4, "Coprocessor trace model", "ident", "DFR0", " Coprocessor trace model"⟩,
  ⟨1, 4, DFR0, nsPrivilegeLevel1, 16, 4, "Memory-mapped trace model", "ident", "DFR0", "Memory-mapped trace model"⟩,
  ⟨1, 5, DFR0, nsPrivilegeLevel1, 20, 4, "Debug model, M profile", "ident", "DFR0", "Debug model, M profile"⟩,
  ⟨1, 6, DFR0, nsPrivilegeLevel1, 24, 4, "Performance Monitors Extension", "ident", "DFR0", "Performance Monitors Extension"⟩,
  ⟨1, 7, DFR0, nsPrivilegeLevel1, 28, 4, "Reserved", "ident", "DFR0", "Reserved"⟩,
  ⟨1, 0, AFR0, nsPrivilegeLevel1, 0, 4, "Implementation Defined", "ident", "AFR0", "Implementation Defined"⟩,
  ⟨1, 1, AFR0, nsPrivilegeLevel1, 4, 4, "Implementation Defined", "ident", "AFR0", "Implementation Defined"⟩,
  ⟨1, 2, AFR0, nsPrivilegeLevel1, 8, 4, "Implementation Defined", "ident", "AFR0", "Implementation Defined"⟩,
  ⟨1, 3, AFR0, nsPrivilegeLevel1, 12, 4, "Implementation Defined", "ident", "AFR0", "Implementation Defined"⟩,
  ⟨1, 4, AFR0, nsPrivilegeLevel1, 16, 16, "Reserved", "ident", "AFR0", "Reserved"⟩,
  ⟨1, 0, AA64AFR0, nsPrivilegeLevel1, 0, 4, "Implementation Defined", "ident", "AA64AFR0", "Implementation Defined"⟩,
  ⟨1, 1, AA64AFR0, nsPrivilegeLevel1, 4, 4, "Implementation Defined", "ident", "AA64AFR0", "Implementation Defined"⟩,
  ⟨1, 2, AA64AFR0, nsPrivilegeLevel1, 8, 4, "Implementation Defined", "ident", "AA64AFR0", "Implementation Defined"⟩,
  ⟨1, 3, AA64AFR0, nsPrivilegeLevel1, 12, 4, "Implementation Defined", "ident", "AA64AFR0", "Implementation Defined"⟩,
  ⟨1, 4, AA64AFR0, nsPrivilegeLevel1, 16, 4, "Implementation Defined", "ident", "AA64AFR0", "Implementation Defined"⟩,
  ⟨1, 5, AA64AFR0, nsPrivilegeLevel1, 20, 4, "Implementation Defined", "ident", "AA64AFR0", "Implementation Defined"⟩,
  ⟨1, 6, AA64AFR0, nsPrivilegeLevel1, 24, 4, "Implementation Defined", "ident", "AA64AFR0", "Implementation Defined"⟩,
  ⟨1, 7, AA64AFR0, nsPrivilegeLevel1, 28, 4, "Implementation Defined", "ident", "AA64AFR0", "Implementation Defined"⟩,
  ⟨1, 8, AA64AFR0, nsPrivilegeLevel1, 32, 32, "Reserved", "ident", "AA64AFR0", "Reserved"⟩,
  ⟨1, 0, AA64AFR1, nsPrivilegeLevel1, 0, 64, "Implementation Defined", "ident", "AA64AFR1", "Implementation Defined"⟩,
  ⟨1, 0, AA64DFR0, nsPrivilegeLevel1, 0, 4, "DebugVer", "ident", "AA64DFR0", "Debug architecture version"⟩,
  ⟨1, 1, AA64DFR0, nsPrivilegeLevel1, 4, 4, "TraceVer", "ident", "AA64DFR0", "Trace support"⟩,
  ⟨1, 2, AA64DFR0, nsPrivilegeLevel1, 8, 4, "PMUVer", "ident", "AA64DFR0", "Performance Monitors extension version"⟩,
  ⟨1, 3, AA64DFR0, nsPrivilegeLevel1, 12, 4, "BRPs", "ident", "AA64DFR0", "Number of breakpoints"⟩,
  ⟨1, 4, AA64DFR0, nsPrivilegeLevel1, 16, 4, "Reserved", "ident", "AA64DFR0", "Reserved"⟩,
  ⟨1, 5, AA64DFR0, nsPrivilegeLevel1, 20, 4, "WRPs", "ident", "AA64DFR0", "Number of watchpoints"⟩,
  ⟨1, 6, AA64DFR0, nsPrivilegeLevel1, 24, 4, "Reserved", "ident", "AA64DFR0", "Reserved"⟩,
  ⟨1, 7, AA64DFR0, nsPrivilegeLevel1, 28, 4, "CTX_CMPs", "ident", "AA64DFR0", "Number of breakpoints that are context aware"⟩,
  ⟨1, 8, AA64DFR0, nsPrivilegeLevel1, 32, 32, "Reserved", "ident", "AA64DFR0", "Reserved"⟩,
  ⟨1, 0, AA64DFR1, nsPrivilegeLevel1, 0, 64, "Reserved", "ident", "AA64DFR1", "Reserved"⟩,
  ⟨1, 0, MMFR0, nsPrivilegeLevel1, 0, 4, "VMSA support", "ident", "MMFR0", "VMSA Support"⟩,
  ⟨1, 1, MMFR0, nsPrivilegeLevel1, 4, 4, "PMSA support", "ident", "MMFR0", "PMSA Support"⟩,
  ⟨1, 2, MMFR0, nsPrivilegeLevel1, 8, 4, "Outermost shareability", "ident", "MMFR0", "Outermost shareability"⟩,
  ⟨1, 3, MMFR0, nsPrivilegeLevel1, 12, 4, "Shareability levels", "ident", "MMFR0", "Shareability levels"⟩,
  ⟨1, 4, MMFR0, nsPrivilegeLevel1, 16, 4, "TCM support", "ident", "MMFR0", "TCM/DMA Support"⟩,
  ⟨1, 5, MMFR0, nsPrivilegeLevel1, 20, 4, "Auxiliary registers", "ident", "MMFR0", "Auxiliary registers"⟩,
  ⟨1, 6, MMFR0, nsPrivilegeLevel1, 24, 4, "FCSE support", "ident", "MMFR0", "FCSE support"⟩,
  ⟨1, 7, MMFR0, nsPrivilegeLevel1, 28, 4, "Innermost shareability", "ident", "MMFR0", "Innermost shareability"⟩,
  ⟨1, 0, MMFR1, nsPrivilegeLevel1, 0, 4, "L1 Harvard cache VA", "ident", "MMFR1", "L1 Harvard cache VA"⟩,
  ⟨1, 1, MMFR1, nsPrivilegeLevel1, 4, 4, "L1 unified cache VA", "ident", "MMFR1", "L1 unified cache VA"⟩,
  ⟨1, 2, MMFR1, nsPrivilegeLevel1, 8, 4, "L1 Harvard cache set/way", "ident", "MMFR1", "Harvard cache set/way"⟩,
  ⟨1, 3, MMFR1, nsPrivilegeLevel1, 12, 4, "L1 unified cache set/way", "ident", "MMFR1", "L1 unified cache set/way"⟩,
  ⟨1, 4, MMFR1, nsPrivilegeLevel1, 16, 4, "L1 Harvard cache", "ident", "MMFR1", "L1 Harvard cache"⟩,
  ⟨1, 5, MMFR1, nsPrivilegeLevel1, 20, 4, "L1 unified cache VA", "ident", "MMFR1", "L1 unified cache"⟩,
  ⟨1, 6, MMFR1, nsPrivilegeLevel1, 24, 4, "L1 cache test and clean", "ident", "MMFR1", "L1 cache test and clean"⟩,
  ⟨1, 7, MMFR1, nsPrivilegeLevel1, 28, 4, "Branch predictor", "ident", "MMFR1", "Branch predictor"⟩,
  ⟨1, 0, MMFR2, nsPrivilegeLevel1, 0, 4, "L1 Harvard fg fetch", "ident", "MMFR2", "L1 Harvard fg fetch"⟩,
  ⟨1, 1, MMFR2, nsPrivilegeLevel1, 4, 4, "L1 Harvard bg fetch", "ident", "MMFR2", "L1 Harvard bg fetch"⟩,
  ⟨1, 2, MMFR2, nsPrivilegeLevel1, 8, 4, "L1 Harvard range", "ident", "MMFR2", "L1 Harvard range"⟩,
  ⟨1, 3, MMFR2, nsPrivilegeLevel1, 12, 4, "Harvard TLB", "ident", "MMFR2", "Harvard TLB"⟩,
  ⟨1, 4, MMFR2, nsPrivilegeLevel1, 16, 4, "Unified TLB", "ident", "MMFR2", "Unified TLB"⟩,
  ⟨1, 5, MMFR2, nsPrivilegeLevel1, 20, 4, "Mem barrier", "ident", "MMFR2", "Mem barrier"⟩,
  ⟨1, 6, MMFR2, nsPrivilegeLevel1, 24, 4, "WFI stall", "ident", "MMFR2", "WFI stall"⟩,
  ⟨1, 7, MMFR2, nsPrivilegeLevel1, 28, 4, "HW Access flag", "ident", "MMFR2", "HW Access flag"⟩,
  ⟨1, 0, MMFR3, nsPrivilegeLevel1, 0, 4, "Cache maintain MVA", "ident", "MMFR3", "Cache maintain MVA"⟩,
  ⟨1, 1, MMFR3, nsPrivilegeLevel1, 4, 4, "Cache maintain set/way", "ident", "MMFR3", "Cache maintain set/way"⟩,
  ⟨1, 2, MMFR3, nsPrivilegeLevel1, 8, 4, "BP maintain", "ident", "MMFR3", "BP maintain"⟩,
  ⟨1, 3, MMFR3, nsPrivilegeLevel1, 12, 4, "Maintenance broadcast", "ident", "MMFR3", "Maintenance broadcast"⟩,
  ⟨1, 4, MMFR3, nsPrivilegeLevel1, 16, 4, "Reserved", "ident", "MMFR3", "Reserved"⟩,
  ⟨1, 5, MMFR3, nsPrivilegeLevel1, 20, 4, "Coherent walk", "ident", "MMFR3", "Coherent walk"⟩,
  ⟨1, 6, MMFR3, nsPrivilegeLevel1, 24, 4, "Cached memory size", "ident", "MMFR3", "Cached memory size"⟩,
  ⟨1, 7, MMFR3, nsPrivilegeLevel1, 28, 4, "Supersection support", "ident", "MMFR3", "Supersection support"⟩,
  ⟨1, 0, MMFR4, nsPrivilegeLevel1, 0, 4, "Reserved", "ident", "MMFR4", "Reserved"⟩,
  ⟨1, 1, MMFR4, nsPrivilegeLevel1, 0, 4, "AC2", "ident", "MMFR4", "Extension of ACTLR/HACTLR into register ACTLR2/HACTLR2"⟩,
  ⟨1, 2, MMFR4, nsPrivilegeLevel1, 0, 4, "Reserved", "ident", "MMFR4", "Reserved"⟩,
  ⟨1, 3, MMFR4, nsPrivilegeLevel1, 0, 4, "Reserved", "ident", "MMFR4", "Reserved"⟩,
  ⟨1, 4, MMFR4, nsPrivilegeLevel1, 0, 4, "Reserved", "ident", "MMFR4", "Reserved"⟩,
  ⟨1, 5, MMFR4, nsPrivilegeLevel1, 0, 4, "Reserved", "ident", "MMFR4", "Reserved"⟩,
  ⟨1, 6, MMFR4, nsPrivilegeLevel1, 0, 4, "Reserved", "ident", "MMFR4", "Reserved"⟩,
  ⟨1, 7, MMFR4, nsPrivilegeLevel1, 0, 4, "Reserved", "ident", "MMFR4", "Reserved"⟩,
  ⟨1, 0, AA64MMFR0, nsPrivilegeLevel1, 0, 4, "PARange", "ident", "AA64MMFR0", "Physical address range supported"⟩,
  ⟨1, 1, AA64MMFR0, nsPrivilegeLevel1, 4, 4, "ASIDBits", "ident", "AA64MMFR0", "Number of ASID bits supported"⟩,
  ⟨1, 2, AA64MMFR0, nsPrivilegeLevel1, 8, 4, "BigEnd", "ident", "AA64MMFR0", "Mixed-endian configuration support"⟩,
  ⟨1, 3, AA64MMFR0, nsPrivilegeLevel1, 12, 4, "SNSMem", "ident", "AA64MMFR0", "Secure versus non-secure memory distinction"⟩,
  ⟨1, 4, AA64MMFR0, nsPrivilegeLevel1, 16, 4, "BigEndEL0", "ident", "AA64MMFR0", "Mixed-endian support at EL0 only"⟩,
  ⟨1, 5, AA64MMFR0, nsPrivilegeLevel1, 20, 4, "TGran16", "ident", "AA64MMFR0", "Support for 16KB memory translation granule size"⟩,
  ⟨1, 6, AA64MMFR0, nsPrivilegeLevel1, 24, 4, "TGran64", "ident", "AA64MMFR0", "Support for 64KB memory translation granule size"⟩,
  ⟨1, 7, AA64MMFR0, nsPrivilegeLevel1, 28, 4, "TGran4", "ident", "AA64MMFR0", "Support for 4KB memory translation granule size"⟩,
  ⟨1, 8, AA64MMFR0, nsPrivilegeLevel1, 32, 32, "Reserved", "ident", "AA64MMFR0", "Reserved"⟩,
  ⟨1, 0, AA64MMFR1, nsPrivilegeLevel1, 0, 64, "Reserved", "ident", "AA64MMFR1", "Reserved"⟩,
  ⟨1, 0, ISAR0, nsPrivilegeLevel1, 0, 4, "Swap_instrs", "ident", "ISAR0", "Swap_instrs"⟩,
  ⟨1, 1, ISAR0, nsPrivilegeLevel1, 4, 4, "BitCount_instrs", "ident", "ISAR0", "BitCount_instrs"⟩,
  ⟨1, 2, ISAR0, nsPrivilegeLevel1, 8, 4, "Bitfield_instrs", "ident", "ISAR0", "Bitfield_instrs"⟩,
  ⟨1, 3, ISAR0, nsPrivilegeLevel1, 12, 4, "CmpBranch_instrs", "ident", "ISAR0", "Compare and Branch instructions"⟩,
  ⟨1, 4, ISAR0, nsPrivilegeLevel1, 16, 4, "Coproc_instrs", "ident", "ISAR0", "Coprocessor instructions"⟩,
  ⟨1, 5, ISAR0, nsPrivilegeLevel1, 20, 4, "Debug_instrs", "ident", "ISAR0", "Debug instructions"⟩,
  ⟨1, 6, ISAR0, nsPrivilegeLevel1, 24, 4, "Divide_instrs", "ident", "ISAR0", "Divide instructions"⟩,
  ⟨1, 7, ISAR0, nsPrivilegeLevel1, 28, 4, "Reserved", "ident", "ISAR0", "Reserved"⟩,
  ⟨1, 0, ISAR1, nsPrivilegeLevel1, 0, 4, "Ending_instrs", "ident", "ISAR1", "Endian instructions"⟩,
  ⟨1, 1, ISAR1, nsPrivilegeLevel1, 4, 4, "Except_instrs", "ident", "ISAR1", "Exception-handling instructions"⟩,
  ⟨1, 2, ISAR1, nsPrivilegeLevel1, 8, 4, "Except_AR_instrs", "ident", "ISAR1", "A & R profile exception-handling instructions"⟩,
  ⟨1, 3, ISAR1, nsPrivilegeLevel1, 12, 4, "Extend_instrs", "ident", "ISAR1", "Extend instructions"⟩,
  ⟨1, 4, ISAR1, nsPrivilegeLevel1, 16, 4, "IfThen_instrs", "ident", "ISAR1", "If-Then instructions in Thumb"⟩,
  ⟨1, 5, ISAR1, nsPrivilegeLevel1, 20, 4, "Immediate_instrs", "ident", "ISAR1", "Data processing instructions on long immediates"⟩,
  ⟨1, 6, ISAR1, nsPrivilegeLevel1, 24, 4, "Interwork_instrs", "ident", "ISAR1", "Interworking instructions"⟩,
  ⟨1, 7, ISAR1, nsPrivilegeLevel1, 28, 4, "Jazelle_instrs", "ident", "ISAR1", "Jazelle extension instructions"⟩,
  ⟨1, 0, ISAR2, nsPrivilegeLevel1, 0, 4, "LoadStore_instrs", "ident", "ISAR2", "Additional load/store instructions"⟩,
  ⟨1, 1, ISAR2, nsPrivilegeLevel1, 4, 4, "MemHint_instrs", "ident", "ISAR2", "Memory Hint instructions"⟩,
  ⟨1, 2, ISAR2, nsPrivilegeLevel1, 8, 4, "MultiAccessInt_instrs", "ident", "ISAR2", "Interruptible multi-access instructions"⟩,
  ⟨1, 3, ISAR2, nsPrivilegeLevel1, 12, 4, "Mult_instrs", "ident", "ISAR2", "Additional multiply instructions"⟩,
  ⟨1, 4, ISAR2, nsPrivilegeLevel1, 16, 4, "MultS_instrs", "ident", "ISAR2", "Advanced signed Multiply instructions"⟩,
  ⟨1, 5, ISAR2, nsPrivilegeLevel1, 20, 4, "MultU_instrs", "ident", "ISAR2", "Advanced unsigned Multiply instructions"⟩,
  ⟨1, 6, ISAR2, nsPrivilegeLevel1, 24, 4, "PSR_AR_instrs", "ident", "ISAR2", "Instructions to manipulate PSR"⟩,
  ⟨1, 7, ISAR2, nsPrivilegeLevel1, 28, 4, "Reversal_instrs", "ident", "ISAR2", "Implemented Reversal instructions"⟩,
  ⟨1, 0, ISAR3, nsPrivilegeLevel1, 0, 4, "Saturate_instrs", "ident", "ISAR3", "Implemented Saturate instructions"⟩,
  ⟨1, 1, ISAR3, nsPrivilegeLevel1, 4, 4, "SIMD_instrs", "ident", "ISAR3", "Implemented SIMD instructions"⟩,
  ⟨1, 2, ISAR3, nsPrivilegeLevel1, 8, 4, "SVC_instrs", "ident", "ISAR3", "Implemented SVC instructions"⟩,
  ⟨1, 3, ISAR3, nsPrivilegeLevel1, 12, 4, "SynchPrim_instrs", "ident", "ISAR3", " Synchronization Primitive instructions"⟩,
  ⟨1, 4, ISAR3, nsPrivilegeLevel1, 16, 4, "TabBranch_instrs", "ident", "ISAR3", "Table Branch instructions in Thumb"⟩,
  ⟨1, 5, ISAR3, nsPrivilegeLevel1, 20, 4, "ThumbCopy_instrs", "ident", "ISAR3", "Thumb non-flag setting MOV instructions"⟩,
  ⟨1, 6, ISAR3, nsPrivilegeLevel1, 24, 4, "TrueNOP_instrs", "ident", "ISAR3", "Implemented True NOP instructions"⟩,
  ⟨1, 7, ISAR3, nsPrivilegeLevel1, 28, 4, "ThumbEE_extn_instrs", "ident", "ISAR3", "Thumb Execution Environment Extension instructions"⟩,
  ⟨1, 0, ISAR4, nsPrivilegeLevel1, 0, 4, "Unpriv_instrs", "ident", "ISAR4", "Implemented Unprivileged instructions"⟩,
  ⟨1, 1, ISAR4, nsPrivilegeLevel1, 4, 4, "WithShifts_instrs", "ident", "ISAR4", "Support for instructions with shifts"⟩,
  ⟨1, 2, ISAR4, nsPrivilegeLevel1, 8, 4, "Writeback_instrs", "ident", "ISAR4", "Writeback addressing modes"⟩,
  ⟨1, 3, ISAR4, nsPrivilegeLevel1, 12, 4, "SMC_instrs", "ident", "ISAR4", "SMC instructions"⟩,
  ⟨1, 4, ISAR4, nsPrivilegeLevel1, 16, 4, "Barrier_instrs", "ident", "ISAR4", "Barrier instructions"⟩,
  ⟨1, 5, ISAR4, nsPrivilegeLevel1, 20, 4, "SynchPrim_instrs", "ident", "ISAR4", "Implemented Synchronization Primitive instructions"⟩,
  ⟨1, 6, ISAR4, nsPrivilegeLevel1, 24, 4, "PSR_M_instrs", "ident", "ISAR4", "M profile instructions to modify PSR"⟩,
  ⟨1, 7, ISAR4, nsPrivilegeLevel1, 28, 4, "SWP_frac", "ident", "ISAR4", "Bus locking on SWP or SWPB"⟩,
  ⟨1, 0, ISAR5, nsPrivilegeLevel1, 0, 4, "SEVL", "ident", "ISAR5", "Indicates that SEVL is implemented in AArch32"⟩,
  ⟨1, 1, ISAR5, nsPrivilegeLevel1, 4, 4, "AES", "ident", "ISAR5", "AES implemented in AArch32"⟩,
  ⟨1, 2, ISAR5, nsPrivilegeLevel1, 8, 4, "SHA1", "ident", "ISAR5", "SHA1 implemented in AArch32"⟩,
  ⟨1, 3, ISAR5, nsPrivilegeLevel1, 12, 4, "SHA2", "ident", "ISAR5", "SHA2 implemented in AArch32"⟩,
  ⟨1, 4, ISAR5, nsPrivilegeLevel1, 16, 4, "CRC32", "ident", "ISAR5", "CRC32 implemented in AArch32"⟩,
  ⟨1, 5, ISAR5, nsPrivilegeLevel1, 20, 12, "Reserved", "ident", "ISAR5", "Reserved"⟩,
  ⟨1, 0, AA64ISAR0, nsPrivilegeLevel1, 0, 4, "Reserved", "ident", "AA64ISAR0", "Reserved"⟩,
  ⟨1, 1, AA64ISAR0, nsPrivilegeLevel1, 4, 4, "AES", "ident", "AA64ISAR0", "AES instructions implemented"⟩,
  ⟨1, 2, AA64ISAR0, nsPrivilegeLevel1, 8, 4, "SHA1", "ident", "AA64ISAR0", "SHA1 instructions implemented"⟩,
  ⟨1, 3, AA64ISAR0, nsPrivilegeLevel1, 12, 4, "SHA2", "ident", "AA64ISAR0", "SHA2 instructions implemented"⟩,
  ⟨1, 4, AA64ISAR0, nsPrivilegeLevel1, 16, 4, "CRC32", "ident", "AA64ISAR0", "CRC instructions implemented"⟩,
  ⟨1, 5, AA64ISAR0, nsPrivilegeLevel1, 20, 44, "Reserved", "ident", "AA64ISAR0", "Reserved"⟩,
  ⟨1, 0, AA64ISAR1, nsPrivilegeLevel1, 0, 64, "Reserved", "ident", "AA64ISAR1", "Reserved"⟩,
  ⟨1, 0, REVIDR, nsPrivilegeLevel1, 0, 32, "Reserved", "ident", "REVIDR", "Implementation Defined"⟩,
  ⟨1, 0, TLBTR, nsPrivilegeLevel1, 0, 1, "nU", "ident", "TLBTR", "[0] Not Unified TLB"⟩,
  ⟨1, 1, TLBTR, nsPrivilegeLevel1, 1, 31, "Implementation Defined", "ident", "TLBTR", "Implementation Defined"⟩,
  ⟨1, 0, CCSIDR, nsPrivilegeLevel1, 0, 3, "LineSize", "ident", "CCSIDR", "Number of words in cache line"⟩,
  ⟨1, 1, CCSIDR, nsPrivilegeLevel1, 3, 10, "Associativity", "ident", "CCSIDR", "Associativity of cache"⟩,
  ⟨1, 2, CCSIDR, nsPrivilegeLevel1, 13, 15, "NumSets", "ident", "CCSIDR", "Number of sets in cache"⟩,
  ⟨1, 3, CCSIDR, nsPrivilegeLevel1, 28, 1, "WA", "ident", "CCSIDR", "Write allocation"⟩,
  ⟨1, 4, CCSIDR, nsPrivilegeLevel1, 29, 1, "RA", "ident", "CCSIDR", "Read allocation"⟩,
  ⟨1, 5, CCSIDR, nsPrivilegeLevel1, 30, 1, "WB", "ident", "CCSIDR", "Write back"⟩,
  ⟨1, 6, CCSIDR, nsPrivilegeLevel1, 31, 1, "WT", "ident", "CCSIDR", "Write through"⟩,
  ⟨1, 0, TCMTR, nsPrivilegeLevel1, 0, 29, "Implementation Defined", "ident", "TCMTR", "Implementation Defined"⟩,
  ⟨1, 1, TCMTR, nsPrivilegeLevel1, 29, 3, "Format", "ident", "TCMTR", "Implemented TCMTR format"⟩,
  ⟨1, 0, AIDR, nsPrivilegeLevel1, 0, 32, "Implementation Defined", "ident", "AIDR", "Implementation Defined"⟩,
  ⟨1, 0, CLIDR, nsPrivilegeLevel1, 0, 3, "Ctype1", "ident", "CLIDR", "Cache type"⟩,
  ⟨1, 1, CLIDR, nsPrivilegeLevel1, 3, 3, "Ctype2", "ident", "CLIDR", "Cache type"⟩,
  ⟨1, 2, CLIDR, nsPrivilegeLevel1, 6, 3, "Ctype3", "ident", "CLIDR", "Cache type"⟩,
  ⟨1, 3, CLIDR, nsPrivilegeLevel1, 9, 3, "Ctype4", "ident", "CLIDR", " Cache type"⟩,
  ⟨1, 4, CLIDR, nsPrivilegeLevel1, 12, 3, "Ctype5", "ident", "CLIDR", "Cache type"⟩,
  ⟨1, 5, CLIDR, nsPrivilegeLevel1, 15, 3, "Ctype6", "ident", "CLIDR", "Cache type"⟩,
  ⟨1, 6, CLIDR, nsPrivilegeLevel1, 18, 3, "Ctype7", "ident", "CLIDR", "Cache type"⟩,
  ⟨1, 7, CLIDR, nsPrivilegeLevel1, 21, 3, "LoUIS", "ident", "CLIDR", "Level of Unification Inner Shareable"⟩,
  ⟨1, 8, CLIDR, nsPrivilegeLevel1, 24, 3, "LoC", "ident", "CLIDR", "Level of Coherence"⟩,
  ⟨1, 9, CLIDR, nsPrivilegeLevel1, 27, 3, "LoUU", "ident", "CLIDR", "Level of Unification Uniprocessor"⟩,
  ⟨1, 10, CLIDR, nsPrivilegeLevel1, 30, 2, "Reserved", "ident", "CLIDR", "Reserved"⟩,
  ⟨1, 11, CLIDR, nsPrivilegeLevel1, 32, 32, "Reserved", "ident", "CLIDR", "Reserved"⟩,
  ⟨1, 0, CSSELR, nsPrivilegeLevel1, 0, 1, "InD", "ident", "CSSELR", "Instruction not Data bit"⟩,
  ⟨1, 1, CSSELR, nsPrivilegeLevel1, 1, 3, "Level", "ident", "CSSELR", "Level"⟩,
  ⟨1, 2, CSSELR, nsPrivilegeLevel1, 4, 28, "Reserved", "ident", "CSSELR", "Reserved"⟩,
  ⟨1, 0, CTR, nsPrivilegeLevel0, 0, 4, "IminLine", "ident", "CTR", "IminLine"⟩,
  ⟨1, 1, CTR, nsPrivilegeLevel0, 4, 10, "Reserved", "ident", "CTR", "Reserved"⟩,
  ⟨1, 2, CTR, nsPrivilegeLevel0, 14, 2, "L1Ip", "ident", "CTR", "Level 1 instruction cache policy"⟩,
  ⟨1, 3, CTR, nsPrivilegeLevel0, 16, 4, "DminLine", "ident", "CTR", "DminLine"⟩,
  ⟨1, 4, CTR, nsPrivilegeLevel0, 20, 4, "ERG", "ident", "CTR", "Exclusives Reservation Granule"⟩,
  ⟨1, 5, CTR, nsPrivilegeLevel0, 24, 4, "CWG", "ident", "CTR", "Cache Write-back Granule"⟩,
  ⟨1, 6, CTR, nsPrivilegeLevel0, 28, 3, "Reserved", "ident", "CTR", "Reserved"⟩,
  ⟨1, 7, CTR, nsPrivilegeLevel0, 31, 1, "Reserved", "ident", "CTR", "Reserved"⟩,
  ⟨1, 0, MIDR, nsPrivilegeLevel1, 0, 4, "Revision", "ident", "MIDR", "Revision"⟩,
  ⟨1, 1, MIDR, nsPrivilegeLevel1, 4, 12, "Primary part number", "ident", "MIDR", "Primary part number"⟩,
  ⟨1, 2, MIDR, nsPrivilegeLevel1, 16, 4, "Architecture", "ident", "MIDR", "Architecture"⟩,
  ⟨1, 3, MIDR, nsPrivilegeLevel1, 20, 4, "Variant", "ident", "MIDR", "Variant"⟩,
  ⟨1, 4, MIDR, nsPrivilegeLevel1, 24, 8, "Implementer", "ident", "MIDR", "Implementer"⟩,
  ⟨1, 0, MPIDR, nsPrivilegeLevel1, 0, 8, "Aff0", "ident", "MPIDR", "Affinity level 0"⟩,
  ⟨1, 1, MPIDR, nsPrivilegeLevel1, 8, 8, "Aff1", "ident", "MPIDR", "Affinity level 1"⟩,
  ⟨1, 2, MPIDR, nsPrivilegeLevel1, 16, 8, "Aff2", "ident", "MPIDR", "Affinity level 2"⟩,
  ⟨1, 3, MPIDR, nsPrivilegeLevel1, 24, 1, "MT", "ident", "MPIDR", "Affinity dependence"⟩,
  ⟨1, 4, MPIDR, nsPrivilegeLevel1, 25, 5, "Reserved", "ident", "MPIDR", "Reserved"⟩,
  ⟨1, 5, MPIDR, nsPrivilegeLevel1, 30, 1, "U", "ident", "MPIDR", "Uniprocessor system"⟩,
  ⟨1, 6, MPIDR, nsPrivilegeLevel1, 31, 1, "Reserved", "ident", "MPIDR", "Reserved"⟩,
  ⟨1, 7, MPIDR, nsPrivilegeLevel1, 32, 8, "Aff3", "ident", "MPIDR", "Affinity level 3"⟩,
  ⟨1, 8, MPIDR, nsPrivilegeLevel1, 40, 24, "Reserved", "ident", "MPIDR", "Reserved"⟩,
  ⟨1, 0, FPSID, nsPrivilegeLevel1, 0, 4, "Revision", "fp", "FPSID", "Revision number"⟩,
  ⟨1, 1, FPSID, nsPrivilegeLevel1, 4, 4, "Variant", "fp", "FPSID", "Variant number"⟩,
  ⟨1, 2, FPSID, nsPrivilegeLevel1, 8, 8, "Part Number", "fp", "FPSID", "Part number"⟩,
  ⟨1, 3, FPSID, nsPrivilegeLevel1, 16, 6, "Subarchitecture", "fp", "FPSID", "Subarchitecture version number"⟩,
  ⟨1, 4, FPSID, nsPrivilegeLevel1, 23, 1, "SW", "fp", "FPSID", "Software emulation"⟩,
  ⟨1, 5, FPSID, nsPrivilegeLevel1, 24, 8, "Implementer", "fp", "FPSID", "Implementer"⟩,
  ⟨1, 0, FPSCR, nsPrivilegeLevel1, 0, 1, "IOC", "fp", "FPSCR", "Invalid Operation cumulative exception"⟩,
  ⟨1, 1, FPSCR, nsPrivilegeLevel1, 1, 1, "DZC", "fp", "FPSCR", "Division by Zero cumulative exception"⟩,
  ⟨1, 2, FPSCR, nsPrivilegeLevel1, 2, 1, "OFC", "fp", "FPSCR", "Overflow cumulative exception"⟩,
  ⟨1, 3, FPSCR, nsPrivilegeLevel1, 3, 1, "UFC", "fp", "FPSCR", "Underflow cumulative exception"⟩,
  ⟨1, 4, FPSCR, nsPrivilegeLevel1, 4, 1, "IXC", "fp", "FPSCR", "Inexact cumulative exception"⟩,
  ⟨1, 5, FPSCR, nsPrivilegeLevel1, 5, 2, "Reserved", "fp", "FPSCR", "Reserved"⟩,
  ⟨1, 6, FPSCR, nsPrivilegeLevel1, 7, 1, "IDC", "fp", "FPSCR", "Input Denormal cumulative exception"⟩,
  ⟨1, 7, FPSCR, nsPrivilegeLevel1, 8, 1, "IOE", "fp", "FPSCR", "Invalid Operation exception trap enable"⟩,
  ⟨1, 8, FPSCR, nsPrivilegeLevel1, 9, 1, "DZE", "fp", "FPSCR", "Division by Zero exception trap enable"⟩,
  ⟨1, 9, FPSCR, nsPrivilegeLevel1, 10, 1, "OFE", "fp", "FPSCR", "Overflow exception trap enable"⟩,
  ⟨1, 10, FPSCR, nsPrivilegeLevel1, 11, 1, "UFE", "fp", "FPSCR", "Underflow exception trap enable"⟩,
  ⟨1, 11, FPSCR, nsPrivilegeLevel1, 12, 1, "IXE", "fp", "FPSCR", "Inexact exception trap enable"⟩,
  ⟨1, 12, FPSCR, nsPrivilegeLevel1, 13, 2, "Reserved", "fp", "FPSCR", "Reserved"⟩,
  ⟨1, 13, FPSCR, nsPrivilegeLevel1, 15, 1, "IDE", "fp", "FPSCR", "Input Denormal exception trap enable"⟩,
  ⟨1, 14, FPSCR, nsPrivilegeLevel1, 16, 3, "LEN", "fp", "FPSCR", "ARM deprecated field"⟩,
  ⟨1, 15, FPSCR, nsPrivilegeLevel1, 19, 1, "Reserved", "fp", "FPSCR", "Reserved"⟩,
  ⟨1, 16, FPSCR, nsPrivilegeLevel1, 20, 2, "Stride", "fp", "FPSCR", "ARM deprecated field"⟩,
  ⟨1, 17, FPSCR, nsPrivilegeLevel1, 22, 2, "RMode", "fp", "FPSCR", "Rounding Mode control"⟩,
  ⟨1, 18, FPSCR, nsPrivilegeLevel1, 24, 1, "FZ", "fp", "FPSCR", "Flush-to-zero"⟩,
  ⟨1, 19, FPSCR, nsPrivilegeLevel1, 25, 1, "DN", "fp", "FPSCR", "Default NaN"⟩,
  ⟨1, 20, FPSCR, nsPrivilegeLevel1, 26, 1, "AHP", "fp", "FPSCR", "Alternative half-precision"⟩,
  ⟨1, 21, FPSCR, nsPrivilegeLevel1, 27, 1, "QC", "fp", "FPSCR", "Cumulative saturation bit"⟩,
  ⟨1, 22, FPSCR, nsPrivilegeLevel1, 28, 1, "V", "fp", "FPSCR", "Overflow condition flag"⟩,
  ⟨1, 23, FPSCR, nsPrivilegeLevel1, 29, 1, "C", "fp", "FPSCR", "Carry condition flag"⟩,
  ⟨1, 24, FPSCR, nsPrivilegeLevel1, 30, 1, "Z", "fp", "FPSCR", "Zero condition flag"⟩,
  ⟨1, 25, FPSCR, nsPrivilegeLevel1, 31, 1, "N", "fp", "FPSCR", "Negative condition flag"⟩,
  ⟨1, 0, FPEXC, nsPrivilegeLevel1, 0, 29, "Implementation Defined", "fp", "FPEXC", "Subarchitecture defined"⟩,
  ⟨1, 1, FPEXC, nsPrivilegeLevel1, 30, 1, "EN", "fp", "FPEXC", "Global enable for Advanced SIMD and Floating-point Extensions"⟩,
  ⟨1, 2, FPEXC, nsPrivilegeLevel1, 31, 1, "EX", "fp", "FPEXC", "Extent of saved records for Advanced SIMD and Floating-point systems"⟩,
  ⟨1, 0, MVFR0, nsPrivilegeLevel1, 0, 4, "A_SIMD registers", "fp", "MVFR0", "Support for Advanced SIMD register bank"⟩,
  ⟨1, 1, MVFR0, nsPrivilegeLevel1, 4, 4, "Single-precision", "fp", "MVFR0", "Support for Floating-point Extension single-precision operations"⟩,
  ⟨1, 2, MVFR0, nsPrivilegeLevel1, 8, 4, "Double-precision", "fp", "MVFR0", "Support for Floating-point Extension double-precision operations"⟩,
  ⟨1, 3, MVFR0, nsPrivilegeLevel1, 12, 4, "VFP exception exception trapping", "fp", "MVFR0", "VFP support for exception handling"⟩,
  ⟨1, 4, MVFR0, nsPrivilegeLevel1, 16, 4, "Divide", "fp", "MVFR0", "VFP divide support"⟩,
  ⟨1, 5, MVFR0, nsPrivilegeLevel1, 20, 4, "Square root", "fp", "MVFR0", "VFP square root support"⟩,
  ⟨1, 6, MVFR0, nsPrivilegeLevel1, 24, 4, "Short vectors", "fp", "MVFR0", "VFP short vector support"⟩,
  ⟨1, 7, MVFR0, nsPrivilegeLevel1, 28, 4, "VFP rounding modes", "fp", "MVFR0", "VFP rounding modes support"⟩,
  ⟨1, 0, MVFR1, nsPrivilegeLevel1, 0, 4, "FtZ mode", "fp", "MVFR1", "Flush-to-zero only"⟩,
  ⟨1, 1, MVFR1, nsPrivilegeLevel1, 4, 4, "D_NaN", "fp", "MVFR1", "Default NaN only"⟩,
  ⟨1, 2, MVFR1, nsPrivilegeLevel1, 8, 4, "A_SIMD load/store", "fp", "MVFR1", "A_SIMD Load/store implementation"⟩,
  ⟨1, 3, MVFR1, nsPrivilegeLevel1, 12, 4, "A_SIMD integer", "fp", "MVFR1", "A_SIMD integer instructions"⟩,
  ⟨1, 4, MVFR1, nsPrivilegeLevel1, 16, 4, "A_SIMD SPFP", "fp", "MVFR1", "A_SIMD single-precision floating point conversion"⟩,
  ⟨1, 5, MVFR1, nsPrivilegeLevel1, 20, 4, "A_SIMD HPFP", "fp", "MVFR1", "A_SIMD half-precision floating point conversion"⟩,
  ⟨1, 6, MVFR1, nsPrivilegeLevel1, 24, 4, "VFP HPFP", "fp", "MVFR1", "Floating point implements half-precision floating-point conversion"⟩,
  ⟨1, 7, MVFR1, nsPrivilegeLevel1, 28, 4, "A_SIMD FMAC", "fp", "MVFR1", "FP or A_SIMD implements fused multiply accumulate"⟩,
  ⟨1, 0, MVFR2, nsPrivilegeLevel1, 0, 4, "SIMDMisc", "fp", "MVFR2", "Support for miscellaneous Advanced SIMD features"⟩,
  ⟨1, 1, MVFR2, nsPrivilegeLevel1, 4, 4, "FPMisc", "fp", "MVFR2", "Support for miscellaneous VFP features"⟩,
  ⟨1, 2, MVFR2, nsPrivilegeLevel1, 8, 16, "Reserved", "fp", "MVFR2", "Reserved"⟩,
  ⟨1, 0, SCR, sAll, 0, 1, "NS", "secext", "SCR", "Non Secure Bit"⟩,
  ⟨1, 1, SCR, sAll, 1, 1, "IRQ", "secext", "SCR", "IRQ Handler"⟩,
  ⟨1, 2, SCR, sAll, 2, 1, "FIQ", "secext", "SCR", "FIQ Handler"⟩,
  ⟨1, 3, SCR, sAll, 3, 1, "EA", "secext", "SCR", "External Abort Handler"⟩,
  ⟨1, 4, SCR, sAll, 4, 1, "FW", "secext", "SCR", "F bit writeable"⟩,
  ⟨1, 5, SCR, sAll, 5, 1, "AW", "secext", "SCR", "A bit writeable"⟩,
  ⟨1, 6, SCR, sAll, 6, 1, "nET", "secext", "SCR", "Not Early Termination"⟩,
  ⟨1, 7, SCR, sAll, 7, 1, "SCD", "secext", "SCR", "Secure Monitor Call disable"⟩,
  ⟨1, 8, SCR, sAll, 8, 1, "HCE", "secext", "SCR", "HYP call enable"⟩,
  ⟨1, 9, SCR, sAll, 9, 1, "SIF", "secext", "SCR", "Secure Instruction Fetch bit"⟩,
  ⟨1, 10, SCR, sAll, 10, 22, "Reserved", "secext", "SCR", "Reserved"⟩,
  ⟨1, 0, ISR, nsPrivilegeLevel1, 0, 6, "Reserved", "secext", "ISR", "Reserved"⟩,
  ⟨1, 1, ISR, nsPrivilegeLevel1, 6, 1, "F", "secext", "ISR", "FIQ pending bit"⟩,
  ⟨1, 2, ISR, nsPrivilegeLevel1, 7, 1, "I", "secext", "ISR", "IRQ pending bit"⟩,
  ⟨1, 3, ISR, nsPrivilegeLevel1, 8, 1, "A", "secext", "ISR", "External abort pending bit"⟩,
  ⟨1, 4, ISR, nsPrivilegeLevel1, 9, 23, "Reserved", "secext", "ISR", "Reserved"⟩,
  ⟨1, 0, SDER, sAll, 0, 1, "SUIDEN", "secext", "SDER", "Secure user invasive debug"⟩,
  ⟨1, 1, SDER, sAll, 1, 1, "SUNIDEN", "secext", "SDER", "Secure user non-invasive debug"⟩,
  ⟨1, 2, SDER, sAll, 2, 30, "Reserved", "secext", "SDER", "Reserved"⟩,
  ⟨1, 0, VBAR, nsPrivilegeLevel1, 0, 11, "Reserved", "secext", "VBAR", "Reserved"⟩,
  ⟨1, 1, VBAR, nsPrivilegeLevel1, 11, 53, "Vector Base Address", "secext", "VBAR", "Vector Base Address"⟩,
  ⟨1, 0, DBGDIDR, nsPrivilegeLevel1, 0, 4, "Revision", "debug", "DBGDIDR", "Revision"⟩,
  ⟨1, 1, DBGDIDR, nsPrivilegeLevel1, 4, 4, "Variant", "debug", "DBGDIDR", "Variant"⟩,
  ⟨1, 2, DBGDIDR, nsPrivilegeLevel1, 8, 4, "Reserved", "debug", "DBGDIDR", "Reserved"⟩,
  ⟨1, 3, DBGDIDR, nsPrivilegeLevel1, 12, 1, "SE_imp", "debug", "DBGDIDR", "Security Extensions Implemented"⟩,
  ⟨1, 4, DBGDIDR, nsPrivilegeLevel1, 13, 1, "PCSR_imp", "debug", "DBGDIDR", "Program Counter Sampling Register"⟩,
  ⟨1, 5, DBGDIDR, nsPrivilegeLevel1, 14, 1, "nSUHD_imp", "debug", "DBGDIDR", "Secure User Halting Debug"⟩,
  ⟨1, 6, DBGDIDR, nsPrivilegeLevel1, 15, 1, "DEVID_imp", "debug", "DBGDIDR", "Debug Device ID"⟩,
  ⟨1, 7, DBGDIDR, nsPrivilegeLevel1, 16, 4, "Version", "debug", "DBGDIDR", "Version"⟩,
  ⟨1, 8, DBGDIDR, nsPrivilegeLevel1, 20, 4, "CTX_CMP", "debug", "DBGDIDR", "Context Compare Breakpoints"⟩,
  ⟨1, 9, DBGDIDR, nsPrivilegeLevel1, 24, 4, "BRP", "debug", "DBGDIDR", "Number of breakpoints"⟩,
  ⟨1, 10, DBGDIDR, nsPrivilegeLevel1, 28, 4, "WRP", "debug", "DBGDIDR", "Number of Watchpoints Implemented"⟩,
  ⟨1, 0, DBGAUTHSTATUS, nsPrivilegeLevel1, 0, 1, "NSE", "debug", "DBGAUTHSTATUS", "Non-secure invasive debug"⟩,
  ⟨1, 1, DBGAUTHSTATUS, nsPrivilegeLevel1, 1, 1, "NSI", "debug", "DBGAUTHSTATUS", " Non-secure invasive debug features"⟩,
  ⟨1, 2, DBGAUTHSTATUS, nsPrivilegeLevel1, 2, 1, "NSNE", "debug", "DBGAUTHSTATUS", "Non-secure non-invasive debug"⟩,
  ⟨1, 3, DBGAUTHSTATUS, nsPrivilegeLevel1, 3, 1, "NSNI", "debug", "DBGAUTHSTATUS", "Non-secure non-invasive debug"⟩,
  ⟨1, 4, DBGAUTHSTATUS, nsPrivilegeLevel1, 4, 1, "SE", "debug", "DBGAUTHSTATUS", "Secure invasive"⟩,
  ⟨1, 5, DBGAUTHSTATUS, nsPrivilegeLevel1, 5, 1, "SI", "debug", "DBGAUTHSTATUS", "Secure invasive features"⟩,
  ⟨1, 6, DBGAUTHSTATUS, nsPrivilegeLevel1, 6, 1, "SNE", "debug", "DBGAUTHSTATUS", "Secure non-invasive"⟩,
  ⟨1, 7, DBGAUTHSTATUS, nsPrivilegeLevel1, 7, 1, "SNI", "debug", "DBGAUTHSTATUS", "Secure non-invasive features"⟩,
  ⟨1, 8, DBGAUTHSTATUS, nsPrivilegeLevel1, 8, 24, "Reserved", "debug", "DBGAUTHSTATUS", "Reserved"⟩,
  ⟨1, 0, DBGDRAR, nsPrivilegeLevel1, 0, 2, "Valid", "debug", "DBGDRAR", "ROM table address is valid"⟩,
  ⟨1, 1, DBGDRAR, nsPrivilegeLevel1, 2, 10, "Reserved", "debug", "DBGDRAR", "Reserved"⟩,
  ⟨1, 2, DBGDRAR, nsPrivilegeLevel1, 12, 36, "ROMADDR", "debug", "DBGDRAR", "Bits [47:12] of component physical address. [11:0] are zero."⟩,
  ⟨1, 3, DBGDRAR, nsPrivilegeLevel1, 48, 16, "Reserved", "debug", "DBGDRAR", "Reserved"⟩,
  ⟨1, 0, DBGDSCR, nsPrivilegeLevel1, 0, 1, "SS", "debug", "DBGDSCR", "Enable software step"⟩,
  ⟨1, 1, DBGDSCR, nsPrivilegeLevel1, 1, 5, "Reserved", "debug", "DBGDSCR", "Reserved"⟩,
  ⟨1, 2, DBGDSCR, nsPrivilegeLevel1, 6, 1, "ERR", "debug", "DBGDSCR", "Used for save/restore of EDSCR.ERR"⟩,
  ⟨1, 3, DBGDSCR, nsPrivilegeLevel1, 7, 5, "Reserved", "debug", "DBGDSCR", "Reserved"⟩,
  ⟨1, 4, DBGDSCR, nsPrivilegeLevel1, 12, 1, "TDCC", "debug", "DBGDSCR", "Trap user mode (EL0) access to the DCC registers to EL1"⟩,
  ⟨1, 5, DBGDSCR, nsPrivilegeLevel1, 13, 1, "KDE", "debug", "DBGDSCR", "Local (kernel) debug enable"⟩,
  ⟨1, 6, DBGDSCR, nsPrivilegeLevel1, 14, 1, "HDE", "debug", "DBGDSCR", "Used for save/restore of EDSCR.HDE"⟩,
  ⟨1, 7, DBGDSCR, nsPrivilegeLevel1, 15, 1, "MDE", "debug", "DBGDSCR", "Monitor debug events"⟩,
  ⟨1, 8, DBGDSCR, nsPrivilegeLevel1, 16, 3, "Reserved", "debug", "DBGDSCR", "Reserved"⟩,
  ⟨1, 9, DBGDSCR, nsPrivilegeLevel1, 19, 2, "Reserved", "debug", "DBGDSCR", "Reserved"⟩,
  ⟨1, 10, DBGDSCR, nsPrivilegeLevel1, 21, 1, "TDA", "debug", "DBGDSCR", "Used for save/restore of EDSCR.TDA"⟩,
  ⟨1, 11, DBGDSCR, nsPrivilegeLevel1, 22, 2, "INTdis", "debug", "DBGDSCR", "Used for save/restore of EDSCR.INTdis"⟩,
  ⟨1, 12, DBGDSCR, nsPrivilegeLevel1, 24, 2, "Reserved", "debug", "DBGDSCR", "Reserved"⟩,
  ⟨1, 13, DBGDSCR, nsPrivilegeLevel1, 26, 1, "TXU", "debug", "DBGDSCR", "Used for save/restore of EDSCR.TXU"⟩,
  ⟨1, 14, DBGDSCR, nsPrivilegeLevel1, 27, 1, "RXO", "debug", "DBGDSCR", "Used for save/restore of EDSCR.RXO"⟩,
  ⟨1, 15, DBGDSCR, nsPrivilegeLevel1, 28, 1, "Reserved", "debug", "DBGDSCR", "Reserved"⟩,
  ⟨1, 16, DBGDSCR, nsPrivilegeLevel1, 29, 1, "TXfull", "debug", "DBGDSCR", "Used for save/restore of EDSCR.TXfull"⟩,
  ⟨1, 17, DBGDSCR, nsPrivilegeLevel1, 30, 1, "RXfull", "debug", "DBGDSCR", "Used for save/restore of EDSCR.RXfull"⟩,
  ⟨1, 18, DBGDSCR, nsPrivilegeLevel1, 31, 1, "Reserved", "debug", "DBGDSCR", "Reserved"⟩,
  ⟨1, 0, MAIR, nsPrivilegeLevel1, 0, 8, "Attr0", "virtmem", "MAIR", "Memory attribute encoding"⟩,
  ⟨1, 1, MAIR, nsPrivilegeLevel1, 8, 8, "Attr1", "virtmem", "MAIR", "Memory attribute encoding"⟩,
  ⟨1, 2, MAIR, nsPrivilegeLevel1, 16, 8, "Attr2", "virtmem", "MAIR", "Memory attribute encoding"⟩,
  ⟨1, 3, MAIR, nsPrivilegeLevel1, 24, 8, "Attr3", "virtmem", "MAIR", "Memory attribute encoding"⟩,
  ⟨1, 4, MAIR, nsPrivilegeLevel1, 32, 8, "Attr4", "virtmem", "MAIR", "Memory attribute encoding"⟩,
  ⟨1, 5, MAIR, nsPrivilegeLevel1, 40, 8, "Attr5", "virtmem", "MAIR", "Memory attribute encoding"⟩,
  ⟨1, 6, MAIR, nsPrivilegeLevel1, 48, 8, "Attr6", "virtmem", "MAIR", "Memory attribute encoding"⟩,
  ⟨1, 7, MAIR, nsPrivilegeLevel1, 56, 8, "Attr7", "virtmem", "MAIR", "Memory attribute encoding"⟩,
  ⟨1, 0, SCTLR, nsPrivilegeLevel1, 0, 1, "M", "virtmem", "SCTLR", "MMU Enable"⟩,
  ⟨1, 1, SCTLR, nsPrivilegeLevel1, 1, 1, "A", "virtmem", "SCTLR", "Alignment check enable"⟩,
  ⟨1, 2, SCTLR, nsPrivilegeLevel1, 2, 1, "C", "virtmem", "SCTLR", "Cache enable"⟩,
  ⟨1, 3, SCTLR, nsPrivilegeLevel1, 3, 1, "SA", "virtmem", "SCTLR", "Stack alignment check enable"⟩,
  ⟨1, 4, SCTLR, nsPrivilegeLevel1, 4, 1, "SA0", "virtmem", "SCTLR", "Stack alignment check enable for EL0"⟩,
  ⟨1, 5, SCTLR, nsPrivilegeLevel1, 5, 1, "CP15BEN", "virtmem", "SCTLR", "CP15 barrier enable"⟩,
  ⟨1, 6, SCTLR, nsPrivilegeLevel1, 6, 1, "Reserved", "virtmem", "SCTLR", "Reserved"⟩,
  ⟨1, 7, SCTLR, nsPrivilegeLevel1, 7, 1, "ITD", "virtmem", "SCTLR", "Disables some uses of IT instructions at EL0 using AArch32"⟩,
  ⟨1, 8, SCTLR, nsPrivilegeLevel1, 8, 1, "SED", "virtmem", "SCTLR", "Disables the SETEND instruction at EL0 using AArch32"⟩,
  ⟨1, 9, SCTLR, nsPrivilegeLevel1, 9, 1, "UMA", "virtmem", "SCTLR", "Traps EL0 execution of MSR and MRS instructions that access PSTATE"⟩,
  ⟨1, 10, SCTLR, nsPrivilegeLevel1, 10, 1, "Reserved", "virtmem", "SCTLR", "Reserved"⟩,
  ⟨1, 11, SCTLR, nsPrivilegeLevel1, 11, 1, "Reserved", "virtmem", "SCTLR", "Reserved"⟩,
  ⟨1, 12, SCTLR, nsPrivilegeLevel1, 12, 1, "I", "virtmem", "SCTLR", "Instruction access Cacheability control"⟩,
  ⟨1, 13, SCTLR, nsPrivilegeLevel1, 13, 1, "Reserved", "virtmem", "SCTLR", "Reserved"⟩,
  ⟨1, 14, SCTLR, nsPrivilegeLevel1, 14, 1, "DZE", "virtmem", "SCTLR", "Traps EL0 execution of DC ZVA instructions to EL1"⟩,
  ⟨1, 15, SCTLR, nsPrivilegeLevel1, 15, 1, "UCT", "virtmem", "SCTLR", "Traps EL0 access to the CTR_EL0 register to EL1"⟩,
  ⟨1, 16, SCTLR, nsPrivilegeLevel1, 16, 1, "NTWI", "virtmem", "SCTLR", "Traps EL0 execution of WFI instructions to EL1"⟩,
  ⟨1, 17, SCTLR, nsPrivilegeLevel1, 17, 1, "Reserved", "virtmem", "SCTLR", "Reserved"⟩,
  ⟨1, 18, SCTLR, nsPrivilegeLevel1, 18, 1, "NTWE", "virtmem", "SCTLR", "Traps EL0 execution of WFE instructions to EL1"⟩,
  ⟨1, 19, SCTLR, nsPrivilegeLevel1, 19, 1, "WXN", "virtmem", "SCTLR", "Write permission implies XN (Execute Never) at EL0/1"⟩,
  ⟨1, 20, SCTLR, nsPrivilegeLevel1, 20, 1, "Reserved", "virtmem", "SCTLR", "Reserved"⟩,
  ⟨1, 21, SCTLR, nsPrivilegeLevel1, 21, 1, "Reserved", "virtmem", "SCTLR", "Reserved"⟩,
  ⟨1, 22, SCTLR, nsPrivilegeLevel1, 22, 2, "Reserved", "virtmem", "SCTLR", "Reserved"⟩,
  ⟨1, 23, SCTLR, nsPrivilegeLevel1, 24, 1, "E0E", "virtmem", "SCTLR", "Endianess of data access at EL0"⟩,
  ⟨1, 24, SCTLR, nsPrivilegeLevel1, 25, 1, "EE", "virtmem", "SCTLR", "Endianess of data at EL1 and translation table walk"⟩,
  ⟨1, 25, SCTLR, nsPrivilegeLevel1, 26, 1, "UCI", "virtmem", "SCTLR", "Traps EL0 cache maintenance instructions to EL1"⟩,
  ⟨1, 26, SCTLR, nsPrivilegeLevel1, 27, 1, "Reserved", "virtmem", "SCTLR", "Reserved"⟩,
  ⟨1, 27, SCTLR, nsPrivilegeLevel1, 28, 2, "Reserved", "virtmem", "SCTLR", "Reserved"⟩,
  ⟨1, 28, SCTLR, nsPrivilegeLevel1, 30, 2, "Reserved", "virtmem", "SCTLR", "Reserved"⟩,
  ⟨1, 0, CONTEXTIDR, nsPrivilegeLevel1, 0, 32, "PROCID", "virtmem", "CONTEXTIDR", "PROCID"⟩,
  ⟨1, 1, CONTEXTIDR, nsPrivilegeLevel1, 0, 8, "ASID", "virtmem", "CONTEXTIDR", "ASID"⟩,
  ⟨1, 2, CONTEXTIDR, nsPrivilegeLevel1, 8, 24, "PROCID", "virtmem", "CONTEXTIDR", "PROCID"⟩,
  ⟨1, 0, AMAIR, nsPrivilegeLevel1, 0, 64, "Implementation Defined", "virtmem", "AMAIR", "Implementation Defined"⟩,
  ⟨1, 0, DCZID, nsPrivilegeLevel0, 0, 4, "BS", "virtmem", "DCZID", "Block size"⟩,
  ⟨1, 1, DCZID, nsPrivilegeLevel0, 4, 1, "DZP", "virtmem", "DCZID", "Data Zero prohibited"⟩,
  ⟨1, 2, DCZID, nsPrivilegeLevel0, 5, 27, "Reserved", "virtmem", "DCZID", "Reserved"⟩,
  ⟨1, 0, TTBCR, nsPrivilegeLevel1, 0, 6, "T0SZ", "virtmem", "TCR", "Size offset of memory region addressed by TTBR0_EL1"⟩,
  ⟨1, 1, TTBCR, nsPrivilegeLevel1, 6, 1, "Reserved", "virtmem", "TCR", "Reserved"⟩,
  ⟨1, 2, TTBCR, nsPrivilegeLevel1, 7, 1, "EPD0", "virtmem", "TCR", "Translation table walk disable for translations using TTBR0_EL1"⟩,
  ⟨1, 3, TTBCR, nsPrivilegeLevel1, 8, 2, "IRGN0", "virtmem", "TCR", "Inner cacheability attribute"⟩,
  ⟨1, 4, TTBCR, nsPrivilegeLevel1, 10, 2, "ORGN0", "virtmem", "TCR", "Outer cacheability attribute"⟩,
  ⟨1, 5, TTBCR, nsPrivilegeLevel1, 12, 2, "SH0", "virtmem", "TCR", "Shareability attribute"⟩,
  ⟨1, 6, TTBCR, nsPrivilegeLevel1, 14, 2, "TG0", "virtmem", "TCR", "Granule size for translation table base address register"⟩,
  ⟨1, 7, TTBCR, nsPrivilegeLevel1, 16, 6, "T1SZ", "virtmem", "TCR", "Size offset of the memory region addressed by TTBR1_EL1"⟩,
  ⟨1, 8, TTBCR, nsPrivilegeLevel1, 22, 1, "A1", "virtmem", "TCR", "Selects whether TTBR0_EL1 or TTBR1_EL1 defines the ASID"⟩,
  ⟨1, 9, TTBCR, nsPrivilegeLevel1, 23, 1, "EPD1", "virtmem", "TCR", "Translation table walk disable for translations using TTBR1_EL1"⟩,
  ⟨1, 10, TTBCR, nsPrivilegeLevel1, 24, 2, "IRGN1", "virtmem", "TCR", "Inner cacheability attribute for memory associated with translation table walks using TTBR1_EL1"⟩,
  ⟨1, 11, TTBCR, nsPrivilegeLevel1, 26, 2, "ORGN1", "virtmem", "TCR", "Outer cacheability attribute for memory associated with translation table walks using TTBR1_EL1"⟩,
  ⟨1, 12, TTBCR, nsPrivilegeLevel1, 28, 2, "SH1", "virtmem", "TCR", "Shareability attribute"⟩,
  ⟨1, 13, TTBCR, nsPrivilegeLevel1, 30, 2, "TG1", "virtmem", "TCR", "TTBR1_EL1 Granule size"⟩,
  ⟨1, 14, TTBCR, nsPrivilegeLevel1, 32, 3, "IPS", "virtmem", "TCR", "Intermediate Physical address size"⟩,
  ⟨1, 15, TTBCR, nsPrivilegeLevel1, 35, 1, "Reserved", "virtmem", "TCR", "Reserved"⟩,
  ⟨1, 16, TTBCR, nsPrivilegeLevel1, 36, 1, "AS", "virtmem", "TCR", "ASID size"⟩,
  ⟨1, 17, TTBCR, nsPrivilegeLevel1, 37, 1, "TBI0", "virtmem", "TCR", "Top byte ignored for TTBR0_EL1"⟩,
  ⟨1, 18, TTBCR, nsPrivilegeLevel1, 38, 1, "TBI1", "virtmem", "TCR", "Top byte ignored for TTBR1_EL1"⟩,
  ⟨1, 19, TTBCR, nsPrivilegeLevel1, 39, 25, "Reserved", "virtmem", "TCR", "Reserved"⟩,
  ⟨1, 0, TTBR1, nsPrivilegeLevel1, 0, 48, "BADDR", "virtmem", "TTBR0", "Translation table base address"⟩,
  ⟨1, 1, TTBR1, nsPrivilegeLevel1, 48, 16, "ASID", "virtmem", "TTBR0", "ASID for translation table base address"⟩,
  ⟨1, 0, TTBR0, nsPrivilegeLevel1, 0, 48, "BADDR", "virtmem", "TTBR1", "Translation table base address"⟩,
  ⟨1, 1, TTBR0, nsPrivilegeLevel1, 48, 16, "ASID", "virtmem", "TTBR1", "ASID for translation table base address"⟩,
  ⟨1, 0, PMCR, nsAll, 0, 1, "E", "perfmon", "PMCR", "All counters enable"⟩,
  ⟨1, 1, PMCR, nsAll, 1, 1, "P", "perfmon", "PMCR", "Event counter reset"⟩,
  ⟨1, 2, PMCR, nsAll, 2, 1, "C", "perfmon", "PMCR", "Cycle counter reset"⟩,
  ⟨1, 3, PMCR, nsAll, 3, 1, "D", "perfmon", "PMCR", "Cycle counter clock divider"⟩,
  ⟨1, 4, PMCR, nsAll, 4, 1, "X", "perfmon", "PMCR", "Export enable"⟩,
  ⟨1, 5, PMCR, nsAll, 5, 1, "DP", "perfmon", "PMCR", "Disable PMCCNTR when event counting is prohibited"⟩,
  ⟨1, 6, PMCR, nsAll, 6, 1, "LC", "perfmon", "PMCR", "Long cycle counter enable"⟩,
  ⟨1, 7, PMCR, nsAll, 7, 4, "Rerverced", "perfmon", "PMCR", "Reserved"⟩,
  ⟨1, 8, PMCR, nsAll, 11, 5, "N", "perfmon", "PMCR", "Number of event counters"⟩,
  ⟨1, 9, PMCR, nsAll, 16, 8, "IDCODE", "perfmon", "PMCR", "Identification Code"⟩,
  ⟨1, 10, PMCR, nsAll, 24, 8, "Implementation Defined", "perfmon", "PMCR", "Implementer Code"⟩,
  ⟨1, 0, PMCCFILTR, nsAll, 0, 26, "Reserved", "perfmon", "PMCCFILTR", "Reserved"⟩,
  ⟨1, 1, PMCCFILTR, nsAll, 26, 1, "M", "perfmon", "PMCCFILTR", "Secure EL3 filtering bit"⟩,
  ⟨1, 2, PMCCFILTR, nsAll, 27, 1, "NSH", "perfmon", "PMCCFILTR", "Non-secure Hyp modes filtering bit"⟩,
  ⟨1, 3, PMCCFILTR, nsAll, 28, 1, "NSU", "perfmon", "PMCCFILTR", "Non-secure user mode filtering bit"⟩,
  ⟨1, 4, PMCCFILTR, nsAll, 29, 1, "NSK", "perfmon", "PMCCFILTR", "Non-secure kernel (EL1) mode filtering bit"⟩,
  ⟨1, 5, PMCCFILTR, nsAll, 30, 1, "NSK", "perfmon", "PMCCFILTR", "EL0 filtering bit"⟩,
  ⟨1, 6, PMCCFILTR, nsAll, 31, 1, "P", "perfmon", "PMCCFILTR", "EL1 modes filtering bit"⟩,
  ⟨1, 0, PMCCNTR, nsAll, 0, 64, "CCNT", "perfmon", "PMCCNTR", "Cycle count"⟩,
  ⟨1, 0, PMCEID0, nsAll, 0, 32, "ID", "perfmon", "PMCEID0", "Common event implemented bit"⟩,
  ⟨1, 0, PMCEID1, nsAll, 0, 32, "ID", "perfmon", "PMCEID1", "Common event implemented bit"⟩,
  ⟨1, 0, PMCNTENCLR, nsAll, 0, 31, "P", "perfmon", "PMCNTENCLR", "Event counter disable bit"⟩,
  ⟨1, 1, PMCNTENCLR, nsAll, 31, 1, "C", "perfmon", "PMCNTENCLR", "PMCCNTR_EL0 disable bit"⟩,
  ⟨1, 0, PMCNTENSET, nsAll, 0, 31, "P", "perfmon", "PMCNTENSET", "Event counter enable bit"⟩,
  ⟨1, 1, PMCNTENSET, nsAll, 31, 1, "C", "perfmon", "PMCNTENSET", "PMCCNTR_EL0 enable bit"⟩,
  ⟨1, 0, PMINTENCLR, nsPrivilegeLevel1, 0, 31, "P", "perfmon", "PMINTENCLR", "Event counter overflow interrupt request disable bit"⟩,
  ⟨1, 1, PMINTENCLR, nsPrivilegeLevel1, 31, 1, "C", "perfmon", "PMINTENCLR", "PMCCNTR_EL0 overflow interrupt disable bit"⟩,
  ⟨1, 0, PMINTENSET, nsPrivilegeLevel1, 0, 31, "P", "perfmon", "PMINTENSET", "Event counter overflow interrupt request enable bit"⟩,
  ⟨1, 1, PMINTENSET, nsPrivilegeLevel1, 31, 1, "C", "perfmon", "PMINTENSET", "PMCCNTR_EL0 overflow interrupt request enable bit"⟩,
  ⟨1, 0, PMOVSCLR, nsAll, 0, 31, "P", "perfmon", "PMOVSCLR", "Event counter overflow clear bit for PMEVCNTR"⟩,
  ⟨1, 1, PMOVSCLR, nsAll, 31, 1, "C", "perfmon", "PMOVSCLR", "PMCCNTR_EL0 overflow bit"⟩,
  ⟨1, 0, PMOVSSET, nsAll, 0, 31, "P", "perfmon", "PMOVSSET", "Event counter overflow set bit for PMEVCNTR"⟩,
  ⟨1, 1, PMOVSSET, nsAll, 31, 1, "C", "perfmon", "PMOVSSET", "PMCCNTR_EL0 overflow bit"⟩,
  ⟨1, 0, PMSELR, nsAll, 0, 5, "SEL", "perfmon", "PMSELR", "Selects event counter PMEVCNTR"⟩,
  ⟨1, 1, PMSELR, nsAll, 5, 27, "Reserved", "perfmon", "PMSELR", "Reserved"⟩,
  ⟨1, 0, PMSWINC, nsAll, 0, 31, "P", "perfmon", "PMSWINC", "Event counter software interrupt for PMEVCNTR"⟩,
  ⟨1, 1, PMSWINC, nsAll, 31, 1, "Reserved", "perfmon", "PMSWINC", "Reserved"⟩,
  ⟨1, 0, PMUSERENR, nsAll, 0, 1, "EN", "perfmon", "PMUSERENR", "Traps EL0 accesses to the Performance Monitor registers to EL1"⟩,
  ⟨1, 1, PMUSERENR, nsAll, 1, 1, "SW", "perfmon", "PMUSERENR", "Software increment write trap to EL1"⟩,
  ⟨1, 2, PMUSERENR, nsAll, 2, 1, "CR", "perfmon", "PMUSERENR", "Cycle counter read trap to EL1"⟩,
  ⟨1, 3, PMUSERENR, nsAll, 3, 1, "ER", "perfmon", "PMUSERENR", "Event counter read trap to EL1"⟩,
  ⟨1, 4, PMUSERENR, nsAll, 4, 28, "Reserved", "perfmon", "PMUSERENR", "Reserved"⟩,
  ⟨1, 0, PMXEVCNTR, nsAll, 0, 32, "Value", "perfmon", "PMXEVCNTR", "Value of the selected event counter"⟩,
  ⟨1, 0, PMXEVTYPER, nsAll, 0, 32, "ETR", "perfmon", "PMXEVTYPER", "Event type register or PMCCFILTR_EL0"⟩,
  ⟨1, 0, ACTLR, nsPrivilegeLevel1, 0, 64, "Implementation Defined", "other", "ACTLR", "Implementation Defined"⟩,
  ⟨1, 0, CPACR, nsPrivilegeLevel1, 0, 19, "Reserved", "other", "CPACR", "Reserved"⟩,
  ⟨1, 1, CPACR, nsPrivilegeLevel1, 20, 2, "FPEN", "other", "CPACR", "Floating-point registers in EL0 and EL1 trapped to EL1"⟩,
  ⟨1, 2, CPACR, nsPrivilegeLevel1, 22, 6, "Reserved", "other", "CPACR", "Reserved"⟩,
  ⟨1, 3, CPACR, nsPrivilegeLevel1, 28, 1, "TTA", "other", "CPACR", "Trace registers in EL0 and EL1 trapped to EL1"⟩,
  ⟨1, 4, CPACR, nsPrivilegeLevel1, 29, 3, "Reserved", "other", "CPACR", "Reserved"⟩,
  ⟨1, 0, RMR, nsPrivilegeLevel1, 0, 1, "AA64", "other", "RMR", "Determines which state the PE boots into after a Warm reset"⟩,
  ⟨1, 1, RMR, nsPrivilegeLevel1, 1, 1, "RR", "other", "RMR", "Requests a Warm reset"⟩,
  ⟨1, 2, RMR, nsPrivilegeLevel1, 2, 30, "Reserved", "other", "RMR", "Reserved"⟩,
  ⟨1, 0, RVBAR, nsPrivilegeLevel1, 0, 64, "Reset Address", "other", "RVBAR", "Address that execution starts at 64-bit reset"⟩,
  ⟨1, 0, FAR, nsPrivilegeLevel1, 0, 64, "VA", "fault", "FAR", "VA of faulting address of synchronous Data Abort exception"⟩,
  ⟨1, 0, DFSR, nsPrivilegeLevel1, 0, 25, "ISS", "fault", "ESR", "Instruction specific syndrome"⟩,
  ⟨1, 1, DFSR, nsPrivilegeLevel1, 25, 1, "IL", "fault", "ESR", "Instruction length of synchronous exception"⟩,
  ⟨1, 2, DFSR, nsPrivilegeLevel1, 26, 6, "EC", "fault", "ESR", "Exception class"⟩,
  ⟨1, 0, ADFSR, nsPrivilegeLevel1, 0, 32, "Implementation defined", "fault", "AFSR0", "Implementation defined"⟩,
  ⟨1, 0, AIFSR, nsPrivilegeLevel1, 0, 32, "Implementation defined", "fault", "AFSR1", "Implementation defined"⟩,
  ⟨1, 0, TEECR, nsAll, 0, 1, "XED", "thumb", "TEECR", "Unprivileged Execution Environment Disable"⟩,
  ⟨1, 1, TEECR, nsAll, 1, 31, "Reserved", "thumb", "TEECR", "Reserved"⟩,
  ⟨1, 0, TEEHBR, nsAll, 0, 2, "Reserved", "thumb", "TEEHBR", "Reserved"⟩,
  ⟨1, 1, TEEHBR, nsAll, 2, 30, "HandlerBase", "thumb", "TEEHBR", "Address of ThumbEE handlers"⟩,
  ⟨1, 0, TPIDRPRW, nsPrivilegeLevel1, 0, 64, "Thread ID", "misc", "TPIDR", "Thread ID Storage"⟩,
  ⟨1, 0, TPIDRURO, nsPrivilegeLevel0, 0, 64, "Thread ID", "misc", "TPIDRRO", "Thread ID Storage"⟩,
  ⟨1, 0, TPIDRURW, nsPrivilegeLevel0, 0, 64, "Thread ID", "misc", "TPIDR", "Thread ID Storage"⟩,
  ⟨1, 0, PAR, nsPrivilegeLevel1, 0, 1, "F", "addrtrans", "PAR", "Conversion status"⟩,
  ⟨1, 1, PAR, nsPrivilegeLevel1, 1, 6, "Reserved", "addrtrans", "PAR", "Reserved"⟩,
  ⟨1, 2, PAR, nsPrivilegeLevel1, 7, 2, "SH", "addrtrans", "PAR", "Shareability attribute"⟩,
  ⟨1, 3, PAR, nsPrivilegeLevel1, 9, 1, "NS", "addrtrans", "PAR", "Non-secure"⟩,
  ⟨1, 4, PAR, nsPrivilegeLevel1, 10, 1, "Implementation Defined", "addrtrans", "PAR", "Implementation Defined"⟩,
  ⟨1, 5, PAR, nsPrivilegeLevel1, 11, 1, "Reserved", "addrtrans", "PAR", "Reserved"⟩,
  ⟨1, 6, PAR, nsPrivilegeLevel1, 12, 36, "PA", "addrtrans", "PAR", "Output Address"⟩,
  ⟨1, 7, PAR, nsPrivilegeLevel1, 48, 8, "Reserved", "addrtrans", "PAR", "Reserved"⟩,
  ⟨1, 8, PAR, nsPrivilegeLevel1, 56, 8, "ATTR", "addrtrans", "PAR", "Memory attributes"⟩,
  ⟨1, 0, CURRENTEL, nsPrivilegeLevel1, 0, 2, "Reserved", "other", "CURRENTEL", "Reserved"⟩,
  ⟨1, 1, CURRENTEL, nsPrivilegeLevel1, 2, 2, "EL", "other", "CURRENTEL", "Current exception level"⟩,
  ⟨1, 2, CURRENTEL, nsPrivilegeLevel1, 4, 28, "Reserved", "other", "CURRENTEL", "Reserved"⟩,
  ⟨1, 0, DAIF, nsPrivilegeLevel0 ||| nsPrivilegeLevel1, 0, 6, "Reserved", "other", "DAIF", "Reserved"⟩,
  ⟨1, 1, DAIF, nsPrivilegeLevel0 ||| nsPrivilegeLevel1, 6, 1, "F", "other", "DAIF", "FIQ mask bit"⟩,
  ⟨1, 2, DAIF, nsPrivilegeLevel0 ||| nsPrivilegeLevel1, 7, 1, "I", "other", "DAIF", "IRQ mask bit"⟩,
  ⟨1, 3, DAIF, nsPrivilegeLevel0 ||| nsPrivilegeLevel1, 8, 1, "A", "other", "DAIF", "System Error mask bit"⟩,
  ⟨1, 4, DAIF, nsPrivilegeLevel0 ||| nsPrivilegeLevel1, 9, 1, "D", "other", "DAIF", "Process state D mask"⟩,
  ⟨1, 5, DAIF, nsPrivilegeLevel0 ||| nsPrivilegeLevel1, 10, 22, "Reserved", "other", "DAIF", "Reserved"⟩,
  ⟨1, 0, FPCR, nsPrivilegeLevel0 ||| nsPrivilegeLevel1, 0, 8, "Reserved", "other", "FPCR", "Reserved"⟩,
  ⟨1, 1, FPCR, nsPrivilegeLevel0 ||| nsPrivilegeLevel1, 8, 1, "IOE", "other", "FPCR", "Invalid operation trap enable"⟩,
  ⟨1, 2, FPCR, nsPrivilegeLevel0 ||| nsPrivilegeLevel1, 9, 1, "DZE", "other", "FPCR", "Division by zero exception trap enable"⟩,
  ⟨1, 3, FPCR, nsPrivilegeLevel0 ||| nsPrivilegeLevel1, 10, 1, "OFE", "other", "FPCR", "Overflow exception trap enable"⟩,
  ⟨1, 4, FPCR, nsPrivilegeLevel0 ||| nsPrivilegeLevel1, 11, 1, "UFE", "other", "FPCR", "Underflow exception trap enable"⟩,
  ⟨1, 5, FPCR, nsPrivilegeLevel0 ||| nsPrivilegeLevel1, 12, 1, "IXE", "other", "FPCR", "Inexact exception trap enable"⟩,
  ⟨1, 6, FPCR, nsPrivilegeLevel0 ||| nsPrivilegeLevel1, 13, 2, "Reserved", "other", "FPCR", "Reserved"⟩,
  ⟨1, 7, FPCR, nsPrivilegeLevel0 ||| nsPrivilegeLevel1, 15, 1, "IDE", "other", "FPCR", "Input Denormal exception trap enable"⟩,
  ⟨1, 8, FPCR, nsPrivilegeLevel0 ||| nsPrivilegeLevel1, 16, 3, "LEN", "other", "FPCR", "No aarch64 function"⟩,
  ⟨1, 9, FPCR, nsPrivilegeLevel0 ||| nsPrivilegeLevel1, 19, 1, "Reserved", "other", "FPCR", "Reserved"⟩,
  ⟨1, 10, FPCR, nsPrivilegeLevel0 ||| nsPrivilegeLevel1, 20, 2, "Stride", "other", "FPCR", "No aarch64 function"⟩,
  ⟨1, 11, FPCR, nsPrivilegeLevel0 ||| nsPrivilegeLevel1, 22, 2, "RMode", "other", "FPCR", "Rounding Mode control field"⟩,
  ⟨1, 12, FPCR, nsPrivilegeLevel0 ||| nsPrivilegeLevel1, 24, 1, "FZ", "other", "FPCR", "Flush-to-zero mode control bit"⟩,
  ⟨1, 13, FPCR, nsPrivilegeLevel0 ||| nsPrivilegeLevel1, 25, 1, "DN", "other", "FPCR", "Default NaN mode control bit"⟩,
  ⟨1, 14, FPCR, nsPrivilegeLevel0 ||| nsPrivilegeLevel1, 26, 1, "AHP", "other", "FPCR", "Alternative half-precision control bit"⟩,
  ⟨1, 15, FPCR, nsPrivilegeLevel0 ||| nsPrivilegeLevel1, 27, 5, "Reserved", "other", "FPCR", "Reserved"⟩,
  ⟨1, 0, FPSR, nsPrivilegeLevel0 ||| nsPrivilegeLevel1, 0, 1, "IOC", "other", "FPSR", "Invalid operation cumulative exception bit"⟩,
  ⟨1, 1, FPSR, nsPrivilegeLevel0 ||| nsPrivilegeLevel1, 1, 1, "DZC", "other", "FPSR", "Division by zero cumulative exception bit"⟩,
  ⟨1, 2, FPSR, nsPrivilegeLevel0 ||| nsPrivilegeLevel1, 2, 1, "OFC", "other", "FPSR", "Overflow cumulative exception bit"⟩,
  ⟨1, 3, FPSR, nsPrivilegeLevel0 ||| nsPrivilegeLevel1, 3, 1, "UFC", "other", "FPSR", "Underflow cumulative exception bit"⟩,
  ⟨1, 4, FPSR, nsPrivilegeLevel0 ||| nsPrivilegeLevel1, 4, 1, "IXV", "other", "FPSR", "Inexact cumulative exception bit"⟩,
  ⟨1, 5, FPSR, nsPrivilegeLevel0 ||| nsPrivilegeLevel1, 5, 2, "Reserved", "other", "FPSR", "Reserved"⟩,
  ⟨1, 6, FPSR, nsPrivilegeLevel0 ||| nsPrivilegeLevel1, 7, 1, "IDC", "other", "FPSR", "Input Denormal cumulative exception bit"⟩,
  ⟨1, 7, FPSR, nsPrivilegeLevel0 ||| nsPrivilegeLevel1, 8, 19, "Reserved", "other", "FPSR", "Reserved"⟩,
  ⟨1, 8, FPSR, nsPrivilegeLevel0 ||| nsPrivilegeLevel1, 27, 1, "QC", "other", "FPSR", "Cumulative saturation bit"⟩,
  ⟨1, 9, FPSR, nsPrivilegeLevel0 ||| nsPrivilegeLevel1, 28, 1, "V", "other", "FPSR", "Overflow condition flag for aarch32 fp"⟩,
  ⟨1, 10, FPSR, nsPrivilegeLevel0 ||| nsPrivilegeLevel1, 29, 1, "C", "other", "FPSR", "Carry condition flag for aarch32 fp"⟩,
  ⟨1, 11, FPSR, nsPrivilegeLevel0 ||| nsPrivilegeLevel1, 30, 1, "Z", "other", "FPSR", "Zero condition flag for aarch32 fp"⟩,
  ⟨1, 12, FPSR, nsPrivilegeLevel0 ||| nsPrivilegeLevel1, 31, 1, "N", "other", "FPSR", "Negative condition flag for aarch32 fp"⟩,
  ⟨1, 0, NZCV, nsPrivilegeLevel0 ||| nsPrivilegeLevel1, 0, 28, "Reserved", "other", "NZCV", "Reserved"⟩,
  ⟨1, 1, NZCV, nsPrivilegeLevel0 ||| nsPrivilegeLevel1, 28, 1, "V", "other", "NZCV", "Overflow condition flag"⟩,
  ⟨1, 2, NZCV, nsPrivilegeLevel0 ||| nsPrivilegeLevel1, 29, 1, "C", "other", "NZCV", "Carry condition flag"⟩,
  ⟨1, 3, NZCV, nsPrivilegeLevel0 ||| nsPrivilegeLevel1, 30, 1, "Z", "other", "NZCV", "Zero condition flag"⟩,
  ⟨1, 4, NZCV, nsPrivilegeLevel0 ||| nsPrivilegeLevel1, 31, 1, "N", "other", "NZCV", "Negative condition flag"⟩,
  ⟨1, 0, SPSEL, nsPrivilegeLevel1, 0, 1, "SP", "other", "SPSEL", "Stack pointer to use"⟩,
  ⟨1, 1, SPSEL, nsPrivilegeLevel1, 1, 31, "Reserved", "other", "SPSEL", "Reserved"⟩]

def bitfieldCortexA53Table : List BitfieldInfo := [
  ⟨1, 0, L2CTLR, nsPrivilegeLevel1, 0, 1, "OUTPUTLATENCY", "impl_def", "L2CTLR", "L2 Data RAM output latency"⟩,
  ⟨1, 1, L2CTLR, nsPrivilegeLevel1, 1, 4, "Reserved", "impl_def", "L2CTLR", "Reserved"⟩,
  ⟨1, 2, L2CTLR, nsPrivilegeLevel1, 5, 1, "INPUTLATENCY", "impl_def", "L2CTLR", "L2 Data RAM input latency"⟩,
  ⟨1, 3, L2CTLR, nsPrivilegeLevel1, 6, 15, "Reserved", "impl_def", "L2CTLR", "Reserved"⟩,
  ⟨1, 4, L2CTLR, nsPrivilegeLevel1, 21, 1, "SCUL2", "impl_def", "L2CTLR", "SCU-L2 Cache Protection"⟩,
  ⟨1, 5, L2CTLR, nsPrivilegeLevel1, 22, 1, "CPU", "impl_def", "L2CTLR", "CPU Cache Protection"⟩,
  ⟨1, 6, L2CTLR, nsPrivilegeLevel1, 23, 1, "Reserved", "impl_def", "L2CTLR", "Reserved"⟩,
  ⟨1, 7, L2CTLR, nsPrivilegeLevel1, 24, 2, "CORES", "impl_def", "L2CTLR", "Number of cores"⟩,
  ⟨1, 8, L2CTLR, nsPrivilegeLevel1, 26, 6, "Reserved", "impl_def", "L2CTLR", "Reserved"⟩,
  ⟨1, 0, L2ECTLR, nsPrivilegeLevel1, 0, 3, "DYNRET", "impl_def", "L2ECTLR", "L2 dynamic retention control"⟩,
  ⟨1, 1, L2ECTLR, nsPrivilegeLevel1, 3, 26, "Reserved", "impl_def", "L2ECTLR", "Reserved"⟩,
  ⟨1, 2, L2ECTLR, nsPrivilegeLevel1, 29, 1, "ASYNCERR", "impl_def", "L2ECTLR", "ACI or AMBA 5 CHI asynchronous error"⟩,
  ⟨1, 3, L2ECTLR, nsPrivilegeLevel1, 30, 1, "IASYNCERR", "impl_def", "L2ECTLR", "L2 internal asynchronous error"⟩,
  ⟨1, 4, L2ECTLR, nsPrivilegeLevel1, 31, 1, "IASYNCERR", "impl_def", "L2ECTLR", "L2 internal asynchronous error"⟩,
  ⟨1, 0, L2ACTLR, nsPrivilegeLevel1, 0, 3, "Reserved", "impl_def", "L2ACTLR", "Reserved"⟩,
  ⟨1, 1, L2ACTLR, nsPrivilegeLevel1, 3, 1, "DCEPTE", "impl_def", "L2ACTLR", "Disable clean/evict push to external"⟩,
  ⟨1, 2, L2ACTLR, nsPrivilegeLevel1, 4, 10, "Reserved", "impl_def", "L2ACTLR", "Reserved"⟩,
  ⟨1, 3, L2ACTLR, nsPrivilegeLevel1, 14, 1, "EUEWD", "impl_def", "L2ACTLR", "Enable UniqueClean evictions with data"⟩,
  ⟨1, 4, L2ACTLR, nsPrivilegeLevel1, 15, 9, "Reserved", "impl_def", "L2ACTLR", "Reserved"⟩,
  ⟨1, 5, L2ACTLR, nsPrivilegeLevel1, 24, 1, "L2TEIEN", "impl_def", "L2ACTLR", "L2 cache tag RAM error injection enable"⟩,
  ⟨1, 6, L2ACTLR, nsPrivilegeLevel1, 25, 4, "Reserved", "impl_def", "L2ACTLR", "Reserved"⟩,
  ⟨1, 7, L2ACTLR, nsPrivilegeLevel1, 29, 1, "L2DEIEN", "impl_def", "L2ACTLR", "L2 cache data RAM error injection enable"⟩,
  ⟨1, 8, L2ACTLR, nsPrivilegeLevel1, 30, 2, "L2VC", "impl_def", "L2ACTLR", "L2 Victim Control"⟩,
  ⟨1, 0, PAR, nsPrivilegeLevel1, 0, 1, "D", "addrtrans", "PAR", "Indicates successful conversion"⟩,
  ⟨1, 1, PAR, nsPrivilegeLevel1, 1, 6, "Reserved", "addrtrans", "PAR", "Reserved"⟩,
  ⟨1, 2, PAR, nsPrivilegeLevel1, 7, 2, "SHA", "addrtrans", "PAR", "Shareability attribute"⟩,
  ⟨1, 3, PAR, nsPrivilegeLevel1, 9, 1, "NS", "addrtrans", "PAR", "Non-secure"⟩,
  ⟨1, 4, PAR, nsPrivilegeLevel1, 10, 1, "Reserved", "addrtrans", "PAR", "Reserved"⟩,
  ⟨1, 5, PAR, nsPrivilegeLevel1, 11, 1, "Reserved", "addrtrans", "PAR", "Reserved"⟩,
  ⟨1, 6, PAR, nsPrivilegeLevel1, 12, 36, "PA", "addrtrans", "PAR", "Physical address"⟩,
  ⟨1, 7, PAR, nsPrivilegeLevel1, 48, 8, "Reserved", "addrtrans", "PAR", "Reserved"⟩,
  ⟨1, 8, PAR, nsPrivilegeLevel1, 56, 4, "AttrL", "addrtrans", "PAR", "Defines device memory and inner cacheability"⟩,
  ⟨1, 9, PAR, nsPrivilegeLevel1, 60, 4, "AttrH", "addrtrans", "PAR", "Defined normal and device memory and outer cacheability"⟩,
  ⟨1, 0, CPUACTLR, nsPrivilegeLevel1, 0, 6, "Reserved", "impl_def", "CPUACTLR", "Reserved"⟩,
  ⟨1, 1, CPUACTLR, nsPrivilegeLevel1, 6, 1, "L1DEIEN", "impl_def", "CPUACTLR", "L1 D-cache data RAM error injection enable"⟩,
  ⟨1, 2, CPUACTLR, nsPrivilegeLevel1, 7, 3, "Reserved", "impl_def", "CPUACTLR", "Reserved"⟩,
  ⟨1, 3, CPUACTLR, nsPrivilegeLevel1, 10, 1, "DODMBS", "impl_def", "CPUACTLR", "Disable optimized Data Memory Barrier behavior"⟩,
  ⟨1, 4, CPUACTLR, nsPrivilegeLevel1, 11, 2, "Reserved", "impl_def", "CPUACTLR", "Reserved"⟩,
  ⟨1, 5, CPUACTLR, nsPrivilegeLevel1, 13, 3, "L1PCTL", "impl_def", "CPUACTLR", "L1 Data prefetch control"⟩,
  ⟨1, 6, CPUACTLR, nsPrivilegeLevel1, 16, 1, "Reserved", "impl_def", "CPUACTLR", "Reserved"⟩,
  ⟨1, 7, CPUACTLR, nsPrivilegeLevel1, 17, 1, "STRIDE", "impl_def", "CPUACTLR", "Configure the sequence length that triggers data prefetch streams"⟩,
  ⟨1, 8, CPUACTLR, nsPrivilegeLevel1, 18, 1, "DSTDIS", "impl_def", "CPUACTLR", "Enable device split throttle"⟩,
  ⟨1, 9, CPUACTLR, nsPrivilegeLevel1, 19, 2, "NPFSTRM", "impl_def", "CPUACTLR", "Number of independent data prefetch streams"⟩,
  ⟨1, 10, CPUACTLR, nsPrivilegeLevel1, 21, 1, "IFUTHDIS", "impl_def", "CPUACTLR", "IFU fetch throttle disabled"⟩,
  ⟨1, 11, CPUACTLR, nsPrivilegeLevel1, 22, 1, "STBPFDIS", "impl_def", "CPUACTLR", "Disable prefetch streams initiated from STB accesses"⟩,
  ⟨1, 12, CPUACTLR, nsPrivilegeLevel1, 23, 1, "STBPFDIS", "impl_def", "CPUACTLR", "Disable ReadUnique request for prefetch streams initiated by STB accesses"⟩,
  ⟨1, 13, CPUACTLR, nsPrivilegeLevel1, 24, 1, "DTAH", "impl_def", "CPUACTLR", "Disable transient allocation hint"⟩,
  ⟨1, 14, CPUACTLR, nsPrivilegeLevel1, 25, 2, "L1RADIS", "impl_def", "CPUACTLR", "Write streaming no-L1-allocate threshold"⟩,
  ⟨1, 15, CPUACTLR, nsPrivilegeLevel1, 27, 2, "RADIS", "impl_def", "CPUACTLR", "Write streaming no-allocate threshold"⟩,
  ⟨1, 16, CPUACTLR, nsPrivilegeLevel1, 29, 1, "DIDIS", "impl_def", "CPUACTLR", "Disable dual issue"⟩,
  ⟨1, 17, CPUACTLR, nsPrivilegeLevel1, 30, 1, "FPDIDIS", "impl_def", "CPUACTLR", "Disable floating-point dual issue"⟩,
  ⟨1, 18, CPUACTLR, nsPrivilegeLevel1, 31, 13, "Reserved", "impl_def", "CPUACTLR", "Reserved"⟩,
  ⟨1, 19, CPUACTLR, nsPrivilegeLevel1, 44, 1, "ENDCCASCI", "impl_def", "CPUACTLR", "Enable data cache clean as data cache clean/invalidate"⟩,
  ⟨1, 20, CPUACTLR, nsPrivilegeLevel1, 45, 19, "Reserved", "impl_def", "CPUACTLR", "Reserved"⟩,
  ⟨1, 0, CPUECTLR, nsPrivilegeLevel1, 0, 3, "CPURETCTL", "impl_def", "CPUECTLR", "CPU retention control"⟩,
  ⟨1, 1, CPUECTLR, nsPrivilegeLevel1, 3, 3, "FPRETCTL", "impl_def", "CPUECTLR", "Advanced SIMD and Floating-point retention control"⟩,
  ⟨1, 2, CPUECTLR, nsPrivilegeLevel1, 6, 1, "SMPEN", "impl_def", "CPUECTLR", "Enable hardware management of data coherency with other cores in the cluster"⟩,
  ⟨1, 3, CPUECTLR, nsPrivilegeLevel1, 7, 57, "Reserved", "impl_def", "CPUECTLR", "Reserved"⟩,
  ⟨1, 0, CPUMERRSR, nsPrivilegeLevel1, 0, 12, "RAMADDR", "impl_def", "CPUMERRSR", "Indicates the index address of the first memory error"⟩,
  ⟨1, 1, CPUMERRSR, nsPrivilegeLevel1, 12, 6, "Reserved", "impl_def", "CPUMERRSR", "Reserved"⟩,
  ⟨1, 2, CPUMERRSR, nsPrivilegeLevel1, 18, 3, "CPUIDWAY", "impl_def", "CPUMERRSR", "Indicates the RAM where the first memory error occurred"⟩,
  ⟨1, 3, CPUMERRSR, nsPrivilegeLevel1, 21, 3, "Reserved", "impl_def", "CPUMERRSR", "Reserved"⟩,
  ⟨1, 4, CPUMERRSR, nsPrivilegeLevel1, 24, 7, "RAMID", "impl_def", "CPUMERRSR", "Ram Identifier"⟩,
  ⟨1, 5, CPUMERRSR, nsPrivilegeLevel1, 31, 1, "Valid", "impl_def", "CPUMERRSR", "Valid bit. Set to 1 on first memory error"⟩,
  ⟨1, 6, CPUMERRSR, nsPrivilegeLevel1, 32, 8, "REC", "impl_def", "CPUMERRSR", "Repeat memory error count when valid bit is set"⟩,
  ⟨1, 7, CPUMERRSR, nsPrivilegeLevel1, 40, 8, "OEC", "impl_def", "CPUMERRSR", "Other memory error count when valid bit is set"⟩,
  ⟨1, 8, CPUMERRSR, nsPrivilegeLevel1, 48, 15, "Reserved", "impl_def", "CPUMERRSR", "Reserved"⟩,
  ⟨1, 9, CPUMERRSR, nsPrivilegeLevel1, 63, 1, "Fatal", "impl_def", "CPUMERRSR", "Fatal bit. Set to 1 on first memory error that cased data abort"⟩,
  ⟨1, 0, L2MERRSR, nsPrivilegeLevel1, 0, 3, "Reserved", "impl_def", "L2MERRSR", "Reserved"⟩,
  ⟨1, 1, L2MERRSR, nsPrivilegeLevel1, 3, 14, "RAMADDR", "impl_def", "L2MERRSR", "Indicates the index address of the first memory error"⟩,
  ⟨1, 2, L2MERRSR, nsPrivilegeLevel1, 17, 1, "Reserved", "impl_def", "L2MERRSR", "Reserved"⟩,
  ⟨1, 3, L2MERRSR, nsPrivilegeLevel1, 18, 4, "CPUIDWAY", "impl_def", "L2MERRSR", "Indicates the RAM where the first memory error occurred"⟩,
  ⟨1, 4, L2MERRSR, nsPrivilegeLevel1, 22, 2, "Reserved", "impl_def", "L2MERRSR", "Reserved"⟩,
  ⟨1, 5, L2MERRSR, nsPrivilegeLevel1, 24, 7, "RAMID", "impl_def", "L2MERRSR", "Indicates the RAM where the first memory error occurred"⟩,
  ⟨1, 6, L2MERRSR, nsPrivilegeLevel1, 31, 1, "VALID", "impl_def", "L2MERRSR", "Valid bit. Set to 1 on first memory error"⟩,
  ⟨1, 7, L2MERRSR, nsPrivilegeLevel1, 32, 8, "REC", "impl_def", "L2MERRSR", "Repeat memory error count when valid bit is set"⟩,
  ⟨1, 8, L2MERRSR, nsPrivilegeLevel1, 40, 8, "OEC", "impl_def", "L2MERRSR", "Other memory error count when valid bit is set"⟩,
  ⟨1, 9, L2MERRSR, nsPrivilegeLevel1, 48, 15, "Reserved", "impl_def", "L2MERRSR", "Reserved"⟩,
  ⟨1, 10, L2MERRSR, nsPrivilegeLevel1, 63, 1, "Fatal", "impl_def", "L2MERRSR", "Fatal bit. Set to 1 on first memory error that cased data abort"⟩,
  ⟨1, 0, CBAR, nsPrivilegeLevel1, 0, 18, "Reserved", "impl_def", "CBAR", "Reserved"⟩,
  ⟨1, 1, CBAR, nsPrivilegeLevel1, 18, 32, "PERIPHBASE_39_18", "impl_def", "CBAR", "Reset base address of memory-mapped GIC CPU interface registers"⟩,
  ⟨1, 2, CBAR, nsPrivilegeLevel1, 40, 24, "Reserved", "impl_def", "CBAR", "Reserved"⟩,
  ⟨1, 0, SCTLR, nsPrivilegeLevel1, 0, 1, "M", "virtmem", "SCTLR", "MMU Enable"⟩,
  ⟨1, 1, SCTLR, nsPrivilegeLevel1, 1, 1, "A", "virtmem", "SCTLR", "Alignment check enable"⟩,
  ⟨1, 2, SCTLR, nsPrivilegeLevel1, 2, 1, "C", "virtmem", "SCTLR", "Cache enable"⟩,
  ⟨1, 3, SCTLR, nsPrivilegeLevel1, 3, 1, "SA", "virtmem", "SCTLR", "Stack alignment check enable"⟩,
  ⟨1, 4, SCTLR, nsPrivilegeLevel1, 4, 1, "SA0", "virtmem", "SCTLR", "Stack alignment check enable for EL0"⟩,
  ⟨1, 5, SCTLR, nsPrivilegeLevel1, 5, 1, "CP15BEN", "virtmem", "SCTLR", "CP15 barrier enable"⟩,
  ⟨1, 6, SCTLR, nsPrivilegeLevel1, 6, 1, "THEE", "virtmem", "SCTLR", "T32EE not implemented"⟩,
  ⟨1, 7, SCTLR, nsPrivilegeLevel1, 7, 1, "ITD", "virtmem", "SCTLR", "Disables some uses of IT instructions at EL0 using AArch32"⟩,
  ⟨1, 8, SCTLR, nsPrivilegeLevel1, 8, 1, "SED", "virtmem", "SCTLR", "Disables the SETEND instruction at EL0 using AArch32"⟩,
  ⟨1, 9, SCTLR, nsPrivilegeLevel1, 9, 1, "UMA", "virtmem", "SCTLR", "Traps EL0 execution of MSR and MRS instructions that access PSTATE"⟩,
  ⟨1, 10, SCTLR, nsPrivilegeLevel1, 10, 1, "Reserved", "virtmem", "SCTLR", "Reserved"⟩,
  ⟨1, 11, SCTLR, nsPrivilegeLevel1, 11, 1, "Reserved", "virtmem", "SCTLR", "Reserved"⟩,
  ⟨1, 12, SCTLR, nsPrivilegeLevel1, 12, 1, "I", "virtmem", "SCTLR", "Instruction access Cacheability control"⟩,
  ⟨1, 13, SCTLR, nsPrivilegeLevel1, 13, 1, "Reserved", "virtmem", "SCTLR", "Reserved"⟩,
  ⟨1, 14, SCTLR, nsPrivilegeLevel1, 14, 1, "DZE", "virtmem", "SCTLR", "Traps EL0 execution of DC ZVA instructions to EL1"⟩,
  ⟨1, 15, SCTLR, nsPrivilegeLevel1, 15, 1, "UCT", "virtmem", "SCTLR", "Traps EL0 access to the CTR_EL0 register to EL1"⟩,
  ⟨1, 16, SCTLR, nsPrivilegeLevel1, 16, 1, "NTWI", "virtmem", "SCTLR", "Traps EL0 execution of WFI instructions to EL1"⟩,
  ⟨1, 17, SCTLR, nsPrivilegeLevel1, 17, 1, "Reserved", "virtmem", "SCTLR", "Reserved"⟩,
  ⟨1, 18, SCTLR, nsPrivilegeLevel1, 18, 1, "NTWE", "virtmem", "SCTLR", "Traps EL0 execution of WFE instructions to EL1"⟩,
  ⟨1, 19, SCTLR, nsPrivilegeLevel1, 19, 1, "WXN", "virtmem", "SCTLR", "Write permission implies XN (Execute Never) at EL0/1"⟩,
  ⟨1, 20, SCTLR, nsPrivilegeLevel1, 20, 1, "Reserved", "virtmem", "SCTLR", "Reserved"⟩,
  ⟨1, 21, SCTLR, nsPrivilegeLevel1, 21, 1, "Reserved", "virtmem", "SCTLR", "Reserved"⟩,
  ⟨1, 22, SCTLR, nsPrivilegeLevel1, 22, 2, "Reserved", "virtmem", "SCTLR", "Reserved"⟩,
  ⟨1, 23, SCTLR, nsPrivilegeLevel1, 24, 1, "E0E", "virtmem", "SCTLR", "Endianess of data access at EL0"⟩,
  ⟨1, 24, SCTLR, nsPrivilegeLevel1, 25, 1, "EE", "virtmem", "SCTLR", "Endianess of data at EL1 and translation table walk"⟩,
  ⟨1, 25, SCTLR, nsPrivilegeLevel1, 26, 1, "UCI", "virtmem", "SCTLR", "Traps EL0 cache maintenance instructions to EL1"⟩,
  ⟨1, 26, SCTLR, nsPrivilegeLevel1, 27, 1, "Reserved", "virtmem", "SCTLR", "Reserved"⟩,
  ⟨1, 27, SCTLR, nsPrivilegeLevel1, 28, 2, "Reserved", "virtmem", "SCTLR", "Reserved"⟩,
  ⟨1, 28, SCTLR, nsPrivilegeLevel1, 30, 2, "Reserved", "virtmem", "SCTLR", "Reserved"⟩,
  ⟨1, 0, DFSR, nsPrivilegeLevel1, 0, 24, "ISS", "fault", "ESR", "Syndrome information"⟩,
  ⟨1, 1, DFSR, nsPrivilegeLevel1, 24, 1, "ISS Valid", "fault", "ESR", "Syndrome information"⟩,
  ⟨1, 2, DFSR, nsPrivilegeLevel1, 25, 1, "IL", "fault", "ESR", "Instruction length for synchronous exception"⟩,
  ⟨1, 3, DFSR, nsPrivilegeLevel1, 26, 5, "EC", "fault", "ESR", "Exception reason class"⟩]

def bitfieldCortexA57Table : List BitfieldInfo := [
  ⟨1, 0, MPIDR, nsPrivilegeLevel1, 0, 2, "CPU ID", "ident", "MPIDR", "Core number of Cortex-A57 processor"⟩,
  ⟨1, 1, MPIDR, nsPrivilegeLevel1, 2, 6, "Reserved", "ident", "MPIDR", "Reserved"⟩,
  ⟨1, 2, MPIDR, nsPrivilegeLevel1, 8, 8, "Cluster ID Aff1", "ident", "MPIDR", "Affinity level 1"⟩,
  ⟨1, 3, MPIDR, nsPrivilegeLevel1, 16, 8, "Cluster ID Aff2", "ident", "MPIDR", "Affinity level 2"⟩,
  ⟨1, 4, MPIDR, nsPrivilegeLevel1, 24, 1, "MT", "ident", "MPIDR", "Lowest affinity cores are multi-threaded"⟩,
  ⟨1, 5, MPIDR, nsPrivilegeLevel1, 25, 5, "Reserved", "ident", "MPIDR", "Reserved"⟩,
  ⟨1, 6, MPIDR, nsPrivilegeLevel1, 30, 1, "U", "ident", "MPIDR", "Indicates a single core system"⟩,
  ⟨1, 7, MPIDR, nsPrivilegeLevel1, 31, 1, "Reserved", "ident", "MPIDR", "Reserved"⟩,
  ⟨1, 8, MPIDR, nsPrivilegeLevel1, 32, 32, "Reserved", "ident", "MPIDR", "Reserved"⟩,
  ⟨1, 0, SCTLR, nsPrivilegeLevel1, 0, 1, "M", "virtmem", "SCTLR", "MMU Enable"⟩,
  ⟨1, 1, SCTLR, nsPrivilegeLevel1, 1, 1, "A", "virtmem", "SCTLR", "Alignment check enable"⟩,
  ⟨1, 2, SCTLR, nsPrivilegeLevel1, 2, 1, "C", "virtmem", "SCTLR", "Cache enable"⟩,
  ⟨1, 3, SCTLR, nsPrivilegeLevel1, 3, 1, "SA", "virtmem", "SCTLR", "Stack alignment check enable"⟩,
  ⟨1, 4, SCTLR, nsPrivilegeLevel1, 4, 1, "SA0", "virtmem", "SCTLR", "Stack alignment check enable for EL0"⟩,
  ⟨1, 5, SCTLR, nsPrivilegeLevel1, 5, 1, "CP15BEN", "virtmem", "SCTLR", "CP15 barrier enable"⟩,
  ⟨1, 6, SCTLR, nsPrivilegeLevel1, 6, 1, "THEE", "virtmem", "SCTLR", "T32EE not implemented"⟩,
  ⟨1, 7, SCTLR, nsPrivilegeLevel1, 7, 1, "ITD", "virtmem", "SCTLR", "Disables some uses of IT instructions at EL0 using AArch32"⟩,
  ⟨1, 8, SCTLR, nsPrivilegeLevel1, 8, 1, "SED", "virtmem", "SCTLR", "Disables the SETEND instruction at EL0 using AArch32"⟩,
  ⟨1, 9, SCTLR, nsPrivilegeLevel1, 9, 1, "UMA", "virtmem", "SCTLR", "Traps EL0 execution of MSR and MRS instructions that access PSTATE"⟩,
  ⟨1, 10, SCTLR, nsPrivilegeLevel1, 10, 1, "Reserved", "virtmem", "SCTLR", "Reserved"⟩,
  ⟨1, 11, SCTLR, nsPrivilegeLevel1, 11, 1, "Reserved", "virtmem", "SCTLR", "Reserved"⟩,
  ⟨1, 12, SCTLR, nsPrivilegeLevel1, 12, 1, "I", "virtmem", "SCTLR", "Instruction access Cacheability control"⟩,
  ⟨1, 13, SCTLR, nsPrivilegeLevel1, 13, 1, "Reserved", "virtmem", "SCTLR", "Reserved"⟩,
  ⟨1, 14, SCTLR, nsPrivilegeLevel1, 14, 1, "DZE", "virtmem", "SCTLR", "Traps EL0 execution of DC ZVA instructions to EL1"⟩,
  ⟨1, 15, SCTLR, nsPrivilegeLevel1, 15, 1, "UCT", "virtmem", "SCTLR", "Traps EL0 access to the CTR_EL0 register to EL1"⟩,
  ⟨1, 16, SCTLR, nsPrivilegeLevel1, 16, 1, "NTWI", "virtmem", "SCTLR", "Traps EL0 execution of WFI instructions to EL1"⟩,
  ⟨1, 17, SCTLR, nsPrivilegeLevel1, 17, 1, "Reserved", "virtmem", "SCTLR", "Reserved"⟩,
  ⟨1, 18, SCTLR, nsPrivilegeLevel1, 18, 1, "NTWE", "virtmem", "SCTLR", "Traps EL0 execution of WFE instructions to EL1"⟩,
  ⟨1, 19, SCTLR, nsPrivilegeLevel1, 19, 1, "WXN", "virtmem", "SCTLR", "Write permission implies XN (Execute Never) at EL0/1"⟩,
  ⟨1, 20, SCTLR, nsPrivilegeLevel1, 20, 1, "Reserved", "virtmem", "SCTLR", "Reserved"⟩,
  ⟨1, 21, SCTLR, nsPrivilegeLevel1, 21, 1, "Reserved", "virtmem", "SCTLR", "Reserved"⟩,
  ⟨1, 22, SCTLR, nsPrivilegeLevel1, 22, 2, "Reserved", "virtmem", "SCTLR", "Reserved"⟩,
  ⟨1, 23, SCTLR, nsPrivilegeLevel1, 24, 1, "E0E", "virtmem", "SCTLR", "Endianess of data access at EL0"⟩,
  ⟨1, 24, SCTLR, nsPrivilegeLevel1, 25, 1, "EE", "virtmem", "SCTLR", "Endianess of data at EL1 and translation table walk"⟩,
  ⟨1, 25, SCTLR, nsPrivilegeLevel1, 26, 1, "UCI", "virtmem", "SCTLR", "Traps EL0 cache maintenance instructions to EL1"⟩,
  ⟨1, 26, SCTLR, nsPrivilegeLevel1, 27, 1, "Reserved", "virtmem", "SCTLR", "Reserved"⟩,
  ⟨1, 27, SCTLR, nsPrivilegeLevel1, 28, 2, "Reserved", "virtmem", "SCTLR", "Reserved"⟩,
  ⟨1, 28, SCTLR, nsPrivilegeLevel1, 30, 2, "Reserved", "virtmem", "SCTLR", "Reserved"⟩,
  ⟨1, 0, TTBR0, nsPrivilegeLevel1, 0, 10, "Reserved", "virtmem", "TTBR0", "Reserved"⟩,
  ⟨1, 1, TTBR0, nsPrivilegeLevel1, 10, 38, "BADDR", "virtmem", "TTBR0", "Translation table base address"⟩,
  ⟨1, 2, TTBR0, nsPrivilegeLevel1, 48, 16, "ASID", "virtmem", "TTBR0", "ASID for translation table base address"⟩,
  ⟨1, 0, TTBR1, nsPrivilegeLevel1, 0, 10, "Reserved", "virtmem", "TTBR1", "Reserved"⟩,
  ⟨1, 1, TTBR1, nsPrivilegeLevel1, 10, 38, "BADDR", "virtmem", "TTBR1", "Translation table base address"⟩,
  ⟨1, 2, TTBR1, nsPrivilegeLevel1, 48, 16, "ASID", "virtmem", "TTBR1", "ASID for translation table base address"⟩,
  ⟨1, 0, DFSR, nsPrivilegeLevel1, 0, 6, "IFSC", "fault", "ESR", "Instruction Fault Status Code"⟩,
  ⟨1, 1, DFSR, nsPrivilegeLevel1, 6, 1, "Reserved", "fault", "ESR", "Reserved"⟩,
  ⟨1, 2, DFSR, nsPrivilegeLevel1, 7, 1, "S1PTW", "fault", "ESR", "Indicates instruction fault from translation table walk"⟩,
  ⟨1, 3, DFSR, nsPrivilegeLevel1, 8, 1, "Reserved", "fault", "ESR", "Reserved"⟩,
  ⟨1, 4, DFSR, nsPrivilegeLevel1, 9, 1, "EA", "fault", "ESR", "External abort type"⟩,
  ⟨1, 5, DFSR, nsPrivilegeLevel1, 10, 15, "Reserved", "fault", "ESR", "Reserved"⟩,
  ⟨1, 6, DFSR, nsPrivilegeLevel1, 25, 1, "IL", "fault", "ESR", "Instruction length for synchronous exceptions"⟩,
  ⟨1, 7, DFSR, nsPrivilegeLevel1, 26, 6, "EC", "fault", "ESR", "Exception class"⟩,
  ⟨1, 0, PAR, nsPrivilegeLevel1, 0, 1, "D", "addrtrans", "PAR", "Indicates successful conversion"⟩,
  ⟨1, 1, PAR, nsPrivilegeLevel1, 1, 6, "Reserved", "addrtrans", "PAR", "Reserved"⟩,
  ⟨1, 2, PAR, nsPrivilegeLevel1, 7, 2, "SHA", "addrtrans", "PAR", "Shareability attribute"⟩,
  ⟨1, 3, PAR, nsPrivilegeLevel1, 9, 1, "NS", "addrtrans", "PAR", "Non-secure"⟩,
  ⟨1, 4, PAR, nsPrivilegeLevel1, 10, 1, "Reserved", "addrtrans", "PAR", "Reserved"⟩,
  ⟨1, 5, PAR, nsPrivilegeLevel1, 11, 1, "Reserved", "addrtrans", "PAR", "Reserved"⟩,
  ⟨1, 6, PAR, nsPrivilegeLevel1, 12, 36, "PA", "addrtrans", "PAR", "Physical address"⟩,
  ⟨1, 7, PAR, nsPrivilegeLevel1, 48, 8, "Reserved", "addrtrans", "PAR", "Reserved"⟩,
  ⟨1, 8, PAR, nsPrivilegeLevel1, 56, 4, "AttrL", "addrtrans", "PAR", "Defines device memory and inner cacheability"⟩,
  ⟨1, 9, PAR, nsPrivilegeLevel1, 60, 4, "AttrH", "addrtrans", "PAR", "Defined normal and device memory and outer cacheability"⟩,
  ⟨1, 0, L2CTLR, nsPrivilegeLevel1, 0, 3, "DATALATENCY", "impl_def", "L2CTLR", "L2 Data RAM latency"⟩,
  ⟨1, 1, L2CTLR, nsPrivilegeLevel1, 3, 2, "Reserved", "impl_def", "L2CTLR", "Reserved"⟩,
  ⟨1, 2, L2CTLR, nsPrivilegeLevel1, 5, 1, "DATASETUP", "impl_def", "L2CTLR", "L2 Data RAM setup"⟩,
  ⟨1, 3, L2CTLR, nsPrivilegeLevel1, 6, 3, "L2 Tag RAM latency", "impl_def", "L2CTLR", "L2 Tag RAM latency"⟩,
  ⟨1, 4, L2CTLR, nsPrivilegeLevel1, 9, 1, "TAGSETUP", "impl_def", "L2CTLR", "L2 Tag RAM setup"⟩,
  ⟨1, 5, L2CTLR, nsPrivilegeLevel1, 10, 2, "DATASLICE", "impl_def", "L2CTLR", "L2 Data RAM slice"⟩,
  ⟨1, 6, L2CTLR, nsPrivilegeLevel1, 12, 1, "TAGSLICE", "impl_def", "L2CTLR", "L2 Tag RAM slice"⟩,
  ⟨1, 7, L2CTLR, nsPrivilegeLevel1, 13, 1, "ARBSLICE", "impl_def", "L2CTLR", "L2 arbitration slice"⟩,
  ⟨1, 8, L2CTLR, nsPrivilegeLevel1, 14, 6, "Reserved", "impl_def", "L2CTLR", "Reserved"⟩,
  ⟨1, 9, L2CTLR, nsPrivilegeLevel1, 20, 1, "DIECCE", "impl_def", "L2CTLR", "Data inline ECC enable"⟩,
  ⟨1, 10, L2CTLR, nsPrivilegeLevel1, 21, 1, "ECCPE", "impl_def", "L2CTLR", "ECC and parity enable"⟩,
  ⟨1, 11, L2CTLR, nsPrivilegeLevel1, 22, 1, "L1CPE", "impl_def", "L2CTLR", "L1 cache ECC and parity protection"⟩,
  ⟨1, 12, L2CTLR, nsPrivilegeLevel1, 23, 1, "Reserved", "impl_def", "L2CTLR", "Reserved"⟩,
  ⟨1, 13, L2CTLR, nsPrivilegeLevel1, 24, 2, "Number of processors", "impl_def", "L2CTLR", "Number of processors"⟩,
  ⟨1, 14, L2CTLR, nsPrivilegeLevel1, 26, 5, "Reserved", "impl_def", "L2CTLR", "Reserved"⟩,
  ⟨1, 15, L2CTLR, nsPrivilegeLevel1, 31, 1, "L2RSTDISABLE monitor", "impl_def", "L2CTLR", "Monitors the L2 hardware reset disable signal"⟩,
  ⟨1, 0, L2ECTLR, nsPrivilegeLevel1, 0, 3, "DYNRET", "impl_def", "L2ECTLR", "L2 dynamic retention control"⟩,
  ⟨1, 1, L2ECTLR, nsPrivilegeLevel1, 3, 26, "Reserved", "impl_def", "L2ECTLR", "Reserved"⟩,
  ⟨1, 2, L2ECTLR, nsPrivilegeLevel1, 29, 1, "ASYNCERR", "impl_def", "L2ECTLR", "ACI or AMBA 5 CHI asynchronous error"⟩,
  ⟨1, 3, L2ECTLR, nsPrivilegeLevel1, 30, 1, "IASYNCERR", "impl_def", "L2ECTLR", "L2 internal asynchronous error"⟩,
  ⟨1, 4, L2ECTLR, nsPrivilegeLevel1, 31, 1, "IASYNCERR", "impl_def", "L2ECTLR", "L2 internal asynchronous error"⟩,
  ⟨1, 0, L2ACTLR, nsPrivilegeLevel1, 0, 1, "DHPF", "impl_def", "L2ACTLR", "Disable hardware prefetch foward"⟩,
  ⟨1, 1, L2ACTLR, nsPrivilegeLevel1, 1, 1, "EARTT", "impl_def", "L2ACTLR", "Enable arbitration replay threshold limit"⟩,
  ⟨1, 2, L2ACTLR, nsPrivilegeLevel1, 2, 1, "LTORPTB", "impl_def", "L2ACTLR", "Limit to one request per tag bank"⟩,
  ⟨1, 3, L2ACTLR, nsPrivilegeLevel1, 3, 1, "DCEPTE", "impl_def", "L2ACTLR", "Disable clean/evict push to external"⟩,
  ⟨1, 4, L2ACTLR, nsPrivilegeLevel1, 4, 1, "DWWTFM", "impl_def", "L2ACTLR", "Disable WriteUnique and WriteLineUnique transactions from master"⟩,
  ⟨1, 5, L2ACTLR, nsPrivilegeLevel1, 5, 1, "Reserved", "impl_def", "L2ACTLR", "Reserved"⟩,
  ⟨1, 6, L2ACTLR, nsPrivilegeLevel1, 6, 1, "DACE", "impl_def", "L2ACTLR", "Disable ACE shareable or CHI snoopable transactions from master"⟩,
  ⟨1, 7, L2ACTLR, nsPrivilegeLevel1, 7, 1, "EHDT", "impl_def", "L2ACTLR", "Enable hazard-detect timeout"⟩,
  ⟨1, 8, L2ACTLR, nsPrivilegeLevel1, 8, 1, "DMB", "impl_def", "L2ACTLR", "Disable DVM/CMO message broadcast"⟩,
  ⟨1, 9, L2ACTLR, nsPrivilegeLevel1, 9, 1, "Reserved", "impl_def", "L2ACTLR", "Reserved"⟩,
  ⟨1, 10, L2ACTLR, nsPrivilegeLevel1, 10, 1, "DNSDAA", "impl_def", "L2ACTLR", "Disable Non-secure debug array access"⟩,
  ⟨1, 11, L2ACTLR, nsPrivilegeLevel1, 11, 1, "DDSB", "impl_def", "L2ACTLR", "Disable DSB with no DVM-sync"⟩,
  ⟨1, 12, L2ACTLR, nsPrivilegeLevel1, 12, 1, "Reserved", "impl_def", "L2ACTLR", "Reserved"⟩,
  ⟨1, 13, L2ACTLR, nsPrivilegeLevel1, 13, 1, "DCEO", "impl_def", "L2ACTLR", "Disable clean/evict optimization"⟩,
  ⟨1, 14, L2ACTLR, nsPrivilegeLevel1, 14, 1, "EUED", "impl_def", "L2ACTLR", "Enable UniqueClean evictions with data"⟩,
  ⟨1, 15, L2ACTLR, nsPrivilegeLevel1, 15, 1, "DFF", "impl_def", "L2ACTLR", "Disable fast fowarding of data from ACE or CHI to LS and IF"⟩,
  ⟨1, 16, L2ACTLR, nsPrivilegeLevel1, 16, 1, "ERTSI", "impl_def", "L2ACTLR", "Enable replay threshold single issue"⟩,
  ⟨1, 17, L2ACTLR, nsPrivilegeLevel1, 17, 1, "DL2RR", "impl_def", "L2ACTLR", "Disable L2 round-robin arbitration that only clocks through paths with an active requester waiting to be arbitrated"⟩,
  ⟨1, 18, L2ACTLR, nsPrivilegeLevel1, 18, 2, "DLASQ", "impl_def", "L2ACTLR", "Disable limit on NC/SO/Dev stores in Address Sequence Queue"⟩,
  ⟨1, 19, L2ACTLR, nsPrivilegeLevel1, 20, 2, "DTL2PR", "impl_def", "L2ACTLR", "Disable throttling of L2 prefetch requests based on Fill/Evict Queue occupancy count"⟩,
  ⟨1, 20, L2ACTLR, nsPrivilegeLevel1, 22, 1, "DDTPR", "impl_def", "L2ACTLR", "Disable dynamic throttling of LS prefetch requests"⟩,
  ⟨1, 21, L2ACTLR, nsPrivilegeLevel1, 23, 1, "DPFR", "impl_def", "L2ACTLR", "Disable PF requests from ReadUnique transactions"⟩,
  ⟨1, 22, L2ACTLR, nsPrivilegeLevel1, 24, 1, "Reserved", "impl_def", "L2ACTLR", "Reserved"⟩,
  ⟨1, 23, L2ACTLR, nsPrivilegeLevel1, 25, 1, "ESIAL", "impl_def", "L2ACTLR", "Enable single issue across all tag banks when L2 arbitration replay threshold is reached"⟩,
  ⟨1, 24, L2ACTLR, nsPrivilegeLevel1, 26, 1, "FL2", "impl_def", "L2ACTLR", "Force L2, GIC, Timer RCG enables active"⟩,
  ⟨1, 25, L2ACTLR, nsPrivilegeLevel1, 27, 1, "FL2LC", "impl_def", "L2ACTLR", "Force L2 logic clock enable active"⟩,
  ⟨1, 26, L2ACTLR, nsPrivilegeLevel1, 28, 1, "FL2LC", "impl_def", "L2ACTLR", "Force L2 tag banks clock enable active"⟩,
  ⟨1, 27, L2ACTLR, nsPrivilegeLevel1, 29, 3, "Reserved", "impl_def", "L2ACTLR", "Reserved"⟩,
  ⟨1, 0, CPUACTLR, nsPrivilegeLevel1, 0, 1, "BTB", "impl_def", "CPUACTLR", "Enables invalidates of BTB"⟩,
  ⟨1, 1, CPUACTLR, nsPrivilegeLevel1, 1, 1, "DICMS", "impl_def", "CPUACTLR", "Disable instruction cache miss streaming"⟩,
  ⟨1, 2, CPUACTLR, nsPrivilegeLevel1, 2, 1, "Reserved", "impl_def", "CPUACTLR", "Reserved"⟩,
  ⟨1, 3, CPUACTLR, nsPrivilegeLevel1, 3, 1, "DMBTB", "impl_def", "CPUACTLR", "Disables micro-Branch Target Buffer"⟩,
  ⟨1, 4, CPUACTLR, nsPrivilegeLevel1, 4, 1, "DIP", "impl_def", "CPUACTLR", "Disable interrupt predictor"⟩,
  ⟨1, 5, CPUACTLR, nsPrivilegeLevel1, 5, 1, "EPLDNOP", "impl_def", "CPUACTLR", "Execute PLD instruction as a NOP"⟩,
  ⟨1, 6, CPUACTLR, nsPrivilegeLevel1, 6, 1, "Reserved", "impl_def", "CPUACTLR", "Reserved"⟩,
  ⟨1, 7, CPUACTLR, nsPrivilegeLevel1, 7, 1, "EWFENOP", "impl_def", "CPUACTLR", "Executes WFE instruction as a NOP instruction"⟩,
  ⟨1, 8, CPUACTLR, nsPrivilegeLevel1, 8, 1, "EWFINOP", "impl_def", "CPUACTLR", "Executes WFI instruction as a NOP instruction"⟩,
  ⟨1, 9, CPUACTLR, nsPrivilegeLevel1, 9, 1, "DFRO", "impl_def", "CPUACTLR", "Disable flag renaming optimization"⟩,
  ⟨1, 10, CPUACTLR, nsPrivilegeLevel1, 10, 1, "FS", "impl_def", "CPUACTLR", "Force serialization after each instruction group"⟩,
  ⟨1, 11, CPUACTLR, nsPrivilegeLevel1, 11, 1, "L1PIG", "impl_def", "CPUACTLR", "Limit to one instruction per instruction group"⟩,
  ⟨1, 12, CPUACTLR, nsPrivilegeLevel1, 12, 1, "FPCP", "impl_def", "CPUACTLR", "Forces push of certain SPRs from local dispatch copies to shadow copies"⟩,
  ⟨1, 13, CPUACTLR, nsPrivilegeLevel1, 13, 1, "FLCP", "impl_def", "CPUACTLR", "Flush after certain SPR writes"⟩,
  ⟨1, 14, CPUACTLR, nsPrivilegeLevel1, 14, 1, "FL", "impl_def", "CPUACTLR", "Force limit of one instruction group commit/deallocate per cycle"⟩,
  ⟨1, 15, CPUACTLR, nsPrivilegeLevel1, 15, 1, "FIOBEU", "impl_def", "CPUACTLR", "Force in-order issue in branch execution unit"⟩,
  ⟨1, 16, CPUACTLR, nsPrivilegeLevel1, 16, 1, "EFSO", "impl_def", "CPUACTLR", "Enable full strongly-ordered and device load replay"⟩,
  ⟨1, 17, CPUACTLR, nsPrivilegeLevel1, 17, 1, "DL2_01", "impl_def", "CPUACTLR", "Disables L2 TLB performance optimizations"⟩,
  ⟨1, 18, CPUACTLR, nsPrivilegeLevel1, 18, 1, "DL2_02", "impl_def", "CPUACTLR", "Disables L2 stage 1 translation table walk L2 PA cache"⟩,
  ⟨1, 19, CPUACTLR, nsPrivilegeLevel1, 19, 1, "DL2_03", "impl_def", "CPUACTLR", "Disable L2 stage 1 translation table walk cache"⟩,
  ⟨1, 20, CPUACTLR, nsPrivilegeLevel1, 20, 1, "DL2_04", "impl_def", "CPUACTLR", "Disable L2 translation table walk IPA PA cache"⟩,
  ⟨1, 21, CPUACTLR, nsPrivilegeLevel1, 21, 1, "DL2_05", "impl_def", "CPUACTLR", "Disable L2 TLB prefetching"⟩,
  ⟨1, 22, CPUACTLR, nsPrivilegeLevel1, 22, 1, "FIOL", "impl_def", "CPUACTLR", "Force in-order load issue"⟩,
  ⟨1, 23, CPUACTLR, nsPrivilegeLevel1, 23, 1, "FIOR", "impl_def", "CPUACTLR", "Force in-order requests to the same set and way"⟩,
  ⟨1, 24, CPUACTLR, nsPrivilegeLevel1, 24, 1, "NCSE", "impl_def", "CPUACTLR", "Non-cacheable streaming enhancement"⟩,
  ⟨1, 25, CPUACTLR, nsPrivilegeLevel1, 25, 2, "WSL1T", "impl_def", "CPUACTLR", "Write streaming no L1-allocate threshold"⟩,
  ⟨1, 26, CPUACTLR, nsPrivilegeLevel1, 27, 2, "WSNAT", "impl_def", "CPUACTLR", "Write streaming no allocate threshold"⟩,
  ⟨1, 27, CPUACTLR, nsPrivilegeLevel1, 29, 1, "FNCEA", "impl_def", "CPUACTLR", "Force Advanced SIMD and Floating-point clock enable active"⟩,
  ⟨1, 28, CPUACTLR, nsPrivilegeLevel1, 30, 1, "FMCEA", "impl_def", "CPUACTLR", "Force main clock enable active"⟩,
  ⟨1, 29, CPUACTLR, nsPrivilegeLevel1, 31, 1, "SDEH", "impl_def", "CPUACTLR", "Snoop-delayed exclusive handling"⟩,
  ⟨1, 30, CPUACTLR, nsPrivilegeLevel1, 32, 1, "DICP", "impl_def", "CPUACTLR", "Disable instruction cache prefetch"⟩,
  ⟨1, 31, CPUACTLR, nsPrivilegeLevel1, 33, 1, "DICW", "impl_def", "CPUACTLR", "Disable instruction Cache way"⟩,
  ⟨1, 32, CPUACTLR, nsPrivilegeLevel1, 34, 1, "DSBP", "impl_def", "CPUACTLR", "Disable static branch predictor"⟩,
  ⟨1, 33, CPUACTLR, nsPrivilegeLevel1, 35, 1, "Reserved", "impl_def", "CPUACTLR", "Reserved"⟩,
  ⟨1, 34, CPUACTLR, nsPrivilegeLevel1, 36, 1, "FIDSB", "impl_def", "CPUACTLR", "Force implicit DSB on an ISB"⟩,
  ⟨1, 35, CPUACTLR, nsPrivilegeLevel1, 37, 1, "DIGS", "impl_def", "CPUACTLR", "Disable instruction group split"⟩,
  ⟨1, 36, CPUACTLR, nsPrivilegeLevel1, 38, 1, "FFWF", "impl_def", "CPUACTLR", "Force FPSCR write flush"⟩,
  ⟨1, 37, CPUACTLR, nsPrivilegeLevel1, 39, 1, "DIM", "impl_def", "CPUACTLR", "Disable instruction merging"⟩,
  ⟨1, 38, CPUACTLR, nsPrivilegeLevel1, 40, 4, "Reserved", "impl_def", "CPUACTLR", "Reserved"⟩,
  ⟨1, 39, CPUACTLR, nsPrivilegeLevel1, 44, 1, "EDC", "impl_def", "CPUACTLR", "Execute Data Cache clean as Data Cache clean/invalidate"⟩,
  ⟨1, 40, CPUACTLR, nsPrivilegeLevel1, 45, 2, "Reserved", "impl_def", "CPUACTLR", "Reserved"⟩,
  ⟨1, 41, CPUACTLR, nsPrivilegeLevel1, 47, 1, "DDSIDE", "impl_def", "CPUACTLR", "Disable D-side L1/L2 hardware prefetch across 4KB page boundary even if page is 64KB or larger"⟩,
  ⟨1, 42, CPUACTLR, nsPrivilegeLevel1, 48, 1, "DESRA", "impl_def", "CPUACTLR", "Disable early speculative read access from LS to L2"⟩,
  ⟨1, 43, CPUACTLR, nsPrivilegeLevel1, 49, 1, "DNAH", "impl_def", "CPUACTLR", "Disable non-allocate hint of Write-Back No-Allocate memory type"⟩,
  ⟨1, 44, CPUACTLR, nsPrivilegeLevel1, 50, 1, "DSS", "impl_def", "CPUACTLR", "Disable store streaming on NC/GRE memory type"⟩,
  ⟨1, 45, CPUACTLR, nsPrivilegeLevel1, 51, 1, "DCD", "impl_def", "CPUACTLR", "Disable contention detection and fast exclusive monitor path"⟩,
  ⟨1, 46, CPUACTLR, nsPrivilegeLevel1, 52, 1, "DOR", "impl_def", "CPUACTLR", "Disable over-read from LDNP instruction"⟩,
  ⟨1, 47, CPUACTLR, nsPrivilegeLevel1, 53, 1, "TDMB", "impl_def", "CPUACTLR", "Treat DMB/DSB as if their domain field is SY"⟩,
  ⟨1, 48, CPUACTLR, nsPrivilegeLevel1, 54, 1, "TGRE", "impl_def", "CPUACTLR", "Tread GRE/nGRE as nGnRE"⟩,
  ⟨1, 49, CPUACTLR, nsPrivilegeLevel1, 55, 1, "DLPS", "impl_def", "CPUACTLR", "Disable load pass store"⟩,
  ⟨1, 50, CPUACTLR, nsPrivilegeLevel1, 56, 1, "DL1HP", "impl_def", "CPUACTLR", "Disable L1 hardware prefetcher"⟩,
  ⟨1, 51, CPUACTLR, nsPrivilegeLevel1, 57, 1, "TDMBA", "impl_def", "CPUACTLR", "Treat DMB st/st and ld/all as DMB all/all"⟩,
  ⟨1, 52, CPUACTLR, nsPrivilegeLevel1, 58, 1, "DDMBN", "impl_def", "CPUACTLR", "Disable DMB nullification"⟩,
  ⟨1, 53, CPUACTLR, nsPrivilegeLevel1, 59, 1, "DLPDMB", "impl_def", "CPUACTLR", "Disable load pass DMB"⟩,
  ⟨1, 54, CPUACTLR, nsPrivilegeLevel1, 60, 3, "Reserved", "impl_def", "CPUACTLR", "Reserved"⟩,
  ⟨1, 55, CPUACTLR, nsPrivilegeLevel1, 63, 1, "FPRCG", "impl_def", "CPUACTLR", "Force processor RCG enables active"⟩,
  ⟨1, 0, CPUMERRSR, nsPrivilegeLevel1, 0, 18, "RAMADDR", "impl_def", "CPUMERRSR", "Indicates the index address of the first memory error"⟩,
  ⟨1, 1, CPUMERRSR, nsPrivilegeLevel1, 18, 5, "CPUIDWAY", "impl_def", "CPUMERRSR", "Indicates the RAM where the first memory error occurred"⟩,
  ⟨1, 2, CPUMERRSR, nsPrivilegeLevel1, 23, 1, "Reserved", "impl_def", "CPUMERRSR", "Reserved"⟩,
  ⟨1, 3, CPUMERRSR, nsPrivilegeLevel1, 24, 7, "RAMID", "impl_def", "CPUMERRSR", "Ram Identifier"⟩,
  ⟨1, 4, CPUMERRSR, nsPrivilegeLevel1, 31, 1, "Valid", "impl_def", "CPUMERRSR", "Valid bit. Set to 1 on first memory error"⟩,
  ⟨1, 5, CPUMERRSR, nsPrivilegeLevel1, 32, 8, "REC", "impl_def", "CPUMERRSR", "Repeat memory error count when valid bit is set"⟩,
  ⟨1, 6, CPUMERRSR, nsPrivilegeLevel1, 40, 8, "OEC", "impl_def", "CPUMERRSR", "Other memory error count when valid bit is set"⟩,
  ⟨1, 7, CPUMERRSR, nsPrivilegeLevel1, 48, 15, "Reserved", "impl_def", "CPUMERRSR", "Reserved"⟩,
  ⟨1, 8, CPUMERRSR, nsPrivilegeLevel1, 63, 1, "Fatal", "impl_def", "CPUMERRSR", "Fatal bit. Set to 1 on first memory error that cased data abort"⟩,
  ⟨1, 0, L2MERRSR, nsPrivilegeLevel1, 0, 18, "Reserved", "impl_def", "L2MERRSR", "Reserved"⟩,
  ⟨1, 1, L2MERRSR, nsPrivilegeLevel1, 18, 4, "CPUIDWAY", "impl_def", "L2MERRSR", "Indicates the RAM where the first memory error occurred"⟩,
  ⟨1, 2, L2MERRSR, nsPrivilegeLevel1, 22, 2, "Reserved", "impl_def", "L2MERRSR", "Reserved"⟩,
  ⟨1, 3, L2MERRSR, nsPrivilegeLevel1, 24, 7, "RAMID", "impl_def", "L2MERRSR", "Indicates the RAM where the first memory error occurred"⟩,
  ⟨1, 4, L2MERRSR, nsPrivilegeLevel1, 31, 1, "VALID", "impl_def", "L2MERRSR", "Valid bit. Set to 1 on first memory error"⟩,
  ⟨1, 5, L2MERRSR, nsPrivilegeLevel1, 32, 8, "REC", "impl_def", "L2MERRSR", "Repeat memory error count when valid bit is set"⟩,
  ⟨1, 6, L2MERRSR, nsPrivilegeLevel1, 40, 8, "OEC", "impl_def", "L2MERRSR", "Other memory error count when valid bit is set"⟩,
  ⟨1, 7, L2MERRSR, nsPrivilegeLevel1, 48, 15, "Reserved", "impl_def", "L2MERRSR", "Reserved"⟩,
  ⟨1, 8, L2MERRSR, nsPrivilegeLevel1, 63, 1, "Fatal", "impl_def", "L2MERRSR", "Fatal bit. Set to 1 on first memory error that cased data abort"⟩,
  ⟨1, 0, CBAR, nsPrivilegeLevel1, 0, 18, "Reserved", "impl_def", "CBAR", "Reserved"⟩,
  ⟨1, 1, CBAR, nsPrivilegeLevel1, 18, 32, "PERIPHBASE", "impl_def", "CBAR", "Reset base address of memory-mapped GIC CPU interface registers"⟩,
  ⟨1, 2, CBAR, nsPrivilegeLevel1, 40, 24, "Reserved", "impl_def", "CBAR", "Reserved"⟩,
  ⟨1, 0, CPUECTLR, nsPrivilegeLevel1, 0, 3, "PDRC", "impl_def", "CPUECTLR", "Process dynamic retention control"⟩,
  ⟨1, 1, CPUECTLR, nsPrivilegeLevel1, 3, 3, "Reserved", "impl_def", "CPUECTLR", "Reserved"⟩,
  ⟨1, 2, CPUECTLR, nsPrivilegeLevel1, 6, 1, "SMPEN", "impl_def", "CPUECTLR", "Enable processor to receive instruction cache and TLB maintenance operations broadcast from other processors in the cluster"⟩,
  ⟨1, 3, CPUECTLR, nsPrivilegeLevel1, 7, 25, "Reserved", "impl_def", "CPUECTLR", "Reserved"⟩,
  ⟨1, 4, CPUECTLR, nsPrivilegeLevel1, 32, 2, "L2IFPD", "impl_def", "CPUECTLR", "Indicates the L2 load/store data prefetch distance"⟩,
  ⟨1, 5, CPUECTLR, nsPrivilegeLevel1, 34, 1, "Reserved", "impl_def", "CPUECTLR", "Reserved"⟩,
  ⟨1, 6, CPUECTLR, nsPrivilegeLevel1, 35, 2, "L2LSDPD", "impl_def", "CPUECTLR", "Indicates the L2 instruction fetch prefetch distance"⟩,
  ⟨1, 7, CPUECTLR, nsPrivilegeLevel1, 37, 1, "Reserved", "impl_def", "CPUECTLR", "Reserved"⟩,
  ⟨1, 8, CPUECTLR, nsPrivilegeLevel1, 38, 1, "DTWDAP", "impl_def", "CPUECTLR", "Disable table walk descriptor access prefetch"⟩,
  ⟨1, 9, CPUECTLR, nsPrivilegeLevel1, 39, 25, "Reserved", "impl_def", "CPUECTLR", "Reserved"⟩]

end Maplesyrup
