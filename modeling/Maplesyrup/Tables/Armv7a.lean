/-
The ARMv7-A decode table and the tables of its implementations
(lib/src/bitfields/bitfield_armv7a.c, bitfield_cortex-a7.c and
bitfield_cortex-a15.c), row by row.
-/
import Maplesyrup.Common.Registers

namespace Maplesyrup

open MsSysreg

def bitfieldArmv7aTable : List BitfieldInfo := [
  ⟨1, 0, PFR0, nsPrivilegeLevel1, 0, 4, "State0", "ident", "PFR0", "ARM instruction set support"⟩,
  ⟨1, 1, PFR0, nsPrivilegeLevel1, 4, 4, "State1", "ident", "PFR0", "Thumb instruction set support"⟩,
  ⟨1, 2, PFR0, nsPrivilegeLevel1, 8, 4, "State2", "ident", "PFR0", "Jazelle extension support"⟩,
  ⟨1, 3, PFR0, nsPrivilegeLevel1, 12, 4, "State3", "ident", "PFR0", "ThumbEE instruction set support"⟩,
  ⟨1, 4, PFR0, nsPrivilegeLevel1, 16, 16, "Reserved", "ident", "PFR0", "Reserved"⟩,
  ⟨1, 0, PFR1, nsPrivilegeLevel1, 0, 4, "Programmers' model", "ident", "PFR1", "Programmers' model"⟩,
  ⟨1, 1, PFR1, nsPrivilegeLevel1, 4, 4, "Security", "ident", "PFR1", "Security support"⟩,
  ⟨1, 2, PFR1, nsPrivilegeLevel1, 8, 4, "M profile programmers' model", "ident", "PFR1", "M profile programmers' model"⟩,
  ⟨1, 3, PFR1, nsPrivilegeLevel1, 12, 4, "Virtualization Extensions", "ident", "PFR1", "Virtualization Extensions"⟩,
  ⟨1, 4, PFR1, nsPrivilegeLevel1, 16, 4, "Generic Timer Extension", "ident", "PFR1", "Generic Timer Extension"⟩,
  ⟨1, 5, PFR1, nsPrivilegeLevel1, 20, 12, "Reserved", "ident", "PFR1", "Reserved"⟩,
  ⟨1, 0, DFR0, nsPrivilegeLevel1, 0, 4, "Coprocessor debug model", "ident", "DFR0", "Coprocessor debug model"⟩,
  ⟨1, 1, DFR0, nsPrivilegeLevel1, 4, 4, "Coprocessor secure debug model", "ident", "DFR0", "Coprocessor secure debug model"⟩,
  ⟨1, 2, DFR0, nsPrivilegeLevel1, 8, 4, "Memory-mapped debug model", "ident", "DFR0", " Memory-mapped debug model"⟩,
  ⟨1, 3, DFR0, nsPrivilegeLevel1, 12, 4, "Coprocessor trace model", "ident", "DFR0", " Coprocessor trace model"⟩,
  ⟨1, 4, DFR0, nsPrivilegeLevel1, 16, 4, "Memory-mapped trace model", "ident", "DFR0", "Memory-mapped trace model"⟩,
  ⟨1, 5, DFR0, nsPrivilegeLevel1, 20, 4, "Debug model, M profile", "ident", "DFR0", "Debug model, M profile"⟩,
  ⟨1, 6, DFR0, nsPrivilegeLevel1, 24, 4, "Performance Monitors Extension", "ident", "DFR0", "Performance Monitors Extension"⟩,
  ⟨1, 7, DFR0, nsPrivilegeLevel1, 28, 4, "Reserved", "ident", "DFR0", "Reserved"⟩,
  ⟨1, 0, AFR0, nsPrivilegeLevel1, 0, 4, "Implementation Defined", "ident", "AFR0", "Implementation Defined"⟩,
  ⟨1, 1, AFR0, nsPrivilegeLevel1, 4, 4, "Implementation Defined", "ident", "AFR0", "Implementation Defined"⟩,
  ⟨1, 2, AFR0, nsPrivilegeLevel1, 8, 4, "Implementation Defined", "ident", "AFR0", "Implementation Defined"⟩,
  ⟨1, 3, AFR0, nsPrivilegeLevel1, 12, 4, "Implementation Defined", "ident", "AFR0", "Implementation Defined"⟩,
  ⟨1, 4, AFR0, nsPrivilegeLevel1, 16, 16, "Reserved", "ident", "AFR0", "Reserved"⟩,
  ⟨1, 0, MMFR0, nsPrivilegeLevel1, 0, 4, "VMSA support", "ident", "MMFR0", "VMSA Support"⟩,
  ⟨1, 1, MMFR0, nsPrivilegeLevel1, 4, 4, "PMSA support", "ident", "MMFR0", "PMSA Support"⟩,
  ⟨1, 2, MMFR0, nsPrivilegeLevel1, 8, 4, "Outermost shareability", "ident", "MMFR0", "Outermost shareability"⟩,
  ⟨1, 3, MMFR0, nsPrivilegeLevel1, 12, 4, "Shareability levels", "ident", "MMFR0", "Shareability levels"⟩,
  ⟨1, 4, MMFR0, nsPrivilegeLevel1, 16, 4, "TCM support", "ident", "MMFR0", "TCM/DMA Support"⟩,
  ⟨1, 5, MMFR0, nsPrivilegeLevel1, 20, 4, "Auxiliary registers", "ident", "MMFR0", "Auxiliary registers"⟩,
  ⟨1, 6, MMFR0, nsPrivilegeLevel1, 24, 4, "FCSE support", "ident", "MMFR0", "FCSE support"⟩,
  ⟨1, 7, MMFR0, nsPrivilegeLevel1, 28, 4, "Innermost shareability", "ident", "MMFR0", "Innermost shareability"⟩,
  ⟨1, 0, MMFR1, nsPrivilegeLevel1, 0, 4, "L1 Harvard cache VA", "ident", "MMFR1", "L1 Harvard cache VA"⟩,
  ⟨1, 1, MMFR1, nsPrivilegeLevel1, 4, 4, "L1 unified cache VA", "ident", "MMFR1", "L1 unified cache VA"⟩,
  ⟨1, 2, MMFR1, nsPrivilegeLevel1, 8, 4, "L1 Harvard cache set/way", "ident", "MMFR1", "Harvard cache set/way"⟩,
  ⟨1, 3, MMFR1, nsPrivilegeLevel1, 12, 4, "L1 unified cache set/way", "ident", "MMFR1", "L1 unified cache set/way"⟩,
  ⟨1, 4, MMFR1, nsPrivilegeLevel1, 16, 4, "L1 Harvard cache", "ident", "MMFR1", "L1 Harvard cache"⟩,
  ⟨1, 5, MMFR1, nsPrivilegeLevel1, 20, 4, "L1 unified cache VA", "ident", "MMFR1", "L1 unified cache"⟩,
  ⟨1, 6, MMFR1, nsPrivilegeLevel1, 24, 4, "L1 cache test and clean", "ident", "MMFR1", "L1 cache test and clean"⟩,
  ⟨1, 7, MMFR1, nsPrivilegeLevel1, 28, 4, "Branch predictor", "ident", "MMFR1", "Branch predictor"⟩,
  ⟨1, 0, MMFR2, nsPrivilegeLevel1, 0, 4, "L1 Harvard fg fetch", "ident", "MMFR2", "L1 Harvard fg fetch"⟩,
  ⟨1, 1, MMFR2, nsPrivilegeLevel1, 4, 4, "L1 Harvard bg fetch", "ident", "MMFR2", "L1 Harvard bg fetch"⟩,
  ⟨1, 2, MMFR2, nsPrivilegeLevel1, 8, 4, "L1 Harvard range", "ident", "MMFR2", "L1 Harvard range"⟩,
  ⟨1, 3, MMFR2, nsPrivilegeLevel1, 12, 4, "Harvard TLB", "ident", "MMFR2", "Harvard TLB"⟩,
  ⟨1, 4, MMFR2, nsPrivilegeLevel1, 16, 4, "Unified TLB", "ident", "MMFR2", "Unified TLB"⟩,
  ⟨1, 5, MMFR2, nsPrivilegeLevel1, 20, 4, "Mem barrier", "ident", "MMFR2", "Mem barrier"⟩,
  ⟨1, 6, MMFR2, nsPrivilegeLevel1, 24, 4, "WFI stall", "ident", "MMFR2", "WFI stall"⟩,
  ⟨1, 7, MMFR2, nsPrivilegeLevel1, 28, 4, "HW Access flag", "ident", "MMFR2", "HW Access flag"⟩,
  ⟨1, 0, MMFR3, nsPrivilegeLevel1, 0, 4, "Cache maintain MVA", "ident", "MMFR3", "Cache maintain MVA"⟩,
  ⟨1, 1, MMFR3, nsPrivilegeLevel1, 4, 4, "Cache maintain set/way", "ident", "MMFR3", "Cache maintain set/way"⟩,
  ⟨1, 2, MMFR3, nsPrivilegeLevel1, 8, 4, "BP maintain", "ident", "MMFR3", "BP maintain"⟩,
  ⟨1, 3, MMFR3, nsPrivilegeLevel1, 12, 4, "Maintenance broadcast", "ident", "MMFR3", "Maintenance broadcast"⟩,
  ⟨1, 4, MMFR3, nsPrivilegeLevel1, 16, 4, "Reserved", "ident", "MMFR3", "Reserved"⟩,
  ⟨1, 5, MMFR3, nsPrivilegeLevel1, 20, 4, "Coherent walk", "ident", "MMFR3", "Coherent walk"⟩,
  ⟨1, 6, MMFR3, nsPrivilegeLevel1, 24, 4, "Cached memory size", "ident", "MMFR3", "Cached memory size"⟩,
  ⟨1, 7, MMFR3, nsPrivilegeLevel1, 28, 4, "Supersection support", "ident", "MMFR3", "Supersection support"⟩,
  ⟨1, 0, ISAR0, nsPrivilegeLevel1, 0, 4, "Swap_instrs", "ident", "ISAR0", "Swap_instrs"⟩,
  ⟨1, 1, ISAR0, nsPrivilegeLevel1, 4, 4, "BitCount_instrs", "ident", "ISAR0", "BitCount_instrs"⟩,
  ⟨1, 2, ISAR0, nsPrivilegeLevel1, 8, 4, "Bitfield_instrs", "ident", "ISAR0", "Bitfield_instrs"⟩,
  ⟨1, 3, ISAR0, nsPrivilegeLevel1, 12, 4, "CmpBranch_instrs", "ident", "ISAR0", "Compare and Branch instructions"⟩,
  ⟨1, 4, ISAR0, nsPrivilegeLevel1, 16, 4, "Coproc_instrs", "ident", "ISAR0", "Coprocessor instructions"⟩,
  ⟨1, 5, ISAR0, nsPrivilegeLevel1, 20, 4, "Debug_instrs", "ident", "ISAR0", "Debug instructions"⟩,
  ⟨1, 6, ISAR0, nsPrivilegeLevel1, 24, 4, "Divide_instrs", "ident", "ISAR0", "Divide instructions"⟩,
  ⟨1, 7, ISAR0, nsPrivilegeLevel1, 28, 4, "Reserved", "ident", "ISAR0", "Reserved"⟩,
  ⟨1, 0, ISAR1, nsPrivilegeLevel1, 0, 4, "Ending_instrs", "ident", "ISAR1", "Endian instructions"⟩,
  ⟨1, 1, ISAR1, nsPrivilegeLevel1, 4, 4, "Except_instrs", "ident", "ISAR1", "Exception-handling instructions"⟩,
  ⟨1, 2, ISAR1, nsPrivilegeLevel1, 8, 4, "Except_AR_instrs", "ident", "ISAR1", "A & R profile exception-handling instructions"⟩,
  ⟨1, 3, ISAR1, nsPrivilegeLevel1, 12, 4, "Extend_instrs", "ident", "ISAR1", "Extend instructions"⟩,
  ⟨1, 4, ISAR1, nsPrivilegeLevel1, 16, 4, "IfThen_instrs", "ident", "ISAR1", "If-Then instructions in Thumb"⟩,
  ⟨1, 5, ISAR1, nsPrivilegeLevel1, 20, 4, "Immediate_instrs", "ident", "ISAR1", "Data processing instructions on long immediates"⟩,
  ⟨1, 6, ISAR1, nsPrivilegeLevel1, 24, 4, "Interwork_instrs", "ident", "ISAR1", "Interworking instructions"⟩,
  ⟨1, 7, ISAR1, nsPrivilegeLevel1, 28, 4, "Jazelle_instrs", "ident", "ISAR1", "Jazelle extension instructions"⟩,
  ⟨1, 0, ISAR2, nsPrivilegeLevel1, 0, 4, "LoadStore_instrs", "ident", "ISAR2", "Additional load/store instructions"⟩,
  ⟨1, 1, ISAR2, nsPrivilegeLevel1, 4, 4, "MemHint_instrs", "ident", "ISAR2", "Memory Hint instructions"⟩,
  ⟨1, 2, ISAR2, nsPrivilegeLevel1, 8, 4, "MultiAccessInt_instrs", "ident", "ISAR2", "Interruptible multi-access instructions"⟩,
  ⟨1, 3, ISAR2, nsPrivilegeLevel1, 12, 4, "Mult_instrs", "ident", "ISAR2", "Additional multiply instructions"⟩,
  ⟨1, 4, ISAR2, nsPrivilegeLevel1, 16, 4, "MultS_instrs", "ident", "ISAR2", "Advanced signed Multiply instructions"⟩,
  ⟨1, 5, ISAR2, nsPrivilegeLevel1, 20, 4, "MultU_instrs", "ident", "ISAR2", "Advanced unsigned Multiply instructions"⟩,
  ⟨1, 6, ISAR2, nsPrivilegeLevel1, 24, 4, "PSR_AR_instrs", "ident", "ISAR2", "Instructions to manipulate PSR"⟩,
  ⟨1, 7, ISAR2, nsPrivilegeLevel1, 28, 4, "Reversal_instrs", "ident", "ISAR2", "Implemented Reversal instructions"⟩,
  ⟨1, 0, ISAR3, nsPrivilegeLevel1, 0, 4, "Saturate_instrs", "ident", "ISAR3", "Implemented Saturate instructions"⟩,
  ⟨1, 1, ISAR3, nsPrivilegeLevel1, 4, 4, "SIMD_instrs", "ident", "ISAR3", "Implemented SIMD instructions"⟩,
  ⟨1, 2, ISAR3, nsPrivilegeLevel1, 8, 4, "SVC_instrs", "ident", "ISAR3", "Implemented SVC instructions"⟩,
  ⟨1, 3, ISAR3, nsPrivilegeLevel1, 12, 4, "SynchPrim_instrs", "ident", "ISAR3", " Synchronization Primitive instructions"⟩,
  ⟨1, 4, ISAR3, nsPrivilegeLevel1, 16, 4, "TabBranch_instrs", "ident", "ISAR3", "Table Branch instructions in Thumb"⟩,
  ⟨1, 5, ISAR3, nsPrivilegeLevel1, 20, 4, "ThumbCopy_instrs", "ident", "ISAR3", "Thumb non-flag setting MOV instructions"⟩,
  ⟨1, 6, ISAR3, nsPrivilegeLevel1, 24, 4, "TrueNOP_instrs", "ident", "ISAR3", "Implemented True NOP instructions"⟩,
  ⟨1, 7, ISAR3, nsPrivilegeLevel1, 28, 4, "ThumbEE_extn_instrs", "ident", "ISAR3", "Thumb Execution Environment Extension instructions"⟩,
  ⟨1, 0, ISAR4, nsPrivilegeLevel1, 0, 4, "Unpriv_instrs", "ident", "ISAR4", "Implemented Unprivileged instructions"⟩,
  ⟨1, 1, ISAR4, nsPrivilegeLevel1, 4, 4, "WithShifts_instrs", "ident", "ISAR4", "Support for instructions with shifts"⟩,
  ⟨1, 2, ISAR4, nsPrivilegeLevel1, 8, 4, "Writeback_instrs", "ident", "ISAR4", "Writeback addressing modes"⟩,
  ⟨1, 3, ISAR4, nsPrivilegeLevel1, 12, 4, "SMC_instrs", "ident", "ISAR4", "SMC instructions"⟩,
  ⟨1, 4, ISAR4, nsPrivilegeLevel1, 16, 4, "Barrier_instrs", "ident", "ISAR4", "Barrier instructions"⟩,
  ⟨1, 5, ISAR4, nsPrivilegeLevel1, 20, 4, "SynchPrim_instrs", "ident", "ISAR4", "Implemented Synchronization Primitive instructions"⟩,
  ⟨1, 6, ISAR4, nsPrivilegeLevel1, 24, 4, "PSR_M_instrs", "ident", "ISAR4", "M profile instructions to modify PSR"⟩,
  ⟨1, 7, ISAR4, nsPrivilegeLevel1, 28, 4, "SWP_frac", "ident", "ISAR4", "Bus locking on SWP or SWPB"⟩,
  ⟨1, 0, ISAR5, nsPrivilegeLevel1, 0, 32, "Reserved", "ident", "ISAR5", "Reserved"⟩,
  ⟨1, 0, REVIDR, nsPrivilegeLevel1, 0, 32, "Reserved", "ident", "REVIDR", "Implementation Defined"⟩,
  ⟨1, 0, TLBTR, nsPrivilegeLevel1, 0, 1, "nU", "ident", "TLBTR", "[0] Not Unified TLB"⟩,
  ⟨1, 1, TLBTR, nsPrivilegeLevel1, 1, 31, "Implementation Defined", "ident", "TLBTR", "Implementation Defined"⟩,
  ⟨1, 0, CCSIDR, nsPrivilegeLevel1, 0, 3, "LineSize", "ident", "CCSIDR", "Number of words in cache line"⟩,
  ⟨1, 1, CCSIDR, nsPrivilegeLevel1, 3, 10, "Associativity", "ident", "CCSIDR", "Associativity of cache"⟩,
  ⟨1, 2, CCSIDR, nsPrivilegeLevel1, 13, 15, "NumSets", "ident", "CCSIDR", "Number of sets in cache"⟩,
  ⟨1, 3, CCSIDR, nsPrivilegeLevel1, 28, 1, "WA", "ident", "CCSIDR", "Write allocation"⟩,
  ⟨1, 4, CCSIDR, nsPrivilegeLevel1, 29, 1, "RA", "ident", "CCSIDR", "Read allocation"⟩,
  ⟨1, 5, CCSIDR, nsPrivilegeLevel1, 30, 1, "WB", "ident", "CCSIDR", "Write back"⟩,
  ⟨1, 6, CCSIDR, nsPrivilegeLevel1, 31, 1, "WT", "ident", "CCSIDR", "Write through"⟩,
  ⟨1, 0, TCMTR, nsPrivilegeLevel1, 0, 29, "Implementation Defined", "ident", "TCMTR", "Implementation Defined"⟩,
  ⟨1, 1, TCMTR, nsPrivilegeLevel1, 29, 3, "Format", "ident", "TCMTR", "Implemented TCMTR format"⟩,
  ⟨1, 0, AIDR, nsPrivilegeLevel1, 0, 32, "Implementation Defined", "ident", "AIDR", "Implementation Defined"⟩,
  ⟨1, 0, CLIDR, nsPrivilegeLevel1, 0, 3, "Ctype1", "ident", "CLIDR", "Cache type 1"⟩,
  ⟨1, 1, CLIDR, nsPrivilegeLevel1, 3, 3, "Ctype2", "ident", "CLIDR", "Cache type 2"⟩,
  ⟨1, 2, CLIDR, nsPrivilegeLevel1, 6, 3, "Ctype3", "ident", "CLIDR", "Cache type 3"⟩,
  ⟨1, 3, CLIDR, nsPrivilegeLevel1, 9, 3, "Ctype4", "ident", "CLIDR", "Cache type 4"⟩,
  ⟨1, 4, CLIDR, nsPrivilegeLevel1, 12, 3, "Ctype5", "ident", "CLIDR", "Cache type 5"⟩,
  ⟨1, 5, CLIDR, nsPrivilegeLevel1, 15, 3, "Ctype6", "ident", "CLIDR", "Cache type 6"⟩,
  ⟨1, 6, CLIDR, nsPrivilegeLevel1, 18, 3, "Ctype7", "ident", "CLIDR", "Cache type 7"⟩,
  ⟨1, 7, CLIDR, nsPrivilegeLevel1, 21, 3, "LoUIS", "ident", "CLIDR", "Level of Unification Inner Shareable"⟩,
  ⟨1, 8, CLIDR, nsPrivilegeLevel1, 24, 3, "LoC", "ident", "CLIDR", "Level of Coherence"⟩,
  ⟨1, 9, CLIDR, nsPrivilegeLevel1, 27, 3, "LoUU", "ident", "CLIDR", "Level of Unification Uniprocessor"⟩,
  ⟨1, 10, CLIDR, nsPrivilegeLevel1, 30, 2, "Reserved", "ident", "CLIDR", "Reserved"⟩,
  ⟨1, 0, CSSELR, nsPrivilegeLevel1, 0, 1, "InD", "ident", "CSSELR", "Instruction not Data bit"⟩,
  ⟨1, 1, CSSELR, nsPrivilegeLevel1, 1, 3, "Level", "ident", "CSSELR", "Level"⟩,
  ⟨1, 2, CSSELR, nsPrivilegeLevel1, 4, 28, "Reserved", "ident", "CSSELR", "Reserved"⟩,
  ⟨1, 0, CTR, nsPrivilegeLevel1, 0, 4, "IminLine", "ident", "CTR", "IminLine"⟩,
  ⟨1, 1, CTR, nsPrivilegeLevel1, 4, 10, "Reserved", "ident", "CTR", "Reserved"⟩,
  ⟨1, 2, CTR, nsPrivilegeLevel1, 14, 2, "L1Ip", "ident", "CTR", "Level 1 instruction cache policy"⟩,
  ⟨1, 3, CTR, nsPrivilegeLevel1, 16, 4, "DminLine", "ident", "CTR", "DminLine"⟩,
  ⟨1, 4, CTR, nsPrivilegeLevel1, 20, 4, "ERG", "ident", "CTR", "Exclusives Reservation Granule"⟩,
  ⟨1, 5, CTR, nsPrivilegeLevel1, 24, 4, "CWG", "ident", "CTR", "Cache Write-back Granule"⟩,
  ⟨1, 6, CTR, nsPrivilegeLevel1, 28, 1, "Reserved", "ident", "CTR", "Reserved"⟩,
  ⟨1, 7, CTR, nsPrivilegeLevel1, 29, 3, "Format", "ident", "CTR", "CTR Format"⟩,
  ⟨1, 0, MIDR, nsPrivilegeLevel1, 0, 4, "Revision", "ident", "MIDR", "Revision"⟩,
  ⟨1, 1, MIDR, nsPrivilegeLevel1, 4, 12, "Primary part number", "ident", "MIDR", "Primary part number"⟩,
  ⟨1, 2, MIDR, nsPrivilegeLevel1, 16, 4, "Architecture", "ident", "MIDR", "Architecture"⟩,
  ⟨1, 3, MIDR, nsPrivilegeLevel1, 20, 4, "Variant", "ident", "MIDR", "Variant"⟩,
  ⟨1, 4, MIDR, nsPrivilegeLevel1, 24, 8, "Implementer", "ident", "MIDR", "Implementer"⟩,
  ⟨1, 0, MPIDR, nsPrivilegeLevel1, 0, 8, "Aff0", "ident", "MPIDR", "Affinity level 0"⟩,
  ⟨1, 1, MPIDR, nsPrivilegeLevel1, 8, 8, "Aff1", "ident", "MPIDR", "Affinity level 1"⟩,
  ⟨1, 2, MPIDR, nsPrivilegeLevel1, 16, 8, "Aff2", "ident", "MPIDR", "Affinity level 2"⟩,
  ⟨1, 3, MPIDR, nsPrivilegeLevel1, 24, 1, "MT", "ident", "MPIDR", "Affinity dependence"⟩,
  ⟨1, 4, MPIDR, nsPrivilegeLevel1, 25, 5, "Reserved", "ident", "MPIDR", "Reserved"⟩,
  ⟨1, 5, MPIDR, nsPrivilegeLevel1, 30, 1, "U", "ident", "MPIDR", "Uniprocessor system"⟩,
  ⟨1, 6, MPIDR, nsPrivilegeLevel1, 31, 1, "ME", "ident", "MPIDR", "Register format"⟩,
  ⟨1, 0, FPSID, nsPrivilegeLevel1, 0, 4, "Revision", "fp", "FPSID", "Revision number"⟩,
  ⟨1, 1, FPSID, nsPrivilegeLevel1, 4, 4, "Variant", "fp", "FPSID", "Variant number"⟩,
  ⟨1, 2, FPSID, nsPrivilegeLevel1, 8, 8, "Part Number", "fp", "FPSID", "Part number"⟩,
  ⟨1, 3, FPSID, nsPrivilegeLevel1, 16, 6, "Subarchitecture", "fp", "FPSID", "Subarchitecture version number"⟩,
  ⟨1, 4, FPSID, nsPrivilegeLevel1, 23, 1, "SW", "fp", "FPSID", "Software emulation"⟩,
  ⟨1, 5, FPSID, nsPrivilegeLevel1, 24, 8, "Implementer", "fp", "FPSID", "Implementer"⟩,
  ⟨1, 0, FPSCR, nsPrivilegeLevel1, 0, 1, "IOC", "fp", "FPSCR", "Invalid Operation cumulative exception"⟩,
  ⟨1, 1, FPSCR, nsPrivilegeLevel1, 1, 1, "DZC", "fp", "FPSCR", "Division by Zero cumulative exception"⟩,
  ⟨1, 2, FPSCR, nsPrivilegeLevel1, 2, 1, "OFC", "fp", "FPSCR", "Overflow cumulative exception"⟩,
  ⟨1, 3, FPSCR, nsPrivilegeLevel1, 3, 1, "UFC", "fp", "FPSCR", "Underflow cumulative exception"⟩,
  ⟨1, 4, FPSCR, nsPrivilegeLevel1, 4, 1, "IXC", "fp", "FPSCR", "Inexact cumulative exception"⟩,
  ⟨1, 5, FPSCR, nsPrivilegeLevel1, 5, 2, "Reserved", "fp", "FPSCR", "Reserved"⟩,
  ⟨1, 6, FPSCR, nsPrivilegeLevel1, 7, 1, "IDC", "fp", "FPSCR", "Input Denormal cumulative exception"⟩,
  ⟨1, 7, FPSCR, nsPrivilegeLevel1, 8, 1, "IOE", "fp", "FPSCR", "Invalid Operation exception trap enable"⟩,
  ⟨1, 8, FPSCR, nsPrivilegeLevel1, 9, 1, "DZE", "fp", "FPSCR", "Division by Zero exception trap enable"⟩,
  ⟨1, 9, FPSCR, nsPrivilegeLevel1, 10, 1, "OFE", "fp", "FPSCR", "Overflow exception trap enable"⟩,
  ⟨1, 10, FPSCR, nsPrivilegeLevel1, 11, 1, "UFE", "fp", "FPSCR", "Underflow exception trap enable"⟩,
  ⟨1, 11, FPSCR, nsPrivilegeLevel1, 12, 1, "IXE", "fp", "FPSCR", "Inexact exception trap enable"⟩,
  ⟨1, 12, FPSCR, nsPrivilegeLevel1, 13, 2, "Reserved", "fp", "FPSCR", "Reserved"⟩,
  ⟨1, 13, FPSCR, nsPrivilegeLevel1, 15, 1, "IDE", "fp", "FPSCR", "Input Denormal exception trap enable"⟩,
  ⟨1, 14, FPSCR, nsPrivilegeLevel1, 16, 3, "LEN", "fp", "FPSCR", "ARM deprecated field"⟩,
  ⟨1, 15, FPSCR, nsPrivilegeLevel1, 19, 1, "Reserved", "fp", "FPSCR", "Reserved"⟩,
  ⟨1, 16, FPSCR, nsPrivilegeLevel1, 20, 2, "Stride", "fp", "FPSCR", "ARM deprecated field"⟩,
  ⟨1, 17, FPSCR, nsPrivilegeLevel1, 22, 2, "RMode", "fp", "FPSCR", "Rounding Mode control"⟩,
  ⟨1, 18, FPSCR, nsPrivilegeLevel1, 24, 1, "FZ", "fp", "FPSCR", "Flush-to-zero"⟩,
  ⟨1, 19, FPSCR, nsPrivilegeLevel1, 25, 1, "DN", "fp", "FPSCR", "Default NaN"⟩,
  ⟨1, 20, FPSCR, nsPrivilegeLevel1, 26, 1, "AHP", "fp", "FPSCR", "Alternative half-precision"⟩,
  ⟨1, 21, FPSCR, nsPrivilegeLevel1, 27, 1, "QC", "fp", "FPSCR", "Cumulative saturation bit"⟩,
  ⟨1, 22, FPSCR, nsPrivilegeLevel1, 28, 1, "V", "fp", "FPSCR", "Overflow condition flag"⟩,
  ⟨1, 23, FPSCR, nsPrivilegeLevel1, 29, 1, "C", "fp", "FPSCR", "Carry condition flag"⟩,
  ⟨1, 24, FPSCR, nsPrivilegeLevel1, 30, 1, "Z", "fp", "FPSCR", "Zero condition flag"⟩,
  ⟨1, 25, FPSCR, nsPrivilegeLevel1, 31, 1, "N", "fp", "FPSCR", "Negative condition flag"⟩,
  ⟨1, 0, FPEXC, nsPrivilegeLevel1, 0, 29, "Implementation Defined", "fp", "FPEXC", "Subarchitecture defined"⟩,
  ⟨1, 1, FPEXC, nsPrivilegeLevel1, 30, 1, "EN", "fp", "FPEXC", "Global enable for Advanced SIMD and Floating-point Extensions"⟩,
  ⟨1, 2, FPEXC, nsPrivilegeLevel1, 31, 1, "EX", "fp", "FPEXC", "Extent of saved records for Advanced SIMD and Floating-point systems"⟩,
  ⟨1, 0, MVFR0, nsPrivilegeLevel1, 0, 4, "A_SIMD registers", "fp", "MVFR0", "Support for Advanced SIMD register bank"⟩,
  ⟨1, 1, MVFR0, nsPrivilegeLevel1, 4, 4, "Single-precision", "fp", "MVFR0", "Support for Floating-point Extension single-precision operations"⟩,
  ⟨1, 2, MVFR0, nsPrivilegeLevel1, 8, 4, "Double-precision", "fp", "MVFR0", "Support for Floating-point Extension double-precision operations"⟩,
  ⟨1, 3, MVFR0, nsPrivilegeLevel1, 12, 4, "VFP exception exception trapping", "fp", "MVFR0", "VFP support for exception handling"⟩,
  ⟨1, 4, MVFR0, nsPrivilegeLevel1, 16, 4, "Divide", "fp", "MVFR0", "VFP divide support"⟩,
  ⟨1, 5, MVFR0, nsPrivilegeLevel1, 20, 4, "Square root", "fp", "MVFR0", "VFP square root support"⟩,
  ⟨1, 6, MVFR0, nsPrivilegeLevel1, 24, 4, "Short vectors", "fp", "MVFR0", "VFP short vector support"⟩,
  ⟨1, 7, MVFR0, nsPrivilegeLevel1, 28, 4, "VFP rounding modes", "fp", "MVFR0", "VFP rounding modes support"⟩,
  ⟨1, 0, MVFR1, nsPrivilegeLevel1, 0, 4, "FtZ mode", "fp", "MVFR1", "Flush-to-zero only"⟩,
  ⟨1, 1, MVFR1, nsPrivilegeLevel1, 4, 4, "D_NaN", "fp", "MVFR1", "Default NaN only"⟩,
  ⟨1, 2, MVFR1, nsPrivilegeLevel1, 8, 4, "A_SIMD load/store", "fp", "MVFR1", "A_SIMD Load/store implementation"⟩,
  ⟨1, 3, MVFR1, nsPrivilegeLevel1, 12, 4, "A_SIMD integer", "fp", "MVFR1", "A_SIMD integer instructions"⟩,
  ⟨1, 4, MVFR1, nsPrivilegeLevel1, 16, 4, "A_SIMD SPFP", "fp", "MVFR1", "A_SIMD single-precision floating point conversion"⟩,
  ⟨1, 5, MVFR1, nsPrivilegeLevel1, 20, 4, "A_SIMD HPFP", "fp", "MVFR1", "A_SIMD half-precision floating point conversion"⟩,
  ⟨1, 6, MVFR1, nsPrivilegeLevel1, 24, 4, "VFP HPFP", "fp", "MVFR1", "Floating point implements half-precision floating-point conversion"⟩,
  ⟨1, 7, MVFR1, nsPrivilegeLevel1, 28, 4, "A_SIMD FMAC", "fp", "MVFR1", "FP or A_SIMD implements fused multiply accumulate"⟩,
  ⟨1, 0, SCR, sAll, 0, 1, "NS", "secext", "SCR", "Non Secure Bit"⟩,
  ⟨1, 1, SCR, sAll, 1, 1, "IRQ", "secext", "SCR", "IRQ Handler"⟩,
  ⟨1, 2, SCR, sAll, 2, 1, "FIQ", "secext", "SCR", "FIQ Handler"⟩,
  ⟨1, 3, SCR, sAll, 3, 1, "EA", "secext", "SCR", "External Abort Handler"⟩,
  ⟨1, 4, SCR, sAll, 4, 1, "FW", "secext", "SCR", "F bit writeable"⟩,
  ⟨1, 5, SCR, sAll, 5, 1, "AW", "secext", "SCR", "A bit writeable"⟩,
  ⟨1, 6, SCR, sAll, 6, 1, "nET", "secext", "SCR", "Not Early Termination"⟩,
  ⟨1, 7, SCR, sAll, 7, 1, "SCD", "secext", "SCR", "Secure Monitor Call disable"⟩,
  ⟨1, 8, SCR, sAll, 8, 1, "HCE", "secext", "SCR", "HYP call enable"⟩,
  ⟨1, 9, SCR, sAll, 9, 1, "SIF", "secext", "SCR", "Secure Instruction Fetch bit"⟩,
  ⟨1, 10, SCR, sAll, 10, 22, "Reserved", "secext", "SCR", "Reserved"⟩,
  ⟨1, 0, ISR, nsPrivilegeLevel1, 0, 6, "Reserved", "secext", "ISR", "Reserved"⟩,
  ⟨1, 1, ISR, nsPrivilegeLevel1, 6, 1, "F", "secext", "ISR", "FIQ pending bit"⟩,
  ⟨1, 2, ISR, nsPrivilegeLevel1, 7, 1, "I", "secext", "ISR", "IRQ pending bit"⟩,
  ⟨1, 3, ISR, nsPrivilegeLevel1, 8, 1, "A", "secext", "ISR", "External abort pending bit"⟩,
  ⟨1, 4, ISR, nsPrivilegeLevel1, 9, 23, "Reserved", "secext", "ISR", "Reserved"⟩,
  ⟨1, 0, MVBAR, sAll, 0, 5, "Reserved", "secext", "MVBAR", "Reserved"⟩,
  ⟨1, 1, MVBAR, sAll, 5, 27, "Monitor_Vector_Base_Address", "secext", "MVBAR", "Monitor Vector Base Address"⟩,
  ⟨1, 0, NSACR, nsPrivilegeLevel1, 0, 1, "CP0", "secext", "NSACR", "Non-secure access to coprocessor 0 enable"⟩,
  ⟨1, 1, NSACR, nsPrivilegeLevel1, 1, 1, "CP1", "secext", "NSACR", "Non-secure access to coprocessor 1 enable"⟩,
  ⟨1, 2, NSACR, nsPrivilegeLevel1, 2, 1, "CP2", "secext", "NSACR", "Non-secure access to coprocessor 2 enable"⟩,
  ⟨1, 3, NSACR, nsPrivilegeLevel1, 3, 1, "CP3", "secext", "NSACR", "Non-secure access to coprocessor 3 enable"⟩,
  ⟨1, 4, NSACR, nsPrivilegeLevel1, 4, 1, "CP4", "secext", "NSACR", "Non-secure access to coprocessor 4 enable"⟩,
  ⟨1, 5, NSACR, nsPrivilegeLevel1, 5, 1, "CP5", "secext", "NSACR", "Non-secure access to coprocessor 5 enable"⟩,
  ⟨1, 6, NSACR, nsPrivilegeLevel1, 6, 1, "CP6", "secext", "NSACR", "Non-secure access to coprocessor 6 enable"⟩,
  ⟨1, 7, NSACR, nsPrivilegeLevel1, 7, 1, "CP7", "secext", "NSACR", "Non-secure access to coprocessor 7 enable"⟩,
  ⟨1, 8, NSACR, nsPrivilegeLevel1, 8, 1, "CP8", "secext", "NSACR", "Non-secure access to coprocessor 8 enable"⟩,
  ⟨1, 9, NSACR, nsPrivilegeLevel1, 9, 1, "CP9", "secext", "NSACR", "Non-secure access to coprocessor 9 enable"⟩,
  ⟨1, 10, NSACR, nsPrivilegeLevel1, 10, 1, "CP10", "secext", "NSACR", "Non-secure access to coprocessor 10 enable"⟩,
  ⟨1, 11, NSACR, nsPrivilegeLevel1, 11, 1, "CP11", "secext", "NSACR", "Non-secure access to coprocessor 11 enable"⟩,
  ⟨1, 12, NSACR, nsPrivilegeLevel1, 12, 1, "CP12", "secext", "NSACR", "Non-secure access to coprocessor 12 enable"⟩,
  ⟨1, 13, NSACR, nsPrivilegeLevel1, 13, 1, "CP13", "secext", "NSACR", "Non-secure access to coprocessor 13 enable"⟩,
  ⟨1, 14, NSACR, nsPrivilegeLevel1, 14, 1, "NSD32DIS", "secext", "NSACR", "Disable non-secure use of registers"⟩,
  ⟨1, 15, NSACR, nsPrivilegeLevel1, 15, 1, "NSASEDIS", "secext", "NSACR", "Disable non-secure advanced SIMD"⟩,
  ⟨1, 16, NSACR, nsPrivilegeLevel1, 16, 3, "Implementation Defined", "secext", "NSACR", "Implementation defined"⟩,
  ⟨1, 17, NSACR, nsPrivilegeLevel1, 19, 1, "RFR", "secext", "NSACR", "Reserve FIQ Resisters"⟩,
  ⟨1, 18, NSACR, nsPrivilegeLevel1, 20, 1, "NSTRCDIS", "secext", "NSACR", "Disable non-secure access to CP14 trace registers"⟩,
  ⟨1, 19, NSACR, nsPrivilegeLevel1, 21, 11, "Reserved", "secext", "NSACR", "Reserved"⟩,
  ⟨1, 0, SDER, sAll, 0, 1, "SUIDEN", "secext", "SDER", "Secure user invasive debug"⟩,
  ⟨1, 1, SDER, sAll, 1, 1, "SUNIDEN", "secext", "SDER", "Secure user non-invasive debug"⟩,
  ⟨1, 2, SDER, sAll, 2, 30, "Reserved", "secext", "SDER", "Reserved"⟩,
  ⟨1, 0, VBAR, nsPrivilegeLevel1, 0, 5, "Reserved", "secext", "VBAR", "Reserved"⟩,
  ⟨1, 1, VBAR, nsPrivilegeLevel1, 5, 27, "Reserved", "secext", "VBAR", "Vector base address"⟩,
  ⟨1, 0, DBGDIDR, nsPrivilegeLevel1, 0, 4, "Revision", "debug", "DBGDIDR", "Revision"⟩,
  ⟨1, 1, DBGDIDR, nsPrivilegeLevel1, 4, 4, "Variant", "debug", "DBGDIDR", "Variant"⟩,
  ⟨1, 2, DBGDIDR, nsPrivilegeLevel1, 8, 4, "Reserved", "debug", "DBGDIDR", "Reserved"⟩,
  ⟨1, 3, DBGDIDR, nsPrivilegeLevel1, 12, 1, "SE_imp", "debug", "DBGDIDR", "Security Extensions Implemented"⟩,
  ⟨1, 4, DBGDIDR, nsPrivilegeLevel1, 13, 1, "PCSR_imp", "debug", "DBGDIDR", "Program Counter Sampling Register"⟩,
  ⟨1, 5, DBGDIDR, nsPrivilegeLevel1, 14, 1, "nSUHD_imp", "debug", "DBGDIDR", "Secure User Halting Debug"⟩,
  ⟨1, 6, DBGDIDR, nsPrivilegeLevel1, 15, 1, "DEVID_imp", "debug", "DBGDIDR", "Debug Device ID"⟩,
  ⟨1, 7, DBGDIDR, nsPrivilegeLevel1, 16, 4, "Version", "debug", "DBGDIDR", "Version"⟩,
  ⟨1, 8, DBGDIDR, nsPrivilegeLevel1, 20, 4, "CTX_CMP", "debug", "DBGDIDR", "Context Compare Breakpoints"⟩,
  ⟨1, 9, DBGDIDR, nsPrivilegeLevel1, 24, 4, "BRP", "debug", "DBGDIDR", "Number of breakpoints"⟩,
  ⟨1, 10, DBGDIDR, nsPrivilegeLevel1, 28, 4, "WRP", "debug", "DBGDIDR", "Number of Watchpoints Implemented"⟩,
  ⟨1, 0, DBGAUTHSTATUS, nsPrivilegeLevel1, 0, 1, "NSE", "debug", "DBGAUTHSTATUS", "Non-secure invasive debug"⟩,
  ⟨1, 1, DBGAUTHSTATUS, nsPrivilegeLevel1, 1, 1, "NSI", "debug", "DBGAUTHSTATUS", " Non-secure invasive debug features"⟩,
  ⟨1, 2, DBGAUTHSTATUS, nsPrivilegeLevel1, 2, 1, "NSNE", "debug", "DBGAUTHSTATUS", "Non-secure non-invasive debug"⟩,
  ⟨1, 3, DBGAUTHSTATUS, nsPrivilegeLevel1, 3, 1, "NSNI", "debug", "DBGAUTHSTATUS", "Non-secure non-invasive debug"⟩,
  ⟨1, 4, DBGAUTHSTATUS, nsPrivilegeLevel1, 4, 1, "SE", "debug", "DBGAUTHSTATUS", "Secure invasive"⟩,
  ⟨1, 5, DBGAUTHSTATUS, nsPrivilegeLevel1, 5, 1, "SI", "debug", "DBGAUTHSTATUS", "Secure invasive features"⟩,
  ⟨1, 6, DBGAUTHSTATUS, nsPrivilegeLevel1, 6, 1, "SNE", "debug", "DBGAUTHSTATUS", "Secure non-invasive"⟩,
  ⟨1, 7, DBGAUTHSTATUS, nsPrivilegeLevel1, 7, 1, "SNI", "debug", "DBGAUTHSTATUS", "Secure non-invasive features"⟩,
  ⟨1, 8, DBGAUTHSTATUS, nsPrivilegeLevel1, 8, 24, "Reserved", "debug", "DBGAUTHSTATUS", "Reserved"⟩,
  ⟨1, 0, DBGDRAR, nsPrivilegeLevel1, 0, 2, "Valid", "debug", "DBGDRAR", "ROM table address is valid"⟩,
  ⟨1, 1, DBGDRAR, nsPrivilegeLevel1, 2, 10, "Reserved", "debug", "DBGDRAR", "Reserved"⟩,
  ⟨1, 2, DBGDRAR, nsPrivilegeLevel1, 12, 28, "ROMADDR", "debug", "DBGDRAR", "Bits [39:12] of component physical address. [11:0] are zero."⟩,
  ⟨1, 3, DBGDRAR, nsPrivilegeLevel1, 40, 24, "Reserved", "debug", "DBGDRAR", "Reserved"⟩,
  ⟨1, 0, DBGDSCR, nsPrivilegeLevel1, 0, 1, "HALTED", "debug", "DBGDSCR", "Processor Halted"⟩,
  ⟨1, 1, DBGDSCR, nsPrivilegeLevel1, 1, 1, "RESTARTED", "debug", "DBGDSCR", "Processor Restarted"⟩,
  ⟨1, 2, DBGDSCR, nsPrivilegeLevel1, 2, 4, "MOE", "debug", "DBGDSCR", "Method of debug entry"⟩,
  ⟨1, 3, DBGDSCR, nsPrivilegeLevel1, 6, 1, "SDABORT_L", "debug", "DBGDSCR", "Synchronous data abort exception when in debug state"⟩,
  ⟨1, 4, DBGDSCR, nsPrivilegeLevel1, 7, 1, "ADABORT_L", "debug", "DBGDSCR", "Asynchronous data abort exception when in debug state"⟩,
  ⟨1, 5, DBGDSCR, nsPrivilegeLevel1, 8, 1, "UND_L", "debug", "DBGDSCR", "Undefined instruction exception when in debug state"⟩,
  ⟨1, 6, DBGDSCR, nsPrivilegeLevel1, 9, 1, "FS", "debug", "DBGDSCR", "Updated every data abort exception generated in debug state"⟩,
  ⟨1, 7, DBGDSCR, nsPrivilegeLevel1, 10, 1, "DBGack", "debug", "DBGDSCR", "Force debug acknowledge"⟩,
  ⟨1, 8, DBGDSCR, nsPrivilegeLevel1, 11, 1, "INTdis", "debug", "DBGDSCR", "Interrupts disable"⟩,
  ⟨1, 9, DBGDSCR, nsPrivilegeLevel1, 12, 1, "UDCCDIS", "debug", "DBGDSCR", "User mode access to Debug Communications Channel (DBB) disable"⟩,
  ⟨1, 10, DBGDSCR, nsPrivilegeLevel1, 13, 1, "ITRen", "debug", "DBGDSCR", "Enabled execution of ARM instructions through the DBGITR"⟩,
  ⟨1, 11, DBGDSCR, nsPrivilegeLevel1, 14, 1, "HDBGen", "debug", "DBGDSCR", "Halting debug-mode enable"⟩,
  ⟨1, 12, DBGDSCR, nsPrivilegeLevel1, 15, 1, "MDGBen", "debug", "DBGDSCR", "Monitor debug-mode enable"⟩,
  ⟨1, 13, DBGDSCR, nsPrivilegeLevel1, 16, 1, "SPIDdis", "debug", "DBGDSCR", "Secure PL1 invasive debug disabled bit"⟩,
  ⟨1, 14, DBGDSCR, nsPrivilegeLevel1, 17, 1, "SPNIdis", "debug", "DBGDSCR", "Secure PL1 non-invasive debug disabled bit"⟩,
  ⟨1, 15, DBGDSCR, nsPrivilegeLevel1, 18, 1, "NS", "debug", "DBGDSCR", "Non-secure state status"⟩,
  ⟨1, 16, DBGDSCR, nsPrivilegeLevel1, 19, 1, "ADAdiscard", "debug", "DBGDSCR", "Asynchronous aborts discarded"⟩,
  ⟨1, 17, DBGDSCR, nsPrivilegeLevel1, 20, 2, "ExtDCCmode", "debug", "DBGDSCR", "External DCC access mode"⟩,
  ⟨1, 18, DBGDSCR, nsPrivilegeLevel1, 22, 2, "Reserved", "debug", "DBGDSCR", "Reserved"⟩,
  ⟨1, 19, DBGDSCR, nsPrivilegeLevel1, 24, 1, "InstrCompl_I", "debug", "DBGDSCR", "Latched copy of InstrCompl. Indicates completion of DBGITR"⟩,
  ⟨1, 20, DBGDSCR, nsPrivilegeLevel1, 25, 1, "PipeAdv", "debug", "DBGDSCR", "Stick pipeline advance bit"⟩,
  ⟨1, 21, DBGDSCR, nsPrivilegeLevel1, 26, 1, "TXfull_L", "debug", "DBGDSCR", "Controls behavior of processor on reads of DBGDTRTXext"⟩,
  ⟨1, 22, DBGDSCR, nsPrivilegeLevel1, 27, 1, "RXfull_L", "debug", "DBGDSCR", "Controls behavior of processor on reads of DBGDTRRXext"⟩,
  ⟨1, 23, DBGDSCR, nsPrivilegeLevel1, 28, 1, "Reserved", "debug", "DBGDSCR", "Reserved"⟩,
  ⟨1, 24, DBGDSCR, nsPrivilegeLevel1, 29, 1, "TXfull", "debug", "DBGDSCR", "DBGDTRTX register full"⟩,
  ⟨1, 25, DBGDSCR, nsPrivilegeLevel1, 30, 1, "RXfull", "debug", "DBGDSCR", "DBGDTRTX register full"⟩,
  ⟨1, 26, DBGDSCR, nsPrivilegeLevel1, 31, 1, "Reserved", "debug", "DBGDSCR", "Reserved"⟩,
  ⟨1, 0, NMRR, nsPrivilegeLevel1, 0, 2, "IR0", "virtmem", "NMRR", "Inner Cacheable property 0"⟩,
  ⟨1, 1, NMRR, nsPrivilegeLevel1, 2, 2, "IR1", "virtmem", "NMRR", "Inner Cacheable property 1"⟩,
  ⟨1, 2, NMRR, nsPrivilegeLevel1, 4, 2, "IR2", "virtmem", "NMRR", "Inner Cacheable property 2"⟩,
  ⟨1, 3, NMRR, nsPrivilegeLevel1, 6, 2, "IR3", "virtmem", "NMRR", "Inner Cacheable property 3"⟩,
  ⟨1, 4, NMRR, nsPrivilegeLevel1, 8, 2, "IR4", "virtmem", "NMRR", "Inner Cacheable property 4"⟩,
  ⟨1, 5, NMRR, nsPrivilegeLevel1, 10, 2, "IR5", "virtmem", "NMRR", "Inner Cacheable property 5"⟩,
  ⟨1, 6, NMRR, nsPrivilegeLevel1, 12, 2, "IR6", "virtmem", "NMRR", "Inner Cacheable property 6"⟩,
  ⟨1, 7, NMRR, nsPrivilegeLevel1, 14, 2, "IR7", "virtmem", "NMRR", "Inner Cacheable property 7"⟩,
  ⟨1, 8, NMRR, nsPrivilegeLevel1, 16, 2, "OR0", "virtmem", "NMRR", "Outer Cacheable property 0"⟩,
  ⟨1, 9, NMRR, nsPrivilegeLevel1, 18, 2, "OR1", "virtmem", "NMRR", "Outer Cacheable property 1"⟩,
  ⟨1, 10, NMRR, nsPrivilegeLevel1, 20, 2, "OR2", "virtmem", "NMRR", "Outer Cacheable property 2"⟩,
  ⟨1, 11, NMRR, nsPrivilegeLevel1, 22, 2, "OR3", "virtmem", "NMRR", "Outer Cacheable property 3"⟩,
  ⟨1, 12, NMRR, nsPrivilegeLevel1, 24, 2, "OR4", "virtmem", "NMRR", "Outer Cacheable property 4"⟩,
  ⟨1, 13, NMRR, nsPrivilegeLevel1, 26, 2, "OR5", "virtmem", "NMRR", "Outer Cacheable property 5"⟩,
  ⟨1, 14, NMRR, nsPrivilegeLevel1, 28, 2, "OR6", "virtmem", "NMRR", "Outer Cacheable property 6"⟩,
  ⟨1, 15, NMRR, nsPrivilegeLevel1, 30, 2, "OR7", "virtmem", "NMRR", "Outer Cacheable property 7"⟩,
  ⟨1, 0, PRRR, nsPrivilegeLevel1, 0, 2, "TR0", "virtmem", "PRRR", "Memory TEX mapping 0"⟩,
  ⟨1, 1, PRRR, nsPrivilegeLevel1, 2, 2, "TR1", "virtmem", "PRRR", "Memory TEX mapping 1"⟩,
  ⟨1, 2, PRRR, nsPrivilegeLevel1, 4, 2, "TR2", "virtmem", "PRRR", "Memory TEX mapping 2"⟩,
  ⟨1, 3, PRRR, nsPrivilegeLevel1, 6, 2, "TR3", "virtmem", "PRRR", "Memory TEX mapping 3"⟩,
  ⟨1, 4, PRRR, nsPrivilegeLevel1, 8, 2, "TR4", "virtmem", "PRRR", "Memory TEX mapping 4"⟩,
  ⟨1, 5, PRRR, nsPrivilegeLevel1, 10, 2, "TR5", "virtmem", "PRRR", "Memory TEX mapping 5"⟩,
  ⟨1, 6, PRRR, nsPrivilegeLevel1, 12, 2, "TR6", "virtmem", "PRRR", "Memory TEX mapping 6"⟩,
  ⟨1, 7, PRRR, nsPrivilegeLevel1, 14, 2, "TR7", "virtmem", "PRRR", "Memory TEX mapping 7"⟩,
  ⟨1, 8, PRRR, nsPrivilegeLevel1, 16, 1, "DS0", "virtmem", "PRRR", "Mapping of S = 0 attribute for device memory"⟩,
  ⟨1, 9, PRRR, nsPrivilegeLevel1, 17, 1, "DS1", "virtmem", "PRRR", "Mapping of S = 1 attribute for device memory"⟩,
  ⟨1, 10, PRRR, nsPrivilegeLevel1, 18, 1, "NS0", "virtmem", "PRRR", "Mapping of S = 0 attribute for normal memory"⟩,
  ⟨1, 11, PRRR, nsPrivilegeLevel1, 19, 1, "NS1", "virtmem", "PRRR", "Mapping of S = 1 attribute for normal memory"⟩,
  ⟨1, 12, PRRR, nsPrivilegeLevel1, 20, 4, "Reserved", "virtmem", "PRRR", "Reserved"⟩,
  ⟨1, 13, PRRR, nsPrivilegeLevel1, 24, 1, "NOS0", "virtmem", "PRRR", "Outer Shareable property mapping 0"⟩,
  ⟨1, 14, PRRR, nsPrivilegeLevel1, 25, 1, "NOS1", "virtmem", "PRRR", "Outer Shareable property mapping 1"⟩,
  ⟨1, 15, PRRR, nsPrivilegeLevel1, 26, 1, "NOS2", "virtmem", "PRRR", "Outer Shareable property mapping 2"⟩,
  ⟨1, 16, PRRR, nsPrivilegeLevel1, 27, 1, "NOS3", "virtmem", "PRRR", "Outer Shareable property mapping 3"⟩,
  ⟨1, 17, PRRR, nsPrivilegeLevel1, 28, 1, "NOS4", "virtmem", "PRRR", "Outer Shareable property mapping 4"⟩,
  ⟨1, 18, PRRR, nsPrivilegeLevel1, 29, 1, "NOS5", "virtmem", "PRRR", "Outer Shareable property mapping 5"⟩,
  ⟨1, 19, PRRR, nsPrivilegeLevel1, 30, 1, "NOS6", "virtmem", "PRRR", "Outer Shareable property mapping 6"⟩,
  ⟨1, 20, PRRR, nsPrivilegeLevel1, 31, 1, "NOS7", "virtmem", "PRRR", "Outer Shareable property mapping 7"⟩,
  ⟨1, 0, SCTLR, nsPrivilegeLevel1, 0, 1, "M", "virtmem", "SCTLR", "MMU Enable"⟩,
  ⟨1, 1, SCTLR, nsPrivilegeLevel1, 1, 1, "A", "virtmem", "SCTLR", "Alignment check enable"⟩,
  ⟨1, 2, SCTLR, nsPrivilegeLevel1, 2, 1, "C", "virtmem", "SCTLR", "Cache enable"⟩,
  ⟨1, 3, SCTLR, nsPrivilegeLevel1, 3, 2, "Reserved", "virtmem", "SCTLR", "Reserved"⟩,
  ⟨1, 4, SCTLR, nsPrivilegeLevel1, 5, 1, "CP15BEN", "virtmem", "SCTLR", "CP15 barrier enable"⟩,
  ⟨1, 5, SCTLR, nsPrivilegeLevel1, 6, 1, "Reserved", "virtmem", "SCTLR", "Reserved"⟩,
  ⟨1, 6, SCTLR, nsPrivilegeLevel1, 7, 1, "B", "virtmem", "SCTLR", "Endianess"⟩,
  ⟨1, 7, SCTLR, nsPrivilegeLevel1, 8, 2, "Reserved", "virtmem", "SCTLR", "Reserved"⟩,
  ⟨1, 8, SCTLR, nsPrivilegeLevel1, 10, 1, "SW", "virtmem", "SCTLR", "SWP and SWPB enable"⟩,
  ⟨1, 9, SCTLR, nsPrivilegeLevel1, 11, 1, "Z", "virtmem", "SCTLR", "Branch prediction enable"⟩,
  ⟨1, 10, SCTLR, nsPrivilegeLevel1, 12, 1, "I", "virtmem", "SCTLR", "Instruction cache enable"⟩,
  ⟨1, 11, SCTLR, nsPrivilegeLevel1, 13, 1, "V", "virtmem", "SCTLR", "Vectors bit"⟩,
  ⟨1, 12, SCTLR, nsPrivilegeLevel1, 14, 1, "RR", "virtmem", "SCTLR", "Round Robin select"⟩,
  ⟨1, 13, SCTLR, nsPrivilegeLevel1, 15, 1, "Reserved", "virtmem", "SCTLR", "Reserved"⟩,
  ⟨1, 14, SCTLR, nsPrivilegeLevel1, 16, 1, "Reserved", "virtmem", "SCTLR", "Reserved"⟩,
  ⟨1, 15, SCTLR, nsPrivilegeLevel1, 17, 1, "A", "virtmem", "SCTLR", "Hardware access flag enable"⟩,
  ⟨1, 16, SCTLR, nsPrivilegeLevel1, 18, 1, "Reserved", "virtmem", "SCTLR", "Reserved"⟩,
  ⟨1, 17, SCTLR, nsPrivilegeLevel1, 19, 1, "WXN", "virtmem", "SCTLR", "Write permission implies XN"⟩,
  ⟨1, 18, SCTLR, nsPrivilegeLevel1, 20, 1, "UWXN", "virtmem", "SCTLR", "Unprivileged write permission implies PL1 XN"⟩,
  ⟨1, 19, SCTLR, nsPrivilegeLevel1, 21, 1, "FI", "virtmem", "SCTLR", "Fast interrupts configuration enable"⟩,
  ⟨1, 20, SCTLR, nsPrivilegeLevel1, 22, 1, "U", "virtmem", "SCTLR", "Alignment model"⟩,
  ⟨1, 21, SCTLR, nsPrivilegeLevel1, 23, 1, "Reserved", "virtmem", "SCTLR", "Reserved"⟩,
  ⟨1, 22, SCTLR, nsPrivilegeLevel1, 24, 1, "VE", "virtmem", "SCTLR", "Interrupt Vectors enable"⟩,
  ⟨1, 23, SCTLR, nsPrivilegeLevel1, 25, 1, "EE", "virtmem", "SCTLR", "Exception Endianess"⟩,
  ⟨1, 24, SCTLR, nsPrivilegeLevel1, 26, 1, "Reserved", "virtmem", "SCTLR", "Reserved"⟩,
  ⟨1, 25, SCTLR, nsPrivilegeLevel1, 27, 1, "NMFI", "virtmem", "SCTLR", "Non-maskable FIQ support"⟩,
  ⟨1, 26, SCTLR, nsPrivilegeLevel1, 28, 1, "TRE", "virtmem", "SCTLR", "TEX remap enable"⟩,
  ⟨1, 27, SCTLR, nsPrivilegeLevel1, 29, 1, "AFE", "virtmem", "SCTLR", "Access flag enable"⟩,
  ⟨1, 28, SCTLR, nsPrivilegeLevel1, 30, 1, "TE", "virtmem", "SCTLR", "Thumb Exception enable"⟩,
  ⟨1, 29, SCTLR, nsPrivilegeLevel1, 31, 1, "Reserved", "virtmem", "SCTLR", "Reserved"⟩,
  ⟨1, 0, TTBCR, nsPrivilegeLevel1, 0, 3, "N", "virtmem", "TTBCR", "Reserved"⟩,
  ⟨1, 1, TTBCR, nsPrivilegeLevel1, 3, 1, "Reserved", "virtmem", "TTBCR", "Reserved"⟩,
  ⟨1, 2, TTBCR, nsPrivilegeLevel1, 4, 1, "PD0", "virtmem", "TTBCR", "Reserved"⟩,
  ⟨1, 3, TTBCR, nsPrivilegeLevel1, 5, 1, "PD1", "virtmem", "TTBCR", "Reserved"⟩,
  ⟨1, 4, TTBCR, nsPrivilegeLevel1, 6, 25, "Reserved", "virtmem", "TTBCR", "Reserved"⟩,
  ⟨1, 5, TTBCR, nsPrivilegeLevel1, 31, 1, "EAE", "virtmem", "TTBCR", "Reserved"⟩,
  ⟨1, 0, TTBR0, nsPrivilegeLevel1, 0, 1, "IRGN_1", "virtmem", "TTBR0", "Inner Cacheability attributes"⟩,
  ⟨1, 1, TTBR0, nsPrivilegeLevel1, 1, 1, "S", "virtmem", "TTBR0", "Shareable attribute"⟩,
  ⟨1, 2, TTBR0, nsPrivilegeLevel1, 2, 1, "Implementation Defined", "virtmem", "TTBR0", "Implementation Defined"⟩,
  ⟨1, 3, TTBR0, nsPrivilegeLevel1, 3, 2, "RGN", "virtmem", "TTBR0", "Outer Cacheability attributes"⟩,
  ⟨1, 4, TTBR0, nsPrivilegeLevel1, 5, 1, "NOS", "virtmem", "TTBR0", "Outer Shareable attributes"⟩,
  ⟨1, 5, TTBR0, nsPrivilegeLevel1, 6, 1, "IRGN_0", "virtmem", "TTBR0", "Inner Cacheability attributes"⟩,
  ⟨1, 6, TTBR0, nsPrivilegeLevel1, 7, 25, "TTB0A", "virtmem", "TTBR0", "Translation table base 0 address or Reserved"⟩,
  ⟨1, 0, TTBR0LPAE, nsPrivilegeLevel1, 0, 64, "Implementation Defined", "virtmem", "TTBR0", "Refer to TRM for register format"⟩,
  ⟨1, 0, TTBR1, nsPrivilegeLevel1, 0, 1, "IRGN_1", "virtmem", "TTBR1", "Inner Cacheability attributes"⟩,
  ⟨1, 1, TTBR1, nsPrivilegeLevel1, 1, 1, "S", "virtmem", "TTBR1", "Shareable attribute"⟩,
  ⟨1, 2, TTBR1, nsPrivilegeLevel1, 2, 1, "Implementation Defined", "virtmem", "TTBR1", "Implementation Defined"⟩,
  ⟨1, 3, TTBR1, nsPrivilegeLevel1, 3, 2, "RGN", "virtmem", "TTBR1", "Outer Cacheability attributes"⟩,
  ⟨1, 4, TTBR1, nsPrivilegeLevel1, 5, 1, "NOS", "virtmem", "TTBR1", "Outer Shareable attributes"⟩,
  ⟨1, 5, TTBR1, nsPrivilegeLevel1, 6, 1, "IRGN_0", "virtmem", "TTBR1", "Inner Cacheability attributes"⟩,
  ⟨1, 6, TTBR1, nsPrivilegeLevel1, 7, 25, "TTB1A", "virtmem", "TTBR1", "Translation table base 1 address or Reserved"⟩,
  ⟨1, 0, TTBR1LPAE, nsPrivilegeLevel1, 0, 64, "Implementation Defined", "virtmem", "TTBR1", "Refer to TRM for register format"⟩,
  ⟨1, 1, CONTEXTIDR, nsPrivilegeLevel1, 0, 32, "PROCID", "virtmem", "CONTEXTIDR", "PROCID"⟩,
  ⟨1, 2, CONTEXTIDR, nsPrivilegeLevel1, 0, 8, "ASID", "virtmem", "CONTEXTIDR", "ASID"⟩,
  ⟨1, 3, CONTEXTIDR, nsPrivilegeLevel1, 8, 24, "PROCID", "virtmem", "CONTEXTIDR", "PROCID"⟩,
  ⟨1, 0, AMAIR0, nsPrivilegeLevel1, 0, 32, "AMAIR0", "virtmem", "AMAIR0", "Implementation Defined"⟩,
  ⟨1, 0, AMAIR1, nsPrivilegeLevel1, 0, 32, "AMAIR1", "virtmem", "AMAIR1", "Implementation Defined"⟩,
  ⟨1, 0, DACR, nsPrivilegeLevel1, 0, 2, "D0", "virtmem", "DACR", "Domain 0 access permission"⟩,
  ⟨1, 1, DACR, nsPrivilegeLevel1, 2, 2, "D1", "virtmem", "DACR", "Domain 1 access permission"⟩,
  ⟨1, 2, DACR, nsPrivilegeLevel1, 4, 2, "D2", "virtmem", "DACR", "Domain 2 access permission"⟩,
  ⟨1, 3, DACR, nsPrivilegeLevel1, 6, 2, "D3", "virtmem", "DACR", "Domain 3 access permission"⟩,
  ⟨1, 4, DACR, nsPrivilegeLevel1, 8, 2, "D4", "virtmem", "DACR", "Domain 4 access permission"⟩,
  ⟨1, 5, DACR, nsPrivilegeLevel1, 10, 2, "D5", "virtmem", "DACR", "Domain 5 access permission"⟩,
  ⟨1, 6, DACR, nsPrivilegeLevel1, 12, 2, "D6", "virtmem", "DACR", "Domain 6 access permission"⟩,
  ⟨1, 7, DACR, nsPrivilegeLevel1, 14, 2, "D7", "virtmem", "DACR", "Domain 7 access permission"⟩,
  ⟨1, 8, DACR, nsPrivilegeLevel1, 16, 2, "D8", "virtmem", "DACR", "Domain 8 access permission"⟩,
  ⟨1, 9, DACR, nsPrivilegeLevel1, 18, 2, "D9", "virtmem", "DACR", "Domain 9 ccess permission"⟩,
  ⟨1, 10, DACR, nsPrivilegeLevel1, 20, 2, "D10", "virtmem", "DACR", "Domain 10 access permission"⟩,
  ⟨1, 11, DACR, nsPrivilegeLevel1, 22, 2, "D11", "virtmem", "DACR", "Domain 11 access permission"⟩,
  ⟨1, 12, DACR, nsPrivilegeLevel1, 24, 2, "D12", "virtmem", "DACR", "Domain 12 access permission"⟩,
  ⟨1, 13, DACR, nsPrivilegeLevel1, 26, 2, "D13", "virtmem", "DACR", "Domain 13 access permission"⟩,
  ⟨1, 14, DACR, nsPrivilegeLevel1, 28, 2, "D14", "virtmem", "DACR", "Domain 14 access permission"⟩,
  ⟨1, 15, DACR, nsPrivilegeLevel1, 30, 2, "D15", "virtmem", "DACR", "Domain 15 access permission"⟩,
  ⟨1, 0, MAIR0, nsPrivilegeLevel1, 0, 8, "Attr0", "virtmem", "MAIR0", "Memory attribute 0 encoding"⟩,
  ⟨1, 1, MAIR0, nsPrivilegeLevel1, 8, 8, "Attr1", "virtmem", "MAIR0", "Memory attribute 1 encoding"⟩,
  ⟨1, 2, MAIR0, nsPrivilegeLevel1, 16, 8, "Attr2", "virtmem", "MAIR0", "Memory attribute 2 encoding"⟩,
  ⟨1, 3, MAIR0, nsPrivilegeLevel1, 24, 8, "Attr3", "virtmem", "MAIR0", "Memory attribute 3 encoding"⟩,
  ⟨1, 0, MAIR1, nsPrivilegeLevel1, 0, 8, "Attr4", "virtmem", "MAIR1", "Memory attribute 4 encoding"⟩,
  ⟨1, 1, MAIR1, nsPrivilegeLevel1, 8, 8, "Attr5", "virtmem", "MAIR1", "Memory attribute 5 encoding"⟩,
  ⟨1, 2, MAIR1, nsPrivilegeLevel1, 16, 8, "Attr6", "virtmem", "MAIR1", "Memory attribute 6 encoding"⟩,
  ⟨1, 3, MAIR1, nsPrivilegeLevel1, 24, 8, "Attr7", "virtmem", "MAIR1", "Memory attribute 7 encoding"⟩,
  ⟨1, 0, PMCCNTR, nsPrivilegeLevel1, 0, 32, "CCNT", "perfmon", "PMCCNTR", "Cycle count"⟩,
  ⟨1, 0, PMCEID0, nsPrivilegeLevel1, 0, 1, "0x00", "perfmon", "PMCEID0", "Software Increment"⟩,
  ⟨1, 1, PMCEID0, nsPrivilegeLevel1, 1, 1, "0x01", "perfmon", "PMCEID0", "Level 1 instruction cache refill"⟩,
  ⟨1, 2, PMCEID0, nsPrivilegeLevel1, 2, 1, "0x02", "perfmon", "PMCEID0", "Level 1 instruction TLB refill"⟩,
  ⟨1, 3, PMCEID0, nsPrivilegeLevel1, 3, 1, "0x03", "perfmon", "PMCEID0", "Level 1 data cache refill"⟩,
  ⟨1, 4, PMCEID0, nsPrivilegeLevel1, 4, 1, "0x04", "perfmon", "PMCEID0", "Level 1 data cache access"⟩,
  ⟨1, 5, PMCEID0, nsPrivilegeLevel1, 5, 1, "0x05", "perfmon", "PMCEID0", "Level 1 data TLB refill"⟩,
  ⟨1, 6, PMCEID0, nsPrivilegeLevel1, 6, 1, "0x06", "perfmon", "PMCEID0", "Load"⟩,
  ⟨1, 7, PMCEID0, nsPrivilegeLevel1, 7, 1, "0x07", "perfmon", "PMCEID0", "Store"⟩,
  ⟨1, 8, PMCEID0, nsPrivilegeLevel1, 8, 1, "0x08", "perfmon", "PMCEID0", "Instruction architecturally executed"⟩,
  ⟨1, 9, PMCEID0, nsPrivilegeLevel1, 9, 1, "0x09", "perfmon", "PMCEID0", "Exception taken"⟩,
  ⟨1, 10, PMCEID0, nsPrivilegeLevel1, 10, 1, "0x0A", "perfmon", "PMCEID0", "Exception return"⟩,
  ⟨1, 11, PMCEID0, nsPrivilegeLevel1, 11, 1, "0x0B", "perfmon", "PMCEID0", "Write to CONTEXTIDR"⟩,
  ⟨1, 12, PMCEID0, nsPrivilegeLevel1, 12, 1, "0x0C", "perfmon", "PMCEID0", "Software change of the PC"⟩,
  ⟨1, 13, PMCEID0, nsPrivilegeLevel1, 13, 1, "0x0D", "perfmon", "PMCEID0", "Immediate Branch"⟩,
  ⟨1, 14, PMCEID0, nsPrivilegeLevel1, 14, 1, "0x0E", "perfmon", "PMCEID0", "Procedure return"⟩,
  ⟨1, 15, PMCEID0, nsPrivilegeLevel1, 15, 1, "0x0F", "perfmon", "PMCEID0", "Unaligned load or store"⟩,
  ⟨1, 16, PMCEID0, nsPrivilegeLevel1, 16, 1, "0x10", "perfmon", "PMCEID0", "Speculative execution"⟩,
  ⟨1, 17, PMCEID0, nsPrivilegeLevel1, 17, 1, "0x11", "perfmon", "PMCEID0", "Cycle"⟩,
  ⟨1, 18, PMCEID0, nsPrivilegeLevel1, 18, 1, "0x12", "perfmon", "PMCEID0", "Predictable branch speculatively executed"⟩,
  ⟨1, 19, PMCEID0, nsPrivilegeLevel1, 19, 1, "0x13", "perfmon", "PMCEID0", "Data memory access"⟩,
  ⟨1, 20, PMCEID0, nsPrivilegeLevel1, 20, 1, "0x14", "perfmon", "PMCEID0", "Level 1 instruction cache access"⟩,
  ⟨1, 21, PMCEID0, nsPrivilegeLevel1, 21, 1, "0x15", "perfmon", "PMCEID0", "Level 1 data cache write-back"⟩,
  ⟨1, 22, PMCEID0, nsPrivilegeLevel1, 22, 1, "0x16", "perfmon", "PMCEID0", "Level 2 data cache access"⟩,
  ⟨1, 23, PMCEID0, nsPrivilegeLevel1, 23, 1, "0x17", "perfmon", "PMCEID0", "Level 2 data cache refill"⟩,
  ⟨1, 24, PMCEID0, nsPrivilegeLevel1, 24, 1, "0x18", "perfmon", "PMCEID0", "Level 2 data cache write-back"⟩,
  ⟨1, 25, PMCEID0, nsPrivilegeLevel1, 25, 1, "0x19", "perfmon", "PMCEID0", "Bus access"⟩,
  ⟨1, 26, PMCEID0, nsPrivilegeLevel1, 26, 1, "0x1A", "perfmon", "PMCEID0", "Local memory error"⟩,
  ⟨1, 27, PMCEID0, nsPrivilegeLevel1, 27, 1, "0x1B", "perfmon", "PMCEID0", "Instruction speculatively executed"⟩,
  ⟨1, 28, PMCEID0, nsPrivilegeLevel1, 28, 1, "0x1C", "perfmon", "PMCEID0", "Write to TTBR"⟩,
  ⟨1, 29, PMCEID0, nsPrivilegeLevel1, 29, 1, "0x1D", "perfmon", "PMCEID0", "Bus cycle"⟩,
  ⟨1, 30, PMCEID0, nsPrivilegeLevel1, 30, 1, "0x1E", "perfmon", "PMCEID0", "Reserved"⟩,
  ⟨1, 31, PMCEID0, nsPrivilegeLevel1, 31, 1, "0x1F", "perfmon", "PMCEID0", "Reserved"⟩,
  ⟨1, 0, PMCEID1, nsPrivilegeLevel1, 0, 32, "Implementation Defined", "perfmon", "PMCEID1", "Implementation Defined"⟩,
  ⟨1, 0, PMCNTENCLR, nsPrivilegeLevel1, 0, 32, "Implementation Defined", "perfmon", "PMCNTENCLR", "Implementation Defined"⟩,
  ⟨1, 0, PMCNTENSET, nsPrivilegeLevel1, 0, 32, "Implementation Defined", "perfmon", "PMCNTENSET", "Implementation Defined"⟩,
  ⟨1, 0, PMINTENSET, nsPrivilegeLevel1, 0, 32, "Implementation Defined", "perfmon", "PMINTENSET", "Implementation Defined"⟩,
  ⟨1, 0, PMINTENCLR, nsPrivilegeLevel1, 0, 32, "Implementation Defined", "perfmon", "PMINTENCLR", "Implementation Defined"⟩,
  ⟨1, 0, PMOVSR, nsPrivilegeLevel1, 0, 32, "Implementation Defined", "perfmon", "PMOVSR", "Implementation Defined"⟩,
  ⟨1, 0, PMOVSSET, nsPrivilegeLevel1, 0, 32, "Implementation Defined", "perfmon", "PMOVSSET", "Implementation Defined"⟩,
  ⟨1, 0, PMSELR, nsPrivilegeLevel1, 0, 5, "SELR", "perfmon", "PMSELR", "Selects event counter"⟩,
  ⟨1, 1, PMSELR, nsPrivilegeLevel1, 5, 27, "Reserved", "perfmon", "PMSELR", "Reserved"⟩,
  ⟨1, 0, PMSWINC, nsPrivilegeLevel1, 0, 32, "Implementation Defined", "perfmon", "PMSWINC", "Implementation Defined"⟩,
  ⟨1, 0, PMUSERENR, nsPrivilegeLevel1, 0, 1, "EN", "perfmon", "PMUSERENR", "User mode access enable bit"⟩,
  ⟨1, 1, PMUSERENR, nsPrivilegeLevel1, 1, 31, "Reserved", "perfmon", "PMUSERENR", "Reserved"⟩,
  ⟨1, 0, PMXEVCNTR, nsPrivilegeLevel1, 0, 32, "PMNx", "perfmon", "PMXEVCNTR", "Value of selected event counter"⟩,
  ⟨1, 0, PMXEVTYPER, nsPrivilegeLevel1, 0, 8, "evtCount", "perfmon", "PMXEVTYPER", "Event to count"⟩,
  ⟨1, 1, PMXEVTYPER, nsPrivilegeLevel1, 8, 19, "Reserved", "perfmon", "PMXEVTYPER", "Reserved"⟩,
  ⟨1, 2, PMXEVTYPER, nsPrivilegeLevel1, 27, 1, "NSH", "perfmon", "PMXEVTYPER", "Non-secure PL2 enable"⟩,
  ⟨1, 3, PMXEVTYPER, nsPrivilegeLevel1, 28, 1, "NSU", "perfmon", "PMXEVTYPER", "Non-secure unprivileged control bit"⟩,
  ⟨1, 4, PMXEVTYPER, nsPrivilegeLevel1, 29, 1, "NSK", "perfmon", "PMXEVTYPER", "Non-secure PL1 control bit"⟩,
  ⟨1, 5, PMXEVTYPER, nsPrivilegeLevel1, 30, 1, "U", "perfmon", "PMXEVTYPER", "Unprivileged execution filtering bit"⟩,
  ⟨1, 6, PMXEVTYPER, nsPrivilegeLevel1, 31, 1, "P", "perfmon", "PMXEVTYPER", "Privileged execution filtering bit"⟩,
  ⟨1, 0, PMCR, nsAll, 0, 1, "E", "perfmon", "PMCR", "All counters enable"⟩,
  ⟨1, 1, PMCR, nsAll, 1, 1, "P", "perfmon", "PMCR", "Event counter reset"⟩,
  ⟨1, 2, PMCR, nsAll, 2, 1, "C", "perfmon", "PMCR", "Cycle counter reset"⟩,
  ⟨1, 3, PMCR, nsAll, 3, 1, "D", "perfmon", "PMCR", "Cycle counter clock divider"⟩,
  ⟨1, 4, PMCR, nsAll, 4, 1, "X", "perfmon", "PMCR", "Export enable"⟩,
  ⟨1, 5, PMCR, nsAll, 5, 1, "DP", "perfmon", "PMCR", "Disable PMCCNTR when event counting is prohibited"⟩,
  ⟨1, 6, PMCR, nsAll, 6, 5, "Rerverced", "perfmon", "PMCR", "Reserved"⟩,
  ⟨1, 7, PMCR, nsAll, 11, 5, "N", "perfmon", "PMCR", "Number of event counters"⟩,
  ⟨1, 8, PMCR, nsAll, 16, 8, "IDCODE", "perfmon", "PMCR", "Identification Code"⟩,
  ⟨1, 9, PMCR, nsAll, 24, 8, "Implementation Defined", "perfmon", "PMCR", "Implementer Code"⟩,
  ⟨1, 0, ACTLR, nsPrivilegeLevel1, 0, 32, "Implementation Defined", "other", "ACTLR", "Implementation Defined"⟩,
  ⟨1, 0, CPACR, nsPrivilegeLevel1, 0, 2, "CP0", "other", "CPACR", "Coprocessor 0"⟩,
  ⟨1, 1, CPACR, nsPrivilegeLevel1, 2, 2, "CP1", "other", "CPACR", "Coprocessor 1"⟩,
  ⟨1, 2, CPACR, nsPrivilegeLevel1, 4, 2, "CP2", "other", "CPACR", "Coprocessor 2"⟩,
  ⟨1, 3, CPACR, nsPrivilegeLevel1, 6, 2, "CP3", "other", "CPACR", "Coprocessor 3"⟩,
  ⟨1, 4, CPACR, nsPrivilegeLevel1, 8, 2, "CP4", "other", "CPACR", "Coprocessor 4"⟩,
  ⟨1, 5, CPACR, nsPrivilegeLevel1, 10, 2, "CP5", "other", "CPACR", "Coprocessor 5"⟩,
  ⟨1, 6, CPACR, nsPrivilegeLevel1, 12, 2, "CP6", "other", "CPACR", "Coprocessor 6"⟩,
  ⟨1, 7, CPACR, nsPrivilegeLevel1, 14, 2, "CP7", "other", "CPACR", "Coprocessor 7"⟩,
  ⟨1, 8, CPACR, nsPrivilegeLevel1, 16, 2, "CP8", "other", "CPACR", "Coprocessor 8"⟩,
  ⟨1, 9, CPACR, nsPrivilegeLevel1, 18, 2, "CP9", "other", "CPACR", "Coprocessor 9"⟩,
  ⟨1, 10, CPACR, nsPrivilegeLevel1, 20, 2, "CP10", "other", "CPACR", "Coprocessor 10"⟩,
  ⟨1, 11, CPACR, nsPrivilegeLevel1, 22, 2, "CP11", "other", "CPACR", "Coprocessor 11"⟩,
  ⟨1, 12, CPACR, nsPrivilegeLevel1, 24, 2, "CP12", "other", "CPACR", "Coprocessor 12"⟩,
  ⟨1, 13, CPACR, nsPrivilegeLevel1, 26, 2, "CP13", "other", "CPACR", "Coprocessor 13"⟩,
  ⟨1, 14, CPACR, nsPrivilegeLevel1, 28, 1, "TRCDIS", "other", "CPACR", "Disable CP14 access to trace registers"⟩,
  ⟨1, 15, CPACR, nsPrivilegeLevel1, 29, 1, "Reserved", "other", "CPACR", "Reserved"⟩,
  ⟨1, 16, CPACR, nsPrivilegeLevel1, 30, 1, "D32DIS", "other", "CPACR", "Disable use of D16-D32 of FP Extension register file"⟩,
  ⟨1, 17, CPACR, nsPrivilegeLevel1, 31, 1, "ASEDIS", "other", "CPACR", "Disable Advanced SIMD functionality"⟩,
  ⟨1, 0, FCSEIDR, nsPrivilegeLevel1, 0, 25, "Reserved", "other", "FCSEIDR", "Reserved"⟩,
  ⟨1, 1, FCSEIDR, nsPrivilegeLevel1, 25, 8, "PID", "other", "FCSEIDR", "Current Process ID for FCSE"⟩,
  ⟨1, 0, IFAR, nsPrivilegeLevel1, 0, 32, "VA", "fault", "IFAR", "VA of faulting address of synchronous Prefetch Abort exception"⟩,
  ⟨1, 0, IFSR, nsPrivilegeLevel1, 0, 4, "FS_3_0", "fault", "IFSR", "Fault status bit"⟩,
  ⟨1, 1, IFSR, nsPrivilegeLevel1, 4, 5, "Reserved", "fault", "IFSR", "Reserved"⟩,
  ⟨1, 2, IFSR, nsPrivilegeLevel1, 9, 1, "LPAE", "fault", "IFSR", "Descriptor table format on exception"⟩,
  ⟨1, 3, IFSR, nsPrivilegeLevel1, 10, 1, "FS_4", "fault", "IFSR", "Fault status bit"⟩,
  ⟨1, 4, IFSR, nsPrivilegeLevel1, 11, 1, "Reserved", "fault", "IFSR", "Reserved"⟩,
  ⟨1, 5, IFSR, nsPrivilegeLevel1, 12, 1, "ExT", "fault", "IFSR", "External abort type"⟩,
  ⟨1, 6, IFSR, nsPrivilegeLevel1, 13, 19, "Reserved", "fault", "IFSR", "Reserved"⟩,
  ⟨1, 0, ADFSR, nsPrivilegeLevel1, 0, 32, "Implementation Defined", "fault", "ADFSR", "Implementation Defined"⟩,
  ⟨1, 0, AIFSR, nsPrivilegeLevel1, 0, 32, "Implementation Defined", "fault", "AIFSR", "Implementation Defined"⟩,
  ⟨1, 0, DFAR, nsPrivilegeLevel1, 0, 32, "VA", "fault", "DFAR", "VA of faulting address of synchronous Data Abort exception"⟩,
  ⟨1, 0, DFSR, nsPrivilegeLevel1, 0, 4, "FS_3_0", "fault", "DFSR", "Fault status bit"⟩,
  ⟨1, 1, DFSR, nsPrivilegeLevel1, 4, 4, "Domain", "fault", "DFSR", "The domain of the fault address"⟩,
  ⟨1, 2, DFSR, nsPrivilegeLevel1, 8, 1, "Reserved", "fault", "DFSR", "Reserved"⟩,
  ⟨1, 3, DFSR, nsPrivilegeLevel1, 9, 1, "LPAE", "fault", "DFSR", "Indicates short-descriptor table format on exception"⟩,
  ⟨1, 4, DFSR, nsPrivilegeLevel1, 10, 1, "FS_4", "fault", "DFSR", "Fault status bit"⟩,
  ⟨1, 5, DFSR, nsPrivilegeLevel1, 11, 1, "WnR", "fault", "DFSR", "Abort caused by read or write"⟩,
  ⟨1, 6, DFSR, nsPrivilegeLevel1, 12, 1, "ExT", "fault", "DFSR", "External abort type"⟩,
  ⟨1, 7, DFSR, nsPrivilegeLevel1, 13, 1, "CM", "fault", "DFSR", "Cache maintenance fault"⟩,
  ⟨1, 8, DFSR, nsPrivilegeLevel1, 14, 18, "Reserved", "fault", "DFSR", "Reserved"⟩,
  ⟨1, 0, JIDR, nsPrivilegeLevel1, 0, 12, "ImplementationdDefined", "jazelle", "JIDR", "Subarchitecture defined"⟩,
  ⟨1, 1, JIDR, nsPrivilegeLevel1, 12, 8, "Subarchitecture", "jazelle", "JIDR", "Subarchitecture code"⟩,
  ⟨1, 2, JIDR, nsPrivilegeLevel1, 20, 8, "Implementer", "jazelle", "JIDR", "Implementer code"⟩,
  ⟨1, 3, JIDR, nsPrivilegeLevel1, 28, 4, "Architecture", "jazelle", "JIDR", "Architecture code"⟩,
  ⟨1, 0, JMCR, nsPrivilegeLevel1, 0, 1, "JE", "jazelle", "JMCR", "Jazelle extensions enable"⟩,
  ⟨1, 1, JMCR, nsPrivilegeLevel1, 1, 31, "Implementation defined", "jazelle", "JMCR", "Implementation defined"⟩,
  ⟨1, 0, JOSCR, nsPrivilegeLevel1, 0, 1, "CD", "jazelle", "JOSCR", "Disable user mode access to JIDR and configuration registers"⟩,
  ⟨1, 1, JOSCR, nsPrivilegeLevel1, 1, 1, "CV", "jazelle", "JOSCR", "Instruct EJVM to rewrite configuration in registers"⟩,
  ⟨1, 2, JOSCR, nsPrivilegeLevel1, 2, 30, "Reserved", "jazelle", "JOSCR", "Reserved"⟩,
  ⟨1, 0, TEECR, nsAll, 0, 1, "XED", "thumb", "TEECR", "Unprivileged Execution Environment Disable"⟩,
  ⟨1, 1, TEECR, nsAll, 1, 31, "Reserved", "thumb", "TEECR", "Reserved"⟩,
  ⟨1, 0, TEEHBR, nsAll, 0, 2, "Reserved", "thumb", "TEEHBR", "Reserved"⟩,
  ⟨1, 1, TEEHBR, nsAll, 2, 30, "HandlerBase", "thumb", "TEEHBR", "Address of ThumbEE handlers"⟩,
  ⟨1, 0, TPIDRPRW, nsPrivilegeLevel1, 0, 32, "Implementation Defined", "misc", "TPIDRPRW", "PL1 Thread ID Storage"⟩,
  ⟨1, 0, TPIDRURO, nsPrivilegeLevel0, 0, 32, "Implementation Defined", "misc", "TPIDRURO", "PL0 Thread ID Storage"⟩,
  ⟨1, 0, TPIDRURW, allNsS, 0, 32, "Implementation Defined", "misc", "TPIDRURW", "PL0 Thread ID Storage"⟩,
  ⟨1, 0, PAR, nsPrivilegeLevel1, 0, 1, "F", "addrtrans", "PAR", "Conversion status"⟩,
  ⟨1, 1, PAR, nsPrivilegeLevel1, 1, 1, "SS", "addrtrans", "PAR", "Result is a supersection"⟩,
  ⟨1, 2, PAR, nsPrivilegeLevel1, 2, 1, "Outer_1_0", "addrtrans", "PAR", "Outer memory attributes"⟩,
  ⟨1, 3, PAR, nsPrivilegeLevel1, 4, 3, "Inner_2_0", "addrtrans", "PAR", "Inner memory attributes"⟩,
  ⟨1, 4, PAR, nsPrivilegeLevel1, 7, 1, "Shareable attribute", "addrtrans", "PAR", "Physical memory is shareable"⟩,
  ⟨1, 5, PAR, nsPrivilegeLevel1, 8, 1, "Implementation Defined", "addrtrans", "PAR", "Implementation Defined"⟩,
  ⟨1, 6, PAR, nsPrivilegeLevel1, 9, 1, "Non-secure", "addrtrans", "PAR", "NS bit from secure state"⟩,
  ⟨1, 7, PAR, nsPrivilegeLevel1, 10, 1, "NOS", "addrtrans", "PAR", "Not outer shareable bit"⟩,
  ⟨1, 8, PAR, nsPrivilegeLevel1, 11, 1, "LPAE", "addrtrans", "PAR", "Implementation includes LPAE"⟩,
  ⟨1, 9, PAR, nsPrivilegeLevel1, 12, 20, "PA", "addrtrans", "PAR", "Physical address"⟩,
  ⟨1, 0, APSR, nsPrivilegeLevel0 ||| nsPrivilegeLevel1, 0, 16, "Reserved", "psr", "APSR", "Reserved"⟩,
  ⟨1, 1, APSR, nsPrivilegeLevel0 ||| nsPrivilegeLevel1, 16, 4, "GE", "psr", "APSR", "Greater than or equal to"⟩,
  ⟨1, 2, APSR, nsPrivilegeLevel0 ||| nsPrivilegeLevel1, 20, 4, "Reserved", "psr", "APSR", "Reserved"⟩,
  ⟨1, 3, APSR, nsPrivilegeLevel0 ||| nsPrivilegeLevel1, 24, 3, "Reserved", "psr", "APSR", "Reserved"⟩,
  ⟨1, 4, APSR, nsPrivilegeLevel0 ||| nsPrivilegeLevel1, 27, 1, "Q", "psr", "APSR", "Overflow or saturation"⟩,
  ⟨1, 5, APSR, nsPrivilegeLevel0 ||| nsPrivilegeLevel1, 28, 1, "V", "psr", "APSR", "Overflow condition"⟩,
  ⟨1, 6, APSR, nsPrivilegeLevel0 ||| nsPrivilegeLevel1, 29, 1, "C", "psr", "APSR", "Carry condition"⟩,
  ⟨1, 7, APSR, nsPrivilegeLevel0 ||| nsPrivilegeLevel1, 30, 1, "Z", "psr", "APSR", "Zero condition"⟩,
  ⟨1, 8, APSR, nsPrivilegeLevel0 ||| nsPrivilegeLevel1, 31, 1, "N", "psr", "APSR", "Negative condition"⟩,
  ⟨1, 0, CPSR, nsPrivilegeLevel1, 0, 5, "M", "psr", "CPSR", "Current mode of processor"⟩,
  ⟨1, 1, CPSR, nsPrivilegeLevel1, 5, 1, "T", "psr", "CPSR", "Thumb execution state"⟩,
  ⟨1, 2, CPSR, nsPrivilegeLevel1, 6, 1, "F", "psr", "CPSR", "FIQ mask"⟩,
  ⟨1, 3, CPSR, nsPrivilegeLevel1, 7, 1, "I", "psr", "CPSR", "IRQ mask"⟩,
  ⟨1, 4, CPSR, nsPrivilegeLevel1, 8, 1, "A", "psr", "CPSR", "Asynchronous abort mask"⟩,
  ⟨1, 5, CPSR, nsPrivilegeLevel1, 9, 1, "E", "psr", "CPSR", "Endianess"⟩,
  ⟨1, 6, CPSR, nsPrivilegeLevel1, 10, 6, "IT", "psr", "CPSR", "If-then execution state [7:2]"⟩,
  ⟨1, 7, CPSR, nsPrivilegeLevel0, 16, 4, "GE", "psr", "CPSR", "Greater than or equal to"⟩,
  ⟨1, 8, CPSR, nsPrivilegeLevel0, 20, 4, "Reserved", "psr", "CPSR", "Reserved"⟩,
  ⟨1, 9, CPSR, nsPrivilegeLevel0, 24, 1, "J", "psr", "CPSR", "Jazelle bit"⟩,
  ⟨1, 10, CPSR, nsPrivilegeLevel1, 25, 2, "IT", "psr", "CPSR", "If-then execution state [1:0]"⟩,
  ⟨1, 11, CPSR, nsPrivilegeLevel0, 27, 1, "Q", "psr", "CPSR", "Cumulative saturation bit"⟩,
  ⟨1, 12, CPSR, nsPrivilegeLevel0, 28, 1, "V", "psr", "CPSR", "Overflow condition"⟩,
  ⟨1, 13, CPSR, nsPrivilegeLevel0, 29, 1, "C", "psr", "CPSR", "Carry condition"⟩,
  ⟨1, 14, CPSR, nsPrivilegeLevel0, 30, 1, "Z", "psr", "CPSR", "Zero condition"⟩,
  ⟨1, 15, CPSR, nsPrivilegeLevel0, 31, 1, "N", "psr", "CPSR", "Negative condition"⟩]

def bitfieldCortexA7Table : List BitfieldInfo := [
  ⟨1, 0, REVIDR, nsPrivilegeLevel1, 0, 32, "ID Number", "ident", "REVIDR", "Revision information"⟩,
  ⟨1, 0, MPIDR, nsPrivilegeLevel1, 0, 2, "CPU ID", "ident", "MPIDR", "Processor number"⟩,
  ⟨1, 1, MPIDR, nsPrivilegeLevel1, 2, 6, "Reserved", "ident", "MPIDR", "Reserved"⟩,
  ⟨1, 2, MPIDR, nsPrivilegeLevel1, 8, 4, "Cluster ID", "ident", "MPIDR", "Cluster ID"⟩,
  ⟨1, 3, MPIDR, nsPrivilegeLevel1, 12, 12, "Reserved", "ident", "MPIDR", "Reserved"⟩,
  ⟨1, 4, MPIDR, nsPrivilegeLevel1, 24, 1, "MT", "ident", "MPIDR", "Multi-threaded"⟩,
  ⟨1, 5, MPIDR, nsPrivilegeLevel1, 25, 5, "Reserved", "ident", "MPIDR", "Reserved"⟩,
  ⟨1, 6, MPIDR, nsPrivilegeLevel1, 30, 1, "U", "ident", "MPIDR", "Uniprocessor system"⟩,
  ⟨1, 7, MPIDR, nsPrivilegeLevel1, 31, 1, "ME", "ident", "MPIDR", "Multiprocessor Extensions"⟩,
  ⟨1, 0, ACTLR, nsPrivilegeLevel1, 0, 6, "Reserved", "other", "ACTLR", "Reserved"⟩,
  ⟨1, 1, ACTLR, nsPrivilegeLevel1, 6, 1, "SMP", "other", "ACTLR", "Coherent requests to processor"⟩,
  ⟨1, 2, ACTLR, nsPrivilegeLevel1, 7, 3, "Reserved", "other", "ACTLR", "Reserved"⟩,
  ⟨1, 3, ACTLR, nsPrivilegeLevel1, 10, 1, "DODMBS", "other", "ACTLR", "Disable optimized data memory barrier behavior"⟩,
  ⟨1, 4, ACTLR, nsPrivilegeLevel1, 11, 1, "L2RADIS", "other", "ACTLR", "L2 Data Cache read-allocate mode disable"⟩,
  ⟨1, 5, ACTLR, nsPrivilegeLevel1, 12, 1, "L1RADIS", "other", "ACTLR", "L1 Data Cache read-allocate mode disable"⟩,
  ⟨1, 6, ACTLR, nsPrivilegeLevel1, 13, 2, "L1PCTL", "other", "ACTLR", "L1 Data prefetch control"⟩,
  ⟨1, 7, ACTLR, nsPrivilegeLevel1, 15, 1, "DDVM", "other", "ACTLR", "Disable Distributed Virtual Memory transactions"⟩,
  ⟨1, 8, ACTLR, nsPrivilegeLevel1, 16, 12, "Reserved", "other", "ACTLR", "Reserved"⟩,
  ⟨1, 9, ACTLR, nsPrivilegeLevel1, 28, 1, "DDI", "other", "ACTLR", "Disable dual issue"⟩,
  ⟨1, 10, ACTLR, nsPrivilegeLevel1, 29, 3, "Reserved", "other", "ACTLR", "Reserved"⟩,
  ⟨1, 0, NSACR, nsPrivilegeLevel1, 0, 10, "Reserved", "secext", "NSACR", "Reserved"⟩,
  ⟨1, 1, NSACR, nsPrivilegeLevel1, 10, 1, "CP10", "secext", "NSACR", "Non-secure access to coprocessor 10 enable"⟩,
  ⟨1, 2, NSACR, nsPrivilegeLevel1, 11, 1, "CP11", "secext", "NSACR", "Non-secure access to coprecessor 11 enable"⟩,
  ⟨1, 3, NSACR, nsPrivilegeLevel1, 12, 2, "Reserved", "secext", "NSACR", "Reserved"⟩,
  ⟨1, 4, NSACR, nsPrivilegeLevel1, 14, 1, "NSD32DIS", "secext", "NSACR", "Disable the non-secure use of D16-D31 of the VFP register file"⟩,
  ⟨1, 5, NSACR, nsPrivilegeLevel1, 15, 1, "NSASEDIS", "secext", "NSACR", "Disable non-secure Advanced SIMD functionality"⟩,
  ⟨1, 6, NSACR, nsPrivilegeLevel1, 16, 1, "Reserved", "secext", "NSACR", "Reserved"⟩,
  ⟨1, 7, NSACR, nsPrivilegeLevel1, 17, 1, "NS_L2ERR", "secext", "NSACR", "Allow write to L2 AXI Async Error bit in L2ECTLR in non-secure state"⟩,
  ⟨1, 8, NSACR, nsPrivilegeLevel1, 18, 1, "NS_SMP", "secext", "NSACR", "Allow write to SMP bit in ACTLR in non-secure state"⟩,
  ⟨1, 9, NSACR, nsPrivilegeLevel1, 19, 1, "Reserved", "secext", "NSACR", "Reserved"⟩,
  ⟨1, 10, NSACR, nsPrivilegeLevel1, 20, 12, "Reserved", "secext", "NSACR", "Reserved"⟩,
  ⟨1, 0, L2CTLR, nsPrivilegeLevel1, 0, 1, "Data Ram latency", "impl_def", "L2CTLR", "Data RAM latency"⟩,
  ⟨1, 1, L2CTLR, nsPrivilegeLevel1, 1, 22, "Reserved", "impl_def", "L2CTLR", "Reserved"⟩,
  ⟨1, 2, L2CTLR, nsPrivilegeLevel1, 23, 1, "Interrupt Controller", "impl_def", "L2CTLR", "Interrupt Controller"⟩,
  ⟨1, 3, L2CTLR, nsPrivilegeLevel1, 24, 2, "Number of processors", "impl_def", "L2CTLR", "Number of processors"⟩,
  ⟨1, 4, L2CTLR, nsPrivilegeLevel1, 26, 6, "Reserved", "impl_def", "L2CTLR", "Reserved"⟩,
  ⟨1, 0, L2ECTLR, nsPrivilegeLevel1, 0, 29, "Reserved", "impl_def", "L2ECTLR", "Reserved"⟩,
  ⟨1, 1, L2ECTLR, nsPrivilegeLevel1, 29, 1, "AXI asynchronous error", "impl_def", "L2ECTLR", "AXI asynchronous error"⟩,
  ⟨1, 2, L2ECTLR, nsPrivilegeLevel1, 30, 2, "Reserved", "impl_def", "L2ECTLR", "Reserved"⟩,
  ⟨1, 0, CBAR, nsPrivilegeLevel1, 0, 8, "PERIPHBASE_39_32", "impl_def", "CBAR", "Determines reset value"⟩,
  ⟨1, 1, CBAR, nsPrivilegeLevel1, 8, 7, "Reserved", "impl_def", "CBAR", "Reserved"⟩,
  ⟨1, 2, CBAR, nsPrivilegeLevel1, 15, 16, "PERIPHBASE_31_15", "impl_def", "CBAR", "Determines reset value"⟩]

def bitfieldCortexA15Table : List BitfieldInfo := [
  ⟨1, 0, REVIDR, nsPrivilegeLevel1, 0, 32, "ID Number", "ident", "REVIDR", "Revision information"⟩,
  ⟨1, 0, MPIDR, nsPrivilegeLevel1, 0, 2, "CPU ID", "ident", "MPIDR", "Processor number"⟩,
  ⟨1, 1, MPIDR, nsPrivilegeLevel1, 2, 6, "Reserved", "ident", "MPIDR", "Reserved"⟩,
  ⟨1, 2, MPIDR, nsPrivilegeLevel1, 8, 4, "Cluster ID", "ident", "MPIDR", "Cluster ID"⟩,
  ⟨1, 3, MPIDR, nsPrivilegeLevel1, 12, 12, "Reserved", "ident", "MPIDR", "Reserved"⟩,
  ⟨1, 4, MPIDR, nsPrivilegeLevel1, 24, 1, "MT", "ident", "MPIDR", "Multi-threaded"⟩,
  ⟨1, 5, MPIDR, nsPrivilegeLevel1, 25, 5, "Reserved", "ident", "MPIDR", "Reserved"⟩,
  ⟨1, 6, MPIDR, nsPrivilegeLevel1, 30, 1, "U", "ident", "MPIDR", "Uniprocessor system"⟩,
  ⟨1, 7, MPIDR, nsPrivilegeLevel1, 31, 1, "ME", "ident", "MPIDR", "Multiprocessor Extensions"⟩,
  ⟨1, 0, ACTLR, nsPrivilegeLevel1, 0, 1, "BTB", "other", "ACTLR", "Enables invalidate of BTB"⟩,
  ⟨1, 1, ACTLR, nsPrivilegeLevel1, 1, 1, "DLB", "other", "ACTLR", "Disable loop buffer"⟩,
  ⟨1, 2, ACTLR, nsPrivilegeLevel1, 2, 1, "DLBF", "other", "ACTLR", "Limit to one loop buffer detect per flush"⟩,
  ⟨1, 3, ACTLR, nsPrivilegeLevel1, 3, 1, "DMBTB", "other", "ACTLR", "Disables micro-Branch Target Buffer"⟩,
  ⟨1, 4, ACTLR, nsPrivilegeLevel1, 4, 1, "DIP", "other", "ACTLR", "Disable interrupt predictor"⟩,
  ⟨1, 5, ACTLR, nsPrivilegeLevel1, 5, 1, "EPLDNOP", "other", "ACTLR", "Execute PLD instruction as a NOP"⟩,
  ⟨1, 6, ACTLR, nsPrivilegeLevel1, 6, 1, "SMP", "other", "ACTLR", "Enables SMP"⟩,
  ⟨1, 7, ACTLR, nsPrivilegeLevel1, 7, 1, "EWFENOP", "other", "ACTLR", "Executes WFE instruction as a NOP instruction"⟩,
  ⟨1, 8, ACTLR, nsPrivilegeLevel1, 8, 1, "EWFINOP", "other", "ACTLR", "Executes WFI instruction as a NOP instruction"⟩,
  ⟨1, 9, ACTLR, nsPrivilegeLevel1, 9, 1, "DFRO", "other", "ACTLR", "Disable flag renaming optimization"⟩,
  ⟨1, 10, ACTLR, nsPrivilegeLevel1, 10, 1, "FS", "other", "ACTLR", "Force serialization after each instruction group"⟩,
  ⟨1, 11, ACTLR, nsPrivilegeLevel1, 11, 1, "L1PIG", "other", "ACTLR", "Limit to one instruction per instruction group"⟩,
  ⟨1, 12, ACTLR, nsPrivilegeLevel1, 12, 1, "FPCP", "other", "ACTLR", "Force push of CP14 and CP15 registers"⟩,
  ⟨1, 13, ACTLR, nsPrivilegeLevel1, 13, 1, "FLCP", "other", "ACTLR", "Flush after CP14 and CP15 writes"⟩,
  ⟨1, 14, ACTLR, nsPrivilegeLevel1, 14, 1, "FL", "other", "ACTLR", "Force limit of one instruction group commit/deallocate per cycle"⟩,
  ⟨1, 15, ACTLR, nsPrivilegeLevel1, 15, 1, "FIOBEU", "other", "ACTLR", "Force in-order issue in branch execution unit"⟩,
  ⟨1, 16, ACTLR, nsPrivilegeLevel1, 16, 1, "EFSO", "other", "ACTLR", "Enable full strongly-ordered and device load replay"⟩,
  ⟨1, 17, ACTLR, nsPrivilegeLevel1, 17, 1, "DL2_01", "other", "ACTLR", "Disables L2 TLB performance optimizations"⟩,
  ⟨1, 18, ACTLR, nsPrivilegeLevel1, 18, 1, "DL2_02", "other", "ACTLR", "Disables L2 stage 1 translation table walk L2 PA cache"⟩,
  ⟨1, 19, ACTLR, nsPrivilegeLevel1, 19, 1, "DL2_03", "other", "ACTLR", "Disable L2 stage 1 translation table walk cache"⟩,
  ⟨1, 20, ACTLR, nsPrivilegeLevel1, 20, 1, "DL2_04", "other", "ACTLR", "Disable L2 translation table walk IPA PA cache"⟩,
  ⟨1, 21, ACTLR, nsPrivilegeLevel1, 21, 1, "DL2_05", "other", "ACTLR", "Disable L2 TLB prefetching"⟩,
  ⟨1, 22, ACTLR, nsPrivilegeLevel1, 22, 1, "FIOL", "other", "ACTLR", "Force in-order load issue"⟩,
  ⟨1, 23, ACTLR, nsPrivilegeLevel1, 23, 1, "FIOR", "other", "ACTLR", "Force in-order requests to the same set and way"⟩,
  ⟨1, 24, ACTLR, nsPrivilegeLevel1, 24, 1, "NCSE", "other", "ACTLR", "Non-cacheable streaming enhancement"⟩,
  ⟨1, 25, ACTLR, nsPrivilegeLevel1, 25, 2, "WSL1T", "other", "ACTLR", "Write streaming no L1-allocate threshold"⟩,
  ⟨1, 26, ACTLR, nsPrivilegeLevel1, 27, 2, "WSNAT", "other", "ACTLR", "Write streaming no allocate threshold"⟩,
  ⟨1, 27, ACTLR, nsPrivilegeLevel1, 29, 1, "FNCEA", "other", "ACTLR", "Force NEON/VFP clock enable active"⟩,
  ⟨1, 28, ACTLR, nsPrivilegeLevel1, 30, 1, "FMCEA", "other", "ACTLR", "Force main clock enable active"⟩,
  ⟨1, 29, ACTLR, nsPrivilegeLevel1, 31, 1, "SDEH", "other", "ACTLR", "Snoop-delayed exclusive handling"⟩,
  ⟨1, 0, NSACR, nsPrivilegeLevel1, 0, 10, "Reserved", "secext", "NSACR", "Reserved"⟩,
  ⟨1, 1, NSACR, nsPrivilegeLevel1, 10, 1, "CP10", "secext", "NSACR", "Non-secure access to coprocessor 10 enable"⟩,
  ⟨1, 2, NSACR, nsPrivilegeLevel1, 11, 1, "CP11", "secext", "NSACR", "Non-secure access to coprecessor 11 enable"⟩,
  ⟨1, 3, NSACR, nsPrivilegeLevel1, 12, 3, "Reserved", "secext", "NSACR", "Reserved"⟩,
  ⟨1, 4, NSACR, nsPrivilegeLevel1, 15, 1, "NSASEDIS", "secext", "NSACR", "Disable non-secure Advanced SIMD functionality"⟩,
  ⟨1, 5, NSACR, nsPrivilegeLevel1, 16, 1, "Reserved", "secext", "NSACR", "Reserved"⟩,
  ⟨1, 6, NSACR, nsPrivilegeLevel1, 17, 1, "NS_L2ERR", "secext", "NSACR", "Allow write to L2 AXI Async Error bit in L2ECTLR in non-secure state"⟩,
  ⟨1, 7, NSACR, nsPrivilegeLevel1, 18, 1, "NS_SMP", "secext", "NSACR", "Allow write to SMP bit in ACTLR in non-secure state"⟩,
  ⟨1, 8, NSACR, nsPrivilegeLevel1, 19, 1, "Reserved", "secext", "NSACR", "Reserved"⟩,
  ⟨1, 9, NSACR, nsPrivilegeLevel1, 20, 12, "Reserved", "secext", "NSACR", "Reserved"⟩,
  ⟨1, 0, ADFSR, nsPrivilegeLevel1, 0, 18, "Index", "fault", "ADFSR", "Index in RAM of the L1 ECC double-bit error"⟩,
  ⟨1, 1, ADFSR, nsPrivilegeLevel1, 18, 5, "BankWay", "fault", "ADFSR", "Bank or way of RAM the L1 ECC double-bit error occurred"⟩,
  ⟨1, 2, ADFSR, nsPrivilegeLevel1, 23, 1, "L2Error", "fault", "ADFSR", "Indicates an L2 ECC double-bit error occurred"⟩,
  ⟨1, 3, ADFSR, nsPrivilegeLevel1, 24, 7, "RAMID", "fault", "ADFSR", "Indicates which RAM the L1 ECC double-bit error occurred in"⟩,
  ⟨1, 4, ADFSR, nsPrivilegeLevel1, 31, 1, "Valid", "fault", "ADFSR", "Indicates that an L1 or L2 double-bit error has occurred"⟩,
  ⟨1, 0, L2CTLR, nsPrivilegeLevel1, 0, 3, "Data RAM latency", "impl_def", "L2CTLR", "L2 data RAM latency"⟩,
  ⟨1, 1, L2CTLR, nsPrivilegeLevel1, 3, 2, "Reserved", "impl_def", "L2CTLR", "Reserved"⟩,
  ⟨1, 2, L2CTLR, nsPrivilegeLevel1, 5, 1, "Data RAM setup", "impl_def", "L2CTLR", "L2 data RAM setup"⟩,
  ⟨1, 3, L2CTLR, nsPrivilegeLevel1, 6, 3, "Tag RAM latency", "impl_def", "L2CTLR", "Tag RAM latency"⟩,
  ⟨1, 4, L2CTLR, nsPrivilegeLevel1, 9, 1, "Tag RAM setup", "impl_def", "L2CTLR", "L2 tag RAM setup"⟩,
  ⟨1, 5, L2CTLR, nsPrivilegeLevel1, 10, 2, "Data RAM slice", "impl_def", "L2CTLR", "L2 data RAM slice"⟩,
  ⟨1, 6, L2CTLR, nsPrivilegeLevel1, 12, 1, "Tag RAM slice", "impl_def", "L2CTLR", "L2 tag RAM slice"⟩,
  ⟨1, 7, L2CTLR, nsPrivilegeLevel1, 13, 8, "Reserved", "impl_def", "L2CTLR", "Reserved"⟩,
  ⟨1, 8, L2CTLR, nsPrivilegeLevel1, 21, 1, "ECC and parity enable", "impl_def", "L2CTLR", "ECC and parity enable in L1 and L2 caches"⟩,
  ⟨1, 9, L2CTLR, nsPrivilegeLevel1, 22, 1, "Reserved", "impl_def", "L2CTLR", "Reserved"⟩,
  ⟨1, 10, L2CTLR, nsPrivilegeLevel1, 23, 1, "Interrupt Controller", "impl_def", "L2CTLR", "Interrupt Controller present"⟩,
  ⟨1, 11, L2CTLR, nsPrivilegeLevel1, 24, 2, "Number of processors", "impl_def", "L2CTLR", "Number of processors present"⟩,
  ⟨1, 12, L2CTLR, nsPrivilegeLevel1, 26, 5, "Reserved", "impl_def", "L2CTLR", "Reserved"⟩,
  ⟨1, 13, L2CTLR, nsPrivilegeLevel1, 31, 1, "L2RSTDISABLE", "impl_def", "L2CTLR", "Monitors the L2 hardware reset disable pin"⟩,
  ⟨1, 0, IL1DATA0, nsPrivilegeLevel1, 0, 32, "Data", "impl_def", "IL1DATA0", "Holds the instruction side L1 array information"⟩,
  ⟨1, 1, IL1DATA1, nsPrivilegeLevel1, 0, 32, "Data", "impl_def", "IL1DATA1", "Holds the instruction side L1 array information"⟩,
  ⟨1, 2, IL1DATA2, nsPrivilegeLevel1, 0, 32, "Data", "impl_def", "IL1DATA2", "Holds the instruction side L1 array information"⟩,
  ⟨1, 3, IL1DATA3, nsPrivilegeLevel1, 0, 32, "Data", "impl_def", "IL1DATA3", "Holds the instruction side L1 array information"⟩,
  ⟨1, 0, DL1DATA0, nsPrivilegeLevel1, 0, 32, "Data", "impl_def", "DL1DATA0", "Holds the data side L1 or L2 array information"⟩,
  ⟨1, 1, DL1DATA1, nsPrivilegeLevel1, 0, 32, "Data", "impl_def", "DL1DATA1", "Holds the data side L1 or L2 array information"⟩,
  ⟨1, 2, DL1DATA2, nsPrivilegeLevel1, 0, 32, "Data", "impl_def", "DL1DATA2", "Holds the data side L1 or L2 array information"⟩,
  ⟨1, 3, DL1DATA3, nsPrivilegeLevel1, 0, 32, "Data", "impl_def", "DL1DATA3", "Holds the data side L1 or L2 array information"⟩,
  ⟨1, 0, L2ACTLR, nsPrivilegeLevel1, 0, 1, "DPF", "impl_def", "L2ACTLR", "Disable prefetch fowarding"⟩,
  ⟨1, 1, L2ACTLR, nsPrivilegeLevel1, 1, 1, "ARTT", "impl_def", "L2ACTLR", "Enable arbitration replay threshold timeout"⟩,
  ⟨1, 2, L2ACTLR, nsPrivilegeLevel1, 2, 1, "LTB", "impl_def", "L2ACTLR", "Limit to one request per tag bank"⟩,
  ⟨1, 3, L2ACTLR, nsPrivilegeLevel1, 3, 1, "DCEPTE", "impl_def", "L2ACTLR", "Disable clean/evict push to external"⟩,
  ⟨1, 4, L2ACTLR, nsPrivilegeLevel1, 4, 1, "DWU", "impl_def", "L2ACTLR", "Disable WriteUnique and WriteLineUnique transactions from master"⟩,
  ⟨1, 5, L2ACTLR, nsPrivilegeLevel1, 5, 1, "Reserved", "impl_def", "L2ACTLR", "Reserved"⟩,
  ⟨1, 6, L2ACTLR, nsPrivilegeLevel1, 6, 1, "DST", "impl_def", "L2ACTLR", "Disable shareable transactions from master"⟩,
  ⟨1, 7, L2ACTLR, nsPrivilegeLevel1, 7, 1, "EHDT", "impl_def", "L2ACTLR", "Enable hazard detect timeout"⟩,
  ⟨1, 8, L2ACTLR, nsPrivilegeLevel1, 8, 1, "DDVM", "impl_def", "L2ACTLR", "Disable DVM/CMO message broadcast"⟩,
  ⟨1, 9, L2ACTLR, nsPrivilegeLevel1, 9, 1, "Reserved", "impl_def", "L2ACTLR", "Reserved"⟩,
  ⟨1, 10, L2ACTLR, nsPrivilegeLevel1, 10, 1, "DNSDAR", "impl_def", "L2ACTLR", "Disable Non-secure debug array read"⟩,
  ⟨1, 11, L2ACTLR, nsPrivilegeLevel1, 11, 1, "DDSB", "impl_def", "L2ACTLR", "Disable DSB with no DVM synchronization"⟩,
  ⟨1, 12, L2ACTLR, nsPrivilegeLevel1, 12, 1, "DMOWC", "impl_def", "L2ACTLR", "Disable multiple outstanding WriteClean/WriteBack/Evicts using the same AWID"⟩,
  ⟨1, 13, L2ACTLR, nsPrivilegeLevel1, 13, 1, "DSCDT", "impl_def", "L2ACTLR", "Disable SharedClean data transfers"⟩,
  ⟨1, 14, L2ACTLR, nsPrivilegeLevel1, 14, 1, "EUCEWD", "impl_def", "L2ACTLR", "Enable UniqueClean evictions with data"⟩,
  ⟨1, 15, L2ACTLR, nsPrivilegeLevel1, 15, 1, "ECPUWFI", "impl_def", "L2ACTLR", "Enable CPU WFI retention mode"⟩,
  ⟨1, 16, L2ACTLR, nsPrivilegeLevel1, 16, 1, "ERTSICT", "impl_def", "L2ACTLR", "Enable replay threshold single issue - current tag bank"⟩,
  ⟨1, 17, L2ACTLR, nsPrivilegeLevel1, 17, 8, "Reserved", "impl_def", "L2ACTLR", "Reserved"⟩,
  ⟨1, 18, L2ACTLR, nsPrivilegeLevel1, 25, 1, "ERTSIAT", "impl_def", "L2ACTLR", "Enable replay threshold single issue - all tag banks"⟩,
  ⟨1, 19, L2ACTLR, nsPrivilegeLevel1, 26, 1, "ERCG", "impl_def", "L2ACTLR", "Enable L2, GIC, and Timer regional clock gates"⟩,
  ⟨1, 20, L2ACTLR, nsPrivilegeLevel1, 27, 1, "FL2CEA", "impl_def", "L2ACTLR", "Force L2 logic clock enable active"⟩,
  ⟨1, 21, L2ACTLR, nsPrivilegeLevel1, 28, 1, "FL2TBCLE", "impl_def", "L2ACTLR", "Force L2 tag bank clock enable active"⟩,
  ⟨1, 22, L2ACTLR, nsPrivilegeLevel1, 29, 3, "Reserved", "impl_def", "L2ACTLR", "Reserved"⟩,
  ⟨1, 0, L2PFR, nsPrivilegeLevel1, 0, 4, "Reserved", "impl_def", "L2PFR", "Reserved"⟩,
  ⟨1, 1, L2PFR, nsPrivilegeLevel1, 4, 2, "L2LSDPD", "impl_def", "L2PFR", "L2 load/store data prefetch distance"⟩,
  ⟨1, 2, L2PFR, nsPrivilegeLevel1, 6, 1, "Reserved", "impl_def", "L2PFR", "Reserved"⟩,
  ⟨1, 3, L2PFR, nsPrivilegeLevel1, 7, 2, "L2IFPD", "impl_def", "L2PFR", "L2 instruction fetch prefetch distance"⟩,
  ⟨1, 4, L2PFR, nsPrivilegeLevel1, 9, 1, "Reserved", "impl_def", "L2PFR", "Reserved"⟩,
  ⟨1, 5, L2PFR, nsPrivilegeLevel1, 10, 1, "DTWDAP", "impl_def", "L2PFR", "Disable table walk descriptor across prefetch"⟩,
  ⟨1, 6, L2PFR, nsPrivilegeLevel1, 11, 1, "EPRFRT", "impl_def", "L2PFR", "Enable prefetch requests from ReadUnique transactions"⟩,
  ⟨1, 7, L2PFR, nsPrivilegeLevel1, 12, 1, "DDTOLSPR", "impl_def", "L2PFR", "Disable dynamic throttling of load/store prefetch requests"⟩,
  ⟨1, 8, L2PFR, nsPrivilegeLevel1, 13, 19, "Reserved", "impl_def", "L2PFR", "Reserved"⟩,
  ⟨1, 0, ACTLR2, nsPrivilegeLevel1, 0, 1, "EDCCADC", "impl_def", "ACTLR2", "Execute data cache clean as data cache clean/invalidate"⟩,
  ⟨1, 1, ACTLR2, nsPrivilegeLevel1, 1, 30, "Reserved", "impl_def", "ACTLR2", "Reserved"⟩,
  ⟨1, 2, ACTLR2, nsPrivilegeLevel1, 31, 1, "ECPURCG", "impl_def", "ACTLR2", "Enable CPU regional clock gates"⟩,
  ⟨1, 0, CBAR, nsPrivilegeLevel1, 0, 8, "PERIPHBASE_39_32", "impl_def", "CBAR", "Determines reset value"⟩,
  ⟨1, 1, CBAR, nsPrivilegeLevel1, 8, 7, "Reserved", "impl_def", "CBAR", "Reserved"⟩,
  ⟨1, 2, CBAR, nsPrivilegeLevel1, 15, 16, "PERIPHBASE_31_15", "impl_def", "CBAR", "Determines reset value"⟩,
  ⟨1, 0, CPUMERRSR, nsPrivilegeLevel1, 0, 18, "Index", "impl_def", "CPUMERRSR", "Index address of first memory error"⟩,
  ⟨1, 1, CPUMERRSR, nsPrivilegeLevel1, 18, 5, "BankWay", "impl_def", "CPUMERRSR", "Bank or way of the RAM where the first memory error occurred"⟩,
  ⟨1, 2, CPUMERRSR, nsPrivilegeLevel1, 23, 1, "Reserved", "impl_def", "CPUMERRSR", "Reserved"⟩,
  ⟨1, 3, CPUMERRSR, nsPrivilegeLevel1, 24, 7, "RAMID", "impl_def", "CPUMERRSR", "Indicates the RAM of the first memory error"⟩,
  ⟨1, 4, CPUMERRSR, nsPrivilegeLevel1, 31, 1, "Valid", "impl_def", "CPUMERRSR", "Set on first memory error"⟩,
  ⟨1, 5, CPUMERRSR, nsPrivilegeLevel1, 32, 38, "REPEATERROR", "impl_def", "CPUMERRSR", "Repeat error count"⟩,
  ⟨1, 6, CPUMERRSR, nsPrivilegeLevel1, 40, 8, "OTHERERROR", "impl_def", "CPUMERRSR", "Other error count"⟩,
  ⟨1, 7, CPUMERRSR, nsPrivilegeLevel1, 48, 14, "Reserved", "impl_def", "CPUMERRSR", "Reserved"⟩,
  ⟨1, 8, CPUMERRSR, nsPrivilegeLevel1, 63, 1, "Fatal", "impl_def", "CPUMERRSR", "Fatal bit"⟩,
  ⟨1, 0, L2MERRSR, nsPrivilegeLevel1, 0, 18, "Index", "impl_def", "L2MERRSR", "Index address of first memory error"⟩,
  ⟨1, 1, L2MERRSR, nsPrivilegeLevel1, 18, 5, "CPUIDWay", "impl_def", "L2MERRSR", "Processor and way of the RAM where the first memory error occurred"⟩,
  ⟨1, 2, L2MERRSR, nsPrivilegeLevel1, 23, 1, "Reserved", "impl_def", "L2MERRSR", "Reserved"⟩,
  ⟨1, 3, L2MERRSR, nsPrivilegeLevel1, 24, 7, "RAMID", "impl_def", "L2MERRSR", "Indicates the RAM of the first memory error"⟩,
  ⟨1, 4, L2MERRSR, nsPrivilegeLevel1, 31, 1, "Valid", "impl_def", "L2MERRSR", "Set on first memory error"⟩,
  ⟨1, 5, L2MERRSR, nsPrivilegeLevel1, 32, 38, "REPEATERROR", "impl_def", "L2MERRSR", "Repeat error count"⟩,
  ⟨1, 6, L2MERRSR, nsPrivilegeLevel1, 40, 8, "OTHERERROR", "impl_def", "L2MERRSR", "Other error count"⟩,
  ⟨1, 7, L2MERRSR, nsPrivilegeLevel1, 48, 14, "Reserved", "impl_def", "L2MERRSR", "Reserved"⟩,
  ⟨1, 8, L2MERRSR, nsPrivilegeLevel1, 63, 1, "Fatal", "impl_def", "L2MERRSR", "Fatal bit"⟩]

end Maplesyrup
