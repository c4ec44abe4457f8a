/-
Register codes: the `MS_SYSREG_*` enumeration of common/parse.h, whose
values index the jump table and fill the instruction field of a uid, and
the `MS_GIC_*` offsets of the memory-mapped interfaces. Codes no decode
table and no jump-table row names are left out; the others keep their
place in the enumeration.
-/
import Maplesyrup.Common.Parse

namespace Maplesyrup

-- ==================================================== system registers

namespace MsSysreg

def PFR0 : U32 := 1
def PFR1 : U32 := 2
def DFR0 : U32 := 3
def AFR0 : U32 := 4
def MMFR0 : U32 := 5
def MMFR1 : U32 := 6
def MMFR2 : U32 := 7
def MMFR3 : U32 := 8
def MMFR4 : U32 := 9
def ISAR0 : U32 := 10
def ISAR1 : U32 := 11
def ISAR2 : U32 := 12
def ISAR3 : U32 := 13
def ISAR4 : U32 := 14
def ISAR5 : U32 := 15
def REVIDR : U32 := 16
def TLBTR : U32 := 17
def CCSIDR : U32 := 18
def TCMTR : U32 := 19
def AIDR : U32 := 20
def CLIDR : U32 := 21
def CSSELR : U32 := 22
def CTR : U32 := 23
def MIDR : U32 := 24
def MPIDR : U32 := 25
def AA64AFR0 : U32 := 26
def AA64AFR1 : U32 := 27
def AA64DFR0 : U32 := 28
def AA64DFR1 : U32 := 29
def AA64ISAR0 : U32 := 30
def AA64ISAR1 : U32 := 31
def AA64MMFR0 : U32 := 32
def AA64MMFR1 : U32 := 33
def AA64PFR0 : U32 := 34
def AA64PFR1 : U32 := 35
def ISR : U32 := 36
def MVBAR : U32 := 37
def NSACR : U32 := 38
def SCR : U32 := 39
def SDER : U32 := 40
def VBAR : U32 := 41
def NMRR : U32 := 42
def PRRR : U32 := 43
def SCTLR : U32 := 44
def TTBCR : U32 := 45
def TTBR0 : U32 := 46
def TTBR0LPAE : U32 := 47
def TTBR1 : U32 := 48
def TTBR1LPAE : U32 := 49
def CONTEXTIDR : U32 := 50
def AMAIR : U32 := 51
def AMAIR0 : U32 := 52
def AMAIR1 : U32 := 53
def DACR : U32 := 55
def MAIR : U32 := 56
def MAIR0 : U32 := 57
def MAIR1 : U32 := 58
def DCZID : U32 := 59
def ACTLR : U32 := 61
def CPACR : U32 := 62
def FCSEIDR : U32 := 63
def RMR : U32 := 64
def RVBAR : U32 := 65
def PMCCFILTR : U32 := 66
def PMCR : U32 := 67
def PMCCNTR : U32 := 68
def PMCEID0 : U32 := 69
def PMCEID1 : U32 := 70
def PMCNTENSET : U32 := 71
def PMCNTENCLR : U32 := 72
def PMINTENSET : U32 := 73
def PMINTENCLR : U32 := 74
def PMOVSCLR : U32 := 75
def PMOVSR : U32 := 76
def PMOVSSET : U32 := 77
def PMSELR : U32 := 78
def PMSWINC : U32 := 79
def PMUSERENR : U32 := 80
def PMXEVCNTR : U32 := 81
def PMXEVTYPER : U32 := 82
def IFAR : U32 := 83
def IFSR : U32 := 84
def ADFSR : U32 := 85
def AIFSR : U32 := 86
def DFAR : U32 := 87
def DFSR : U32 := 88
def FAR : U32 := 92
def PAR : U32 := 93
def FPEXC : U32 := 94
def FPSCR : U32 := 95
def FPSID : U32 := 96
def MVFR0 : U32 := 97
def MVFR1 : U32 := 98
def MVFR2 : U32 := 99
def DBGDIDR : U32 := 100
def DBGAUTHSTATUS : U32 := 101
def DBGDRAR : U32 := 115
def DBGDSCR : U32 := 119
def JIDR : U32 := 145
def JMCR : U32 := 146
def JOSCR : U32 := 147
def TEECR : U32 := 148
def TEEHBR : U32 := 149
def CPUMERRSR : U32 := 150
def L2MERRSR : U32 := 151
def IL1DATA0 : U32 := 152
def IL1DATA1 : U32 := 153
def IL1DATA2 : U32 := 154
def IL1DATA3 : U32 := 155
def DL1DATA0 : U32 := 156
def DL1DATA1 : U32 := 157
def DL1DATA2 : U32 := 158
def DL1DATA3 : U32 := 159
def L2ACTLR : U32 := 160
def L2CTLR : U32 := 161
def L2ECTLR : U32 := 162
def L2PFR : U32 := 163
def ACTLR2 : U32 := 164
def CBAR : U32 := 173
def CPUACTLR : U32 := 174
def CPUECTLR : U32 := 175
def TPIDRPRW : U32 := 178
def TPIDRURO : U32 := 179
def TPIDRURW : U32 := 180
def APSR : U32 := 182
def CPSR : U32 := 183
def SPSR : U32 := 184
def CURRENTEL : U32 := 185
def DAIF : U32 := 186
def FPCR : U32 := 187
def FPSR : U32 := 188
def NZCV : U32 := 189
def SPSEL : U32 := 190

end MsSysreg

-- =================================================== GICv2 register map

namespace MsGic

def GICC_CTLR : U32 := 0x0
def GICC_PMR : U32 := 0x4
def GICC_BPR : U32 := 0x8
def GICC_IAR : U32 := 0xC
def GICC_EOIR : U32 := 0x10
def GICC_RPR : U32 := 0x14
def GICC_HPPIR : U32 := 0x18
def GICC_ABPR : U32 := 0x1C
def GICC_AIAR : U32 := 0x20
def GICC_AEOIR : U32 := 0x24
def GICC_AHPPIR : U32 := 0x28
def GICC_RESERVED_00 : U32 := 0x2C
def GICC_IMPL_DEF_00 : U32 := 0x40
def GICC_APR : U32 := 0xD0
def GICC_NSAPR : U32 := 0xE0
def GICC_RESERVED_01 : U32 := 0xF0
def GICC_IIDR : U32 := 0xFC
def GICC_DIR : U32 := 0x1000
def GICD_CTLR : U32 := 0x0
def GICD_TYPER : U32 := 0x4
def GICD_IIDR : U32 := 0x8
def GICD_RESERVED_00 : U32 := 0xC
def GICD_IMP_DEF_00 : U32 := 0x20
def GICD_RESERVED_01 : U32 := 0x40
def GICD_IGROUPR : U32 := 0x80
def GICD_ISENABLER : U32 := 0x100
def GICD_ISPENDR : U32 := 0x200
def GICD_ICPENDR : U32 := 0x280
def GICD_ISACTIVER : U32 := 0x300
def GICD_ICACTIVER : U32 := 0x380
def GICD_IPRIORITYR : U32 := 0x400
def GICD_RESERVED_02 : U32 := 0x7FC
def GICD_ITARGETSR : U32 := 0x800
def GICD_RESERVED_03 : U32 := 0xBFC
def GICD_ICFGR : U32 := 0xC00
def GICD_IMP_DEF_01 : U32 := 0xD00
def GICD_NSACR : U32 := 0xE00
def GICD_SGIR : U32 := 0xF00
def GICD_RESERVED_04 : U32 := 0xF04
def GICD_CPENDSGIR : U32 := 0xF10
def GICD_SPENDSGIR : U32 := 0xF20
def GICD_RESERVED_05 : U32 := 0xF30
def GICD_IDENT : U32 := 0xFD0
def GICD_ICPIDR2 : U32 := 0xFE8

end MsGic

end Maplesyrup
