/-
The vocabulary shared by the kernel module and the library: the
records, codes and bounds of common/parse.h, the error codes of
common/ms_error.h, and the privilege levels and part numbers of
lib/include/maplesyrup.h.

# Machine words

C's `unsigned int` is 32 bits wide and `unsigned long long` 64 on every
target the tool builds for, so both are bit vectors here and C's
wrapping arithmetic is theirs. An `int` that is only compared against
unsigned words (`get_arch_from_impl` and its kin) is the same 32-bit
word: `-1` is `0xFFFFFFFF`.

# Texts

A C string is a `String`. The bounded copies and comparisons of the C
library act on its characters: `strncpy` into a zeroed buffer keeps the
first `n`, `strncmp` compares the first `n`.
-/
import Mathlib

namespace Maplesyrup

/-- C's `unsigned int`. -/
abbrev U32 := BitVec 32

/-- C's `unsigned long long`. -/
abbrev U64 := BitVec 64

/-- Words that compare equal are. -/
instance : LawfulBEq U32 := inferInstance

-- ================================================= the request buffer

/-- Fixed number of cpus a request has slots for. -/
def msMaxCpus : Nat := 8

/-- `pcpu` value asking for every cpu. -/
def msCpuAll : U32 := 0xFFFFFFFF

/-- `_IO(MS_MAGIC, nr)`: no direction, no size, magic over number. -/
def msIo (nr : U32) : U32 := (0xB0#32 <<< 8) ||| nr

/-- Coprocessor interface. -/
def msIoctlCo : U32 := msIo 0

/-- GIC interface. -/
def msIoctlGic : U32 := msIo 2

/-- One cpu's slot of a request buffer. -/
structure MsData where
  cpu : U32 := 0
  midr : U32 := 0
  in1 : U32 := 0
  in2 : U32 := 0
  out64 : U64 := 0
  out1 : U32 := 0
  out2 : U32 := 0
  status : U32 := 0
deriving DecidableEq, Repr

/-- The request buffer that crosses the ioctl boundary. -/
structure MsDataCpu where
  code : U32 := 0
  pcpu : U32 := 0
  partNumber : U32 := 0
  cpu : Fin msMaxCpus → MsData := fun _ => {}
deriving DecidableEq

-- ======================================================= error codes

def msErrorSuccess : U32 := 0
def msErrorIllinst : U32 := 1
def msErrorUndefinst : U32 := 2
def msErrorSmp : U32 := 3
def msErrorSmpSingle : U32 := 4
def msErrorNoresult : U32 := 5
def msErrorTable : U32 := 6

-- ================================== privilege levels and part numbers

/-- Non-secure user. -/
def nsPrivilegeLevel0 : U32 := 1

/-- Non-secure kernel. -/
def nsPrivilegeLevel1 : U32 := 2

/-- Non-secure hyp. -/
def nsPrivilegeLevel2 : U32 := 4

/-- Secure PL0. -/
def sPrivilegeLevel0 : U32 := 8

/-- Secure PL1. -/
def sPrivilegeLevel1 : U32 := 16

/-- Each row's own preference decides. -/
def preferredPl : U32 := 32

def nsAll : U32 :=
  nsPrivilegeLevel0 ||| nsPrivilegeLevel1 ||| nsPrivilegeLevel2

def sAll : U32 := sPrivilegeLevel0 ||| sPrivilegeLevel1

def allNsS : U32 := nsAll ||| sAll

def archArmv7a : U32 := 0
def archArmv8a : U32 := 1
def implCortexA7 : U32 := 2
def implCortexA9 : U32 := 3
def implCortexA15 : U32 := 4
def implCortexA53 : U32 := 5
def implCortexA57 : U32 := 6
def implAll : U32 := 7
def giccV2 : U32 := 8
def gicdV2 : U32 := 9
def gichV2 : U32 := 10
def gicvV2 : U32 := 11

-- ============================================================== codes

def instructionShift : Nat := 16
def partnumberShift : Nat := 27

/-- The 5/11/16-bit code: part number, instruction, field. Each part is
shifted and ORed in as it is, so one wider than its field runs into the
next. -/
def mscode (partnumber instruction field : U32) : U32 :=
  (partnumber <<< partnumberShift) ||| (instruction <<< instructionShift)
    ||| field

def mscodePartnumber (code : U32) : U32 :=
  (code >>> partnumberShift) &&& 0x1F

def mscodeField (code : U32) : U32 := code &&& 0xFFFF

-- ============================================================== texts

def parseMaxDescription : Nat := 256
def parseMaxBitfield : Nat := 64
def parseMaxFunctional : Nat := 64
def parseMaxRegister : Nat := 32

/-- What a zeroed buffer holds after `strncpy(buffer, s, n)`. -/
def strncpy (s : String) (n : Nat) : String :=
  String.ofList (s.toList.take n)

/-- `strncmp(a, b, n) == 0`. -/
def strncmp (a b : String) (n : Nat) : Bool :=
  a.toList.take n == b.toList.take n

/-- A string within the bound is copied whole. -/
@[simp] theorem strncpy_of_le {s : String} {n : Nat}
    (h : s.length ≤ n) : strncpy s n = s := by
  have hlen : s.toList.length ≤ n := by rwa [String.length_toList]
  rw [strncpy, List.take_of_length_le hlen, String.ofList_toList]

/-- No more is copied than the bound says. -/
theorem strncpy_length_le (s : String) (n : Nat) :
    (strncpy s n).length ≤ n := by
  rw [strncpy, String.length_ofList]
  exact List.length_take_le n s.toList

theorem strncpy_ne_empty {s : String} {n : Nat} (hs : s ≠ "")
    (hn : 0 < n) : strncpy s n ≠ "" := by
  intro hcopy
  have htake : s.toList.take n = [] := by
    rw [← String.toList_ofList (l := s.toList.take n)]
    exact congrArg String.toList hcopy
  rw [List.take_eq_nil_iff, String.toList_eq_nil_iff] at htake
  rcases htake with hzero | hempty
  · omega
  · exact hs hempty

/-- Strings within the bound compare equal iff they are. -/
theorem strncmp_of_le {a b : String} {n : Nat} (ha : a.length ≤ n)
    (hb : b.length ≤ n) : strncmp a b n = true ↔ a = b := by
  have halen : a.toList.length ≤ n := by rwa [String.length_toList]
  have hblen : b.toList.length ≤ n := by rwa [String.length_toList]
  rw [strncmp, beq_iff_eq, List.take_of_length_le halen,
    List.take_of_length_le hblen, String.toList_inj]

/-- Shorter than the bound, a string compares equal to itself only. -/
theorem strncmp_of_lt {a b : String} {n : Nat} (hb : b.length < n) :
    strncmp a b n = true ↔ a = b := by
  have hlen : b.toList.length < n := by rwa [String.length_toList]
  have htake : b.toList.take n = b.toList :=
    List.take_of_length_le (Nat.le_of_lt hlen)
  rw [strncmp, beq_iff_eq, htake]
  constructor
  · intro hab
    have hshort : (a.toList.take n).length < n := by rwa [hab]
    have ha : a.toList.length ≤ n := by
      rw [List.length_take] at hshort
      omega
    rw [List.take_of_length_le ha] at hab
    exact String.toList_inj.1 hab
  · rintro rfl
    exact htake

theorem strncmp_comm (a b : String) (n : Nat) :
    strncmp a b n = strncmp b a n := by
  unfold strncmp
  exact Bool.beq_comm

/-- A copy of a string compares equal to a string within the bound iff it
is that string, cut or not. -/
theorem strncmp_strncpy {a b : String} {n : Nat} (ha : a.length < n) :
    strncmp a (strncpy b n) n = true ↔ a = b := by
  have hcopy : strncmp a (strncpy b n) n = strncmp b a n := by
    rw [strncmp_comm b a n, strncmp, strncpy, String.toList_ofList,
      List.take_take, Nat.min_self]
    rfl
  rw [hcopy, strncmp_of_lt ha]
  exact eq_comm

/-- A text compares equal to the empty one iff it is empty. -/
theorem strncmp_empty {a : String} {n : Nat} (hn : 0 < n) :
    strncmp a "" n = true ↔ a = "" := by
  have hempty : "".toList = [] := rfl
  rw [strncmp, beq_iff_eq, hempty, List.take_nil, List.take_eq_nil_iff,
    String.toList_eq_nil_iff]
  exact or_iff_right (Nat.pos_iff_ne_zero.1 hn)

-- ============================================== table rows and results

/-- One row of a decode table. -/
structure BitfieldInfo where
  range : U32
  uid : U32
  registerUid : U32
  ppl : U32
  rightshift : U32
  mask : U32
  bitfield : String
  functionalGroup : String
  registerName : String
  description : String
deriving DecidableEq, Repr

/-- A decoded (or raw) value on its way to the user. -/
structure BitfieldInfoPopulated where
  cpu : U32
  epl : U32
  uid : U32
  ioctl : U32
  midr : U32
  status : U32
  bitfield : String
  functionalGroup : String
  registerName : String
  description : String
  value : U64
  uvalue : U64
deriving DecidableEq, Repr

/-- The search request. -/
structure MatchInfo where
  architecture : U32 := 0
  implementation : U32 := 0
  functionalGroup : String := ""
  registerName : String := ""
  uid : U32 := 0
  pl : U32 := 0
  noparse : U32 := 0
  cpu : U32 := 0
  calcValid : U32 := 0
  calcValue : U64 := 0
deriving DecidableEq, Repr

/-- A requested table entry. -/
structure ResultsInfo where
  registerUid : U32
  uid : U32
  ppl : U32
  pl : U32
  cpu : U32
  noparse : U32
  partNumber : U32
  calcValid : U32
  calcValue : U64
deriving DecidableEq, Repr

/-- A register to be read, once. -/
structure UsedIoctl where
  registerUid : U32
  cpu : U32
  partnumber : U32
deriving DecidableEq, Repr

/-- What one read of one register on one cpu gave. -/
structure IoctlResult where
  registerUid : U32
  val64 : U64
  low : U32
  high : U32
  cpu : U32
  midr : U32
  epl : U32
  status : U32
deriving DecidableEq, Repr

end Maplesyrup
