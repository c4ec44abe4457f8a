/-
The tool as one system: the library, the kernel module behind the device
it opens, and its own reads at user level, on one machine.

Linux and the hardware may change at any time. The n-th request to the
kernel meets machine `machines n`, and the n-th read at user level finds
the instructions delivering `regs n`.

# What a search is for

`readings` is the purpose of a search in its own words: of every register
that is asked for, at every level it is to be read at, on every cpu the
request gets to, the word its handler delivers there, if it delivers one;
and of every word of a device the one at its address. `shown` is what the
user is to see of them: each reading cut into the requested fields of its
register that are for its core.

A word of a device is read without asking for the core, so its reading
has the MIDR the slot is left with by a register read before (`Labels`).
-/
import Maplesyrup.Decode.Proofs.Sort
import Maplesyrup.Library.Find
import Maplesyrup.Library.Proofs.Cmd

namespace Maplesyrup

-- ============================================================== the system

/-- The kernel's variables and those of the library's own reads, with the
number of requests and of reads so far. -/
structure ToolState where
  kernel : KGlobals := {}
  requests : Nat := 0
  user : UState := {}
  reads : Nat := 0

/-- The library's host: the kernel module, and its own reads. -/
def toolHost (b : Build) (machines : Nat → Machine)
    (regs : Nat → String → Option U64) : Host ToolState where
  ioctl s cmd u :=
    let r := msIoctl b (machines s.requests) s.kernel cmd u
    (r.ret, r.buffer,
      { s with kernel := r.globals, requests := s.requests + 1 })
  usermodeResults s code d :=
    let (r, d, user) :=
      usermodeResults b.target (regs s.reads) code d s.user
    (r, d, { s with user := user, reads := s.reads + 1 })
  clearIllsig s := { s with user := { s.user with gIllsig := 0 } }

-- ============================================================ its purpose

/-- A word read from a register: at which level, on which cpu of which
core. -/
structure Reading where
  registerUid : U32
  epl : U32
  cpu : U32
  midr : U32
  word : U64
deriving DecidableEq, Repr

/-- The word of a completed call of a dispatch row's handler. -/
def deliveredWord (t : Target) (e : FuncTableEntry) (eff : Effect) : U64 :=
  let w := readWords t e eff
  valueToLong w.1 w.2.1 w.2.2

/-- The request for a register gets to cpu `i`: it is copied in and out,
its cpu number has slots, and the cpu is asked for and reached. -/
def GetsTo (b : Build) (mc : Machine) (cpu : U32) (i : Nat) : Prop :=
  mc.copyFromUser = true ∧ mc.copyToUser = true ∧ InRange cpu
    ∧ fate b mc cpu i = .ran

instance (b : Build) (mc : Machine) (cpu : U32) (i : Nat) :
    Decidable (GetsTo b mc cpu i) :=
  inferInstanceAs (Decidable (_ ∧ _ ∧ _ ∧ _))

/-- What a request for a register reads on cpu `i`. -/
def kernelReading (b : Build) (mc : Machine) (x : UsedIoctl) (i : Nat) :
    Option Reading :=
  (rowOf x.registerUid).bind fun e =>
    let eff := callEffect b mc i e.funcPtr
    if GetsTo b mc x.cpu i ∧ e.supported = true ∧ eff.trapped = false then
      some
        { registerUid := x.registerUid
          epl := nsPrivilegeLevel1
          cpu := .ofNat 32 (b.cpuIndex i)
          midr := mc.midr i
          word := deliveredWord b.target e eff }
    else none

/-- The MIDR there is in each slot of a search: the core's, of the last
register that was read there. -/
abbrev Labels := Fin msMaxCpus → U32

/-- The request is for a register of the dispatch table, and gets to cpu
`i`: it leaves the core's MIDR there, also where the read traps. -/
def LeavesMidr (b : Build) (mc : Machine) (x : UsedIoctl) (i : Nat) :
    Prop :=
  cmdOf x.partnumber = .co ∧ (rowOf x.registerUid).isSome = true
    ∧ GetsTo b mc x.cpu i

instance (b : Build) (mc : Machine) (x : UsedIoctl) (i : Nat) :
    Decidable (LeavesMidr b mc x i) :=
  inferInstanceAs (Decidable (_ ∧ _ ∧ _))

/-- The MIDRs behind a request. -/
def relabel (b : Build) (mc : Machine) (x : UsedIoctl) (l : Labels) :
    Labels :=
  fun i => if LeavesMidr b mc x i then mc.midr i else l i

/-- What a request for a word of a device reads on cpu `i`: the word at
its offset in the mapping the part number is for. The core is not asked
for, and what is in the slot of another stays there. -/
def deviceReading (b : Build) (mc : Machine) (m : MsGicMap) (l : Labels)
    (x : UsedIoctl) (i : Fin msMaxCpus) : Option Reading :=
  (gicBase m x.partnumber).bind fun base =>
    if GetsTo b mc x.cpu i ∧ base ≠ 0 then
      some
        { registerUid := x.registerUid
          epl := nsPrivilegeLevel1
          cpu := .ofNat 32 (b.cpuIndex i)
          midr := l i
          word := (mc.readl i
            (base + (mscodeField x.registerUid).toNat)).setWidth 64 }
    else none

/-- What a request reads on cpu `i`. -/
def cpuReading (b : Build) (mc : Machine) (m : MsGicMap) (l : Labels)
    (x : UsedIoctl) (i : Fin msMaxCpus) : Option Reading :=
  match cmdOf x.partnumber with
  | .co => kernelReading b mc x i
  | .gic => deviceReading b mc m l x i

/-- What the requests of a worklist read, the first of them being the
`n`-th of all. -/
def kernelReadings (b : Build) (machines : Nat → Machine) (m : MsGicMap) :
    Nat → Labels → List UsedIoctl → List Reading
  | _, _, [] => []
  | n, l, x :: xs =>
      (List.finRange msMaxCpus).filterMap (cpuReading b (machines n) m l x)
        ++ kernelReadings b machines m (n + 1)
          (relabel b (machines n) x l) xs

/-- What the library reads itself. It does not know on which core. -/
def userReading (t : Target) (reg : String → Option U64) (x : UsedIoctl) :
    Option Reading :=
  (rowOf x.registerUid).bind fun e =>
    let eff := tryEffect t reg e.funcPtr
    if e.supported = true ∧ eff.trapped = false then
      some
        { registerUid := x.registerUid
          epl := nsPrivilegeLevel0
          cpu := 0
          midr := 0
          word := deliveredWord t e eff }
    else none

/-- What there is to read for a list of requests. -/
def readings (b : Build) (machines : Nat → Machine)
    (regs : Nat → String → Option U64) (s : ToolState)
    (reqs : List ResultsInfo) : List Reading :=
  kernelReadings b machines s.kernel.gicMap s.requests (fun _ => 0)
      (workAt nsPrivilegeLevel1 reqs)
    ++ ((workAt nsPrivilegeLevel0 reqs).zipIdx s.reads).filterMap fun w =>
      userReading b.target (regs w.2) w.1

/-- The entry is of the reading's register, and its table for the
reading's core, if that is known. -/
def Reading.fits (rd : Reading) (h : BitfieldInfoHeap) : Bool :=
  h.info.registerUid == rd.registerUid
    && midrMatches rd.midr (mscodePartnumber h.info.uid)

/-- The field of the reading that the entry describes. -/
def Reading.field (rd : Reading) (h : BitfieldInfoHeap) :
    BitfieldInfoPopulated where
  cpu := rd.cpu
  epl := rd.epl
  uid := h.info.uid
  ioctl := rd.registerUid
  midr := rd.midr
  status := msErrorSuccess
  bitfield := h.info.bitfield
  functionalGroup := h.info.functionalGroup
  registerName := h.registerNameExpanded
  description := h.info.description
  value := .ofNat 64 ((rd.word.toNat >>> h.info.rightshift.toNat)
    % 2 ^ h.info.mask.toNat)
  uvalue := 0

/-- What the user is to see: every requested field of every reading. -/
def shown (heap : List BitfieldInfoHeap) (info : MatchInfo)
    (rds : List Reading) : List BitfieldInfoPopulated :=
  rds.flatMap fun rd =>
    (heap.filter fun h => info.selects h && rd.fits h).map rd.field

end Maplesyrup
