/-
The kernel module's request path (module/cmd_handler.c, with
`set_undef_flag` and `undef_hook` of module/undef_hook.c): from the
buffer `ms_ioctl` is handed to the slots `call_func_ptr` fills on each
cpu and back.

# State

A request runs over `KState`: the kernel's copy of the buffer, the trap
flag `g_undef_flag`, and a trace of what the code touched. What Linux
and the hardware decide (which cpus come up, which reads trap, what they
give) is `Machine`. `smp_call_function_single(c, f)` either fails or runs
`f` on cpu `c`, where `get_cpu()` is `c`.

# Slots

`results.cpu[i]` is written through `KState.slot`. The buffer has eight
slots, so a store at an index past them changes none of them: it lands
behind the buffer, and only the trace shows it.
-/
import Maplesyrup.Common.JumpTable

namespace Maplesyrup

-- ========================================================= the machine

/-- The compile-time configuration. -/
structure Build where
  target : Target
  configSmp : Bool
deriving DecidableEq, Repr

/-- What Linux and the hardware decide while one request runs. -/
structure Machine where
  /-- `copy_from_user` copies everything. -/
  copyFromUser : Bool
  /-- `copy_to_user` copies everything. -/
  copyToUser : Bool
  cpuOnline : Nat → Bool
  /-- `cpu_up` brings the cpu up. -/
  cpuUp : Nat → Bool
  /-- `smp_call_function_single` runs the function on the cpu. -/
  smpCall : Nat → Bool
  midr : Nat → U32
  /-- What an instruction delivers on a cpu, `none` if it is undefined. -/
  reg : Nat → String → Option U64
  /-- The word at an I/O address, read from a cpu. -/
  readl : Nat → Nat → U32

/-- Where the GIC interfaces are: physical address, mapping (0 is NULL)
and size of each (common/intc.h). -/
structure MsGicMap where
  giccPhys : Nat := 0
  giccVirt : Nat := 0
  giccSize : U32 := 0
  gicdPhys : Nat := 0
  gicdVirt : Nat := 0
  gicdSize : U32 := 0
  gichPhys : Nat := 0
  gichVirt : Nat := 0
  gichSize : U32 := 0
  gicvPhys : Nat := 0
  gicvVirt : Nat := 0
  gicvSize : U32 := 0
deriving DecidableEq, Repr

/-- The module's global variables. -/
structure KGlobals where
  gUndefFlag : U32 := 0
  gicMap : MsGicMap := {}
deriving DecidableEq, Repr

/-- The slot a function running on cpu `cur` works on. -/
def Build.cpuIndex (b : Build) (cur : Nat) : Nat :=
  if b.configSmp then cur else 0

-- =========================================================== the state

/-- Something the request path did: accessed `results.cpu[i]`, called a
function pointer on a cpu, read an I/O word from a cpu. -/
inductive KEvent
  | slot (i : Nat)
  | call (cpu : Nat) (fn : Option Handler)
  | readl (cpu addr : Nat)
deriving DecidableEq, Repr

/-- The structure handed to each cpu. -/
structure Co15ResultCpuWrapper where
  foundIndex : Nat := 0
  baseAddr : Nat := 0
  pcpu : U32 := 0
  results : MsDataCpu := {}
deriving DecidableEq

structure KState where
  data : Co15ResultCpuWrapper
  gUndefFlag : U32
  trace : List KEvent
deriving DecidableEq

/-- The slots after a store at index `i`. -/
def Co15ResultCpuWrapper.slot (w : Co15ResultCpuWrapper) (i : Nat)
    (f : MsData → MsData) : Co15ResultCpuWrapper :=
  { w with
    results := { w.results with
      cpu := fun j =>
        if j.val = i then f (w.results.cpu j) else w.results.cpu j } }

/-- Store into `results.cpu[i]`. -/
def KState.slot (s : KState) (i : Nat) (f : MsData → MsData) : KState :=
  { s with data := s.data.slot i f, trace := s.trace ++ [.slot i] }

/-- The verdict `set_undef_flag` reads off the flag, and the flag it
leaves. -/
def undefVerdict (gUndefFlag : U32) : U32 × U32 :=
  if gUndefFlag = 1 then (msErrorUndefinst, 0)
  else (msErrorSuccess, gUndefFlag)

/-- Test and clear the flag into a slot's status. -/
def setUndefFlag (i : Nat) (s : KState) : KState :=
  let v := undefVerdict s.gUndefFlag
  { s.slot i (fun d => { d with status := v.1 }) with gUndefFlag := v.2 }

-- ========================================================== one cpu

/-- Call a function pointer of the table. A trap enters `undef_hook`,
which sets the flag. -/
def callHandler (b : Build) (mc : Machine) (cur : Nat)
    (fn : Option Handler) (args : Args) (s : KState) : Locals × KState :=
  let s := { s with trace := s.trace ++ [.call cur fn] }
  match fn with
  | none => ({}, s)
  | some h =>
      let e := h.run b.target (mc.reg cur)
      (e.locals args, if e.trapped then { s with gUndefFlag := 1 } else s)

/-- Read the found register on the cpu this runs on. -/
def callFuncPtr (b : Build) (mc : Machine) (cur : Nat) (s : KState) :
    KState :=
  let cpuIndex := b.cpuIndex cur
  match funcTable[s.data.foundIndex]? with
  | none => s
  | some e =>
      let s := s.slot cpuIndex fun d =>
        { d with out64 := 0, out1 := 0, out2 := 0 }
      let s := s.slot cpuIndex fun d =>
        { d with cpu := .ofNat 32 cpuIndex, midr := mc.midr cur }
      let table := s.slot cpuIndex fun d =>
        { d with status := msErrorTable }
      if e.functionPrototype = functypeOut1 then
        if e.dataSize = functypeBits32 then
          let (l, s) := callHandler b mc cur e.funcPtr .one32 s
          setUndefFlag cpuIndex <|
            s.slot cpuIndex fun d => { d with out1 := l.cmdResult1 }
        else if e.dataSize = functypeBits64 then
          let (l, s) := callHandler b mc cur e.funcPtr .one64 s
          setUndefFlag cpuIndex <|
            s.slot cpuIndex fun d => { d with out64 := l.cmdResult64 }
        else if e.dataSize = functypeBitsArch then
          match b.target with
          | .aarch64 =>
              let (l, s) := callHandler b mc cur e.funcPtr .one64 s
              setUndefFlag cpuIndex <|
                s.slot cpuIndex fun d => { d with out64 := l.cmdResult64 }
          | .aarch32 =>
              let (l, s) := callHandler b mc cur e.funcPtr .one32 s
              setUndefFlag cpuIndex <|
                s.slot cpuIndex fun d => { d with out1 := l.cmdResult1 }
        else table
      else if e.functionPrototype = functypeOut2 then
        if e.dataSize = functypeBits32 then
          let (l, s) := callHandler b mc cur e.funcPtr .two32 s
          setUndefFlag cpuIndex <|
            s.slot cpuIndex fun d =>
              { d with out1 := l.cmdResult1, out2 := l.cmdResult2 }
        else if e.dataSize = functypeBitsArch then
          match b.target with
          | .aarch64 =>
              let (l, s) := callHandler b mc cur e.funcPtr .two64 s
              setUndefFlag cpuIndex <|
                s.slot cpuIndex fun d =>
                  { d with out64 := l.cmdResult64, out2 := l.cmdResult2 }
          | .aarch32 =>
              let (l, s) := callHandler b mc cur e.funcPtr .two32 s
              setUndefFlag cpuIndex <|
                s.slot cpuIndex fun d =>
                  { d with out1 := l.cmdResult1, out2 := l.cmdResult2 }
        else table
      else table

-- ========================================================= every cpu

/-- Run a function on one cpu, bringing it up first. The slot pointer is
formed, and on a cpu out of range written through, before the range is
known. -/
def cpuOnlineWrapper (b : Build) (mc : Machine)
    (threadfn : Nat → KState → KState) (cpu : Nat) (s : KState) :
    Int × KState :=
  if msMaxCpus ≤ cpu then
    (-1, s.slot cpu fun d => { d with status := msErrorSmp })
  else if b.configSmp then
    if !mc.cpuOnline cpu && !mc.cpuUp cpu then
      (-1, s.slot cpu fun d => { d with status := msErrorSmp })
    else if !mc.smpCall cpu then
      (-1, s.slot cpu fun d => { d with status := msErrorSmpSingle })
    else (0, threadfn cpu s)
  else (0, threadfn 0 s)

/-- Run a function on the cpus the request names. -/
def onEachCpuKick (b : Build) (mc : Machine)
    (funcptr : Nat → KState → KState) (s : KState) : Int × KState :=
  if s.data.pcpu = msCpuAll then
    (0, (List.range msMaxCpus).foldl
      (fun s i => (cpuOnlineWrapper b mc funcptr i s).2) s)
  else if msMaxCpus < s.data.pcpu.toNat then (-1, s)
  else (0, (cpuOnlineWrapper b mc funcptr s.data.pcpu.toNat s).2)

-- ======================================================== the request

/-- Copy the user structure into the kernel's. -/
def unpackResultWrapper (userin : MsDataCpu)
    (kernelout : Co15ResultCpuWrapper) : Co15ResultCpuWrapper :=
  { kernelout with
    pcpu := userin.pcpu
    results := { kernelout.results with
      code := userin.code
      cpu := fun i =>
        { in1 := (userin.cpu i).in1
          in2 := (userin.cpu i).in2
          out64 := (userin.cpu i).out64
          out1 := (userin.cpu i).out1
          out2 := (userin.cpu i).out2
          cpu := (userin.cpu i).cpu
          midr := (userin.cpu i).midr
          status := (userin.cpu i).status } } }

/-- Copy the kernel's slots back into the user structure. -/
def repackResultWrapper (kernelin : Co15ResultCpuWrapper)
    (userout : MsDataCpu) : MsDataCpu :=
  { userout with
    cpu := fun i =>
      { in1 := (kernelin.results.cpu i).in1
        in2 := (kernelin.results.cpu i).in2
        out64 := (kernelin.results.cpu i).out64
        out1 := (kernelin.results.cpu i).out1
        out2 := (kernelin.results.cpu i).out2
        cpu := (kernelin.results.cpu i).cpu
        midr := (kernelin.results.cpu i).midr
        status := (kernelin.results.cpu i).status } }

/-- What a request function leaves: its return value, the buffer it
worked on, the module's variables, and what it did. -/
structure Reply where
  ret : Int
  buffer : MsDataCpu
  globals : KGlobals
  trace : List KEvent
deriving DecidableEq

/-- Find the register's handler and run it on the requested cpus. -/
def callFuncReturnResults (b : Build) (mc : Machine) (g : KGlobals)
    (resultOut : MsDataCpu) : Reply :=
  match findFunctionIndex resultOut.code with
  | none => ⟨-1, resultOut, g, []⟩
  | some indexOut =>
      let localResult :=
        { unpackResultWrapper resultOut {} with foundIndex := indexOut }
      let (r, s) := onEachCpuKick b mc (callFuncPtr b mc)
        ⟨localResult, g.gUndefFlag, []⟩
      let g := { g with gUndefFlag := s.gUndefFlag }
      if r ≠ 0 then ⟨-1, resultOut, g, s.trace⟩
      else ⟨0, repackResultWrapper s.data resultOut, g, s.trace⟩

/-- Run a request on a kernel copy of the user's buffer, with the trap
flag reset, and copy the result back. -/
def callCmd (mc : Machine) (pcall : KGlobals → MsDataCpu → Reply)
    (g : KGlobals) (userBuffer : MsDataCpu) : Reply :=
  let g := { g with gUndefFlag := 0 }
  if !mc.copyFromUser then ⟨-1, userBuffer, g, []⟩
  else
    let r := pcall g userBuffer
    if r.ret ≠ 0 then { r with ret := -1, buffer := userBuffer }
    else if !mc.copyToUser then { r with ret := -1, buffer := userBuffer }
    else { r with ret := 0 }

end Maplesyrup
