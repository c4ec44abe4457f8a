/-
The memory-mapped side of the kernel module: where the GIC interfaces
are found and mapped (module/device_tree.c), how a word of them is read
(module/gic.c), and the ioctl entry that chooses between a register and
a GIC request (module/entrypoint.c).

Addresses are naturals with 0 for NULL; a mapping lies inside the
address space, so adding an offset to it does not wrap.
-/
import Maplesyrup.Kernel.Cmd

namespace Maplesyrup

-- ========================================================= device tree

/-- An address resource of a device-tree node: start and size. -/
structure Resource where
  start : Nat
  size : Nat
deriving DecidableEq, Repr

/-- What the device tree and `ioremap` answer: the address resources of
the node compatible with a name, and the mapping (0 is NULL) the `n`-th
`ioremap` gives a physical region. -/
structure DtEnv where
  compatible : String → Option (Nat → Option Resource)
  ioremap : (n : Nat) → (phys : Nat) → (size : U32) → Nat

/-- The map under construction and the mappings made so far. -/
structure DtState where
  map : MsGicMap := {}
  mapped : List Nat := []
deriving DecidableEq, Repr

def gSupportedGic : List String :=
  ["arm,cortex-a15-gic", "arm,cortex-a7-gic", "arm,cortex-a9-gic",
    "arm,gic-400"]

/-- Record the physical regions: distributor and cpu interface are
required, the virtual interfaces optional. -/
def msFindGicDevices (env : DtEnv) (m : MsGicMap) : Int × MsGicMap :=
  match gSupportedGic.findSome? env.compatible with
  | none => (-1, m)
  | some res =>
      match res 0 with
      | none => (-1, m)
      | some r =>
          let m := { m with
            gicdPhys := r.start, gicdSize := .ofNat 32 r.size }
          match res 1 with
          | none => (-1, m)
          | some r =>
              let m := { m with
                giccPhys := r.start, giccSize := .ofNat 32 r.size }
              let m := match res 2 with
                | none => m
                | some r => { m with
                    gichPhys := r.start, gichSize := .ofNat 32 r.size }
              let m := match res 3 with
                | none => m
                | some r => { m with
                    gicvPhys := r.start, gicvSize := .ofNat 32 r.size }
              (0, m)

/-- Map the recorded regions, stopping at the first that fails. -/
def msRemapGic (env : DtEnv) (m : MsGicMap) : Int × DtState :=
  let s : DtState := { map := m }
  if m.gicdPhys = 0 then (-1, s) else
  let a := env.ioremap 0 m.gicdPhys m.gicdSize
  if a = 0 then (-1, s) else
  let s : DtState := ⟨{ s.map with gicdVirt := a }, s.mapped ++ [a]⟩
  if m.giccPhys = 0 then (-1, s) else
  let a := env.ioremap 1 m.giccPhys m.giccSize
  if a = 0 then (-1, s) else
  let s : DtState := ⟨{ s.map with giccVirt := a }, s.mapped ++ [a]⟩
  let a := env.ioremap 2 m.gichPhys m.gichSize
  if m.gichPhys ≠ 0 ∧ a = 0 then (-1, s) else
  let s : DtState :=
    if m.gichPhys = 0 then s
    else ⟨{ s.map with gichVirt := a }, s.mapped ++ [a]⟩
  let a := env.ioremap 3 m.gicvPhys m.gicvSize
  if m.gicvPhys ≠ 0 ∧ a = 0 then (-1, s) else
  let s : DtState :=
    if m.gicvPhys = 0 then s
    else ⟨{ s.map with gicvVirt := a }, s.mapped ++ [a]⟩
  (0, s)

def msPopulateGicMap (env : DtEnv) (m : MsGicMap) : Int × DtState :=
  let (r, m) := msFindGicDevices env m
  if r ≠ 0 then (-1, { map := m })
  else
    let (r, s) := msRemapGic env m
    if r ≠ 0 then (-1, s) else (0, s)

/-- Build the GIC map from a zeroed one. What was mapped before a
failure stays. -/
def msInitDtData (env : DtEnv) : Int × DtState :=
  let (r, s) := msPopulateGicMap env {}
  if r ≠ 0 then (-1, s) else (0, s)

-- ============================================================ the read

/-- Read the requested word on the cpu this runs on. -/
def gicBarRead (b : Build) (mc : Machine) (cur : Nat) (s : KState) :
    KState :=
  if s.data.baseAddr = 0 then s
  else
    let cpuIndex := b.cpuIndex cur
    let s := s.slot cpuIndex fun d =>
      { d with out64 := 0, out1 := 0, out2 := 0 }
    let s := s.slot cpuIndex fun d => { d with cpu := .ofNat 32 cpuIndex }
    let addr := s.data.baseAddr + (mscodeField s.data.results.code).toNat
    let value := mc.readl cur addr
    let s := { s with trace := s.trace ++ [KEvent.readl cur addr] }
    s.slot cpuIndex fun d =>
      { d with out1 := value, status := msErrorSuccess }

/-- The mapping the part number selects. -/
def gicBase (m : MsGicMap) (partNumber : U32) : Option Nat :=
  if partNumber = giccV2 then some m.giccVirt
  else if partNumber = gicdV2 then some m.gicdVirt
  else if partNumber = gichV2 then some m.gichVirt
  else if partNumber = gicvV2 then some m.gicvVirt
  else none

/-- Read a GIC word on the requested cpus. -/
def gicReturnResults (b : Build) (mc : Machine) (g : KGlobals)
    (resultOut : MsDataCpu) : Reply :=
  let localResult := unpackResultWrapper resultOut {}
  match gicBase g.gicMap resultOut.partNumber with
  | none => ⟨-1, resultOut, g, []⟩
  | some base =>
      let (r, s) := onEachCpuKick b mc (gicBarRead b mc)
        ⟨{ localResult with baseAddr := base }, g.gUndefFlag, []⟩
      let g := { g with gUndefFlag := s.gUndefFlag }
      if r ≠ 0 then ⟨-1, resultOut, g, s.trace⟩
      else ⟨0, repackResultWrapper s.data resultOut, g, s.trace⟩

-- =========================================================== the ioctl

/-- The ioctl entry: whatever the request function returned, the caller
sees 0. -/
def msIoctl (b : Build) (mc : Machine) (g : KGlobals) (cmd : U32)
    (arg : MsDataCpu) : Reply :=
  if cmd = msIoctlCo then
    { callCmd mc (callFuncReturnResults b mc) g arg with ret := 0 }
  else if cmd = msIoctlGic then
    { callCmd mc (gicReturnResults b mc) g arg with ret := 0 }
  else ⟨0, arg, g, []⟩

end Maplesyrup
