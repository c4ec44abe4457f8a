/-
From requested entries to register words (lib/src/parse_breakout.c and
driver_results of lib/src/raw_results.c): which registers are read at
which level, and what every read leaves in the list of ioctl results.

What the library calls out to is a `Platform`: the device it has open
and the user-mode reader, over a state `δ` of their own.
-/
import Maplesyrup.Decode.Parse

namespace Maplesyrup

variable {δ : Type*}

/-- What the library calls out to. -/
structure Platform (δ : Type*) where
  /-- File descriptor of the device, -1 while it is not open. -/
  msFd : Int
  /-- `ioctl(ms_fd, cmd, buffer)`. -/
  ioctl : δ → U32 → MsDataCpu → Int × MsDataCpu × δ
  /-- `usermode_results(code, result)`. -/
  usermodeResults : δ → U32 → MsData → Int × MsData × δ

-- ============================================================= the driver

/-- Send a request, with all statuses reset. -/
def driverResults (P : Platform δ) (dev : δ) (cmd : U32)
    (results : MsDataCpu) : Int × MsDataCpu × δ :=
  if P.msFd = -1 then (-1, results, dev)
  else
    let results := { results with
      cpu := fun i => { results.cpu i with status := msErrorNoresult } }
    let (r, results, dev) := P.ioctl dev cmd results
    if r = -1 then (-1, results, dev) else (0, results, dev)

/-- The command a part number is read with. -/
def driverCmd (partnumber : U32) : U32 :=
  if partnumber = giccV2 then msIoctlGic
  else if partnumber = gicdV2 then msIoctlGic
  else if partnumber = gichV2 then msIoctlGic
  else if partnumber = gicvV2 then msIoctlGic
  else msIoctlCo

def breakoutAddIoctlResult (a : Alloc) (listIn : List IoctlResult)
    (registerUid : U32) (val64 : U64) (low high cpu midr status epl : U32) :
    Int × List IoctlResult × Alloc :=
  msListAdd a listIn
    { registerUid := registerUid
      val64 := val64
      low := low
      high := high
      cpu := cpu
      midr := midr
      epl := epl
      status := status }

/-- The driver loop's variables: the one buffer all requests share, the
results so far. -/
structure DriverState (δ : Type*) where
  localResult : MsDataCpu
  listOut : List IoctlResult
  alloc : Alloc
  dev : δ

/-- Record one cpu's slot. One that cannot be recorded is passed over. -/
def saveSlot (registerUid : U32) (s : DriverState δ)
    (cpuIter : Fin msMaxCpus) : DriverState δ :=
  let d := s.localResult.cpu cpuIter
  let (_, listOut, alloc) := breakoutAddIoctlResult s.alloc s.listOut
    registerUid d.out64 d.out1 d.out2 d.cpu d.midr d.status
    nsPrivilegeLevel1
  { s with listOut := listOut, alloc := alloc }

/-- Send one worklist entry's request and record all cpus' slots. -/
def callDriverStep (P : Platform δ) (s : DriverState δ)
    (ioctl : UsedIoctl) : DriverState δ :=
  let localResult := { s.localResult with
    code := ioctl.registerUid
    pcpu := ioctl.cpu
    partNumber := ioctl.partnumber }
  let (result, localResult, dev) :=
    driverResults P s.dev (driverCmd ioctl.partnumber) localResult
  let s := { s with localResult := localResult, dev := dev }
  if result ≠ 0 then s
  else (List.finRange msMaxCpus).foldl (saveSlot ioctl.registerUid) s

/-- Read the worklist's registers through the driver. -/
def breakoutCallDriver (P : Platform δ) (a : Alloc) (dev : δ)
    (listIn : List UsedIoctl) (listOut : List IoctlResult) :
    Int × DriverState δ :=
  (0, listIn.foldl (callDriverStep P) ⟨{}, listOut, a, dev⟩)

-- ============================================================== user mode

/-- The user-mode loop's variables. -/
structure UsermodeState (δ : Type*) where
  localResult : MsData
  listOut : List IoctlResult
  alloc : Alloc
  dev : δ

/-- Read one register in user mode and record it. -/
def callUsermodeStep (P : Platform δ) (s : UsermodeState δ)
    (ioctl : UsedIoctl) : UsermodeState δ :=
  let (r, d, dev) :=
    P.usermodeResults s.dev ioctl.registerUid s.localResult
  let s := { s with localResult := d, dev := dev }
  if r ≠ 0 then s
  else
    let (_, listOut, alloc) := breakoutAddIoctlResult s.alloc s.listOut
      ioctl.registerUid d.out64 d.out1 d.out2 0 0 d.status
      nsPrivilegeLevel0
    { s with listOut := listOut, alloc := alloc }

/-- Read the worklist's registers in user mode. -/
def breakoutCallUsermode (P : Platform δ) (a : Alloc) (dev : δ)
    (listIn : List UsedIoctl) (listOut : List IoctlResult) :
    Int × UsermodeState δ :=
  (0, listIn.foldl (callUsermodeStep P) ⟨{}, listOut, a, dev⟩)

-- ================================================================ sorting

def breakoutAddIoctl (a : Alloc) (list : List UsedIoctl)
    (ioctl cpu partnumber : U32) : Int × List UsedIoctl × Alloc :=
  msListAdd a list ⟨ioctl, cpu, partnumber⟩

/-- The two worklists under construction. -/
structure Worklists where
  toDriver : List UsedIoctl := []
  toUsermode : List UsedIoctl := []
  alloc : Alloc

/-- The register is on a worklist. -/
def used (list : List UsedIoctl) (registerUid : U32) : Bool :=
  list.any fun u => u.registerUid == registerUid

/-- The levels a request calls for: its row's own when it leaves them to
the row, else the ones it names. -/
def ResultsInfo.levels (r : ResultsInfo) : U32 :=
  if r.pl &&& preferredPl ≠ 0 then r.ppl else r.pl

/-- Put a requested register on the worklists of its levels, unless it
is on one. -/
def sortStep (w : Worklists) (r : ResultsInfo) : Worklists :=
  if used w.toDriver r.registerUid || used w.toUsermode r.registerUid then
    w
  else
    let w :=
      if r.levels &&& nsPrivilegeLevel0 ≠ 0 then
        let (_, toUsermode, alloc) := breakoutAddIoctl w.alloc
          w.toUsermode r.registerUid r.cpu r.partNumber
        { w with toUsermode := toUsermode, alloc := alloc }
      else w
    if r.levels &&& nsPrivilegeLevel1 ≠ 0 then
      let (_, toDriver, alloc) := breakoutAddIoctl w.alloc
        w.toDriver r.registerUid r.cpu r.partNumber
      { w with toDriver := toDriver, alloc := alloc }
    else w

/-- Read every requested register, once for each of its levels. -/
def breakoutSortIoctls (P : Platform δ) (a : Alloc) (dev : δ)
    (internalList : List ResultsInfo) (listOut : List IoctlResult) :
    Int × UsermodeState δ :=
  let w := internalList.foldl sortStep { alloc := a }
  let (_, d) := breakoutCallDriver P w.alloc dev w.toDriver listOut
  let (_, u) :=
    breakoutCallUsermode P d.alloc d.dev w.toUsermode d.listOut
  (0, u)

end Maplesyrup
