/-
The library's entry points (lib/src/maplesyrup.c, with start_test and
stop_test of lib/src/open_device.c): what a call does to the process it
is made in, and what it hands back.

# A call

The operating system's part in a call is its `Outcome`: whether the two
`sigaction` calls succeed, what `open` returns, whether `errno` is
ERANGE before the value is read, which allocations fail. The device and
the user-mode reader are the `Host`.

All results of `ms_find_by_*` and `ms_get_*` leave through one cleanup;
`msFind` and `msGet` are these bodies, and each function is one of them
with its own search key or listing.
-/
import Maplesyrup.Library.Cmd
import Maplesyrup.Library.Listing
import Maplesyrup.Library.Stack

namespace Maplesyrup

variable {δ : Type}

-- =========================================================== the process

/-- The device and the reader behind the library. -/
structure Host (δ : Type) where
  ioctl : δ → U32 → MsDataCpu → Int × MsDataCpu × δ
  usermodeResults : δ → U32 → MsData → Int × MsData × δ
  /-- `g_illsig = 0`. -/
  clearIllsig : δ → δ

/-- What the passes call out to while `ms_fd` is this. -/
def Host.platform (H : Host δ) (msFd : Int) : Platform δ :=
  ⟨msFd, H.ioctl, H.usermodeResults⟩

/-- What the operating system does in a call. -/
structure Outcome where
  /-- `sigaction` installs the handler. -/
  register : Bool := true
  /-- What `open` returns, -1 where it fails. -/
  opened : Int := 3
  /-- `sigaction` restores the saved disposition. -/
  restore : Bool := true
  /-- `errno` is ERANGE when the call is made. -/
  errnoRange : Bool := false
  alloc : Alloc := .ok

/-- The library's variables, and the host's state. -/
structure Process (δ : Type) where
  signals : Signals := {}
  msFd : Int := -1
  tables : TableGlobals := {}
  dev : δ

-- ============================================================ the device

/-- Install the handler and open the device. -/
def startTest (H : Host δ) (o : Outcome) (p : Process δ) :
    Int × Process δ :=
  let (r, signals) := registerSignalHandlers o.register p.signals
  let p := { p with signals := signals }
  if r ≠ 0 then (-1, p)
  else
    let p := { p with dev := H.clearIllsig p.dev, msFd := o.opened }
    if p.msFd = -1 then (-1, p) else (0, p)

/-- Close the device and restore the handler, if the device is open. -/
def stopTest (o : Outcome) (p : Process δ) : Process δ :=
  if p.msFd = -1 then p
  else { p with
    msFd := -1
    signals := restoreSignalHandlers o.restore p.signals }

-- ============================================================ the tables

/-- Free the heap table. Its size stays. -/
def eraseTables (g : TableGlobals) : TableGlobals :=
  { g with gBitfieldTableHeap := none }

/-- The entries a loop up to `g_bitfield_table_size` runs over. -/
def TableGlobals.heap (g : TableGlobals) :
    Except Fault (List BitfieldInfoHeap) :=
  match g.gBitfieldTableHeap with
  | none => if g.gBitfieldTableSize = 0 then .ok [] else .error .access
  | some block =>
      if g.gBitfieldTableSize ≤ block.entries.length then
        .ok (block.entries.take g.gBitfieldTableSize)
      else .error .access

-- =========================================================== the request

/-- The value of a hexadecimal digit. -/
def hexDigit (c : Char) : Option Nat :=
  if 48 ≤ c.toNat ∧ c.toNat ≤ 57 then some (c.toNat - 48)
  else if 65 ≤ c.toNat ∧ c.toNat ≤ 70 then some (c.toNat - 55)
  else if 97 ≤ c.toNat ∧ c.toNat ≤ 102 then some (c.toNat - 87)
  else none

/-- `isspace` in the C locale. -/
def isspace (c : Char) : Bool :=
  c.toNat == 32 || decide (9 ≤ c.toNat ∧ c.toNat ≤ 13)

/-- The text without its `0x`, which needs a digit behind it. -/
def skipHexPrefix : List Char → List Char
  | z :: x :: d :: cs =>
      if z.toNat = 48 ∧ (x.toNat = 120 ∨ x.toNat = 88)
          ∧ (hexDigit d).isSome then d :: cs
      else z :: x :: d :: cs
  | cs => cs

/-- The number the leading digits spell. -/
def hexNumber : List Char → Nat → Nat
  | [], n => n
  | c :: cs, n =>
      match hexDigit c with
      | none => n
      | some d => hexNumber cs (16 * n + d)

def llongMax : Int := 2 ^ 63 - 1
def llongMin : Int := -2 ^ 63

/-- `strtoll(s, NULL, 16)`, and whether it sets `errno` to ERANGE. -/
def strtollHex (s : String) : Int × Bool :=
  let text := s.toList.dropWhile isspace
  let (negative, text) :=
    match text with
    | c :: cs =>
        if c.toNat = 45 then (true, cs)
        else if c.toNat = 43 then (false, cs)
        else (false, c :: cs)
    | [] => (false, [])
  let magnitude : Int := hexNumber (skipHexPrefix text) 0
  let value := if negative then -magnitude else magnitude
  if llongMax < value then (llongMax, true)
  else if value < llongMin then (llongMin, true)
  else (value, false)

def parseMaxArchitecture : Nat := 16
def parseMaxImplementation : Nat := 16

/-- The id of an architecture's name. -/
def matchArchitecture (arch : String) : Option U32 :=
  if strncmp arch "armv7a" parseMaxArchitecture then some archArmv7a
  else if strncmp arch "armv8a" parseMaxArchitecture then some archArmv8a
  else none

/-- The id of an implementation's name. The Cortex-A9 gets the id of the
Cortex-A7. -/
def matchImplementation (impl : String) : Option U32 :=
  if strncmp impl "cortex-a7" parseMaxImplementation then
    some implCortexA7
  else if strncmp impl "cortex-a9" parseMaxImplementation then
    some implCortexA7
  else if strncmp impl "cortex-a15" parseMaxImplementation then
    some implCortexA15
  else if strncmp impl "cortex-a53" parseMaxImplementation then
    some implCortexA53
  else if strncmp impl "cortex-a57" parseMaxImplementation then
    some implCortexA57
  else if strncmp impl "all" parseMaxImplementation then some implAll
  else none

/-- The request of a call, without its key. -/
def setMatchInfo (errnoRange : Bool) (arch impl : Option String)
    (cpu : Int) (pl noparse : U32) (calcValue : Option String) :
    Option MatchInfo := do
  let arch ← arch
  let impl ← impl
  let architecture ← matchArchitecture arch
  let implementation ← matchImplementation impl
  let info : MatchInfo :=
    { pl := pl
      cpu := .ofInt 32 cpu
      noparse := noparse
      architecture := architecture
      implementation := implementation }
  match calcValue with
  | none => some { info with calcValid := 0 }
  | some s =>
      let (value, range) := strtollHex s
      some { info with
        calcValid := 1
        calcValue :=
          if range || errnoRange then .allOnes 64 else .ofInt 64 value }

-- ========================================================== the searches

/-- What a call leaves: its return value, what it stored through its
output parameter, and the process. -/
structure Returned (δ : Type) where
  ret : Int
  stored : Option (List MsBitfieldInfo)
  process : Process δ

/-- The arguments the searches share. An output parameter that is NULL
is `false`. -/
structure FindArgs where
  arch : Option String
  impl : Option String
  cpu : Int := -1
  pl : U32 := preferredPl
  noparse : U32 := 0
  includeDevices : Int := 0
  resultsOut : Bool := true

/-- The cleanup of a search. `device` is whether it stops the test. -/
def findDone (device : Bool) (o : Outcome)
    (list : StackList BitfieldInfoPopulated) (ret : Int)
    (stored : Option (List MsBitfieldInfo)) (p : Process δ) :
    Except Fault (Returned δ) := do
  let p := if device then stopTest o p else p
  let _ ← msListFree list
  .ok ⟨ret, stored, { p with tables := eraseTables p.tables }⟩

/-- The part of a search behind its request: load the tables, look, and
flatten. -/
def findRequest (H : Host δ) (tables : List BitfieldTableEntry)
    (device : Bool) (o : Outcome) (info : MatchInfo)
    (includeDevices : Int) (list : List BitfieldInfoPopulated)
    (p : Process δ) : Except Fault (Returned δ) := do
  -- a failure to expand the tables is only traced
  let (_, g, a) :=
    readTablesToMemory o.alloc tables includeDevices p.tables
  let p := { p with tables := g }
  let heap ← g.heap
  let ((r, list, a), dev) ← Stack.findBitfields (H.platform p.msFd) a
    heap p.dev (some info) (some list)
  let p := { p with dev := dev }
  if r ≠ 0 then findDone device o (some list) (-1) none p
  else
    let (r, stored, _) := flattenResults a heap list
    if r ≠ 0 then findDone device o (some list) (-1) none p
    else findDone device o (some list) 0 stored p

/-- The part of a search behind `start_test`, which returned `started`. -/
def findStarted (H : Host δ) (tables : List BitfieldTableEntry)
    (o : Outcome) (args : FindArgs) (calcValue : Option String)
    (setKey : MatchInfo → Except Fault MatchInfo) (started : Int)
    (p : Process δ) : Except Fault (Returned δ) :=
  let device := calcValue.isNone
  if started ≠ 0 then findDone device o msListInit (-1) none p
  else
    match setMatchInfo o.errnoRange args.arch args.impl args.cpu args.pl
        args.noparse calcValue with
    | none => findDone device o msListInit (-1) none p
    | some info => do
        let info ← setKey info
        findRequest H tables device o info args.includeDevices [] p

/-- The body of the searches. A supplied value takes the place of the
device. -/
def msFind (H : Host δ) (tables : List BitfieldTableEntry) (o : Outcome)
    (args : FindArgs) (calcValue : Option String)
    (setKey : MatchInfo → Except Fault MatchInfo) (p : Process δ) :
    Except Fault (Returned δ) :=
  if args.resultsOut then
    match calcValue with
    | none =>
        findStarted H tables o args calcValue setKey (startTest H o p).1
          (startTest H o p).2
    | some _ => findStarted H tables o args calcValue setKey 0 p
  else findDone calcValue.isNone o none (-1) none p

theorem msFind_value {H : Host δ} {tables : List BitfieldTableEntry}
    {o : Outcome} {args : FindArgs} {calcValue : Option String}
    {setKey : MatchInfo → Except Fault MatchInfo} {p : Process δ}
    (hout : args.resultsOut = true) (hcalc : calcValue ≠ none) :
    msFind H tables o args calcValue setKey p
      = findStarted H tables o args calcValue setKey 0 p := by
  unfold msFind
  rw [if_pos hout]
  cases calcValue with
  | none => exact absurd rfl hcalc
  | some s => rfl

theorem msFind_device {H : Host δ} {tables : List BitfieldTableEntry}
    {o : Outcome} {args : FindArgs} {calcValue : Option String}
    {setKey : MatchInfo → Except Fault MatchInfo} {p : Process δ}
    (hout : args.resultsOut = true) (hcalc : calcValue = none) :
    msFind H tables o args calcValue setKey p
      = findStarted H tables o args calcValue setKey (startTest H o p).1
          (startTest H o p).2 := by
  subst hcalc
  unfold msFind
  rw [if_pos hout]

def msFindByBitfield (H : Host δ) (tables : List BitfieldTableEntry)
    (o : Outcome) (args : FindArgs) (bitfield : U32) (p : Process δ) :
    Except Fault (Returned δ) :=
  msFind H tables o args none
    (fun info => .ok { info with uid := bitfield }) p

/-- Copy a name into the request; NULL has no characters to copy. -/
def copyName (name : Option String) (n : Nat) : Except Fault String :=
  match name with
  | none => .error .access
  | some name => .ok (strncpy name n)

def msFindByRegister (H : Host δ) (tables : List BitfieldTableEntry)
    (o : Outcome) (args : FindArgs) (regname calcValue : Option String)
    (p : Process δ) : Except Fault (Returned δ) :=
  msFind H tables o args calcValue
    (fun info => do
      let name ← copyName regname (parseMaxRegister - 1)
      .ok { info with registerName := name }) p

def msFindByGroup (H : Host δ) (tables : List BitfieldTableEntry)
    (o : Outcome) (args : FindArgs) (groupname : Option String)
    (p : Process δ) : Except Fault (Returned δ) :=
  msFind H tables o args none
    (fun info => do
      let name ← copyName groupname (parseMaxFunctional - 1)
      .ok { info with functionalGroup := name }) p

/-- What a search looks for. -/
inductive FindKey
  | bitfield (uid : U32)
  | register (regname calcValue : Option String)
  | group (groupname : Option String)

/-- The value that takes the place of the device. -/
def FindKey.calcValue : FindKey → Option String
  | .register _ calcValue => calcValue
  | _ => none

/-- Set the key in a request. -/
def FindKey.set (key : FindKey) (info : MatchInfo) :
    Except Fault MatchInfo :=
  match key with
  | .bitfield uid => .ok { info with uid := uid }
  | .register regname _ => do
      let name ← copyName regname (parseMaxRegister - 1)
      .ok { info with registerName := name }
  | .group groupname => do
      let name ← copyName groupname (parseMaxFunctional - 1)
      .ok { info with functionalGroup := name }

/-- A call of one of the searches. -/
structure FindCall where
  outcome : Outcome
  args : FindArgs
  key : FindKey

def FindCall.run (H : Host δ) (tables : List BitfieldTableEntry)
    (c : FindCall) (p : Process δ) : Except Fault (Returned δ) :=
  match c.key with
  | .bitfield uid => msFindByBitfield H tables c.outcome c.args uid p
  | .register regname calcValue =>
      msFindByRegister H tables c.outcome c.args regname calcValue p
  | .group groupname =>
      msFindByGroup H tables c.outcome c.args groupname p

theorem FindCall.run_eq (H : Host δ) (tables : List BitfieldTableEntry)
    (c : FindCall) (p : Process δ) :
    c.run H tables p
      = msFind H tables c.outcome c.args c.key.calcValue c.key.set p := by
  unfold FindCall.run
  cases c.key <;> rfl

-- ========================================================== the listings

/-- The cleanup of a listing. -/
def getDone (list : StackList BitfieldInfoPopulated) (ret : Int)
    (stored : Option (List MsBitfieldInfo)) (p : Process δ) :
    Except Fault (Returned δ) := do
  let _ ← msListFree list
  .ok ⟨ret, stored, { p with tables := eraseTables p.tables }⟩

/-- The body of the listings. -/
def msGet
    (collect : Alloc → List BitfieldInfoHeap →
      List BitfieldInfoPopulated →
      Option (Int × List BitfieldInfoPopulated × Alloc))
    (tables : List BitfieldTableEntry) (o : Outcome) (listOut : Bool)
    (includeDevices : Int) (p : Process δ) : Except Fault (Returned δ) :=
  let list : StackList BitfieldInfoPopulated := none
  if !listOut then getDone list (-1) none p
  else do
    -- a failure to expand the tables is only traced
    let (_, g, a) :=
      readTablesToMemory o.alloc tables includeDevices p.tables
    let p := { p with tables := g }
    let heap ← g.heap
    let (r, list, a) ← orFault (collect a heap [])
    if r ≠ 0 then getDone (some list) (-1) none p
    else
      let (r, stored, _) := flattenResults a heap list
      if r ≠ 0 then getDone (some list) (-1) none p
      else getDone (some list) 0 stored p

def msGetGroups (tables : List BitfieldTableEntry) (o : Outcome)
    (listOut : Bool) (includeDevices : Int) (p : Process δ) :
    Except Fault (Returned δ) :=
  msGet getGroups tables o listOut includeDevices p

def msGetRegisters (tables : List BitfieldTableEntry) (o : Outcome)
    (listOut : Bool) (includeDevices : Int) (p : Process δ) :
    Except Fault (Returned δ) :=
  msGet getRegisters tables o listOut includeDevices p

def msGetBitfields (tables : List BitfieldTableEntry) (o : Outcome)
    (listOut : Bool) (includeDevices : Int) (p : Process δ) :
    Except Fault (Returned δ) :=
  msGet getBitfields tables o listOut includeDevices p

end Maplesyrup
