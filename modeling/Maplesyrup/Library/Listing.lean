/-
What the library hands its caller: the listings of all groups, registers
and bitfields (`get_groups` and its kin of lib/src/parse_breakout.c) and
the array every result is flattened into (`flatten_results` of
lib/src/maplesyrup.c).

The strings of an array element are bounded copies. A lookup that finds
nothing leaves its buffer zeroed: the empty string.
-/
import Maplesyrup.Decode.Parse

namespace Maplesyrup

-- ========================================================= the listings

/-- Is the name in the list? The register name is looked for if there is
one, else the functional group. -/
def getFind (listin : List BitfieldInfoPopulated)
    (registerName functionalGroup : Option String) : Int :=
  let found := listin.any fun temp =>
    match registerName, functionalGroup with
    | some r, _ => strncmp r temp.registerName parseMaxRegister
    | none, some g => strncmp g temp.functionalGroup parseMaxFunctional
    | none, none => false
  if found then 1 else 0

/-- Append an element for every entry that is not skipped. -/
def addEntries (heap : List BitfieldInfoHeap)
    (skip : List BitfieldInfoPopulated → BitfieldInfoHeap → Bool) :
    List BitfieldInfoHeap → Alloc → List BitfieldInfoPopulated →
      Option (Int × List BitfieldInfoPopulated × Alloc)
  | [], a, listout => some (0, listout, a)
  | h :: hs, a, listout =>
      if skip listout h then addEntries heap skip hs a listout
      else do
        let (r, listout, a) ← breakoutAddBitfieldResult a heap listout
          h.info.uid 0 0 0 0 0 0 0
        if r ≠ 0 then some (-1, listout, a)
        else addEntries heap skip hs a listout

def getGroups (a : Alloc) (heap : List BitfieldInfoHeap)
    (listout : List BitfieldInfoPopulated) :
    Option (Int × List BitfieldInfoPopulated × Alloc) :=
  addEntries heap
    (fun l h => decide (0 < getFind l none (some h.info.functionalGroup)))
    heap a listout

def getRegisters (a : Alloc) (heap : List BitfieldInfoHeap)
    (listout : List BitfieldInfoPopulated) :
    Option (Int × List BitfieldInfoPopulated × Alloc) :=
  addEntries heap
    (fun l h => decide (0 < getFind l (some h.registerNameExpanded) none))
    heap a listout

def getBitfields (a : Alloc) (heap : List BitfieldInfoHeap)
    (listout : List BitfieldInfoPopulated) :
    Option (Int × List BitfieldInfoPopulated × Alloc) :=
  addEntries heap (fun _ _ => false) heap a listout

-- ========================================================= part numbers

def parseMaxPartnumber : Nat := 64
def parseMaxStampsize : Nat := 16

/-- The core a MIDR is of, in words. -/
def getPartnumberFromMidr (midr : U32) : String :=
  let partNumber := midrPpn midr
  if partNumber = ppnCortexA7 then
    strncpy "cortex-a7" (parseMaxPartnumber - 1)
  else if partNumber = ppnCortexA9 then
    strncpy "cortex-a9" (parseMaxPartnumber - 1)
  else if partNumber = ppnCortexA15 then
    strncpy "cortex-a15" (parseMaxPartnumber - 1)
  else if partNumber = ppnCortexA53 then
    strncpy "cortex-a53" (parseMaxPartnumber - 1)
  else if partNumber = ppnCortexA57 then
    strncpy "cortex-a57" (parseMaxPartnumber - 1)
  else ""

/-- The table a uid is of, in words. -/
def getDecodeTable (uid : U32) : String :=
  let index := mscodePartnumber uid
  if index = archArmv7a then strncpy "armv7a" (parseMaxPartnumber - 1)
  else if index = archArmv8a then
    strncpy "armv8a" (parseMaxPartnumber - 1)
  else if index = implCortexA7 then
    strncpy "cortex-a7" (parseMaxPartnumber - 1)
  else if index = implCortexA15 then
    strncpy "cortex-a15" (parseMaxPartnumber - 1)
  else if index = implCortexA53 then
    strncpy "cortex-a53" (parseMaxPartnumber - 1)
  else if index = implCortexA57 then
    strncpy "cortex-a57" (parseMaxPartnumber - 1)
  else if index = giccV2 then strncpy "gicv2" (parseMaxPartnumber - 1)
  else if index = gicdV2 then strncpy "gicv2" (parseMaxPartnumber - 1)
  else if index = gichV2 then strncpy "gicv2" (parseMaxPartnumber - 1)
  else if index = gicvV2 then strncpy "gicv2" (parseMaxPartnumber - 1)
  else strncpy "unknown" (parseMaxPartnumber - 1)

-- ============================================================ the array

/-- An element of the array the user gets. -/
structure MsBitfieldInfo where
  arrayElements : U32
  cpu : U32
  epl : U32
  uid : U32
  status : U32
  partNumber : String
  partNumberTable : String
  stamp : String
  bitfield : String
  functionalGroup : String
  registerName : String
  description : String
  value : U64
deriving DecidableEq, Repr

/-- The bits a result takes of its register; a raw word has none. -/
def stampOf (heap : List BitfieldInfoHeap) (x : BitfieldInfoPopulated) :
    String :=
  if strncmp x.bitfield "Unparsed" (parseMaxBitfield - 1) then ""
  else (getBitfieldstamp heap x.uid).getD ""

/-- The array element of a list element, in an array of `size`. -/
def flattenOne (heap : List BitfieldInfoHeap) (size : Nat)
    (x : BitfieldInfoPopulated) : MsBitfieldInfo where
  arrayElements := .ofNat 32 size
  cpu := x.cpu
  epl := x.epl
  uid := x.uid
  status := x.status
  value := x.value
  bitfield := strncpy x.bitfield (parseMaxBitfield - 1)
  functionalGroup := strncpy x.functionalGroup (parseMaxFunctional - 1)
  registerName := strncpy x.registerName (parseMaxRegister - 1)
  description := strncpy x.description (parseMaxDescription - 1)
  stamp := strncpy (stampOf heap x) (parseMaxStampsize - 1)
  partNumber :=
    strncpy (getPartnumberFromMidr x.midr) (parseMaxPartnumber - 1)
  partNumberTable :=
    strncpy (getDecodeTable x.uid) (parseMaxPartnumber - 1)

/-- Turn a list of results into an array, stored through the second
parameter; an empty list is an error. -/
def flattenResults (a : Alloc) (heap : List BitfieldInfoHeap)
    (listin : List BitfieldInfoPopulated) :
    Int × Option (List MsBitfieldInfo) × Alloc :=
  if listin.length = 0 then (-1, none, a)
  else if a 0 then
    (0, some (listin.map (flattenOne heap listin.length)), a.rest)
  else (-1, none, a.rest)

end Maplesyrup
