/-
Reading a result (lib/src/maplesyrup.c): `ms_get_size` and the accessors,
which take one datum of one element out of the array a search stored.

The array has its length in each of its elements. An accessor tests the
index against it and reads the element: `msAccess` is this body, and each
accessor is it with its own error value and its own datum. An element
that is not in the array has no datum, and the access is `none`.
-/
import Maplesyrup.Library.Listing

namespace Maplesyrup

/-- -1 without a result. An array the library stores has an element. -/
def msGetSize : Option (List MsBitfieldInfo) → Int
  | some (x :: _) => x.arrayElements.toInt
  | _ => -1

def translateEpl (epl : U32) : Int :=
  if epl = nsPrivilegeLevel0 then 0
  else if epl = nsPrivilegeLevel1 then 1
  else if epl = nsPrivilegeLevel2 then 2
  else if epl = sPrivilegeLevel0 then 3
  else if epl = sPrivilegeLevel1 then 4
  else -1

def getErrorString (errval : U32) : String :=
  if errval = msErrorSuccess then "Success"
  else if errval = msErrorIllinst then "Illegal Instruction"
  else if errval = msErrorUndefinst then "Undefined Instruction"
  else if errval = msErrorSmp then "SMP error"
  else if errval = msErrorTable then "Error reading table"
  else if errval = msErrorSmpSingle then "Error scheduling thread"
  else "Internal error"

/-- The body of the accessors. The size, an `int`, is compared as
unsigned. -/
def msAccess {α : Type} (error : α) (datum : MsBitfieldInfo → α)
    (resultsIn : Option (List MsBitfieldInfo)) (index : U32) :
    Option α :=
  match resultsIn with
  | none => some error
  | some array =>
      if index.toNat ≤ (BitVec.ofInt 32 (msGetSize resultsIn)).toNat then
        array[index.toNat]?.map datum
      else some error

-- =========================================================== the accessors

def msGetValue (resultsIn : Option (List MsBitfieldInfo)) (index : U32) :
    Option U64 :=
  msAccess (.ofInt 64 (-1)) (·.value) resultsIn index

def msGetRegisterString (resultsIn : Option (List MsBitfieldInfo))
    (index : U32) : Option (Option String) :=
  msAccess none (some ·.registerName) resultsIn index

def msGetGroupString (resultsIn : Option (List MsBitfieldInfo))
    (index : U32) : Option (Option String) :=
  msAccess none (some ·.functionalGroup) resultsIn index

def msGetDescriptionString (resultsIn : Option (List MsBitfieldInfo))
    (index : U32) : Option (Option String) :=
  msAccess none (some ·.description) resultsIn index

def msGetPartnumberString (resultsIn : Option (List MsBitfieldInfo))
    (index : U32) : Option (Option String) :=
  msAccess none (some ·.partNumber) resultsIn index

def msGetDecodeString (resultsIn : Option (List MsBitfieldInfo))
    (index : U32) : Option (Option String) :=
  msAccess none (some ·.partNumberTable) resultsIn index

def msGetCpu (resultsIn : Option (List MsBitfieldInfo)) (index : U32) :
    Option Int :=
  msAccess (-1) (·.cpu.toInt) resultsIn index

def msGetEpl (resultsIn : Option (List MsBitfieldInfo)) (index : U32) :
    Option Int :=
  msAccess (-1) (fun x => translateEpl x.epl) resultsIn index

def msGetUid (resultsIn : Option (List MsBitfieldInfo)) (index : U32) :
    Option Int :=
  msAccess (-1) (·.uid.toInt) resultsIn index

def msGetStatus (resultsIn : Option (List MsBitfieldInfo))
    (index : U32) : Option Int :=
  msAccess (-1) (·.status.toInt) resultsIn index

def msGetStatusString (resultsIn : Option (List MsBitfieldInfo))
    (index : U32) : Option (Option String) :=
  msAccess none (fun x => some (getErrorString x.status)) resultsIn index

def msGetBitfieldString (resultsIn : Option (List MsBitfieldInfo))
    (index : U32) : Option (Option String) :=
  msAccess none (some ·.bitfield) resultsIn index

def msGetStamp (resultsIn : Option (List MsBitfieldInfo))
    (index : U32) : Option (Option String) :=
  msAccess none (some ·.stamp) resultsIn index

-- ===================================================== any one of them

/-- What an accessor returns: a register value, an `int`, or a string
that may be NULL. -/
inductive Datum
  | word (value : U64)
  | int (value : Int)
  | text (value : Option String)
deriving DecidableEq, Repr

inductive Accessor
  | value | cpu | epl | uid | status | statusString | registerString
  | groupString | descriptionString | partnumberString | decodeString
  | bitfieldString | stamp
deriving DecidableEq, Repr

/-- Call the accessor. -/
def Accessor.call (f : Accessor) (resultsIn : Option (List MsBitfieldInfo))
    (index : U32) : Option Datum :=
  match f with
  | .value => (msGetValue resultsIn index).map .word
  | .cpu => (msGetCpu resultsIn index).map .int
  | .epl => (msGetEpl resultsIn index).map .int
  | .uid => (msGetUid resultsIn index).map .int
  | .status => (msGetStatus resultsIn index).map .int
  | .statusString => (msGetStatusString resultsIn index).map .text
  | .registerString => (msGetRegisterString resultsIn index).map .text
  | .groupString => (msGetGroupString resultsIn index).map .text
  | .descriptionString =>
      (msGetDescriptionString resultsIn index).map .text
  | .partnumberString => (msGetPartnumberString resultsIn index).map .text
  | .decodeString => (msGetDecodeString resultsIn index).map .text
  | .bitfieldString => (msGetBitfieldString resultsIn index).map .text
  | .stamp => (msGetStamp resultsIn index).map .text

end Maplesyrup
