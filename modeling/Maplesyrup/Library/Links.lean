/-
The linked lists under every result (lib/src/support.c), with their
pointers, and the array they are flattened into (`flatten_results` of
lib/src/maplesyrup.c).

Elsewhere a list is the Lean list of its elements (`msListAdd`,
`flattenResults`). Here it is a head, a tail and a count, over a memory
of elements each of which is a link: any number of lists share it, and
nothing but the callers' discipline keeps them apart.

# Undefined behaviour

To read a list head before `ms_list_init`, to touch an element that is
not allocated, to write a stamp beyond its buffer, and to count an `int`
beyond its range are faults.
-/
import Maplesyrup.Library.Listing
import Maplesyrup.Library.Stack

namespace Maplesyrup

namespace Links

-- ================================================================ the memory

/-- `ms_list_head`. -/
structure MsListHead (α : Type) where
  head : Option α
  tail : Option α
  size : U32
deriving DecidableEq

/-- The list heads `ι` and the elements `α` of a program. -/
structure Store (ι α : Type) where
  /-- A head is `none` until it is initialised. -/
  lists : ι → Option (MsListHead α)
  /-- `list_element`: its `next`. -/
  next : α → Option α
  /-- The elements that are allocated. -/
  live : Finset α
  /-- What was handed to `free`, in order. -/
  freed : List α

/-- No list is initialised. -/
def start {ι α : Type} (live : Finset α) : Store ι α where
  lists := fun _ => none
  next := fun _ => none
  live := live
  freed := []

variable {ι α : Type} [DecidableEq ι] [DecidableEq α]

def Store.list (s : Store ι α) (l : ι) : Except Fault (MsListHead α) :=
  match s.lists l with
  | none => .error .uninitialised
  | some h => .ok h

def Store.setList (s : Store ι α) (l : ι) (h : MsListHead α) :
    Store ι α :=
  { s with lists := Function.update s.lists l (some h) }

/-- `e->next = q`. -/
def Store.setNext (s : Store ι α) (e : α) (q : Option α) :
    Except Fault (Store ι α) :=
  if e ∈ s.live then .ok { s with next := Function.update s.next e q }
  else .error .access

-- ============================================================ the operations

def msListInit (s : Store ι α) : Option ι → Store ι α
  | none => s
  | some l => s.setList l ⟨none, none, 0⟩

def msListAdd (s : Store ι α) (list : Option ι) (toadd : Option α) :
    Except Fault (Store ι α) :=
  match list, toadd with
  | some l, some e => do
      let h ← s.list l
      match h.head with
      | none =>
          -- new list
          let s := s.setList l ⟨some e, some e, h.size + 1⟩
          s.setNext e none
      | some _ =>
          -- existing list
          match h.tail with
          | none => .ok s
          | some t =>
              let s ← s.setNext t (some e)
              let s := s.setList l ⟨h.head, some e, h.size + 1⟩
              s.setNext e none
  | _, _ => .ok s

/-- The loop of `ms_list_free` from an element on. Every pass frees an
element that is allocated, so there are no more passes than these. -/
def freeLoop (s : Store ι α) (element : Option α) :
    Except Fault (Store ι α) :=
  match element with
  | none => .ok s
  | some e =>
      if _he : e ∈ s.live then
        freeLoop
          { s with live := s.live.erase e, freed := s.freed ++ [e] }
          (s.next e)
      else .error .access
termination_by s.live.card
decreasing_by exact Finset.card_erase_lt_of_mem _he

def msListFree (s : Store ι α) : Option ι → Except Fault (Store ι α)
  | none => .ok s
  | some l => do
      let h ← s.list l
      if h.size = 0 then .ok s
      else
        let s ← freeLoop s h.head
        .ok (s.setList l ⟨none, none, 0⟩)

/-- `calloc` of the element `e`: its link is null. -/
def calloc (s : Store ι α) (e : α) : Store ι α :=
  { s with
    next := Function.update s.next e none
    live := insert e s.live }

-- ================================================================= the array

/-- An element of a result list: its texts end inside their arrays. -/
structure Result extends BitfieldInfoPopulated where
  bitfield_fits : bitfield.length < parseMaxBitfield
  functionalGroup_fits : functionalGroup.length < parseMaxFunctional
  registerName_fits : registerName.length < parseMaxRegister
  description_fits : description.length < parseMaxDescription

/-- The passes of `flatten_results` from index `i` on, of which so many
are left; `none` where the list ends before the count. -/
def flattenLoop (heap : List BitfieldInfoHeap) (elements : α → Result)
    (s : Store ι α) (size : U32) :
    Nat → Nat → Option α → List MsBitfieldInfo →
      Except Fault (Option (List MsBitfieldInfo))
  | 0, _, _, array => .ok (some array)
  | left + 1, i, listPtr, array =>
      match listPtr with
      | none => .ok none
      | some e =>
          let x := (elements e).toBitfieldInfoPopulated
          if e ∉ s.live then .error .access
          -- `sprintf` of the stamp into `tempStamp`
          else if parseMaxStampsize ≤ (stampOf heap x).length then
            .error .access
          -- `++i`
          else if 2 ^ 31 ≤ i + 1 then .error .overflow
          else flattenLoop heap elements s size left (i + 1) (s.next e)
            (array ++ [flattenOne heap size.toNat x])

/-- Turn a list of results into an array. `flatArray` is whether there
is a pointer to store it through. -/
def flattenResults (a : Alloc) (heap : List BitfieldInfoHeap)
    (elements : α → Result) (s : Store ι α) (listin : Option ι)
    (flatArray : Bool) :
    Except Fault (Int × Option (List MsBitfieldInfo) × Alloc × Store ι α) :=
  match listin, flatArray with
  | some l, true => do
      let h ← s.list l
      if h.size = 0 then .ok (-1, none, a, s)
      else if a 0 then
        let array ← flattenLoop heap elements s h.size h.size.toNat 0
          h.head []
        match array with
        | none => .ok (-1, none, a.rest, s)
        | some array => .ok (0, some array, a.rest, s)
      else .ok (-1, none, a.rest, s)
  | _, _ => .ok (-1, none, a, s)

end Links

end Maplesyrup
