/-
The decode passes when their allocations succeed: each is a list
operation, and together they are a join of the ioctl results with the
requested entries. A pass is stated over any schedule whose next
allocations succeed, as many as it appends elements (`Base.Grow`), and
from there over the one in which none fails.

A decoded field is looked up twice, by register when it is cut out and
by uid when it is named. `owner` is the entry the second lookup finds;
with distinct uids it is the entry itself.
-/
import Maplesyrup.Base.Grow
import Maplesyrup.Base.Keyed
import Maplesyrup.Decode.Parse

namespace Maplesyrup

open Base

variable {heap : List BitfieldInfoHeap}

-- ============================================================= the search

/-- The request recorded for a heap entry. -/
def requestOf (info : MatchInfo) (h : BitfieldInfoHeap) : ResultsInfo where
  registerUid := h.info.registerUid
  uid := h.info.uid
  ppl := h.info.ppl
  cpu := info.cpu
  pl := info.pl
  noparse := info.noparse
  partNumber := mscodePartnumber h.info.uid
  calcValid := info.calcValid
  calcValue := info.calcValue

/-- The requests of a query. -/
def requests (heap : List BitfieldInfoHeap) (info : MatchInfo) :
    List ResultsInfo :=
  (heap.filter info.selects).map (requestOf info)

/-- No allocation fails, however far one looks. -/
theorem succeed_ok (n : Nat) : Succeed n Alloc.ok := fun _ _ => rfl

@[simp] theorem after_ok (n : Nat) : after Alloc.ok n = Alloc.ok := rfl

/-- A loop that appends what it keeps. -/
theorem foldl_keep {α β : Type*} (p : α → Bool) (f : α → β) (l : List α)
    {a : Alloc} (ha : Succeed (l.filter p).length a) (out : List β) :
    l.foldl (fun (s : List β × Alloc) x =>
        if p x then (msListAdd s.2 s.1 (f x)).2 else s) (out, a)
      = (out ++ (l.filter p).map f, after a (l.filter p).length) := by
  induction l generalizing out a with
  | nil => simp
  | cons x l ih =>
      rw [List.foldl_cons]
      rw [List.filter_cons] at ha ⊢
      cases hp : p x with
      | false =>
          rw [hp] at ha
          exact ih ha out
      | true =>
          rw [hp] at ha
          have hfirst : a 0 = true := ha 0 (Nat.succ_pos _)
          have hrest : Succeed (l.filter p).length a.rest := fun k hk =>
            ha (k + 1) (Nat.succ_lt_succ hk)
          have hadd : (msListAdd a out (f x)).2
              = (out ++ [f x], a.rest) := by
            rw [msListAdd, if_pos hfirst]
          simp only [↓reduceIte]
          rw [hadd, ih hrest (out ++ [f x]), List.map_cons,
            List.append_assoc, List.length_cons, Nat.add_comm,
            ← after_after]
          rfl

/-- The search requests the selected entries, in heap order. -/
theorem breakoutSearchTable_grows (info : MatchInfo) {a : Alloc}
    (ha : Succeed (heap.filter info.selects).length a)
    (out : List ResultsInfo) :
    breakoutSearchTable a heap info out
      = (0, out ++ requests heap info,
          after a (heap.filter info.selects).length) := by
  have hloop := foldl_keep info.selects (requestOf info) heap ha out
  unfold breakoutSearchTable
  exact congrArg (fun s => ((0 : Int), s)) hloop

theorem breakoutSearchTable_ok (heap : List BitfieldInfoHeap)
    (info : MatchInfo) (out : List ResultsInfo) :
    breakoutSearchTable .ok heap info out
      = (0, out ++ (heap.filter info.selects).map (requestOf info),
          .ok) :=
  breakoutSearchTable_grows info (succeed_ok _) out

-- ================================================================ lookups

/-- The entry a uid lookup finds. -/
def entryOf (heap : List BitfieldInfoHeap) (uid : U32) :
    Option BitfieldInfoHeap :=
  heap.find? fun h => h.info.uid == uid

/-- The entry an entry's uid finds: the first that has it. -/
def owner (heap : List BitfieldInfoHeap) (h : BitfieldInfoHeap) :
    BitfieldInfoHeap :=
  (entryOf heap h.info.uid).getD h

/-- Looking up the index and then the field is looking up the entry. -/
theorem lookup_eq {α : Type*} (heap : List BitfieldInfoHeap) (code : U32)
    (f : BitfieldInfoHeap → α) :
    ((breakoutGetIndex heap code).bind fun index => heap[index]?.map f)
      = (entryOf heap code).map f := by
  unfold breakoutGetIndex entryOf
  induction heap with
  | nil => rfl
  | cons h heap ih =>
      rw [List.findIdx?_cons, List.find?_cons]
      cases hcode : h.info.uid == code with
      | true => rfl
      | false =>
          rw [← ih]
          cases heap.findIdx? fun h => h.info.uid == code <;> rfl

/-- A uid of the heap is found: no lookup of one returns NULL. -/
theorem entryOf_owner {h : BitfieldInfoHeap} (hh : h ∈ heap) :
    entryOf heap h.info.uid = some (owner heap h) := by
  unfold owner
  cases hfind : entryOf heap h.info.uid with
  | some g => rfl
  | none =>
      have hno := List.find?_eq_none.1 hfind h hh
      exact absurd (beq_self_eq_true _) hno

/-- With distinct uids an entry is its own owner. -/
theorem owner_self (hnd : (heap.map fun h => h.info.uid).Nodup)
    {h : BitfieldInfoHeap} (hh : h ∈ heap) : owner heap h = h := by
  have hfind := entryOf_owner hh
  rw [entryOf, find?_key (fun h => h.info.uid) hnd hh] at hfind
  exact (Option.some.inj hfind).symm

-- ============================================================ one element

/-- A decoded field named after entry `o`. -/
def populated (o : BitfieldInfoHeap) (uid ioctl : U32)
    (value uvalue : U64) (cpu epl midr status : U32) :
    BitfieldInfoPopulated where
  cpu := cpu
  epl := epl
  uid := uid
  ioctl := ioctl
  midr := midr
  status := status
  bitfield := strncpy o.info.bitfield (parseMaxBitfield - 1)
  functionalGroup :=
    strncpy o.info.functionalGroup (parseMaxFunctional - 1)
  registerName := strncpy o.registerNameExpanded (parseMaxRegister - 1)
  description := strncpy o.info.description (parseMaxDescription - 1)
  value := value
  uvalue := uvalue

/-- A raw word named after entry `o`. -/
def unparsed (o : BitfieldInfoHeap) (uid ioctl : U32) (uvalue : U64)
    (cpu epl midr status : U32) : BitfieldInfoPopulated :=
  { populated o uid ioctl uvalue uvalue cpu epl midr status with
    bitfield := strncpy "Unparsed" (parseMaxBitfield - 1)
    description := strncpy "None" (parseMaxDescription - 1) }

theorem breakoutAddBitfieldResult_some {uid : U32} {o : BitfieldInfoHeap}
    (ho : entryOf heap uid = some o) {a : Alloc} (ha : a 0 = true)
    (list : List BitfieldInfoPopulated) (ioctl : U32)
    (value uvalue : U64) (cpu epl midr status : U32) :
    breakoutAddBitfieldResult a heap list uid ioctl value uvalue cpu
        epl midr status
      = some (0, list ++
          [populated o uid ioctl value uvalue cpu epl midr status],
          a.rest) := by
  have hlookup : ∀ f : BitfieldInfoHeap → String,
      ((breakoutGetIndex heap uid).bind fun i => heap[i]?.map f)
        = some (f o) := by
    intro f
    rw [lookup_eq, ho]
    rfl
  simp only [breakoutAddBitfieldResult, getDescription, getRegisterName,
    getFunctionalGroup, getBitfield, hlookup, ha, ↓reduceIte]
  rfl

theorem breakoutAddNoparseResult_some {uid : U32} {o : BitfieldInfoHeap}
    (ho : entryOf heap uid = some o) {a : Alloc} (ha : a 0 = true)
    (list : List BitfieldInfoPopulated) (ioctl : U32) (uvalue : U64)
    (cpu epl midr status : U32) :
    breakoutAddNoparseResult a heap list uid ioctl uvalue cpu epl midr
        status
      = some (0, list ++
          [unparsed o uid ioctl uvalue cpu epl midr status],
          a.rest) := by
  have hlookup : ∀ f : BitfieldInfoHeap → String,
      ((breakoutGetIndex heap uid).bind fun i => heap[i]?.map f)
        = some (f o) := by
    intro f
    rw [lookup_eq, ho]
    rfl
  simp only [breakoutAddNoparseResult, getRegisterName,
    getFunctionalGroup, hlookup, ha, ↓reduceIte]
  rfl

-- ============================================================= the passes

/-- The entries of a register. -/
def entriesOf (heap : List BitfieldInfoHeap) (registerUid : U32) :
    List BitfieldInfoHeap :=
  heap.filter fun h => h.info.registerUid == registerUid

/-- The word of an ioctl result. -/
def IoctlResult.word (x : IoctlResult) : U64 :=
  valueToLong x.val64 x.low x.high

/-- Entry `h`'s field of a word. -/
def BitfieldInfoHeap.field (h : BitfieldInfoHeap) (v : U64) : U64 :=
  breakoutApplymask v h.info.rightshift h.info.mask

/-- What the masking pass makes of an entry. -/
def masked (heap : List BitfieldInfoHeap) (x : IoctlResult)
    (h : BitfieldInfoHeap) : BitfieldInfoPopulated :=
  populated (owner heap h) h.info.uid h.info.registerUid (h.field x.word)
    x.word x.cpu x.epl x.midr x.status

/-- The masking pass over indices of the heap, one field for each. -/
theorem breakoutApplyMasksToList_some (x : IoctlResult)
    (indices : List Nat) (entries : List BitfieldInfoHeap)
    (hidx : indices.map (heap[·]?) = entries.map some) {a : Alloc}
    (ha : Succeed entries.length a) (out : List BitfieldInfoPopulated) :
    breakoutApplyMasksToList a heap x.val64 x.low x.high x.cpu x.epl
        x.midr x.status indices out
      = some (0, out ++ entries.map (masked heap x),
          after a entries.length) := by
  induction indices generalizing entries out a with
  | nil =>
      cases entries with
      | nil => simp [breakoutApplyMasksToList]
      | cons h entries => simp at hidx
  | cons i indices ih =>
      cases entries with
      | nil => simp at hidx
      | cons h entries =>
          rw [List.map_cons, List.map_cons, List.cons.injEq] at hidx
          obtain ⟨hi, hidx⟩ := hidx
          have hh : h ∈ heap := List.mem_of_getElem? hi
          have hfirst : a 0 = true := ha 0 (Nat.succ_pos _)
          have hlater : Succeed entries.length a.rest := fun k hk =>
            ha (k + 1) (Nat.succ_lt_succ hk)
          have hadd := breakoutAddBitfieldResult_some (entryOf_owner hh)
            hfirst out h.info.registerUid (h.field x.word) x.word x.cpu
            x.epl x.midr x.status
          have hrest := ih entries hidx hlater (out ++ [masked heap x h])
          rw [breakoutApplyMasksToList, hi]
          show (breakoutAddBitfieldResult _ _ _ _ _ (h.field x.word)
            x.word _ _ _ _ >>= _) = _
          rw [hadd]
          show breakoutApplyMasksToList a.rest heap _ _ _ _ _ _ _ indices
            (out ++ [masked heap x h]) = _
          rw [hrest, List.map_cons, List.append_assoc, List.length_cons,
            Nat.add_comm, ← after_after]
          rfl

/-- The indices of a register's entries. -/
def indicesOf (heap : List BitfieldInfoHeap) (registerUid : U32) :
    List Nat :=
  (heap.zipIdx.filter fun hi =>
    decide (hi.1.info.registerUid = registerUid)).map Prod.snd

theorem indicesOf_entries (heap : List BitfieldInfoHeap)
    (registerUid : U32) :
    (indicesOf heap registerUid).map (heap[·]?)
      = (entriesOf heap registerUid).map some := by
  have hkeep : entriesOf heap registerUid
      = (heap.zipIdx.filter fun hi =>
          decide (hi.1.info.registerUid = registerUid)).map Prod.fst := by
    have hmap : heap = heap.zipIdx.map Prod.fst := by simp
    unfold entriesOf
    conv_lhs => rw [hmap]
    rw [List.filter_map]
    rfl
  rw [hkeep, indicesOf, List.map_map, List.map_map]
  refine List.map_congr_left fun hi hmem => ?_
  obtain ⟨h, i⟩ := hi
  exact List.mem_zipIdx_iff_getElem?.1 (List.mem_filter.1 hmem).1

theorem indicesOf_length (heap : List BitfieldInfoHeap)
    (registerUid : U32) :
    (indicesOf heap registerUid).length
      = (entriesOf heap registerUid).length := by
  have hlen := congrArg List.length (indicesOf_entries heap registerUid)
  rwa [List.length_map, List.length_map] at hlen

theorem breakoutConstructBitfieldList_some (registerUid : U32)
    {a : Alloc} (ha : Succeed (entriesOf heap registerUid).length a) :
    breakoutConstructBitfieldList a heap registerUid []
      = (0, indicesOf heap registerUid,
          after a (entriesOf heap registerUid).length) := by
  have hlen := indicesOf_length heap registerUid
  rw [indicesOf, List.length_map] at hlen
  rw [← hlen] at ha ⊢
  have hloop := foldl_keep (fun hi : BitfieldInfoHeap × Nat =>
    decide (hi.1.info.registerUid = registerUid)) Prod.snd heap.zipIdx ha
    []
  simp only [decide_eq_true_eq, List.nil_append] at hloop
  unfold breakoutConstructBitfieldList
  exact congrArg (fun s => ((0 : Int), s)) hloop

/-- The first two passes give a register's fields, in heap order. -/
theorem maskedList_ok (heap : List BitfieldInfoHeap) (x : IoctlResult) :
    ∃ indices,
      breakoutConstructBitfieldList .ok heap x.registerUid []
          = (0, indices, .ok)
        ∧ breakoutApplyMasksToList .ok heap x.val64 x.low x.high x.cpu
            x.epl x.midr x.status indices []
          = some (0, (entriesOf heap x.registerUid).map (masked heap x),
              .ok) :=
  ⟨indicesOf heap x.registerUid,
    breakoutConstructBitfieldList_some _ (succeed_ok _),
    breakoutApplyMasksToList_some x _ _ (indicesOf_entries heap _)
      (succeed_ok _) []⟩

/-- The fields of `x` a request asks for. -/
def hits (heap : List BitfieldInfoHeap) (x : IoctlResult)
    (r : ResultsInfo) : List BitfieldInfoHeap :=
  (entriesOf heap x.registerUid).filter fun h =>
    r.uid == h.info.uid && midrMatches x.midr r.partNumber

/-- All of them, in the order of the requests. -/
def allHits (heap : List BitfieldInfoHeap) (reqs : List ResultsInfo)
    (x : IoctlResult) : List BitfieldInfoHeap :=
  reqs.flatMap (hits heap x)

/-- A filter pass is a loop over the hits: `g` is what the output list
becomes at one. -/
theorem breakoutFilterResults_ok {x : IoctlResult}
    {reqs : List ResultsInfo}
    {g : List BitfieldInfoPopulated → BitfieldInfoHeap →
      List BitfieldInfoPopulated}
    (hstep : ∀ r ∈ reqs, ∀ h ∈ heap, r.uid = h.info.uid →
      midrMatches x.midr r.partNumber = true → ∀ out,
      filterStep heap r (out, .ok) (masked heap x h)
        = some (g out h, .ok))
    (out : List BitfieldInfoPopulated) :
    breakoutFilterResults .ok heap
        ((entriesOf heap x.registerUid).map (masked heap x)) reqs out
      = some (0, (allHits heap reqs x).foldl g out, .ok) := by
  have hinner : ∀ r ∈ reqs, ∀ out,
      ((entriesOf heap x.registerUid).map (masked heap x)).foldlM
          (filterStep heap r) (out, Alloc.ok)
        = some ((hits heap x r).foldl g out, Alloc.ok) := by
    intro r hr out
    rw [List.foldlM_map, hits, List.foldl_filter]
    refine foldlM_some (fun out => (out, Alloc.ok))
      (fun out h hh => ?_) out
    have hheap : h ∈ heap := (List.mem_filter.1 hh).1
    by_cases hhit : (r.uid == h.info.uid
        && midrMatches x.midr r.partNumber) = true
    · rw [if_pos hhit]
      rw [Bool.and_eq_true, beq_iff_eq] at hhit
      exact hstep r hr h hheap hhit.1 hhit.2 out
    · rw [if_neg hhit]
      rw [Bool.and_eq_true, beq_iff_eq] at hhit
      exact if_neg hhit
  have houter : reqs.foldlM
      (fun s r => ((entriesOf heap x.registerUid).map
        (masked heap x)).foldlM (filterStep heap r) s) (out, Alloc.ok)
      = some (reqs.foldl (fun out r => (hits heap x r).foldl g out) out,
          Alloc.ok) :=
    foldlM_some (fun out => (out, Alloc.ok))
      (fun out r hr => hinner r hr out) out
  rw [breakoutFilterResults, houter, allHits, List.foldl_flatMap]
  rfl

/-- The whole run over the ioctl results. -/
theorem parseLoop_ok {reqs : List ResultsInfo}
    {g : IoctlResult → List BitfieldInfoPopulated → BitfieldInfoHeap →
      List BitfieldInfoPopulated}
    {xs : List IoctlResult}
    (hstep : ∀ x ∈ xs, ∀ r ∈ reqs, ∀ h ∈ heap, r.uid = h.info.uid →
      midrMatches x.midr r.partNumber = true → ∀ out,
      filterStep heap r (out, .ok) (masked heap x h)
        = some (g x out h, .ok))
    (result : Int) (out : List BitfieldInfoPopulated) :
    parseLoop heap reqs xs result .ok out
      = some (0,
          xs.foldl (fun out x => (allHits heap reqs x).foldl (g x) out)
            out, .ok) := by
  induction xs generalizing result out with
  | nil => rfl
  | cons x xs ih =>
      obtain ⟨indices, hindices, hmask⟩ := maskedList_ok heap x
      have hfilter := breakoutFilterResults_ok
        (hstep x (List.mem_cons_self ..)) out
      rw [parseLoop, hindices]
      show (breakoutApplyMasksToList .ok heap x.val64 x.low x.high x.cpu
        x.epl x.midr x.status indices [] >>= _) = _
      rw [hmask]
      show (breakoutFilterResults .ok heap _ reqs out >>= _) = _
      rw [hfilter]
      exact ih (fun y hy => hstep y (List.mem_cons_of_mem _ hy)) 0 _

end Maplesyrup
