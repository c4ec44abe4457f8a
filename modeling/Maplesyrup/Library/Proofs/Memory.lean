/-
What a search makes of memory running out.

A search allocates at eight kinds of places (`Site`). Only two of them
stop it when they fail: the fields cut out of a word, and the array. The
others drop the element, and the search goes on without it. So a search
is whole when the first allocation to fail, if one does, is one that
stops it: the sites are those of the search without failures
(`FindCall.sites`), since up to the first failure the two runs are one.
-/
import Maplesyrup.Base.Sites
import Maplesyrup.Decode.Proofs.Value
import Maplesyrup.Library.Proofs.Stack

namespace Maplesyrup

open Base
open MsSysreg

variable {δ : Type} {P : Platform δ}

/-- Where a search allocates. -/
inductive Site
  | table
  /-- A request of the search. -/
  | request
  /-- An entry of a worklist. -/
  | worklist
  | result
  /-- The index of an entry of a register that was read. -/
  | index
  /-- A field cut out of a word. -/
  | mask
  /-- A field that was asked for. -/
  | field
  | array
deriving DecidableEq, Repr

/-- The search stops where this allocation fails. -/
def Site.stops : Site → Bool
  | .mask => true
  | .array => true
  | _ => false

-- =============================================================== the reads

/-- A worklist state with a schedule. -/
def Worklists.set (a : Alloc) (w : Worklists) : Worklists :=
  { w with alloc := a }

def Worklists.size (w : Worklists) : Nat :=
  w.toDriver.length + w.toUsermode.length

theorem sortStep_lockstep (r : ResultsInfo) :
    Lockstep Worklists.set Worklists.size fun w => sortStep w r := by
  intro w
  unfold sortStep Worklists.set Worklists.size breakoutAddIoctl msListAdd
  by_cases hused : (used w.toDriver r.registerUid
      || used w.toUsermode r.registerUid) = true
  · refine ⟨0, ?_, fun a _ => ?_⟩
    · simp only [if_pos hused, Nat.add_zero]
    · simp only [if_pos hused, after_zero]
  by_cases h0 : r.levels &&& nsPrivilegeLevel0 ≠ 0
  · by_cases h1 : r.levels &&& nsPrivilegeLevel1 ≠ 0
    · refine ⟨2, ?_, fun a ha => ?_⟩
      · simp only [if_neg hused, if_pos h0, if_pos h1, Alloc.rest,
          ↓reduceIte, List.length_append, List.length_singleton]
        omega
      · have hfirst := ha 0 (by omega)
        have hsecond : a (0 + 1) = true := ha 1 (by omega)
        simp only [if_neg hused, if_pos h0, if_pos h1, Alloc.rest,
          ↓reduceIte, hfirst, hsecond]
        rfl
    · refine ⟨1, ?_, fun a ha => ?_⟩
      · simp only [if_neg hused, if_pos h0, if_neg h1, ↓reduceIte,
          List.length_append, List.length_singleton]
        omega
      · have hfirst := ha 0 (by omega)
        simp only [if_neg hused, if_pos h0, if_neg h1, ↓reduceIte,
          hfirst]
        rfl
  · by_cases h1 : r.levels &&& nsPrivilegeLevel1 ≠ 0
    · refine ⟨1, ?_, fun a ha => ?_⟩
      · simp only [if_neg hused, if_neg h0, if_pos h1, ↓reduceIte,
          List.length_append, List.length_singleton]
        omega
      · have hfirst := ha 0 (by omega)
        simp only [if_neg hused, if_neg h0, if_pos h1, ↓reduceIte,
          hfirst]
        rfl
    · refine ⟨0, ?_, fun a _ => ?_⟩
      · simp only [if_neg hused, if_neg h0, if_neg h1, Nat.add_zero]
      · simp only [if_neg hused, if_neg h0, if_neg h1, after_zero]

def DriverState.set (a : Alloc) (s : DriverState δ) : DriverState δ :=
  { s with alloc := a }

theorem saveSlots_lockstep (registerUid : U32)
    (l : List (Fin msMaxCpus)) :
    Lockstep DriverState.set (fun s : DriverState δ => s.listOut.length)
      fun s => l.foldl (saveSlot registerUid) s := by
  refine Lockstep.foldl l (fun _ _ _ => rfl) (fun _ _ => rfl)
    fun c _ s => ⟨1, ?_, fun a ha => ?_⟩
  · simp [saveSlot, breakoutAddIoctlResult, msListAdd, DriverState.set]
  · have hfirst := ha 0 (by omega)
    simp [saveSlot, breakoutAddIoctlResult, msListAdd, DriverState.set,
      hfirst]
    rfl

theorem callDriverStep_lockstep (u : UsedIoctl) :
    Lockstep DriverState.set (fun s : DriverState δ => s.listOut.length)
      fun s => callDriverStep P s u := by
  intro s
  obtain ⟨n, hsize, hn⟩ := saveSlots_lockstep u.registerUid
    (List.finRange msMaxCpus)
    { s with
      localResult := (driverResults P s.dev (driverCmd u.partnumber)
        { s.localResult with
          code := u.registerUid
          pcpu := u.cpu
          partNumber := u.partnumber }).2.1
      dev := (driverResults P s.dev (driverCmd u.partnumber)
        { s.localResult with
          code := u.registerUid
          pcpu := u.cpu
          partNumber := u.partnumber }).2.2 }
  by_cases hr : (driverResults P s.dev (driverCmd u.partnumber)
      { s.localResult with
        code := u.registerUid
        pcpu := u.cpu
        partNumber := u.partnumber }).1 = 0
  · refine ⟨n, ?_, fun a ha => ?_⟩
    · simpa [callDriverStep, DriverState.set, hr] using hsize
    · simpa [callDriverStep, DriverState.set, hr] using hn a ha
  · refine ⟨0, ?_, fun a _ => ?_⟩
    · simp [callDriverStep, DriverState.set, hr]
    · simp [callDriverStep, DriverState.set, hr]

def UsermodeState.set (a : Alloc) (s : UsermodeState δ) :
    UsermodeState δ :=
  { s with alloc := a }

theorem callUsermodeStep_lockstep (u : UsedIoctl) :
    Lockstep UsermodeState.set
      (fun s : UsermodeState δ => s.listOut.length)
      fun s => callUsermodeStep P s u := by
  intro s
  by_cases hr : (P.usermodeResults s.dev u.registerUid
      s.localResult).1 = 0
  · refine ⟨1, ?_, fun a ha => ?_⟩
    · simp [callUsermodeStep, UsermodeState.set, hr,
        breakoutAddIoctlResult, msListAdd]
    · have hfirst := ha 0 (by omega)
      simp [callUsermodeStep, UsermodeState.set, hr,
        breakoutAddIoctlResult, msListAdd, hfirst]
      rfl
  · refine ⟨0, ?_, fun a _ => ?_⟩
    · simp [callUsermodeStep, UsermodeState.set, hr]
    · simp [callUsermodeStep, UsermodeState.set, hr]

/-- The worklists of a search, when there is memory. -/
def worklists (reqs : List ResultsInfo) : Worklists :=
  reqs.foldl sortStep { alloc := .ok }

/-- What it reads. -/
def readState (P : Platform δ) (dev : δ) (reqs : List ResultsInfo) :
    UsermodeState δ :=
  (breakoutSortIoctls P .ok dev reqs []).2

/-- The allocations of the reads. -/
def readSites (P : Platform δ) (dev : δ) (reqs : List ResultsInfo) :
    List Site :=
  List.replicate (worklists reqs).size .worklist
    ++ List.replicate (readState P dev reqs).listOut.length .result

theorem worklists_goes (reqs : List ResultsInfo) {a : Alloc}
    (ha : Succeed (worklists reqs).size a) :
    reqs.foldl sortStep { alloc := a }
      = (worklists reqs).set (after a (worklists reqs).size) := by
  have hloop : Lockstep Worklists.set Worklists.size
      fun w => reqs.foldl sortStep w :=
    Lockstep.foldl reqs (fun _ _ _ => rfl) (fun _ _ => rfl)
      fun r _ => sortStep_lockstep r
  obtain ⟨n, hsize, hn⟩ := hloop { alloc := .ok }
  have hlen : (worklists reqs).size = n :=
    hsize.trans (Nat.zero_add n)
  rw [hlen] at ha ⊢
  exact hn a ha

theorem driver_goes (P : Platform δ) (dev : δ) (l : List UsedIoctl) :
    let d := l.foldl (callDriverStep P) ⟨{}, [], .ok, dev⟩
    ∀ a, Succeed d.listOut.length a →
      l.foldl (callDriverStep P) ⟨{}, [], a, dev⟩
        = d.set (after a d.listOut.length) := by
  have hloop : Lockstep DriverState.set
      (fun s : DriverState δ => s.listOut.length)
      fun s => l.foldl (callDriverStep P) s :=
    Lockstep.foldl l (fun _ _ _ => rfl) (fun _ _ => rfl)
      fun u _ => callDriverStep_lockstep u
  obtain ⟨n, hsize, hn⟩ := hloop ⟨{}, [], .ok, dev⟩
  intro d
  have hlen : d.listOut.length = n := hsize.trans (Nat.zero_add n)
  rw [hlen]
  exact hn

theorem usermode_goes (P : Platform δ) (dev : δ) (l : List UsedIoctl)
    (out : List IoctlResult) :
    let u := l.foldl (callUsermodeStep P) ⟨{}, out, .ok, dev⟩
    ∃ n, u.listOut.length = out.length + n ∧ ∀ a, Succeed n a →
      l.foldl (callUsermodeStep P) ⟨{}, out, a, dev⟩
        = u.set (after a n) := by
  have hloop : Lockstep UsermodeState.set
      (fun s : UsermodeState δ => s.listOut.length)
      fun s => l.foldl (callUsermodeStep P) s :=
    Lockstep.foldl l (fun _ _ _ => rfl) (fun _ _ => rfl)
      fun u _ => callUsermodeStep_lockstep u
  exact hloop ⟨{}, out, .ok, dev⟩

/-- With memory for their results, the reads are those that have it. -/
theorem breakoutSortIoctls_goes (P : Platform δ) (dev : δ)
    (reqs : List ResultsInfo) {a : Alloc}
    (ha : Succeed (readSites P dev reqs).length a) :
    breakoutSortIoctls P a dev reqs []
      = (0, (readState P dev reqs).set
          (after a (readSites P dev reqs).length)) := by
  let w := worklists reqs
  let d := w.toDriver.foldl (callDriverStep P) ⟨{}, [], .ok, dev⟩
  let u := w.toUsermode.foldl (callUsermodeStep P)
    ⟨{}, d.listOut, .ok, d.dev⟩
  obtain ⟨n, hn, husermode⟩ := usermode_goes P d.dev w.toUsermode
    d.listOut
  have hdriver := driver_goes P dev w.toDriver
  have hrun : ∀ b, Succeed (w.size + (d.listOut.length + n)) b →
      (breakoutSortIoctls P b dev reqs []).2
        = u.set (after b (w.size + (d.listOut.length + n))) := by
    intro b hb
    have hlater : Succeed (d.listOut.length + n) (after b w.size) :=
      hb.after
    have hdriven : w.toDriver.foldl (callDriverStep P)
        ⟨{}, [], after b w.size, dev⟩
        = d.set (after (after b w.size) d.listOut.length) :=
      hdriver _ (hlater.mono (Nat.le_add_right _ _))
    have hread : w.toUsermode.foldl (callUsermodeStep P)
        ⟨{}, d.listOut, after (after b w.size) d.listOut.length, d.dev⟩
        = u.set (after (after (after b w.size) d.listOut.length) n) :=
      husermode _ hlater.after
    show List.foldl (callUsermodeStep P) _
      (reqs.foldl sortStep { alloc := b }).toUsermode = _
    rw [worklists_goes reqs (hb.mono (Nat.le_add_right _ _))]
    show List.foldl (callUsermodeStep P)
      ⟨{}, (w.toDriver.foldl (callDriverStep P)
          ⟨{}, [], after b w.size, dev⟩).listOut,
        (w.toDriver.foldl (callDriverStep P)
          ⟨{}, [], after b w.size, dev⟩).alloc,
        (w.toDriver.foldl (callDriverStep P)
          ⟨{}, [], after b w.size, dev⟩).dev⟩ w.toUsermode = _
    rw [hdriven]
    show List.foldl (callUsermodeStep P)
      ⟨{}, d.listOut, after (after b w.size) d.listOut.length, d.dev⟩
      w.toUsermode = _
    rw [hread, after_after, after_after]
  have hstate : readState P dev reqs = u.set .ok :=
    hrun Alloc.ok (succeed_ok _)
  have hlen : (readSites P dev reqs).length
      = w.size + (d.listOut.length + n) := by
    rw [readSites, List.length_append, List.length_replicate,
      List.length_replicate, hstate]
    exact congrArg (w.size + ·) hn
  rw [hlen] at ha ⊢
  rw [hstate]
  exact congrArg (fun s => ((0 : Int), s)) (hrun a ha)

-- ============================================================== the decoding

/-- A search's return value, and what it stored. -/
abbrev Answer := Int × Option (List MsBitfieldInfo)

/-- The answer of a search that has its list. -/
def answerOf (heap : List BitfieldInfoHeap) : Stack.Parsed → Answer
  | (r, list, a) =>
      if r ≠ 0 then (-1, none)
      else
        let (r, stored, _) := flattenResults a heap list
        if r ≠ 0 then (-1, none) else (0, stored)

def GaveUp (x : Except Fault Answer) : Prop := x = .ok (-1, none)

/-- How a search ends for which there is memory. -/
inductive Ended : Except Fault Answer → Prop
  | gaveUp : Ended (.ok (-1, none))
  | found (l : List MsBitfieldInfo) : Ended (.ok (0, some l))
  | fault : Ended (.error .uninitialised)

/-- The masking pass stops at an allocation that fails. -/
theorem breakoutApplyMasksToList_fails {heap : List BitfieldInfoHeap}
    (x : IoctlResult) (indices : List Nat)
    (entries : List BitfieldInfoHeap)
    (hidx : indices.map (heap[·]?) = entries.map some) {a : Alloc}
    {n : Nat} (ha : FailsAt n a) (hn : n < entries.length)
    (out : List BitfieldInfoPopulated) :
    ∃ out' a', breakoutApplyMasksToList a heap x.val64 x.low x.high x.cpu
        x.epl x.midr x.status indices out = some (-1, out', a') := by
  induction indices generalizing entries out a n with
  | nil =>
      cases entries with
      | nil => simp at hn
      | cons h entries => simp at hidx
  | cons i indices ih =>
      cases entries with
      | nil => simp at hn
      | cons h entries =>
          rw [List.map_cons, List.map_cons, List.cons.injEq] at hidx
          obtain ⟨hi, hidx⟩ := hidx
          have hh : h ∈ heap := List.mem_of_getElem? hi
          rw [breakoutApplyMasksToList, hi]
          show ∃ out' a', (breakoutAddBitfieldResult _ _ _ _ _
            (h.field x.word) x.word _ _ _ _ >>= _) = some (-1, out', a')
          cases n with
          | zero =>
              refine ⟨out, a.rest, ?_⟩
              rw [breakoutAddBitfieldResult, ha.2]
              rfl
          | succ n =>
              rw [breakoutAddBitfieldResult_some (entryOf_owner hh)
                (ha.1 0 (Nat.succ_pos n))]
              have hlater : FailsAt n a.rest :=
                FailsAt.after (by rwa [Nat.add_comm])
              exact ih entries hidx hlater (Nat.lt_of_succ_lt_succ hn) _

/-- The output list after the filter pass over a result. -/
def filtered (heap : List BitfieldInfoHeap) (reqs : List ResultsInfo)
    (x : IoctlResult) (out : List BitfieldInfoPopulated) :
    List BitfieldInfoPopulated :=
  match breakoutFilterResults .ok heap
      ((entriesOf heap x.registerUid).map (masked heap x)) reqs out with
  | none => out
  | some (_, out', _) => out'

/-- The allocations from the loop over the results on. -/
def decodeSites (heap : List BitfieldInfoHeap)
    (reqs : List ResultsInfo) :
    List IoctlResult → List BitfieldInfoPopulated → List Site
  | [], out => if out.length = 0 then [] else [.array]
  | x :: xs, out =>
      let fields := (entriesOf heap x.registerUid).length
      let out' := filtered heap reqs x out
      List.replicate fields .index
        ++ (List.replicate fields .mask
          ++ (List.replicate (out'.length - out.length) .field
            ++ decodeSites heap reqs xs out'))

/-- Decode and flatten: the search behind its reads. -/
def decodeAnswer (heap : List BitfieldInfoHeap) (reqs : List ResultsInfo)
    (xs : List IoctlResult) (result : Int)
    (out : List BitfieldInfoPopulated) (a : Alloc) :
    Except Fault Answer :=
  orFault (parseLoop heap reqs xs result a out) >>=
    fun r => .ok (answerOf heap r)

variable {heap : List BitfieldInfoHeap} {reqs : List ResultsInfo}

theorem decodeAnswer_nil (result : Int)
    (out : List BitfieldInfoPopulated) :
    ∃ t, Ended t ∧ Makes Site.stops GaveUp
      (decodeAnswer heap reqs [] result out)
      (decodeSites heap reqs [] out) fun _ => t := by
  by_cases hout : out.length = 0
  · refine ⟨.ok (-1, none), .gaveUp, ?_⟩
    rw [decodeSites, if_pos hout]
    refine Makes.nothing fun a => ?_
    rw [decodeAnswer, parseLoop, orFault_some, ok_bind, answerOf,
      flattenResults, if_pos hout]
    rfl
  · refine ⟨.ok (0, some (out.map (flattenOne heap out.length))),
      .found _, ?_⟩
    rw [decodeSites, if_neg hout]
    refine Makes.stopping Site.array (n := 1) (fun a ha => ?_)
      fun a k ha hk => ?_
    · rw [decodeAnswer, parseLoop, orFault_some, ok_bind, answerOf,
        flattenResults, if_neg hout, ha 0 Nat.one_pos]
      rfl
    · obtain rfl := Nat.lt_one_iff.1 hk
      rw [GaveUp, decodeAnswer, parseLoop, orFault_some, ok_bind,
        answerOf, flattenResults, if_neg hout, ha.2]
      rfl

theorem filtered_grows (heap : List BitfieldInfoHeap)
    (reqs : List ResultsInfo) (x : IoctlResult)
    (out : List BitfieldInfoPopulated) :
    let fields := (entriesOf heap x.registerUid).map (masked heap x)
    let out' := filtered heap reqs x out
    ∀ a, Succeed (out'.length - out.length) a →
      breakoutFilterResults a heap fields reqs out
        = some (0, out', after a (out'.length - out.length)) := by
  obtain ⟨ys, hys⟩ := breakoutFilterResults_grows heap reqs x out
  have hout : filtered heap reqs x out = out ++ ys := by
    rw [filtered, hys Alloc.ok (succeed_ok _)]
  have hlen : (out ++ ys).length - out.length = ys.length := by simp
  intro fields out'
  rw [show out' = out ++ ys from hout, hlen]
  exact hys

/-- Decode and flatten, from the filter pass over result `x` on. -/
def decodeFromFilter (heap : List BitfieldInfoHeap)
    (reqs : List ResultsInfo) (x : IoctlResult) (xs : List IoctlResult)
    (out : List BitfieldInfoPopulated) (a : Alloc) :
    Except Fault Answer :=
  orFault (breakoutFilterResults a heap
    ((entriesOf heap x.registerUid).map (masked heap x)) reqs out
    >>= fun (r, out', a) =>
      if r ≠ 0 then some (0, out', a)
      else parseLoop heap reqs xs 0 a out') >>=
    fun r => .ok (answerOf heap r)

/-- From the masking pass on. -/
def decodeFromMask (heap : List BitfieldInfoHeap)
    (reqs : List ResultsInfo) (x : IoctlResult) (xs : List IoctlResult)
    (out : List BitfieldInfoPopulated) (a : Alloc) :
    Except Fault Answer :=
  orFault (breakoutApplyMasksToList a heap x.val64 x.low x.high
    x.cpu x.epl x.midr x.status (indicesOf heap x.registerUid) []
    >>= fun (result, masked, a) =>
      if result ≠ 0 then some (result, out, a)
      else breakoutFilterResults a heap masked reqs out
        >>= fun (r, out', a) =>
          if r ≠ 0 then some (result, out', a)
          else parseLoop heap reqs xs result a out') >>=
    fun r => .ok (answerOf heap r)

/-- The search behind its reads makes these allocations, and ends. -/
theorem decodeAnswer_makes (heap : List BitfieldInfoHeap)
    (reqs : List ResultsInfo) (xs : List IoctlResult) (result : Int)
    (out : List BitfieldInfoPopulated) :
    ∃ t, Ended t ∧ Makes Site.stops GaveUp
      (decodeAnswer heap reqs xs result out)
      (decodeSites heap reqs xs out) fun _ => t := by
  induction xs generalizing result out with
  | nil => exact decodeAnswer_nil result out
  | cons x xs ih =>
      obtain ⟨t, hended, hrest⟩ := ih 0 (filtered heap reqs x out)
      have hidx := indicesOf_entries heap x.registerUid
      refine ⟨t, hended, ?_⟩
      rw [decodeSites]
      refine Makes.trans (g := decodeFromMask heap reqs x xs out) ?_
        (Makes.trans (g := decodeFromFilter heap reqs x xs out) ?_
          (Makes.trans ?_ hrest))
      · refine Makes.ignoring (by simp [Site.stops]) fun a ha => ?_
        rw [List.length_replicate] at ha ⊢
        rw [decodeAnswer, parseLoop,
          breakoutConstructBitfieldList_some x.registerUid ha]
        rfl
      · refine Makes.stopping Site.mask (fun a ha => ?_)
          fun a n ha hn => ?_
        · show (orFault (_ >>= _) >>= _) = _
          rw [breakoutApplyMasksToList_some x _ _ hidx ha]
          rfl
        · obtain ⟨out', a', hfails⟩ :=
            breakoutApplyMasksToList_fails x _ _ hidx ha hn []
          show (orFault (_ >>= _) >>= _) = _
          rw [hfails]
          rfl
      · refine Makes.ignoring (by simp [Site.stops]) fun a ha => ?_
        rw [List.length_replicate] at ha ⊢
        show (orFault (_ >>= _) >>= _) = _
        rw [filtered_grows heap reqs x out a ha]
        rfl

-- ============================================================== the search

/-- The answer to requests that are read. -/
def readAnswer (P : Platform δ) (heap : List BitfieldInfoHeap) (dev : δ)
    (reqs : List ResultsInfo) (a : Alloc) : Except Fault Answer :=
  Stack.breakoutSortIoctls P a dev (some reqs) (some []) >>=
    fun (_, ioctls, a, _) =>
      Stack.breakoutParseResults a heap (some ioctls) (some reqs)
        (some []) >>= fun r => .ok (answerOf heap r)

theorem readAnswer_makes (P : Platform δ) (heap : List BitfieldInfoHeap)
    (dev : δ) (reqs : List ResultsInfo) :
    ∃ t, Ended t ∧ Makes Site.stops GaveUp (readAnswer P heap dev reqs)
      (readSites P dev reqs
        ++ decodeSites heap reqs (readState P dev reqs).listOut [])
      fun _ => t := by
  let xs := (readState P dev reqs).listOut
  have hreads : Makes Site.stops GaveUp (readAnswer P heap dev reqs)
      (readSites P dev reqs)
      fun a => Stack.breakoutParseResults a heap (some xs) (some reqs)
        (some []) >>= fun r => .ok (answerOf heap r) := by
    refine Makes.ignoring (fun s hs => ?_) fun a ha => ?_
    · rcases List.mem_append.1 hs with hs | hs
      · rw [(List.mem_replicate.1 hs).2]
        rfl
      · rw [(List.mem_replicate.1 hs).2]
        rfl
    · rw [readAnswer, Stack.breakoutSortIoctls_eq,
        breakoutSortIoctls_goes P dev reqs ha]
      rfl
  by_cases hxs : xs = []
  · refine ⟨.error .uninitialised, .fault, ?_⟩
    rw [show (readState P dev reqs).listOut = [] from hxs]
    refine hreads.trans (Makes.nothing fun a => ?_)
    rw [hxs]
    rfl
  · obtain ⟨t, hended, hdecode⟩ :=
      decodeAnswer_makes heap reqs xs (-1) []
    have hparse : (fun a => Stack.breakoutParseResults a heap (some xs)
        (some reqs) (some []) >>= fun r => .ok (answerOf heap r))
        = decodeAnswer heap reqs xs (-1) [] := by
      funext a
      rw [Stack.breakoutParseResults_eq a heap hxs]
      obtain ⟨x, xs', hcons⟩ := List.exists_cons_of_ne_nil hxs
      rw [hcons]
      rfl
    rw [hparse] at hreads
    exact ⟨t, hended, hreads.trans hdecode⟩

/-- The answer to requests that carry a value. -/
def valueAnswer (heap : List BitfieldInfoHeap) (reqs : List ResultsInfo)
    (a : Alloc) : Except Fault Answer :=
  orFault (breakoutParseResultsValue a heap reqs []) >>=
    fun r => .ok (answerOf heap r)

/-- The allocations of a value's decoding: those of one result. -/
def valueSites (heap : List BitfieldInfoHeap) (reqs : List ResultsInfo) :
    List Site :=
  match breakoutValueValidate reqs with
  | none => []
  | some (registerUid, v) =>
      decodeSites heap reqs [readOf registerUid v 0 0] []

theorem valueAnswer_makes (heap : List BitfieldInfoHeap)
    (reqs : List ResultsInfo) :
    ∃ t, Ended t ∧ Makes Site.stops GaveUp (valueAnswer heap reqs)
      (valueSites heap reqs) fun _ => t := by
  unfold valueSites
  cases hvalid : breakoutValueValidate reqs with
  | none =>
      refine ⟨.ok (-1, none), .gaveUp, Makes.nothing fun a => ?_⟩
      rw [valueAnswer, breakoutParseResultsValue, hvalid]
      rfl
  | some rv =>
      obtain ⟨registerUid, v⟩ := rv
      obtain ⟨t, hended, hdecode⟩ := decodeAnswer_makes heap reqs
        [readOf registerUid v 0 0] (-1) []
      have hparse : valueAnswer heap reqs
          = decodeAnswer heap reqs [readOf registerUid v 0 0] (-1) [] := by
        funext a
        rw [valueAnswer, parseResultsValue_eq heap hvalid
          (valueToLong_wide v) a []]
        rfl
      rw [hparse]
      exact ⟨t, hended, hdecode⟩

/-- The allocations of a search that has its tables. -/
def searchSites (P : Platform δ) (heap : List BitfieldInfoHeap) (dev : δ)
    (info : MatchInfo) : List Site :=
  let reqs := requests heap info
  List.replicate reqs.length .request
    ++ if info.calcValid = 0 then
        readSites P dev reqs
          ++ decodeSites heap reqs (readState P dev reqs).listOut []
      else valueSites heap reqs

/-- Its answer. -/
def searchAnswer (P : Platform δ) (heap : List BitfieldInfoHeap)
    (dev : δ) (info : MatchInfo) (a : Alloc) : Except Fault Answer :=
  Stack.findBitfields P a heap dev (some info) (some []) >>=
    fun r => .ok (answerOf heap r.1)

theorem searchAnswer_eq (P : Platform δ) (heap : List BitfieldInfoHeap)
    (dev : δ) (info : MatchInfo) (a : Alloc) :
    searchAnswer P heap dev info a
      = (let (_, reqs, a) := breakoutSearchTable a heap info []
        if info.calcValid = 0 then readAnswer P heap dev reqs a
        else valueAnswer heap reqs a) := by
  obtain ⟨reqs, a', hsearch⟩ : ∃ reqs a',
      breakoutSearchTable a heap info [] = (0, reqs, a') := ⟨_, _, rfl⟩
  simp only [searchAnswer, Stack.findBitfields, hsearch]
  by_cases hcalc : info.calcValid = 0
  · simp only [hcalc, readAnswer, Stack.breakoutSortIoctls_eq, ok_bind,
      msListInit, ↓reduceIte, ne_eq, not_true_eq_false]
    cases Stack.breakoutParseResults _ heap _ (some reqs) (some []) with
    | error e => rfl
    | ok r => by_cases hr : r.1 = 0 <;> simp [hr, answerOf]
  · simp only [hcalc, valueAnswer, Stack.breakoutParseResultsValue_eq,
      msListInit, ↓reduceIte, ne_eq, not_true_eq_false]
    cases breakoutParseResultsValue a' heap reqs [] with
    | none => rfl
    | some r => by_cases hr : r.1 = 0 <;> simp [hr, answerOf]

theorem searchAnswer_makes (P : Platform δ)
    (heap : List BitfieldInfoHeap) (dev : δ) (info : MatchInfo) :
    ∃ t, Ended t ∧ Makes Site.stops GaveUp (searchAnswer P heap dev info)
      (searchSites P heap dev info) fun _ => t := by
  have hrequests : ∀ a, Succeed (requests heap info).length a →
      breakoutSearchTable a heap info []
        = (0, requests heap info,
            after a (requests heap info).length) := by
    intro a ha
    have hlen : (requests heap info).length
        = (heap.filter info.selects).length := List.length_map ..
    rw [hlen] at ha ⊢
    exact breakoutSearchTable_grows info ha []
  unfold searchSites
  by_cases hcalc : info.calcValid = 0
  · obtain ⟨t, hended, hread⟩ :=
      readAnswer_makes P heap dev (requests heap info)
    refine ⟨t, hended, ?_⟩
    dsimp only
    rw [if_pos hcalc]
    refine Makes.trans (Makes.ignoring (by simp [Site.stops])
      fun a ha => ?_) hread
    rw [List.length_replicate] at ha ⊢
    rw [searchAnswer_eq, hrequests a ha]
    exact if_pos hcalc
  · obtain ⟨t, hended, hvalue⟩ :=
      valueAnswer_makes heap (requests heap info)
    refine ⟨t, hended, ?_⟩
    dsimp only
    rw [if_neg hcalc]
    refine Makes.trans (Makes.ignoring (by simp [Site.stops])
      fun a ha => ?_) hvalue
    rw [List.length_replicate] at ha ⊢
    rw [searchAnswer_eq, hrequests a ha]
    exact if_neg hcalc

-- ================================================================ the calls

def FindCall.withAlloc (c : FindCall) (a : Alloc) : FindCall :=
  { c with outcome := { c.outcome with alloc := a } }

@[simp] theorem FindCall.withAlloc_args (c : FindCall) (a : Alloc) :
    (c.withAlloc a).args = c.args := rfl

@[simp] theorem FindCall.withAlloc_key (c : FindCall) (a : Alloc) :
    (c.withAlloc a).key = c.key := rfl

/-- What a call comes to: its answer, without the process. -/
def FindCall.answer (H : Host δ) (tables : List BitfieldTableEntry)
    (c : FindCall) (p : Process δ) (a : Alloc) : Except Fault Answer :=
  (c.withAlloc a).run H tables p >>= fun r => .ok (r.ret, r.stored)

/-- What the start of the test gives, where there is one. -/
def FindCall.started (H : Host δ) (c : FindCall) (p : Process δ) :
    Int × Process δ :=
  if c.key.calcValue = none then startTest H c.outcome p else (0, p)

/-- The allocations of a call: those of its search, if it gets there. -/
def FindCall.sites (H : Host δ) (tables : List BitfieldTableEntry)
    (c : FindCall) (p : Process δ) : List Site :=
  let (r, p) := c.started H p
  if c.args.resultsOut = true ∧ r = 0 then
    match c.request with
    | none => []
    | some info =>
        .table :: searchSites (H.platform p.msFd)
          (expanded (included c.args.includeDevices tables)) p.dev info
  else []

/-- The name a call looks for is not NULL, if the call gets to it. -/
def FindCall.NameSet (H : Host δ) (c : FindCall) (p : Process δ) : Prop :=
  (c.started H p).1 = 0 →
    ∀ info, setMatchInfo c.outcome.errnoRange c.args.arch c.args.impl
        c.args.cpu c.args.pl c.args.noparse c.key.calcValue = some info →
      ∃ info', c.key.set info = .ok info'

theorem FindKey.set_error {key : FindKey} {info : MatchInfo}
    (h : ¬ ∃ info', key.set info = .ok info') :
    key.set info = .error .access := by
  cases hkey : key.set info with
  | ok info' => exact absurd ⟨info', hkey⟩ h
  | error e => rw [FindKey.set_access hkey]

/-- Where a cleanup has its list, it hands on the answer. -/
theorem findDone_answer (device : Bool) (o : Outcome)
    (list : List BitfieldInfoPopulated) (ret : Int)
    (stored : Option (List MsBitfieldInfo)) (p : Process δ) :
    (findDone device o (some list) ret stored p >>= fun r =>
        (.ok (r.ret, r.stored) : Except Fault Answer))
      = .ok (ret, stored) := rfl

theorem findRequest_answer (H : Host δ)
    (tables : List BitfieldTableEntry) (device : Bool) (o : Outcome)
    (info : MatchInfo) (includeDevices : Int) (p : Process δ) :
    (findRequest H tables device o info includeDevices [] p >>= fun r =>
        (.ok (r.ret, r.stored) : Except Fault Answer))
      = (let (heap, a) := loadTables tables o includeDevices p
        heap >>= fun heap =>
          searchAnswer (H.platform p.msFd) heap p.dev info a) := by
  unfold findRequest loadTables
  obtain ⟨r, g, a⟩ := readTablesToMemory o.alloc tables includeDevices
    p.tables
  dsimp only
  cases g.heap with
  | error e => rfl
  | ok heap =>
      rw [ok_bind, ok_bind, searchAnswer]
      cases Stack.findBitfields (H.platform p.msFd) a heap p.dev
          (some info) (some []) with
      | error e => rfl
      | ok r =>
          obtain ⟨⟨r, list, a⟩, dev⟩ := r
          rw [ok_bind, ok_bind]
          dsimp only [answerOf]
          by_cases hr : r = 0
          · by_cases hflat : (flattenResults a heap list).1 = 0
            · simp [hr, hflat, findDone_answer]
            · simp [hr, hflat, findDone_answer]
          · simp [hr, findDone_answer]

theorem FindCall.answer_eq (H : Host δ)
    (tables : List BitfieldTableEntry) {c : FindCall}
    (hout : c.args.resultsOut = true) (p : Process δ) (a : Alloc) :
    c.answer H tables p a
      = (findStarted H tables (c.withAlloc a).outcome c.args
          c.key.calcValue c.key.set (c.started H p).1 (c.started H p).2
          >>= fun r => .ok (r.ret, r.stored)) := by
  rw [FindCall.answer, FindCall.run_eq, FindCall.withAlloc_args,
    FindCall.withAlloc_key]
  unfold FindCall.started
  by_cases hcalc : c.key.calcValue = none
  · rw [if_pos hcalc, msFind_device hout hcalc]
    rfl
  · rw [if_neg hcalc, msFind_value hout hcalc]

/-- A call makes these allocations, and ends. -/
theorem FindCall.answer_makes (H : Host δ)
    (tables : List BitfieldTableEntry) {c : FindCall} {p : Process δ}
    (hname : c.NameSet H p) :
    ∃ t, Ended t ∧ Makes Site.stops GaveUp (c.answer H tables p)
      (c.sites H tables p) fun _ => t := by
  unfold FindCall.sites
  by_cases hout : c.args.resultsOut = true
  case neg =>
    refine ⟨.error .uninitialised, .fault, ?_⟩
    dsimp only
    rw [if_neg fun h => hout h.1]
    refine Makes.nothing fun a => ?_
    rw [FindCall.answer, FindCall.run_eq, FindCall.withAlloc_args]
    unfold msFind
    rw [if_neg hout]
    rfl
  by_cases hstart : (c.started H p).1 = 0
  case neg =>
    refine ⟨.ok (-1, none), .gaveUp, ?_⟩
    dsimp only
    rw [if_neg fun h => hstart h.2]
    refine Makes.nothing fun a => ?_
    rw [FindCall.answer_eq H tables hout, findStarted, if_pos hstart]
    rfl
  dsimp only
  rw [if_pos ⟨hout, hstart⟩]
  unfold FindCall.request
  cases hset : setMatchInfo c.outcome.errnoRange c.args.arch c.args.impl
      c.args.cpu c.args.pl c.args.noparse c.key.calcValue with
  | none =>
      refine ⟨.ok (-1, none), .gaveUp, Makes.nothing fun a => ?_⟩
      rw [FindCall.answer_eq H tables hout, findStarted,
        if_neg (not_not.2 hstart)]
      dsimp only [FindCall.withAlloc]
      rw [hset]
      rfl
  | some info =>
      obtain ⟨info', hkey⟩ := hname hstart info hset
      obtain ⟨t, hended, hsearch⟩ := searchAnswer_makes
        (H.platform (c.started H p).2.msFd)
        (expanded (included c.args.includeDevices tables))
        (c.started H p).2.dev info'
      refine ⟨t, hended, ?_⟩
      dsimp only [Option.bind_eq_bind, Option.bind_some]
      rw [hkey]
      have htable : Makes Site.stops GaveUp (c.answer H tables p)
          [.table] (searchAnswer (H.platform (c.started H p).2.msFd)
            (expanded (included c.args.includeDevices tables))
            (c.started H p).2.dev info') := by
        refine Makes.ignoring (by simp [Site.stops]) fun a ha => ?_
        rw [FindCall.answer_eq H tables hout, findStarted,
          if_neg (not_not.2 hstart)]
        dsimp only [FindCall.withAlloc]
        rw [hset]
        dsimp only
        rw [hkey, ok_bind, findRequest_answer,
          loadTables_ok (ha 0 Nat.one_pos)]
        rfl
      exact htable.trans hsearch

/-- Where the name is NULL the call reads through it. -/
theorem FindCall.answer_access (H : Host δ)
    (tables : List BitfieldTableEntry) {c : FindCall} {p : Process δ}
    (hout : c.args.resultsOut = true) (hname : ¬ c.NameSet H p)
    (a : Alloc) : c.answer H tables p a = .error .access := by
  unfold FindCall.NameSet at hname
  push Not at hname
  obtain ⟨hstart, info, hset, hkey⟩ := hname
  have herror := FindKey.set_error fun ⟨info', h⟩ => hkey info' h
  rw [FindCall.answer_eq H tables hout, findStarted,
    if_neg (not_not.2 hstart)]
  dsimp only [FindCall.withAlloc]
  rw [hset]
  dsimp only
  rw [herror]
  rfl

-- =============================================================== the result

/-- A call gives up with nothing stored, or stores what it stores when no
allocation fails. -/
def FindCall.Whole (H : Host δ) (tables : List BitfieldTableEntry)
    (c : FindCall) (p : Process δ) : Prop :=
  ∃ r, c.run H tables p = .ok r
    ∧ (r.ret = -1 ∧ r.stored = none
      ∨ r.ret = 0 ∧ ∃ r', (c.withAlloc .ok).run H tables p = .ok r'
          ∧ r'.ret = 0 ∧ r.stored = r'.stored)

/-- The first allocation to fail, if one of the call's does, stops it. -/
def FindCall.StopsFirst (H : Host δ) (tables : List BitfieldTableEntry)
    (c : FindCall) (p : Process δ) : Prop :=
  ∀ n s, FailsAt n c.outcome.alloc →
    (c.sites H tables p)[n]? = some s → s.stops = true

/-- The run behind an answer. -/
theorem FindCall.answer_ok {H : Host δ}
    {tables : List BitfieldTableEntry} {c : FindCall} {p : Process δ}
    {a : Alloc} {ret : Int} {stored : Option (List MsBitfieldInfo)} :
    c.answer H tables p a = .ok (ret, stored)
      ↔ ∃ r, (c.withAlloc a).run H tables p = .ok r
        ∧ r.ret = ret ∧ r.stored = stored := by
  unfold FindCall.answer
  rw [bind_eq_ok]
  refine exists_congr fun r => and_congr_right fun _ => ?_
  rw [Except.ok.injEq, Prod.mk.injEq]

/-- Where the first allocation to fail is one that stops it, a call is
whole exactly when its pointers are set and what it reads is recorded. -/
theorem find_whole_iff (H : Host δ) (tables : List BitfieldTableEntry)
    (c : FindCall) (p : Process δ) (hstops : c.StopsFirst H tables p) :
    c.Whole H tables p
      ↔ c.args.resultsOut = true ∧ c.NameSet H p
        ∧ c.Reads H tables p := by
  have hself : c.withAlloc c.outcome.alloc = c := rfl
  have hfault : c.run H tables p ≠ .error .uninitialised ↔ _ :=
    c.run_fault p
  constructor
  · intro hex
    obtain ⟨r, hrun, -⟩ := hex
    have hsafe : c.run H tables p ≠ .error .uninitialised := by
      rw [hrun]
      simp
    obtain ⟨hout, hreads⟩ := hfault.1 hsafe
    refine ⟨hout, by_contra fun hname => ?_, hreads⟩
    have haccess := FindCall.answer_access H tables hout hname
      c.outcome.alloc
    rw [FindCall.answer, hself, hrun] at haccess
    cases haccess
  · intro hall'
    obtain ⟨hout, hname, hreads⟩ := hall'
    have hsafe := hfault.2 ⟨hout, hreads⟩
    obtain ⟨t, hended, hmakes⟩ := FindCall.answer_makes H tables hname
    have hok : c.answer H tables p .ok = t :=
      hmakes.goes Alloc.ok (succeed_ok _)
    rcases hmakes.outcome hstops with hgave | hgoes
    · obtain ⟨r, hrun, hret⟩ := FindCall.answer_ok.1 hgave
      exact ⟨r, hrun, Or.inl hret⟩
    · cases hended with
      | gaveUp =>
          obtain ⟨r, hrun, hret⟩ := FindCall.answer_ok.1 hgoes
          exact ⟨r, hrun, Or.inl hret⟩
      | found l =>
          obtain ⟨r, hrun, hret, hstored⟩ := FindCall.answer_ok.1 hgoes
          obtain ⟨r', hrun', hret', hstored'⟩ := FindCall.answer_ok.1 hok
          exact ⟨r, hrun, Or.inr ⟨hret, r', hrun', hret',
            hstored.trans hstored'.symm⟩⟩
      | fault =>
          refine absurd ?_ hsafe
          rw [FindCall.answer, hself] at hgoes
          rcases bind_eq_error.1 hgoes with h | ⟨r, -, h⟩
          · exact h
          · cases h

/-- The fields E and N of PMCR. -/
def pmcrTables : List BitfieldTableEntry := [
  ⟨.arch, archArmv7a, [
    ⟨1, 0, PMCR, nsAll, 0, 1, "E", "perfmon", "PMCR",
      "All counters enable"⟩,
    ⟨1, 7, PMCR, nsAll, 11, 5, "N", "perfmon", "PMCR",
      "Number of event counters"⟩]⟩]

/-- PMCR decoded from a value, where allocation `n` fails. -/
def pmcrCall (n : Nat) : FindCall :=
  ⟨{ alloc := fun k => k != n },
    ⟨some "armv7a", some "all", -1, preferredPl, 0, 0, true⟩,
    .register (some "PMCR") (some "0x2001")⟩

/-- The elements a call stores, 0 where it stores none. -/
def FindCall.elements (H : Host δ) (tables : List BitfieldTableEntry)
    (c : FindCall) (p : Process δ) (a : Alloc) : Option Nat :=
  (c.answer H tables p a).toOption.map fun x =>
    (x.2.getD []).length

/-- The second request is lost, and with it a field. -/
theorem find_whole_fails :
    ¬ (pmcrCall 2).Whole nullHost pmcrTables ⟨{}, -1, {}, ()⟩ := by
  intro hex
  obtain ⟨r, hrun, hcase⟩ := hex
  have hsome : (pmcrCall 2).elements nullHost pmcrTables
      ⟨{}, -1, {}, ()⟩ (pmcrCall 2).outcome.alloc = some 1 := by
    decide +kernel
  have hall : (pmcrCall 2).elements nullHost pmcrTables
      ⟨{}, -1, {}, ()⟩ .ok = some 2 := by
    decide +kernel
  unfold FindCall.elements FindCall.answer at hsome hall
  rw [show (pmcrCall 2).withAlloc (pmcrCall 2).outcome.alloc
    = pmcrCall 2 from rfl, hrun] at hsome
  rcases hcase with ⟨-, hstored⟩ | ⟨-, r', hrun', -, hstored⟩
  · rw [ok_bind, hstored] at hsome
    cases hsome
  · rw [hrun'] at hall
    rw [ok_bind, hstored] at hsome
    exact absurd (hsome.symm.trans hall) (by decide)

theorem find_whole_iff_pmcr :
    (pmcrCall 5).Whole nullHost pmcrTables ⟨{}, -1, {}, ()⟩
      ↔ (pmcrCall 5).args.resultsOut = true
        ∧ (pmcrCall 5).NameSet nullHost ⟨{}, -1, {}, ()⟩
        ∧ (pmcrCall 5).Reads nullHost pmcrTables ⟨{}, -1, {}, ()⟩ := by
  refine find_whole_iff nullHost pmcrTables (pmcrCall 5)
    ⟨{}, -1, {}, ()⟩ fun n s hfails hs => ?_
  -- the fifth allocation behind the tables is a field of the word
  have hn : n = 5 := by
    have h := hfails.2
    simpa [pmcrCall] using h
  have hsite : ((pmcrCall 5).sites nullHost pmcrTables
      ⟨{}, -1, {}, ()⟩)[5]? = some .mask := by
    decide +kernel
  rw [hn, hsite] at hs
  obtain rfl := Option.some.inj hs
  rfl

end Maplesyrup
