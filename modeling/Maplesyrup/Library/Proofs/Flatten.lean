/-
Does the array hold the list?

`flatten_results` takes the array's length from the list's count and its
elements from the links. Over the memory of a history the two agree
(`Links.Shape`), so the walk ends when the count does, and the array is
that of the list of elements (`flattenResults_list`): the branch for a
list that ends early is not taken.

The index is an `int`: a list of 2^31 elements is beyond it.
-/
import Maplesyrup.Decode.Proofs.Names
import Maplesyrup.Library.Proofs.Links

namespace Maplesyrup

open Base

namespace Links

variable {ι α : Type} {s : Store ι α} {l : ι} {h : MsListHead α}
  {xs : List α} {heap : List BitfieldInfoHeap} {elements : α → Result}

-- =========================================================== the statement

/-- Every stamp of the heap fits its buffer. -/
def StampsFit (heap : List BitfieldInfoHeap) : Prop :=
  ∀ h ∈ heap, ∀ stamp, getBitfieldstamp heap h.info.uid = some stamp →
    stamp.length < parseMaxStampsize

/-- The array element has what the list element has, in an array of
`n`. -/
structure Flattened (heap : List BitfieldInfoHeap) (n : Nat)
    (x : Result) (y : MsBitfieldInfo) : Prop where
  arrayElements : y.arrayElements.toNat = n
  cpu : y.cpu = x.cpu
  epl : y.epl = x.epl
  uid : y.uid = x.uid
  value : y.value = x.value
  status : y.status = x.status
  bitfield : y.bitfield = x.bitfield
  functionalGroup : y.functionalGroup = x.functionalGroup
  registerName : y.registerName = x.registerName
  description : y.description = x.description
  partNumber : y.partNumber = getPartnumberFromMidr x.midr
  partNumberTable : y.partNumberTable = getDecodeTable x.uid
  stamp : (∃ h ∈ heap, h.info.uid = x.uid) →
    (y.stamp = "" ↔ x.bitfield = "Unparsed")

-- ================================================================ the stamp

theorem stampOf_fits (hfit : StampsFit heap) (x : BitfieldInfoPopulated) :
    (stampOf heap x).length < parseMaxStampsize := by
  unfold stampOf
  split
  · decide
  · cases hstamp : getBitfieldstamp heap x.uid with
    | none => decide
    | some stamp =>
        have hentry : ∃ h ∈ heap, h.info.uid = x.uid := by
          rw [getBitfieldstamp, lookup_eq, Option.map_eq_some_iff] at hstamp
          obtain ⟨h, hh, -⟩ := hstamp
          have huid := List.find?_some hh
          exact ⟨h, List.mem_of_find?_eq_some hh, beq_iff_eq.1 huid⟩
        obtain ⟨h, hh, huid⟩ := hentry
        rw [← huid] at hstamp
        exact hfit h hh stamp hstamp

/-- A stamp is empty where none was made. -/
theorem stamp_empty {x : BitfieldInfoPopulated}
    (hx : ∃ h ∈ heap, h.info.uid = x.uid) :
    strncpy (stampOf heap x) (parseMaxStampsize - 1) = ""
      ↔ x.bitfield = "Unparsed" := by
  have hsame : strncmp x.bitfield "Unparsed" (parseMaxBitfield - 1) = true
      ↔ x.bitfield = "Unparsed" := strncmp_of_lt (by decide)
  obtain ⟨h, hh, huid⟩ := hx
  have hfound := entryOf_owner hh
  rw [huid] at hfound
  unfold stampOf
  by_cases hun : x.bitfield = "Unparsed"
  · rw [if_pos (hsame.2 hun)]
    exact iff_of_true rfl hun
  · refine iff_of_false ?_ hun
    rw [if_neg (mt hsame.1 hun), getBitfieldstamp, lookup_eq, hfound]
    apply strncpy_ne_empty
    · intro hempty
      have hcolon := (String.append_eq_empty_iff.1 hempty).1
      exact absurd (String.append_eq_empty_iff.1 hcolon).2 (by decide)
    · decide

theorem ite_length_le {p : Prop} [Decidable p] {a b : String} {n : Nat}
    (ha : a.length ≤ n) (hb : b.length ≤ n) :
    (if p then a else b).length ≤ n := by
  split
  · exact ha
  · exact hb

theorem getPartnumberFromMidr_length (midr : U32) :
    (getPartnumberFromMidr midr).length ≤ parseMaxPartnumber - 1 := by
  have hcopy := fun s : String =>
    strncpy_length_le s (parseMaxPartnumber - 1)
  unfold getPartnumberFromMidr
  iterate 5 refine ite_length_le (hcopy _) ?_
  decide

theorem getDecodeTable_length (uid : U32) :
    (getDecodeTable uid).length ≤ parseMaxPartnumber - 1 := by
  have hcopy := fun s : String =>
    strncpy_length_le s (parseMaxPartnumber - 1)
  unfold getDecodeTable
  iterate 10 refine ite_length_le (hcopy _) ?_
  exact hcopy _

/-- What the array takes of an element. -/
theorem flattenOne_flattened (heap : List BitfieldInfoHeap) {n : Nat}
    (hn : n < 2 ^ 32) (x : Result) :
    Flattened heap n x (flattenOne heap n x.toBitfieldInfoPopulated) where
  arrayElements := (BitVec.toNat_ofNat _ _).trans (Nat.mod_eq_of_lt hn)
  cpu := rfl
  epl := rfl
  uid := rfl
  value := rfl
  status := rfl
  bitfield := strncpy_of_le (Nat.le_pred_of_lt x.bitfield_fits)
  functionalGroup :=
    strncpy_of_le (Nat.le_pred_of_lt x.functionalGroup_fits)
  registerName := strncpy_of_le (Nat.le_pred_of_lt x.registerName_fits)
  description := strncpy_of_le (Nat.le_pred_of_lt x.description_fits)
  partNumber := strncpy_of_le (getPartnumberFromMidr_length x.midr)
  partNumberTable := strncpy_of_le (getDecodeTable_length x.uid)
  stamp := stamp_empty

-- ================================================================= the walk

variable [DecidableEq α] {p : Option α} {size : U32}

/-- A pass over an element that is there. -/
theorem flattenLoop_visit {e : α} (he : e ∈ s.live)
    (hfit : StampsFit heap) {i : Nat} (hi : i + 1 < 2 ^ 31) (left : Nat)
    (array : List MsBitfieldInfo) :
    flattenLoop heap elements s size (left + 1) i (some e) array
      = flattenLoop heap elements s size left (i + 1) (s.next e)
          (array ++ [flattenOne heap size.toNat
            (elements e).toBitfieldInfoPopulated]) := by
  have hstamp := stampOf_fits hfit (elements e).toBitfieldInfoPopulated
  rw [flattenLoop, if_neg (not_not.2 he), if_neg (Nat.not_le.2 hstamp),
    if_neg (Nat.not_le.2 hi)]

/-- A walk ends when its length does. -/
theorem flattenLoop_walk (hwalk : Walk s.next p xs)
    (hlive : ∀ e ∈ xs, e ∈ s.live) (hfit : StampsFit heap) {i : Nat}
    (hi : i + xs.length < 2 ^ 31) (array : List MsBitfieldInfo) :
    flattenLoop heap elements s size xs.length i p array
      = .ok (some (array ++ xs.map fun e => flattenOne heap size.toNat
          (elements e).toBitfieldInfoPopulated)) := by
  induction xs generalizing p i array with
  | nil =>
      rw [List.length_nil, flattenLoop, List.map_nil, List.append_nil]
  | cons e xs ih =>
      rw [List.length_cons] at hi
      have he := hlive e (List.mem_cons_self ..)
      rw [hwalk.head, List.head?_cons, List.length_cons,
        flattenLoop_visit he hfit (by omega),
        ih hwalk.rest (fun x hx => hlive x (List.mem_cons_of_mem _ hx))
          (by omega), List.append_assoc, List.map_cons]
      rfl

/-- A walk beyond what an `int` counts is not got through. -/
theorem flattenLoop_overflow (hwalk : Walk s.next p xs)
    (hlive : ∀ e ∈ xs, e ∈ s.live) (hfit : StampsFit heap) {i : Nat}
    (hi : i < 2 ^ 31) (hbeyond : 2 ^ 31 ≤ i + xs.length)
    (array : List MsBitfieldInfo) :
    flattenLoop heap elements s size xs.length i p array
      = .error .overflow := by
  induction xs generalizing p i array with
  | nil =>
      rw [List.length_nil] at hbeyond
      omega
  | cons e xs ih =>
      rw [List.length_cons] at hbeyond
      have he := hlive e (List.mem_cons_self ..)
      rw [hwalk.head, List.head?_cons, List.length_cons]
      by_cases hlast : i + 1 < 2 ^ 31
      · rw [flattenLoop_visit he hfit hlast]
        exact ih hwalk.rest
          (fun x hx => hlive x (List.mem_cons_of_mem _ hx)) hlast
          (by omega) _
      · have hstamp :=
          stampOf_fits hfit (elements e).toBitfieldInfoPopulated
        rw [flattenLoop, if_neg (not_not.2 he),
          if_neg (Nat.not_le.2 hstamp), if_pos (Nat.not_lt.1 hlast)]

-- ================================================================ the array

variable [DecidableEq ι]

omit [DecidableEq α] [DecidableEq ι] in
/-- The count of a list that is not too long is its length. -/
theorem Shape.size_toNat (hshape : Shape s h xs)
    (hlen : xs.length < 2 ^ 32) : h.size.toNat = xs.length := by
  rw [hshape.size, countOf_toNat, Nat.mod_eq_of_lt hlen]

omit [DecidableEq ι] in
/-- The array is that of the list of elements. -/
theorem flattenResults_list (hh : s.lists l = some h)
    (hshape : Shape s h xs) (hlen : xs.length < 2 ^ 31)
    (hfit : StampsFit heap) (a : Alloc) (elements : α → Result) :
    flattenResults a heap elements s (some l) true
      = (let (r, array, a) := Maplesyrup.flattenResults a heap
          (xs.map fun e => (elements e).toBitfieldInfoPopulated)
        .ok (r, array, a, s)) := by
  have hsize := hshape.size_toNat (by omega)
  have hzero : h.size = 0 ↔ xs.length = 0 := by
    rw [← hsize]
    constructor
    · intro h0
      rw [h0]
      rfl
    · exact fun h0 => BitVec.eq_of_toNat_eq h0
  rw [flattenResults, Store.list, hh]
  dsimp only
  rw [ok_bind, Maplesyrup.flattenResults, List.length_map]
  by_cases hnil : xs.length = 0
  · rw [if_pos (hzero.2 hnil), if_pos hnil]
  · rw [if_neg (mt hzero.1 hnil), if_neg hnil]
    cases ha : a 0 with
    | false => rfl
    | true =>
        rw [if_pos rfl, if_pos rfl, hsize,
          flattenLoop_walk hshape.walk hshape.live hfit (by omega),
          ok_bind, hsize, List.map_map]
        rfl

omit [DecidableEq ι] in
/-- A list too long for an `int` is not flattened. -/
theorem flattenResults_overflow (hh : s.lists l = some h)
    (hshape : Shape s h xs) (hlong : 2 ^ 31 ≤ xs.length)
    (hlen : xs.length < 2 ^ 32) (hfit : StampsFit heap) {a : Alloc}
    (ha : a 0 = true) (elements : α → Result) :
    flattenResults a heap elements s (some l) true
      = .error .overflow := by
  have hsize := hshape.size_toNat hlen
  have hne : h.size ≠ 0 := by
    intro h0
    simp [h0] at hsize
    omega
  rw [flattenResults, Store.list, hh]
  dsimp only
  rw [ok_bind, if_neg hne, if_pos ha, hsize,
    flattenLoop_overflow hshape.walk hshape.live hfit (by decide)
      (by omega)]
  rfl

omit [DecidableEq ι] in
/-- Nor one whose first stamp is longer than its buffer. -/
theorem flattenResults_stamp {e : α} (hh : s.lists l = some h)
    (hshape : Shape s h (e :: xs)) (hlen : (e :: xs).length < 2 ^ 32)
    {a : Alloc} (ha : a 0 = true) (elements : α → Result)
    (hstamp : parseMaxStampsize ≤ (stampOf heap
      (elements e).toBitfieldInfoPopulated).length) :
    flattenResults a heap elements s (some l) true = .error .access := by
  have hsize := hshape.size_toNat hlen
  have hne : h.size ≠ 0 := by
    intro h0
    simp [h0] at hsize
  have he : e ∈ s.live := hshape.live e (List.mem_cons_self ..)
  rw [flattenResults, Store.list, hh]
  dsimp only
  rw [ok_bind, if_neg hne, if_pos ha, hsize, hshape.walk.head,
    List.head?_cons, List.length_cons, flattenLoop,
    if_neg (not_not.2 he), if_pos hstamp]
  rfl

-- ========================================================= the shipped stamps

/-- Two digits for a small number. -/
theorem printf02d_length {n : U32} (hn : n.toNat < 100) :
    (printf02d n).length ≤ 2 := by
  have hint : n.toInt = ((n.toNat : Nat) : Int) :=
    BitVec.toInt_eq_toNat_of_lt (by omega)
  unfold printf02d
  rw [hint]
  show (if n.toNat < 10 then "0" ++ toString n.toNat
    else toString n.toNat).length ≤ 2
  split
  · have hone : (toString n.toNat).length ≤ 1 :=
      (Nat.length_repr_le_iff (by omega)).2 (by omega)
    rw [String.length_append]
    exact Nat.add_le_add (by decide : "0".length ≤ 1) hone
  · exact (Nat.length_repr_le_iff (by omega)).2 (by omega)

/-- The stamps of the library's own tables fit. -/
theorem shipped_stampsFit (includeDevices : Int) :
    StampsFit (expanded (included includeDevices bitfieldTable)) := by
  have hrows : ∀ t ∈ bitfieldTable, ∀ row ∈ t.tablePtr,
      1 ≤ row.mask.toNat
        ∧ row.rightshift.toNat + row.mask.toNat ≤ 100 := by
    decide +kernel
  intro h hh stamp hstamp
  have hrow : 1 ≤ h.info.mask.toNat
      ∧ h.info.rightshift.toNat + h.info.mask.toNat ≤ 100 := by
    obtain ⟨i, hi⟩ := List.getElem?_of_mem hh
    obtain ⟨t, ht, row, hrow, hentry⟩ := expanded_allExpand _ i h hi
    have hmem := hrows t (included_mem ht).1 row hrow
    rcases hentry with ⟨-, rfl⟩ | ⟨-, k, -, rfl⟩
    · exact hmem
    · exact hmem
  obtain ⟨hmask, hsum⟩ := hrow
  rw [getBitfieldstamp, lookup_eq, entryOf_owner hh,
    owner_self (shipped_uid_nodup includeDevices) hh] at hstamp
  obtain rfl := Option.some.inj hstamp
  have hmsb : (h.info.mask - 1 + h.info.rightshift).toNat < 100 := by
    bv_omega
  have hfirst := printf02d_length hmsb
  have hsecond := printf02d_length (n := h.info.rightshift) (by omega)
  have hcolon : ":".length = 1 := rfl
  rw [String.length_append, String.length_append, hcolon]
  unfold parseMaxStampsize
  omega

-- ================================================================== flattened

/-- After any history the array of a list of fewer than 2^31 elements
has them all, and the list is as it was. -/
theorem flatten_preserves {live : Finset α} {ops : List (Op ι α)}
    (hops : Legal step Proper (start live) ops)
    (hrun : run step (start live) ops = some s)
    (hof : (contents live ops).of l = some xs) (hne : xs ≠ [])
    (hlen : xs.length < 2 ^ 31) (hfit : StampsFit heap)
    (elements : α → Result) (a : Alloc) :
    (a 0 = false → flattenResults a heap elements s (some l) true
        = .ok (-1, none, a.rest, s))
      ∧ (a 0 = true → ∃ array,
        flattenResults a heap elements s (some l) true
            = .ok (0, some array, a.rest, s)
          ∧ array.length = xs.length
          ∧ ∀ (i : Nat) (e : α), xs[i]? = some e → ∃ y,
            array[i]? = some y ∧ Flattened heap xs.length (elements e) y)
      ∧ ∀ includeDevices, StampsFit
          (expanded (included includeDevices bitfieldTable)) := by
  obtain ⟨s', hrun', hs⟩ := run_represents hops
  rw [hrun] at hrun'
  obtain rfl := Option.some.inj hrun'
  obtain ⟨h, hh, hshape⟩ := hs.shape hof
  have hlist := flattenResults_list hh hshape hlen hfit a elements
  have hpos : xs.length ≠ 0 := mt List.length_eq_zero_iff.1 hne
  unfold Maplesyrup.flattenResults at hlist
  rw [List.length_map, if_neg hpos] at hlist
  refine ⟨fun ha => ?_, fun ha => ?_, shipped_stampsFit⟩
  · rw [ha] at hlist
    exact hlist
  · rw [ha, if_pos rfl] at hlist
    refine ⟨_, hlist, by rw [List.length_map, List.length_map],
      fun i e he => ⟨_, by rw [List.getElem?_map, List.getElem?_map, he]; rfl,
        flattenOne_flattened heap (by omega) (elements e)⟩⟩

/-- A result with these texts. -/
def resultOf (uid : U32) (bitfield : String)
    (hfits : bitfield.length < parseMaxBitfield) : Result where
  cpu := 0
  epl := 1
  uid := uid
  ioctl := 0
  midr := 0x410FC090
  status := 0
  bitfield := bitfield
  functionalGroup := "ident"
  registerName := "MIDR"
  description := "None"
  value := 0
  uvalue := 0
  bitfield_fits := hfits
  functionalGroup_fits := by decide
  registerName_fits := by decide
  description_fits := by decide

/-- Three results of the library's own table. -/
theorem flatten_preserves_three :
    ∃ (s : Store Unit Nat) (array : List MsBitfieldInfo),
      flattenResults .ok (expanded (included 0 bitfieldTable))
          (fun _ => resultOf 0 "Unparsed" (by decide)) s (some ()) true
        = .ok (0, some array, .ok, s) ∧ array.length = 3 := by
  have hnd : [0, 1, 2].Nodup := by decide
  obtain ⟨hlegal, hof⟩ := built () hnd
  obtain ⟨s, hrun, -⟩ := run_represents hlegal
  obtain ⟨-, hflat, -⟩ := flatten_preserves hlegal hrun hof (by decide)
    (by decide) (shipped_stampsFit 0)
    (fun _ => resultOf 0 "Unparsed" (by decide)) .ok
  obtain ⟨array, hflat, hlen, -⟩ := hflat rfl
  exact ⟨s, array, hflat, hlen⟩

/-- A heap entry whose field starts at a bit beyond all. -/
def farEntry : BitfieldInfoHeap where
  tableType := .arch
  registerNameExpanded := "MIDR"
  info := ⟨1, 7, 0, 0, 0x80000000, 1, "Far", "ident", "", "None"⟩

/-- A list of 2^31 elements is beyond the index. A stamp of 23
characters is beyond its buffer. -/
theorem flatten_preserves_fails :
    (∃ (live : Finset Nat) (ops : List (Op Unit Nat))
        (s : Store Unit Nat) (xs : List Nat),
      Legal step Proper (start live) ops
        ∧ run step (start live) ops = some s
        ∧ (contents live ops).of () = some xs ∧ xs.length = 2 ^ 31
        ∧ ∀ heap elements, StampsFit heap →
          flattenResults .ok heap elements s (some ()) true
            = .error .overflow)
      ∧ ∃ s : Store Unit Nat,
        run step (start {0}) [.init (some ()), .add (some ()) (some 0)]
            = some s
          ∧ flattenResults .ok [farEntry]
              (fun _ => resultOf 7 "Far" (by decide)) s (some ()) true
            = .error .access := by
  constructor
  · have hlong : ∀ n, 2 ^ 31 ≤ n → n < 2 ^ 32 →
        ∃ (live : Finset Nat) (ops : List (Op Unit Nat))
            (s : Store Unit Nat) (xs : List Nat),
          Legal step Proper (start live) ops
            ∧ run step (start live) ops = some s
            ∧ (contents live ops).of () = some xs ∧ xs.length = n
            ∧ ∀ heap elements, StampsFit heap →
              flattenResults .ok heap elements s (some ()) true
                = .error .overflow := by
      intro n hge hlt
      obtain ⟨hlegal, hof⟩ := built () (List.nodup_range (n := n))
      obtain ⟨s, hrun, hs⟩ := run_represents hlegal
      obtain ⟨h, hh, hshape⟩ := hs.shape hof
      have hlen : (List.range n).length = n := List.length_range
      exact ⟨_, _, s, _, hlegal, hrun, hof, hlen,
        fun heap elements hfit => flattenResults_overflow hh hshape
          (by omega) (by omega) hfit rfl elements⟩
    exact hlong (2 ^ 31) (Nat.le_refl _) (by omega)
  · have hstamp : parseMaxStampsize ≤ (stampOf [farEntry]
        (resultOf 7 "Far" (by decide)).toBitfieldInfoPopulated).length := by
      decide +kernel
    obtain ⟨hlegal, hof⟩ := built () (List.nodup_singleton 0)
    obtain ⟨s, hrun, hs⟩ := run_represents hlegal
    obtain ⟨h, hh, hshape⟩ := hs.shape hof
    exact ⟨s, hrun, flattenResults_stamp hh hshape (by decide) rfl
      (fun _ => resultOf 7 "Far" (by decide)) hstamp⟩

end Links

end Maplesyrup
