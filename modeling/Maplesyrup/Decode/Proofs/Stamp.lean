/-
A decoded value is made of the bits its stamp names.

The mask is a power of two less one, computed in 64 bits that wrap for
the widest field; the stamp is computed from the same two columns by 32
bit arithmetic after a lookup of its own. For a field of at least one
bit that ends within the word both say the same: the value is bits MSB
down to LSB, MSB and LSB being the numbers read back from the text.
-/
import Maplesyrup.Decode.Proofs.Join
import Maplesyrup.Decode.Proofs.Origin

namespace Maplesyrup

variable {heap : List BitfieldInfoHeap} {h : BitfieldInfoHeap}

-- ============================================================== the text

/-- The two numbers of a stamp, read from its text. -/
def stampNumbers (stamp : String) : Nat × Nat :=
  (Nat.ofDigitChars 10 (stamp.toList.takeWhile (· != ':')) 0,
    Nat.ofDigitChars 10 ((stamp.toList.dropWhile (· != ':')).drop 1) 0)

/-- Below 2^31 `%02d` prints the digits, after a zero if there is one
only. -/
theorem printf02d_toList {n : U32} (h : n.toNat < 2 ^ 31) :
    (printf02d n).toList = Nat.toDigits 10 n.toNat
      ∨ (printf02d n).toList = '0' :: Nat.toDigits 10 n.toNat := by
  have hint : n.toInt = Int.ofNat n.toNat := by
    rw [BitVec.toInt_eq_toNat_of_lt (by omega)]
    rfl
  unfold printf02d
  rw [hint]
  dsimp only
  split
  · right
    simp
  · left
    simp

/-- Read back, the text is the number. -/
theorem printf02d_read {n : U32} (h : n.toNat < 2 ^ 31) :
    Nat.ofDigitChars 10 (printf02d n).toList 0 = n.toNat := by
  rcases printf02d_toList h with htext | htext
  · rw [htext, Nat.ofDigitChars_ten_toDigits]
  · rw [htext, Nat.ofDigitChars_cons]
    exact Nat.ofDigitChars_ten_toDigits

theorem printf02d_no_colon {n : U32} (h : n.toNat < 2 ^ 31) {c : Char}
    (hc : c ∈ (printf02d n).toList) : (c != ':') = true := by
  have hdigit : c.isDigit = true := by
    rcases printf02d_toList h with htext | htext
    · rw [htext] at hc
      exact Nat.isDigit_of_mem_toDigits (by decide) (by decide) hc
    · rw [htext] at hc
      rcases List.mem_cons.1 hc with rfl | hc
      · rfl
      · exact Nat.isDigit_of_mem_toDigits (by decide) (by decide) hc
  rw [bne_iff_ne]
  rintro rfl
  exact absurd hdigit (by decide)

theorem stampNumbers_eq {msb lsb : U32} (hmsb : msb.toNat < 2 ^ 31)
    (hlsb : lsb.toNat < 2 ^ 31) :
    stampNumbers (printf02d msb ++ ":" ++ printf02d lsb)
      = (msb.toNat, lsb.toNat) := by
  have htext : (printf02d msb ++ ":" ++ printf02d lsb).toList
      = (printf02d msb).toList ++ ':' :: (printf02d lsb).toList := by
    simp
  have htake : ((printf02d msb).toList
      ++ ':' :: (printf02d lsb).toList).takeWhile (· != ':')
        = (printf02d msb).toList := by
    rw [List.takeWhile_append_of_pos fun c hc => printf02d_no_colon hmsb hc]
    simp
  have hdrop : ((printf02d msb).toList
      ++ ':' :: (printf02d lsb).toList).dropWhile (· != ':')
        = ':' :: (printf02d lsb).toList := by
    rw [List.dropWhile_append_of_pos fun c hc => printf02d_no_colon hmsb hc]
    simp
  unfold stampNumbers
  rw [htext, htake, hdrop, printf02d_read hmsb, List.drop_one,
    List.tail_cons, printf02d_read hlsb]

-- ============================================================= the field

/-- The two numbers of a field's stamp. -/
theorem getBitfieldstamp_numbers (hh : h ∈ heap)
    (hunique : ∀ g ∈ heap, g.info.uid = h.info.uid → g = h)
    (hmask : 1 ≤ h.info.mask.toNat)
    (hfit : h.info.rightshift.toNat + h.info.mask.toNat ≤ 64) :
    ∃ stamp, getBitfieldstamp heap h.info.uid = some stamp
      ∧ stampNumbers stamp
        = (h.info.rightshift.toNat + (h.info.mask.toNat - 1),
          h.info.rightshift.toNat) := by
  have hfound := entryOf_owner hh
  have howner : owner heap h = h := by
    have huid := List.find?_some
      (p := fun g : BitfieldInfoHeap => g.info.uid == h.info.uid) hfound
    exact hunique _ (List.mem_of_find?_eq_some hfound)
      (beq_iff_eq.1 huid)
  have hmsb : (h.info.mask - 1 + h.info.rightshift).toNat
      = h.info.rightshift.toNat + (h.info.mask.toNat - 1) := by
    bv_omega
  refine ⟨_, by rw [getBitfieldstamp, lookup_eq, hfound, howner]; rfl, ?_⟩
  rw [stampNumbers_eq (by omega) (by omega), hmsb]

/-- A field by its first and last bit. -/
theorem field_extractLsb {msb lsb : Nat} (v : U64)
    (hlsb : h.info.rightshift.toNat = lsb)
    (hmsb : lsb + (h.info.mask.toNat - 1) = msb)
    (hmask : 1 ≤ h.info.mask.toNat) (hle : h.info.mask.toNat ≤ 64) :
    (h.field v).toNat = (v.extractLsb msb lsb).toNat := by
  have hwidth : msb - lsb + 1 = h.info.mask.toNat := by omega
  rw [BitVec.extractLsb_toNat, hwidth, ← hlsb]
  exact breakoutApplymask_toNat v h.info.rightshift hle

/-- The entries at indices of the heap. -/
theorem entries_of_indices {indices : List Nat}
    (hidx : ∀ i ∈ indices, i < heap.length) :
    indices.map (heap[·]?)
      = (indices.filterMap (heap[·]?)).map some := by
  induction indices with
  | nil => rfl
  | cons i indices ih =>
      have hi := List.getElem?_eq_getElem (hidx i (List.mem_cons_self ..))
      rw [List.map_cons, List.filterMap_cons, hi,
        ih fun j hj => hidx j (List.mem_cons_of_mem _ hj)]
      rfl

/-- The masking pass reports for an entry the bits its stamp names: bits
`msb` down to `lsb` of the word, a number of `msb - lsb + 1` bits, the
word itself if the entry has 64. -/
theorem value_matches_stamp (hh : h ∈ heap)
    (hunique : ∀ g ∈ heap, g.info.uid = h.info.uid → g = h)
    (hmask : 1 ≤ h.info.mask.toNat) (hle : h.info.mask.toNat ≤ 64)
    (hfit : h.info.rightshift.toNat + h.info.mask.toNat ≤ 64)
    (v val64 : U64) (low high : U32)
    (hword : valueToLong val64 low high = v)
    (a : Alloc) (cpu epl midr status : U32) (indices : List Nat)
    (hidx : ∀ i ∈ indices, i < heap.length)
    (out : List BitfieldInfoPopulated) :
    ∃ stamp msb lsb, getBitfieldstamp heap h.info.uid = some stamp
      ∧ stampNumbers stamp = (msb, lsb) ∧ lsb ≤ msb ∧ msb < 64
      ∧ ∃ r added b,
          breakoutApplyMasksToList a heap val64 low high cpu epl midr
              status indices out = some (r, out ++ added, b)
            ∧ (∀ p ∈ added, p.uid = h.info.uid →
                p.value.toNat = (v.extractLsb msb lsb).toNat
                  ∧ p.value.toNat < 2 ^ (msb - lsb + 1)
                  ∧ (h.info.mask = 64 → p.value = v))
            ∧ ((∃ i ∈ indices, heap[i]? = some h) →
                Base.Succeed indices.length a →
                ∃ p ∈ added, p.uid = h.info.uid) := by
  obtain ⟨stamp, hstamp, hnumbers⟩ :=
    getBitfieldstamp_numbers hh hunique hmask hfit
  refine ⟨stamp, _, _, hstamp, hnumbers, by omega, by omega, ?_⟩
  let x : IoctlResult := ⟨0, val64, low, high, cpu, midr, epl, status⟩
  obtain ⟨r, added, b, hrun, hadded⟩ :=
    breakoutApplyMasksToList_mem a x (P := fun _ => True)
      (fun i hi => ⟨_, List.getElem?_eq_getElem (hidx i hi), trivial⟩) out
  refine ⟨r, added, b, hrun, fun p hp huid => ?_, fun hi ha => ?_⟩
  · obtain ⟨g, hg, -, rfl⟩ := hadded p hp
    obtain rfl := hunique g hg huid
    have hbits := field_extractLsb v rfl rfl hmask hle
    have hvalue : (masked heap x g).value = g.field v := by
      rw [← hword]
      rfl
    rw [hvalue]
    refine ⟨hbits, hbits ▸ BitVec.isLt _, fun h64 => ?_⟩
    have hshift : g.info.rightshift.toNat = 0 := by
      rw [h64] at hfit
      simpa using hfit
    apply BitVec.eq_of_toNat_eq
    rw [BitfieldInfoHeap.field, breakoutApplymask_toNat v _ hle, hshift,
      h64]
    exact Nat.mod_eq_of_lt v.isLt
  · obtain ⟨i, hi, hentry⟩ := hi
    have hentries := entries_of_indices hidx
    have hlen := congrArg List.length hentries
    rw [List.length_map, List.length_map] at hlen
    have hall := breakoutApplyMasksToList_some x indices _ hentries
      (hlen ▸ ha) out
    rw [hrun] at hall
    obtain rfl := List.append_cancel_left
      (Prod.ext_iff.1 (Prod.ext_iff.1 (Option.some.inj hall)).2).1
    exact ⟨masked heap x h,
      List.mem_map_of_mem (List.mem_filterMap.2 ⟨i, hi, hentry⟩), rfl⟩

/-- The counters of PMCR, bits 15 down to 11, in a payload of two
words. -/
theorem value_matches_stamp_pmcr :
    let h : BitfieldInfoHeap := ⟨.arch, "PMCR",
      ⟨1, 0x00010001, 1, 3, 11, 5, "N", "pmu", "", "Counters"⟩⟩
    ∃ stamp msb lsb, getBitfieldstamp smallHeap h.info.uid = some stamp
      ∧ stampNumbers stamp = (msb, lsb) ∧ lsb ≤ msb ∧ msb < 64
      ∧ ∃ r added b,
          breakoutApplyMasksToList .ok smallHeap 0 0x2001 0 1 2
              0x410FC073 0 [0, 1] [] = some (r, [] ++ added, b)
            ∧ (∀ p ∈ added, p.uid = h.info.uid →
                p.value.toNat
                    = ((0x2001 : U64).extractLsb msb lsb).toNat
                  ∧ p.value.toNat < 2 ^ (msb - lsb + 1)
                  ∧ (h.info.mask = 64 → p.value = 0x2001))
            ∧ ((∃ i ∈ [0, 1], smallHeap[i]? = some h) →
                Base.Succeed [0, 1].length Alloc.ok →
                ∃ p ∈ added, p.uid = h.info.uid) := by
  intro h
  have hunique : ∀ g ∈ smallHeap, g.info.uid = h.info.uid → g = h := by
    decide
  exact value_matches_stamp (by decide) hunique (by decide) (by decide)
    (by decide) 0x2001 0 0x2001 0 (by decide) .ok 1 2 0x410FC073 0 [0, 1]
    (by decide) []

end Maplesyrup
