/-
Can a register be put together again from the screen?

A line has the value of a field and the numbers of its first and last
bit, as text. Shifted to where its stamp says and added up, the values of
the lines about one reading are the word that was read, without the bits
that no field has (`screen_rebuilds`): nothing else is lost, and nothing
is shown twice.

That needs fields apart. The rows of a shipped register are, but for the
misfits; a register that has rows in two of the requested tables is shown
twice, so its fields are to be of one (`shipped_whole`).
-/
import Maplesyrup.Decode.Proofs.Dispatch
import Maplesyrup.Decode.Proofs.Fields
import Maplesyrup.Decode.Proofs.Stamp
import Maplesyrup.Library.Proofs.Flatten
import Maplesyrup.System.Proofs.CommandLine

namespace Maplesyrup

open Base

variable {tables : List BitfieldTableEntry} {heap : List BitfieldInfoHeap}
  {c : FindCall} {info : MatchInfo} {rd : Reading} {h : BitfieldInfoHeap}

-- =========================================================== the statement

/-- The entries whose fields of a reading are shown. -/
def fieldsOf (heap : List BitfieldInfoHeap) (info : MatchInfo)
    (rd : Reading) : List BitfieldInfoHeap :=
  heap.filter fun h => info.selects h && rd.fits h

/-- The lines about a reading. -/
def readingLines (heap : List BitfieldInfoHeap) (info : MatchInfo)
    (rd : Reading) : List Line :=
  (fieldsOf heap info rd).map fun h => fieldLine heap (rd.field h)

/-- The values of lines, each shifted to the first bit its stamp names,
and added up. -/
def rebuilt (lines : List Line) : Nat :=
  (lines.map fun l => l.value.toNat * 2 ^ (stampNumbers l.stamp).2).sum

/-- The fields lie within the word and share no bit. None has the name of
a raw word. -/
structure Whole (heap : List BitfieldInfoHeap) (info : MatchInfo)
    (rd : Reading) : Prop where
  mask : ∀ h ∈ fieldsOf heap info rd, 1 ≤ h.info.mask.toNat
  fits : ∀ h ∈ fieldsOf heap info rd,
    h.info.rightshift.toNat + h.info.mask.toNat ≤ 64
  parsed : ∀ h ∈ fieldsOf heap info rd, h.info.bitfield ≠ "Unparsed"
  apart : (fieldsOf heap info rd).Pairwise fun h h' =>
    h.info.bits.Apart h'.info.bits

-- ============================================================= one line

/-- A line shows the field of the word at its place. -/
theorem fieldLine_placed (hnd : (heap.map fun h => h.info.uid).Nodup)
    (hstamps : Links.StampsFit heap) (hh : h ∈ heap)
    (hmask : 1 ≤ h.info.mask.toNat)
    (hfits : h.info.rightshift.toNat + h.info.mask.toNat ≤ 64)
    (hparsed : h.info.bitfield ≠ "Unparsed") (rd : Reading) :
    (fieldLine heap (rd.field h)).value.toNat
        = h.info.bits.read rd.word.toNat
      ∧ (stampNumbers (fieldLine heap (rd.field h)).stamp).2
        = h.info.bits.lo := by
  constructor
  · show ((BitVec.ofNat 64 _ : U64)).toNat = _
    rw [BitVec.toNat_ofNat]
    apply Nat.mod_eq_of_lt
    calc _ ≤ rd.word.toNat >>> h.info.rightshift.toNat := Nat.mod_le _ _
      _ ≤ rd.word.toNat := Nat.shiftRight_le _ _
      _ < 2 ^ 64 := rd.word.isLt
  · have hunique : ∀ g ∈ heap, g.info.uid = h.info.uid → g = h :=
      fun g hg huid => List.inj_on_of_nodup_map hnd hg hh huid
    obtain ⟨stamp, hstamp, hnumbers⟩ :=
      getBitfieldstamp_numbers hh hunique hmask hfits
    have hnot : strncmp h.info.bitfield "Unparsed" (parseMaxBitfield - 1)
        = false :=
      Bool.eq_false_iff.2 fun heq => hparsed ((strncmp_of_lt (by decide)).1 heq)
    have htext : stampOf heap (rd.field h) = stamp := by
      show (if strncmp h.info.bitfield "Unparsed" (parseMaxBitfield - 1)
        then "" else (getBitfieldstamp heap h.info.uid).getD "") = stamp
      rw [hnot, hstamp]
      rfl
    have hlen := Links.stampOf_fits hstamps (rd.field h)
    have hline : (fieldLine heap (rd.field h)).stamp = stamp := by
      show strncpy (stampOf heap (rd.field h)) (parseMaxStampsize - 1)
        = stamp
      rw [strncpy_of_le (Nat.le_sub_one_of_lt hlen), htext]
    rw [hline, hnumbers]
    rfl

/-- The lines about a reading have all bits of its word that are in a
field, and none twice. -/
theorem rebuilt_reading (hnd : (heap.map fun h => h.info.uid).Nodup)
    (hstamps : Links.StampsFit heap) (hwhole : Whole heap info rd) :
    rebuilt (readingLines heap info rd)
      = restrict ((fieldsOf heap info rd).map fun h => h.info.bits)
          rd.word.toNat := by
  have hplaced : (readingLines heap info rd).map
      (fun l => l.value.toNat * 2 ^ (stampNumbers l.stamp).2)
      = ((fieldsOf heap info rd).map fun h => h.info.bits).map
          fun f => f.read rd.word.toNat * 2 ^ f.lo := by
    rw [readingLines, List.map_map, List.map_map]
    refine List.map_congr_left fun h hh => ?_
    obtain ⟨hvalue, hstamp⟩ := fieldLine_placed hnd hstamps
      (List.mem_filter.1 hh).1 (hwhole.mask h hh) (hwhole.fits h hh)
      (hwhole.parsed h hh) rd
    show (fieldLine heap (rd.field h)).value.toNat
      * 2 ^ (stampNumbers (fieldLine heap (rd.field h)).stamp).2 = _
    rw [hvalue, hstamp]
    rfl
  rw [rebuilt, hplaced]
  exact sum_placed (List.pairwise_map.2 hwhole.apart) _

theorem shown_lines (heap : List BitfieldInfoHeap) (info : MatchInfo)
    (rds : List Reading) :
    (shown heap info rds).map (fieldLine heap)
      = rds.flatMap (readingLines heap info) := by
  rw [shown, List.map_flatMap]
  refine List.flatMap_congr fun rd _ => ?_
  exact List.map_map

-- ============================================================== the tables

/-- The entry is of a row of the table, of the reading's register. -/
theorem fieldsOf_row {includeDevices : Int} (hinc : includeDevices ≠ 1)
    (hh : h ∈ fieldsOf (expanded (included includeDevices bitfieldTable))
      info rd) :
    ∃ t ∈ bitfieldTable, ∃ row ∈ t.rowsOf rd.registerUid,
      h = sysEntry t row ∧ mscodePartnumber h.info.uid = t.partNumber := by
  obtain ⟨hmem, hboth⟩ := List.mem_filter.1 hh
  have hfits := (Bool.and_eq_true_iff.1 hboth).2
  have hreg := (Bool.and_eq_true_iff.1 hfits).1
  obtain ⟨i, hi⟩ := List.getElem?_of_mem hmem
  obtain ⟨t, ht, row, hrow, hentry⟩ := expanded_allExpand _ i h hi
  obtain ⟨ht', hdevice⟩ := included_mem ht
  rcases hentry with ⟨hsys, rfl⟩ | ⟨hmm, -, -, -⟩
  · exact ⟨t, ht', row, List.mem_filter.2 ⟨hrow, hreg⟩, rfl,
      sysEntry_part ht' hsys hrow⟩
  · exact absurd (hdevice hmm) hinc

/-- No two shipped tables are of one part. -/
theorem shipped_parts : ∀ t ∈ bitfieldTable, ∀ t' ∈ bitfieldTable,
    t.partNumber = t'.partNumber → t = t' := by
  have hnd : (bitfieldTable.map fun t => t.partNumber).Nodup := by
    decide
  intro t ht t' ht' hpart
  exact List.inj_on_of_nodup_map hnd ht ht' hpart

/-- The fields of a shipped register are whole where all are of one
table, in which the register is no misfit. -/
theorem shipped_whole {includeDevices : Int} (hinc : includeDevices ≠ 1)
    {part : U32}
    (hone : ∀ h ∈ fieldsOf
      (expanded (included includeDevices bitfieldTable)) info rd,
      mscodePartnumber h.info.uid = part)
    (hfit : (part, rd.registerUid) ∉ misfits) :
    Whole (expanded (included includeDevices bitfieldTable)) info rd := by
  have hrows : ∀ t ∈ bitfieldTable, ∀ row ∈ t.tablePtr,
      1 ≤ row.mask.toNat ∧ row.bitfield ≠ "Unparsed" := by
    decide +kernel
  -- the table is the same for all
  have hcut : ∀ h ∈ fieldsOf
      (expanded (included includeDevices bitfieldTable)) info rd,
      ∃ t ∈ bitfieldTable, t.partNumber = part
        ∧ CutsWord (t.rowsOf rd.registerUid)
        ∧ ∃ row ∈ t.rowsOf rd.registerUid, h = sysEntry t row := by
    intro h hh
    obtain ⟨t, ht, row, hrow, hself, hpart⟩ := fieldsOf_row hinc hh
    have hsame : t.partNumber = part := hpart.symm.trans (hone h hh)
    exact ⟨t, ht, hsame, rowsOf_cutsWord ht (hsame ▸ hfit), row, hrow,
      hself⟩
  constructor
  · intro h hh
    obtain ⟨t, ht, -, -, row, hrow, rfl⟩ := hcut h hh
    exact (hrows t ht row (List.mem_filter.1 hrow).1).1
  · intro h hh
    obtain ⟨t, -, -, hcuts, row, hrow, rfl⟩ := hcut h hh
    exact hcuts.fits row hrow
  · intro h hh
    obtain ⟨t, ht, -, -, row, hrow, rfl⟩ := hcut h hh
    exact (hrows t ht row (List.mem_filter.1 hrow).1).2
  · have hnd : (fieldsOf (expanded (included includeDevices bitfieldTable))
        info rd).Nodup :=
      (shipped_uid_nodup includeDevices).of_map.filter _
    refine hnd.pairwise_of_forall_ne fun h hh h' hh' hne => ?_
    obtain ⟨t, ht, hpart, hcuts, row, hrow, rfl⟩ := hcut h hh
    obtain ⟨t', ht', hpart', -, row', hrow', rfl⟩ := hcut h' hh'
    obtain rfl := shipped_parts t ht t' ht' (hpart.trans hpart'.symm)
    have hsymm : Std.Symm fun row row' : BitfieldInfo =>
        row.bits.Apart row'.bits :=
      ⟨fun _ _ hapart n hn hn' => hapart n hn' hn⟩
    have hapart : row.bits.Apart row'.bits :=
      hcuts.apart.forall hrow hrow' fun heq =>
        hne (congrArg (sysEntry t) heq)
    exact hapart

-- ============================================================== the screen

/-- The lines on the screen are those about the readings, in order. Of
the lines about one its word can be rebuilt, where all are of one table
in which the register is no misfit. -/
theorem screen_rebuilds {t : Target} {stale : Stale} {argv : List Text}
    {o : Nat → Outcome} (b : Build) (machines : Nat → Machine)
    (regs : Nat → String → Option U64)
    (h : Says t stale bitfieldTable argv (o 0) heap c info)
    (hinc : c.args.includeDevices ≠ 1) (listing : Outcome)
    (p : Process ToolState) (hrec : Recordable (requests heap info)) :
    ∃ run,
      main (toolHost b machines regs) bitfieldTable t stale argv listing o p
        = .ok run
      ∧ screenLines run.screen
        = (readings b machines regs p.dev (requests heap info)).flatMap
          (readingLines heap info)
      ∧ ∀ rd ∈ readings b machines regs p.dev (requests heap info),
        ∀ part : U32,
          (∀ h ∈ fieldsOf heap info rd,
            mscodePartnumber h.info.uid = part) →
          (part, rd.registerUid) ∉ misfits →
          rebuilt (readingLines heap info rd)
            = restrict ((fieldsOf heap info rd).map fun h => h.info.bits)
              rd.word.toNat := by
  obtain ⟨run, hmain, hlines, -⟩ :=
    h.main_lines b machines regs listing (p := p) hrec
  refine ⟨run, hmain, ?_, ?_⟩
  · rw [hlines, shown_lines]
  · intro rd _ part hone hfit
    have huids := h.readable.heapOk.uids
    obtain rfl := h.table
    exact rebuilt_reading huids (Links.shipped_stampsFit _)
      (shipped_whole hinc hone hfit)

theorem screen_rebuilds_midr :
    ∃ run,
      main (toolHost ⟨.aarch32, true⟩ (fun _ => mixedMachine)
          fun _ _ => none) bitfieldTable .aarch32 someStale
          midrWords.flatten {} (fun _ => {}) freshProcess = .ok run
      ∧ screenLines run.screen
        = (readings ⟨.aarch32, true⟩ (fun _ => mixedMachine)
            (fun _ _ => none) freshProcess.dev
            (requests systemHeap midrInfo)).flatMap
          (readingLines systemHeap midrInfo)
      ∧ ∀ rd ∈ readings ⟨.aarch32, true⟩ (fun _ => mixedMachine)
          (fun _ _ => none) freshProcess.dev
          (requests systemHeap midrInfo),
        ∀ part : U32,
          (∀ h ∈ fieldsOf systemHeap midrInfo rd,
            mscodePartnumber h.info.uid = part) →
          (part, rd.registerUid) ∉ misfits →
          rebuilt (readingLines systemHeap midrInfo rd)
            = restrict ((fieldsOf systemHeap midrInfo rd).map
                fun h => h.info.bits) rd.word.toNat :=
  screen_rebuilds (o := fun _ => {}) ⟨.aarch32, true⟩
    (fun _ => mixedMachine) (fun _ _ => none) midr_says (by decide) {}
    freshProcess (midr_recordable 0)

end Maplesyrup
