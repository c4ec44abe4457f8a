/-
Bounds: which slots a request touches, and which words of a GIC region
it reads.

Both are read off the trace of the loop over the cpus.

# The boundary

`onEachCpuKick` turns away a cpu number above `msMaxCpus`,
`cpuOnlineWrapper` one from `msMaxCpus` on, after its slot pointer is
formed. Between the two checks lies one value. The offset into a GIC
region is not checked at all.
-/
import Maplesyrup.Kernel.Proofs.Request

namespace Maplesyrup

variable {b : Build} {mc : Machine} {fn : Nat → KState → KState}
  {I : KState → Prop} {upd : Nat → MsData → MsData}
  {added : Nat → List KEvent}

-- ========================================================== slot bounds

/-- Slots a cpu function records are below the bound when its cpu is. -/
theorem slot_lt_of_passTrace {c i : Nat} (hc : c < msMaxCpus)
    (hown : ∀ cur i, KEvent.slot i ∈ added cur → i = b.cpuIndex cur)
    (h : KEvent.slot i ∈ passTrace b mc added c) : i < msMaxCpus := by
  have hidx : b.cpuIndex c < msMaxCpus := by
    unfold Build.cpuIndex
    split
    · exact hc
    · decide
  unfold passTrace at h
  split at h
  · have hi := hown _ i h
    rw [cpuIndex_cpuIndex] at hi
    omega
  · simp only [List.mem_singleton, KEvent.slot.injEq] at h
    omega

/-- Every slot touched is one of the eight, and a request for a cpu
without a slot is turned away with none touched. -/
def SlotsKept (pcpu : U32) (r : Reply) : Prop :=
  (∀ i, KEvent.slot i ∈ r.trace → i < msMaxCpus)
    ∧ (¬ (pcpu = msCpuAll ∨ pcpu.toNat < msMaxCpus) →
        r.ret ≠ 0 ∧ ∀ i, KEvent.slot i ∉ r.trace)

theorem SlotsKept.of_rejected {pcpu : U32} {r : Reply}
    (htrace : r.trace = []) (hret : r.ret ≠ 0) : SlotsKept pcpu r := by
  have hno : ∀ i, KEvent.slot i ∉ r.trace := by
    rw [htrace]
    exact fun i => List.not_mem_nil
  exact ⟨fun i hi => absurd hi (hno i), fun _ => ⟨hret, hno⟩⟩

/-- What decides it for a request that gets to the loop. -/
theorem kickReply_slotsKept (hfn : CpuFn b fn I upd added)
    (hown : ∀ cur i, KEvent.slot i ∈ added cur → i = b.cpuIndex cur)
    {s : KState} (hs : I s) (htrace : s.trace = []) (g : KGlobals)
    (u : MsDataCpu) {r : Reply}
    (hr : r.trace = (kickReply g u (onEachCpuKick b mc fn s)).trace)
    (hret : r.ret = 0 →
      (kickReply g u (onEachCpuKick b mc fn s)).ret = 0) :
    SlotsKept s.data.pcpu r ↔ s.data.pcpu.toNat ≠ msMaxCpus := by
  rw [kickReply_ret, onEachCpuKick_ret] at hret
  rw [kickReply_trace, onEachCpuKick_trace hfn hs, htrace,
    List.nil_append, kickTrace] at hr
  by_cases hp : InRange s.data.pcpu
  · rw [if_pos hp] at hr
    have hne : s.data.pcpu.toNat ≠ msMaxCpus := by
      intro h8
      obtain hall | hlt := hp
      · rw [hall] at h8
        exact absurd h8 (by decide)
      · omega
    refine iff_of_true ⟨fun i hi => ?_, fun hn => absurd hp hn⟩ hne
    rw [hr, List.mem_flatMap] at hi
    obtain ⟨c, hc, hi⟩ := hi
    exact slot_lt_of_passTrace (kickCpus_lt hp c hc) hown hi
  · rw [if_neg hp] at hr
    by_cases h8 : s.data.pcpu.toNat = msMaxCpus
    · rw [if_pos h8] at hr
      refine iff_of_false (fun hkept => ?_) (not_not.2 h8)
      have hmem := List.mem_singleton_self (KEvent.slot msMaxCpus)
      have hlt := hkept.1 msMaxCpus (by rw [hr]; exact hmem)
      omega
    · rw [if_neg h8] at hr
      rw [if_neg (not_or.2 ⟨hp, h8⟩)] at hret
      refine iff_of_true ⟨fun i hi => ?_, fun _ => ⟨fun h => ?_, ?_⟩⟩ h8
      · rw [hr] at hi
        exact absurd hi List.not_mem_nil
      · exact absurd (hret h) (by omega)
      · rw [hr]
        exact fun i => List.not_mem_nil

/-- A request they let through is decided by its cpu number. -/
theorem pcall_slotsKept {cmd : MsCmd} {u : MsDataCpu}
    (h : cmd.accepts u) {g : KGlobals} (hg : g.gUndefFlag = 0)
    {r : Reply} (hr : r.trace = (cmd.pcall b mc g u).trace)
    (hret : r.ret = 0 → (cmd.pcall b mc g u).ret = 0) :
    SlotsKept u.pcpu r ↔ u.pcpu.toNat ≠ msMaxCpus := by
  cases cmd with
  | co =>
      obtain ⟨idx, hidx⟩ := Option.isSome_iff_exists.1
        ((findFunctionIndex_isSome u.code).2 h)
      obtain ⟨e, he, -⟩ := findFunctionIndex_spec hidx
      rw [MsCmd.pcall, callFuncReturnResults_some hidx] at hr hret
      exact kickReply_slotsKept (s := coState g u idx)
        (callFuncPtr_cpuFn he)
        (fun cur i hi => slot_mem_ranTrace hi) ⟨hg, rfl⟩ rfl g u hr hret
  | gic =>
      obtain ⟨base, hbase⟩ := (gicBase_isSome g.gicMap u.partNumber).2 h
      rw [MsCmd.pcall, gicReturnResults_some hbase] at hr hret
      refine kickReply_slotsKept (s := gicState g u base)
        (gicBarRead_cpuFn base u.code) (fun cur i hi => ?_) ⟨rfl, rfl⟩
        rfl g u hr hret
      split at hi
      · exact absurd hi List.not_mem_nil
      · simpa using hi

/-- Slots stay in range on exactly the requests that do not get through
with the cpu number behind the last slot. -/
theorem slots_kept_iff (b : Build) (mc : Machine) (g : KGlobals)
    (cmd : MsCmd) (u : MsDataCpu) :
    SlotsKept u.pcpu (callCmd mc (cmd.pcall b mc) g u)
      ↔ ¬ (mc.copyFromUser = true ∧ cmd.accepts u
          ∧ u.pcpu.toNat = msMaxCpus) := by
  by_cases hfrom : mc.copyFromUser = true
  · by_cases hacc : cmd.accepts u
    · have htrace := callCmd_trace mc (cmd.pcall b mc) g u
      rw [if_pos hfrom] at htrace
      rw [pcall_slotsKept hacc (g := { g with gUndefFlag := 0 }) rfl
        htrace (fun h => ((callCmd_ret mc _ g u).1 h).2.1)]
      tauto
    · have hrej := pcall_rejected b mc hacc
        { g with gUndefFlag := 0 }
      refine iff_of_true (SlotsKept.of_rejected ?_ fun hret => ?_)
        (by tauto)
      · rw [callCmd_trace, if_pos hfrom, hrej]
      · have hcall := ((callCmd_ret mc _ g u).1 hret).2.1
        rw [hrej] at hcall
        exact absurd hcall (show ¬ (-1 : Int) = 0 by omega)
  · refine iff_of_true (SlotsKept.of_rejected ?_ fun hret => ?_)
      (by tauto)
    · rw [callCmd_trace, if_neg hfrom]
    · exact absurd ((callCmd_ret mc _ g u).1 hret).1 hfrom

/-- The smallest request that leaves the buffer: the MIDR of cpu 8. -/
theorem slots_kept_fails :
    ¬ ∀ (b : Build) (mc : Machine) (g : KGlobals) (cmd : MsCmd)
        (u : MsDataCpu), mc.copyFromUser = true →
        SlotsKept u.pcpu (callCmd mc (cmd.pcall b mc) g u) := by
  intro h
  have hkept := h ⟨.aarch64, true⟩ mixedMachine {} .co
    { code := MsSysreg.MIDR, pcpu := 8 } rfl
  have hstore : KEvent.slot 8 ∈ (callCmd mixedMachine
      (MsCmd.co.pcall ⟨.aarch64, true⟩ mixedMachine) {}
      { code := MsSysreg.MIDR, pcpu := 8 }).trace := by decide +kernel
  exact absurd (hkept.1 8 hstore) (by decide)

-- ============================================================ GIC bounds

/-- The region the part number selects: its mapping and its recorded
size. -/
def gicRegion (m : MsGicMap) (partNumber : U32) : Option (Nat × U32) :=
  if partNumber = giccV2 then some (m.giccVirt, m.giccSize)
  else if partNumber = gicdV2 then some (m.gicdVirt, m.gicdSize)
  else if partNumber = gichV2 then some (m.gichVirt, m.gichSize)
  else if partNumber = gicvV2 then some (m.gicvVirt, m.gicvSize)
  else none

theorem gicBase_eq (m : MsGicMap) (partNumber : U32) :
    gicBase m partNumber = (gicRegion m partNumber).map Prod.fst := by
  unfold gicBase gicRegion
  split_ifs <;> rfl

/-- Every word read lies inside the selected region. -/
def ReadsInside (m : MsGicMap) (partNumber : U32) (tr : List KEvent) :
    Prop :=
  ∀ cpu addr, KEvent.readl cpu addr ∈ tr →
    ∃ base size, gicRegion m partNumber = some (base, size)
      ∧ base ≤ addr ∧ addr + 4 ≤ base + size.toNat

/-- The request reads a word: it is copied in, its interface is mapped,
and one of the cpus it names is reached. -/
def ReadsWord (b : Build) (mc : Machine) (base : Nat) (u : MsDataCpu) :
    Prop :=
  mc.copyFromUser = true ∧ base ≠ 0 ∧ InRange u.pcpu
    ∧ ∃ c ∈ kickCpus u.pcpu, reach b mc c = .ran

/-- The words one pass of a GIC request reads. -/
theorem readl_mem_pass {base off c cpu addr : Nat} :
    KEvent.readl cpu addr ∈ passTrace b mc (fun cur =>
        if base = 0 then []
        else
          [.slot (b.cpuIndex cur), .slot (b.cpuIndex cur),
            .readl cur (base + off), .slot (b.cpuIndex cur)]) c
      ↔ reach b mc c = .ran ∧ base ≠ 0 ∧ cpu = b.cpuIndex c
        ∧ addr = base + off := by
  unfold passTrace
  cases hr : reach b mc c with
  | ran =>
      by_cases h0 : base = 0
      · simp [h0]
      · simp [h0]
  | untouched => simp
  | down => simp
  | failed => simp

/-- The words a GIC request reads. -/
theorem readl_mem_gic {g : KGlobals} {u : MsDataCpu} {base : Nat}
    (hbase : gicBase g.gicMap u.partNumber = some base)
    (cpu addr : Nat) :
    KEvent.readl cpu addr ∈ (callCmd mc (gicReturnResults b mc) g u).trace
      ↔ ReadsWord b mc base u
        ∧ addr = base + (mscodeField u.code).toNat
        ∧ ∃ c ∈ kickCpus u.pcpu, reach b mc c = .ran
          ∧ cpu = b.cpuIndex c := by
  rw [callCmd_trace]
  split
  · rename_i hfrom
    rw [gicReturnResults_some (g := { g with gUndefFlag := 0 }) hbase,
      kickReply_trace,
      onEachCpuKick_trace (gicBarRead_cpuFn base u.code)
        (s := gicState { g with gUndefFlag := 0 } u base) ⟨rfl, rfl⟩]
    show KEvent.readl cpu addr ∈ [] ++ kickTrace b mc _ u.pcpu ↔ _
    rw [List.nil_append, kickTrace]
    unfold ReadsWord
    by_cases hp : InRange u.pcpu
    · rw [if_pos hp]
      simp only [List.mem_flatMap, readl_mem_pass]
      constructor
      · intro h
        obtain ⟨c, hc, hr, h0, hcpu, haddr⟩ := h
        exact ⟨⟨hfrom, h0, hp, c, hc, hr⟩, haddr, c, hc, hr, hcpu⟩
      · intro h
        obtain ⟨⟨-, h0, -, -⟩, haddr, c, hc, hr, hcpu⟩ := h
        exact ⟨c, hc, hr, h0, hcpu, haddr⟩
    · rw [if_neg hp]
      refine iff_of_false (fun hmem => ?_) fun h => hp h.1.2.2.1
      split at hmem <;> simp at hmem
  · rename_i hfrom
    exact iff_of_false List.not_mem_nil fun h => hfrom h.1.1

/-- GIC reads stay inside the selected region on exactly the requests
whose offset leaves room for a word there, or that read none. -/
theorem gic_reads_inside_iff (b : Build) (mc : Machine) (env : DtEnv)
    (gUndefFlag : U32) (u : MsDataCpu) :
    ReadsInside (msInitDtData env).2.map u.partNumber
        (callCmd mc (gicReturnResults b mc)
          ⟨gUndefFlag, (msInitDtData env).2.map⟩ u).trace
      ↔ ∀ base size,
          gicRegion (msInitDtData env).2.map u.partNumber
            = some (base, size) →
          ReadsWord b mc base u →
          (mscodeField u.code).toNat + 4 ≤ size.toNat := by
  generalize (msInitDtData env).2.map = m
  constructor
  · intro hin base size hregion hword
    have hbase : gicBase m u.partNumber = some base := by
      rw [gicBase_eq, hregion]
      rfl
    obtain ⟨c, hc, hr⟩ := hword.2.2.2
    obtain ⟨base', size', hregion', -, hle⟩ := hin (b.cpuIndex c) _
      ((readl_mem_gic (g := ⟨gUndefFlag, m⟩) hbase _ _).2
        ⟨hword, rfl, c, hc, hr, rfl⟩)
    rw [hregion] at hregion'
    obtain ⟨rfl, rfl⟩ := Prod.mk.inj (Option.some.inj hregion')
    omega
  · intro hroom cpu addr hmem
    by_cases hacc : MsCmd.gic.accepts u
    · obtain ⟨base, hbase⟩ := (gicBase_isSome m u.partNumber).2 hacc
      obtain ⟨hword, rfl, -⟩ :=
        (readl_mem_gic (g := ⟨gUndefFlag, m⟩) hbase cpu addr).1 hmem
      rw [gicBase_eq] at hbase
      obtain ⟨⟨base', size⟩, hregion, rfl⟩ := Option.map_eq_some_iff.1 hbase
      have hle := hroom base' size hregion hword
      exact ⟨base', size, hregion, by omega, by omega⟩
    · have hrej := pcall_rejected b mc hacc
        ⟨0, m⟩
      rw [callCmd_trace] at hmem
      split at hmem
      · rw [show gicReturnResults b mc ⟨0, m⟩ u = _ from hrej] at hmem
        exact absurd hmem List.not_mem_nil
      · exact absurd hmem List.not_mem_nil

/-- A device tree with the two required regions, 4 KiB each. -/
def pageGic : DtEnv where
  compatible name :=
    if name = "arm,gic-400" then
      some fun n => if n < 2 then some ⟨0x1000 * (n + 1), 0x1000⟩ else none
    else none
  ioremap _ phys _ := 0xF0000000 + phys

/-- Offset `0xFFFF` of a cpu interface that ends at `0x1000`. -/
theorem gic_reads_inside_fails :
    ¬ ∀ (b : Build) (mc : Machine) (env : DtEnv) (gUndefFlag : U32)
        (u : MsDataCpu),
        ReadsInside (msInitDtData env).2.map u.partNumber
          (callCmd mc (gicReturnResults b mc)
            ⟨gUndefFlag, (msInitDtData env).2.map⟩ u).trace := by
  intro h
  have hin := h ⟨.aarch64, true⟩ mixedMachine pageGic 0
    { code := 0xFFFF, pcpu := 0, partNumber := giccV2 }
  have hread : KEvent.readl 0 0xF0011FFF ∈
      (callCmd mixedMachine
        (gicReturnResults ⟨.aarch64, true⟩ mixedMachine)
        ⟨0, (msInitDtData pageGic).2.map⟩
        { code := 0xFFFF, pcpu := 0, partNumber := giccV2 }).trace := by
    decide +kernel
  have hregion : gicRegion (msInitDtData pageGic).2.map giccV2
      = some (0xF0002000, 0x1000) := by decide +kernel
  obtain ⟨base, size, hregion', -, hle⟩ := hin 0 _ hread
  rw [hregion] at hregion'
  obtain ⟨rfl, rfl⟩ := Prod.mk.inj (Option.some.inj hregion')
  exact absurd hle (by decide)

end Maplesyrup
