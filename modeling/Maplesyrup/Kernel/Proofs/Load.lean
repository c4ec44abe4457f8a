/-
Is a load all or nothing?

The mappings in force are those of the GIC map at every place the mapping
may stop: a region is recorded in the map as it is mapped, so the
cleanup finds each once, whatever subset there is. Only nobody calls it
when the device cannot be registered: the mappings made by then stay.
-/
import Maplesyrup.Kernel.Load
import Maplesyrup.Kernel.Proofs.Request

namespace Maplesyrup

variable {env : DtEnv} {m : MsGicMap}

-- =========================================================== the statement

/-- A request to the loaded module. -/
structure IoctlRequest where
  build : Build
  machine : Machine
  cmd : U32
  arg : MsDataCpu

/-- The module after serving a request. -/
def Loaded.serve (m : Loaded) (q : IoctlRequest) : Loaded :=
  { m with
    globals := (msIoctl q.build q.machine m.globals q.cmd q.arg).globals }

/-- A load that fails leaves nothing mapped, and after one that succeeds,
whatever requests follow, unloading unmaps every mapping once. -/
structure LoadBalanced (env : LoadEnv) : Prop where
  failed : (maplesyrupInit env).1 ≠ 0 → (maplesyrupInit env).2.mapped = []
  loaded : (maplesyrupInit env).1 = 0 → ∀ requests : List IoctlRequest,
    let m := requests.foldl Loaded.serve (maplesyrupInit env).2
    (maplesyrupExit m).1.Perm (maplesyrupInit env).2.mapped
      ∧ (maplesyrupExit m).2.mapped = []

/-- The distributor gets mapped: a supported node gives the addresses of
the distributor and the cpu interface, and the first `ioremap`
succeeds. -/
def MapsGicd (env : DtEnv) : Prop :=
  ∃ res gicd gicc, gSupportedGic.findSome? env.compatible = some res
    ∧ res 0 = some gicd ∧ res 1 = some gicc ∧ gicd.start ≠ 0
    ∧ env.ioremap 0 gicd.start (.ofNat 32 gicd.size) ≠ 0

-- ============================================================= the mapping

/-- Nothing of the map is mapped yet. -/
structure Unmapped (m : MsGicMap) : Prop where
  gicc : m.giccVirt = 0
  gicd : m.gicdVirt = 0
  gich : m.gichVirt = 0
  gicv : m.gicvVirt = 0

theorem msFindGicDevices_unmapped (hm : Unmapped m) :
    Unmapped (msFindGicDevices env m).2 := by
  obtain ⟨hgicc, hgicd, hgich, hgicv⟩ := hm
  unfold msFindGicDevices
  split
  · exact ⟨hgicc, hgicd, hgich, hgicv⟩
  · split
    · exact ⟨hgicc, hgicd, hgich, hgicv⟩
    · dsimp only
      split
      · exact ⟨hgicc, hgicd, hgich, hgicv⟩
      · -- the optional resources record physical addresses too
        split
        · split
          · exact ⟨hgicc, hgicd, hgich, hgicv⟩
          · exact ⟨hgicc, hgicd, hgich, hgicv⟩
        · split
          · exact ⟨hgicc, hgicd, hgich, hgicv⟩
          · exact ⟨hgicc, hgicd, hgich, hgicv⟩

theorem Unmapped.cleanup (hm : Unmapped m) : msCleanupGic m = [] := by
  obtain ⟨hgicc, hgicd, hgich, hgicv⟩ := hm
  simp [msCleanupGic, notNull, hgicc, hgicd, hgich, hgicv]

/-- Wherever the mapping stops, the map holds the mappings made. -/
theorem msRemapGic_balanced (hm : Unmapped m) :
    (msCleanupGic (msRemapGic env m).2.map).Perm
      (msRemapGic env m).2.mapped := by
  obtain ⟨hgicc, hgicd, hgich, hgicv⟩ := hm
  unfold msRemapGic
  dsimp only
  split_ifs
  all_goals simp_all [msCleanupGic, notNull, List.Perm.swap]

/-- Something is mapped once the distributor is. -/
theorem msRemapGic_mapped :
    (msRemapGic env m).2.mapped = []
      ↔ ¬ (m.gicdPhys ≠ 0 ∧ env.ioremap 0 m.gicdPhys m.gicdSize ≠ 0) := by
  unfold msRemapGic
  dsimp only
  by_cases hphys : m.gicdPhys = 0
  · simp [hphys]
  by_cases hmap : env.ioremap 0 m.gicdPhys m.gicdSize = 0
  · simp [hphys, hmap]
  · rw [if_neg hphys, if_neg hmap]
    refine iff_of_false ?_ fun hnot => hnot ⟨hphys, hmap⟩
    split_ifs
    all_goals simp

/-- The physical addresses of a map that was filled. -/
theorem msFindGicDevices_ok :
    (msFindGicDevices env m).1 = 0
      ↔ ∃ res gicd gicc, gSupportedGic.findSome? env.compatible = some res
        ∧ res 0 = some gicd ∧ res 1 = some gicc := by
  unfold msFindGicDevices
  cases hnode : gSupportedGic.findSome? env.compatible with
  | none => simp
  | some res =>
      cases hgicd : res 0 with
      | none => simp [hgicd]
      | some gicd =>
          cases hgicc : res 1 with
          | none => simp [hgicd, hgicc]
          | some gicc => simp [hgicd, hgicc]

theorem msFindGicDevices_gicd
    {res : Nat → Option Resource} {gicd gicc : Resource}
    (hnode : gSupportedGic.findSome? env.compatible = some res)
    (hgicd : res 0 = some gicd) (hgicc : res 1 = some gicc) :
    (msFindGicDevices env m).2.gicdPhys = gicd.start
      ∧ (msFindGicDevices env m).2.gicdSize = .ofNat 32 gicd.size := by
  unfold msFindGicDevices
  simp only [hnode, hgicd, hgicc]
  cases res 2 with
  | none => cases res 3 <;> exact ⟨rfl, rfl⟩
  | some gich => cases res 3 <;> exact ⟨rfl, rfl⟩

/-- What the device tree leaves is what the mapping leaves, or nothing. -/
theorem msInitDtData_eq :
    (msInitDtData env).2
      = if (msFindGicDevices env {}).1 ≠ 0 then
          { map := (msFindGicDevices env {}).2 }
        else (msRemapGic env (msFindGicDevices env {}).2).2 := by
  unfold msInitDtData msPopulateGicMap
  dsimp only
  split_ifs <;> rfl

theorem msInitDtData_balanced :
    (msCleanupGic (msInitDtData env).2.map).Perm
      (msInitDtData env).2.mapped := by
  have hunmapped : Unmapped (msFindGicDevices env {}).2 :=
    msFindGicDevices_unmapped ⟨rfl, rfl, rfl, rfl⟩
  rw [msInitDtData_eq]
  split
  · rw [hunmapped.cleanup]
  · exact msRemapGic_balanced hunmapped

theorem msInitDtData_mapped :
    (msInitDtData env).2.mapped = [] ↔ ¬ MapsGicd env := by
  rw [msInitDtData_eq]
  split
  · rename_i hfail
    refine iff_of_true rfl fun hmaps => hfail (msFindGicDevices_ok.2 ?_)
    obtain ⟨res, gicd, gicc, hnode, hgicd, hgicc, -⟩ := hmaps
    exact ⟨res, gicd, gicc, hnode, hgicd, hgicc⟩
  · rename_i hfound
    obtain ⟨res, gicd, gicc, hnode, hgicd, hgicc⟩ :=
      msFindGicDevices_ok.1 (not_not.1 hfound)
    obtain ⟨hphys, hsize⟩ := msFindGicDevices_gicd hnode hgicd hgicc
    rw [msRemapGic_mapped, hphys, hsize, not_iff_not]
    constructor
    · rintro ⟨hstart, hmap⟩
      exact ⟨res, gicd, gicc, hnode, hgicd, hgicc, hstart, hmap⟩
    · rintro ⟨res', gicd', gicc', hnode', hgicd', -, hmaps⟩
      obtain rfl := Option.some.inj (hnode.symm.trans hnode')
      obtain rfl := Option.some.inj (hgicd.symm.trans hgicd')
      exact hmaps

-- ============================================================== the unload

theorem foldl_erase_perm {l mapped : List Nat} (h : l.Perm mapped) :
    l.foldl List.erase mapped = [] := by
  induction l generalizing mapped with
  | nil => exact h.nil_eq.symm
  | cons a l ih => exact ih (List.cons_perm_iff_perm_erase.1 h).2

-- ================================================================ the load

/-- A load succeeds with a hook to register and the device registered. -/
theorem maplesyrupInit_ret (env : LoadEnv) :
    (maplesyrupInit env).1 = 0
      ↔ env.kallsymsLookupName "register_undef_hook" = true
        ∧ env.miscRegister = true := by
  unfold maplesyrupInit msFindUndefHook
  cases env.kallsymsLookupName "register_undef_hook" with
  | false => simp
  | true => cases env.miscRegister <;> simp

/-- It maps what the device tree says, once it gets there. -/
theorem maplesyrupInit_mapped (env : LoadEnv) :
    (maplesyrupInit env).2.mapped = []
      ↔ ¬ (env.kallsymsLookupName "register_undef_hook" = true
        ∧ MapsGicd env.dt) := by
  have hmapped : (msInitDtData env.dt).2.mapped = [] ↔ ¬ MapsGicd env.dt :=
    msInitDtData_mapped
  unfold maplesyrupInit msFindUndefHook
  cases env.kallsymsLookupName "register_undef_hook" with
  | false => simp
  | true => cases env.miscRegister <;> simpa using hmapped

theorem maplesyrupInit_balanced (env : LoadEnv) :
    (msCleanupGic (maplesyrupInit env).2.globals.gicMap).Perm
      (maplesyrupInit env).2.mapped := by
  unfold maplesyrupInit msFindUndefHook
  cases env.kallsymsLookupName "register_undef_hook" with
  | false => exact List.Perm.refl _
  | true =>
      cases env.miscRegister with
      | false => exact msInitDtData_balanced
      | true => exact msInitDtData_balanced

/-- Requests change neither the GIC map nor the mappings. -/
theorem served_kept (m : Loaded) (requests : List IoctlRequest) :
    (requests.foldl Loaded.serve m).globals.gicMap = m.globals.gicMap
      ∧ (requests.foldl Loaded.serve m).mapped = m.mapped := by
  refine Base.foldl_keeps (I := fun s : Loaded =>
    s.globals.gicMap = m.globals.gicMap ∧ s.mapped = m.mapped) ?_ ⟨rfl, rfl⟩
  intro s q _ hs
  exact ⟨(msIoctl_gicMap s.globals q.cmd q.arg).trans hs.1, hs.2⟩

/-- A load is all or nothing, and its mappings are balanced, unless the
device cannot be registered with the distributor mapped by then. -/
theorem load_balanced_iff (env : LoadEnv) :
    LoadBalanced env
      ↔ ¬ (env.kallsymsLookupName "register_undef_hook" = true
        ∧ MapsGicd env.dt ∧ env.miscRegister = false) := by
  have hret := maplesyrupInit_ret env
  have hmapped := maplesyrupInit_mapped env
  constructor
  · rintro hbalanced ⟨hfound, hmaps, hmisc⟩
    have hfail : (maplesyrupInit env).1 ≠ 0 := by
      rw [Ne, hret, hmisc]
      simp
    exact hmapped.1 (hbalanced.failed hfail) ⟨hfound, hmaps⟩
  · intro hnot
    refine ⟨fun hfail => ?_, fun _ requests => ?_⟩
    · rw [hmapped]
      rintro ⟨hfound, hmaps⟩
      rw [Ne, hret, not_and, Bool.not_eq_true] at hfail
      exact hnot ⟨hfound, hmaps, hfail hfound⟩
    · obtain ⟨hmap, hkept⟩ := served_kept (maplesyrupInit env).2 requests
      have hperm := maplesyrupInit_balanced env
      rw [← hmap] at hperm
      refine ⟨hperm, ?_⟩
      show (msCleanupGic _).foldl List.erase _ = []
      rw [hkept]
      exact foldl_erase_perm hperm

/-- A machine with a GIC, both its interfaces mapped, where the device
cannot be registered. -/
def unregistered : LoadEnv where
  kallsymsLookupName := fun _ => true
  dt :=
    { compatible := fun _ => some fun n =>
        if n < 2 then some ⟨0x2C001000, 0x1000⟩ else none
      ioremap := fun n _ _ => 0xF0000000 + n }
  miscRegister := false

/-- Its two mappings outlive the load. -/
theorem load_balanced_fails : ¬ ∀ env, LoadBalanced env := by
  intro hall
  have hnone := (hall unregistered).failed (by decide)
  exact absurd hnone (by decide)

end Maplesyrup
