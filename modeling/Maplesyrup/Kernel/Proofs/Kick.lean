/-
What a whole request leaves in the eight slots.

`onEachCpuKick` runs one function on the cpus a request names. Both
functions the module runs there touch the slot of the cpu they run on
and nothing else (`CpuFn`), so each pass of the loop is one store
(`pass_data`), the loop is `Base.foldl_cell`, and a slot afterwards is
decided by the fate of its cpu (`kick_slot`).

# Without CONFIG_SMP

The function runs on the only cpu whatever was asked for, and always
into slot 0. A request for every cpu then fills slot 0 eight times with
the same read.
-/
import Maplesyrup.Kernel.Proofs.Slots

namespace Maplesyrup

variable {b : Build} {mc : Machine}

-- ==================================================== the cpu function

/-- A function that works on the slot of the cpu it runs on, in states
that satisfy `I`: it updates that slot by `upd` and records `added`. -/
structure CpuFn (b : Build) (fn : Nat → KState → KState)
    (I : KState → Prop) (upd : Nat → MsData → MsData)
    (added : Nat → List KEvent) : Prop where
  keeps : ∀ cur s, I s → I (fn cur s)
  stores : ∀ i f s, I s → I (s.slot i f)
  data : ∀ cur s, I s →
    (fn cur s).data = s.data.slot (b.cpuIndex cur) (upd cur)
  trace : ∀ cur s, I s → (fn cur s).trace = s.trace ++ added cur
  idem : ∀ cur d, upd cur (upd cur d) = upd cur d

@[simp] theorem cpuIndex_cpuIndex (b : Build) (c : Nat) :
    b.cpuIndex (b.cpuIndex c) = b.cpuIndex c := by
  unfold Build.cpuIndex
  split <;> rfl

/-- The cpus a request visits. -/
def kickCpus (pcpu : U32) : List Nat :=
  if pcpu = msCpuAll then List.range msMaxCpus else [pcpu.toNat]

/-- Does the request name this cpu? -/
def requested (pcpu : U32) (j : Nat) : Prop :=
  pcpu = msCpuAll ∨ pcpu.toNat = j

instance (pcpu : U32) (j : Nat) : Decidable (requested pcpu j) :=
  inferInstanceAs (Decidable (_ ∨ _))

/-- A request is in range when it names every cpu or one that has a
slot. -/
def InRange (pcpu : U32) : Prop :=
  pcpu = msCpuAll ∨ pcpu.toNat < msMaxCpus

instance (pcpu : U32) : Decidable (InRange pcpu) :=
  inferInstanceAs (Decidable (_ ∨ _))

theorem mem_kickCpus {pcpu : U32} {j : Nat} (hj : j < msMaxCpus) :
    j ∈ kickCpus pcpu ↔ requested pcpu j := by
  unfold kickCpus requested
  split
  · rename_i hall
    simp [hall, hj]
  · rename_i hall
    simp [hall, eq_comm]

theorem kickCpus_lt {pcpu : U32} (hp : InRange pcpu) :
    ∀ c ∈ kickCpus pcpu, c < msMaxCpus := by
  intro c hc
  unfold kickCpus at hc
  split at hc
  · exact List.mem_range.1 hc
  · rename_i hall
    obtain hall' | hlt := hp
    · exact absurd hall' hall
    · rwa [List.mem_singleton.1 hc]

theorem kickCpus_nodup (pcpu : U32) : (kickCpus pcpu).Nodup := by
  unfold kickCpus
  split
  · exact List.nodup_range
  · exact List.nodup_singleton _

theorem kickCpus_ne_nil (pcpu : U32) : kickCpus pcpu ≠ [] := by
  unfold kickCpus
  split
  · decide
  · exact List.cons_ne_nil _ _

/-- A request in range is a loop over the cpus it names. -/
theorem onEachCpuKick_eq {fn : Nat → KState → KState} {s : KState}
    (hp : InRange s.data.pcpu) :
    onEachCpuKick b mc fn s
      = (0, (kickCpus s.data.pcpu).foldl
          (fun s i => (cpuOnlineWrapper b mc fn i s).2) s) := by
  unfold onEachCpuKick kickCpus
  split
  · rfl
  · rename_i hall
    obtain hall' | hlt := hp
    · exact absurd hall' hall
    · rw [if_neg (by omega)]
      rfl

-- ============================================================ one pass

variable {fn : Nat → KState → KState} {I : KState → Prop}
  {upd : Nat → MsData → MsData} {added : Nat → List KEvent}

/-- What a pass over a cpu in range records. -/
def passTrace (b : Build) (mc : Machine) (added : Nat → List KEvent)
    (c : Nat) : List KEvent :=
  match reach b mc c with
  | .ran => added (b.cpuIndex c)
  | _ => [.slot c]

/-- Without CONFIG_SMP every cpu is reached. -/
theorem reach_single (hb : b.configSmp = false) (c : Nat) :
    reach b mc c = .ran := by
  simp [reach, hb]

theorem cpuIndex_smp (hb : b.configSmp = true) (c : Nat) :
    b.cpuIndex c = c := by
  simp [Build.cpuIndex, hb]

theorem cpuIndex_single (hb : b.configSmp = false) (c : Nat) :
    b.cpuIndex c = 0 := by
  simp [Build.cpuIndex, hb]

/-- A cpu that was not reached is one of a CONFIG_SMP build, so its own
slot is the one the functions would use. -/
theorem cpuIndex_of_not_ran {c : Nat} (h : reach b mc c ≠ .ran) :
    b.cpuIndex c = c := by
  cases hb : b.configSmp with
  | true => exact cpuIndex_smp hb c
  | false => exact absurd (reach_single hb c) h

theorem pass_keeps (hfn : CpuFn b fn I upd added) {c : Nat}
    (hc : c < msMaxCpus) {s : KState} (hs : I s) :
    I (cpuOnlineWrapper b mc fn c s).2 := by
  rw [cpuOnlineWrapper_eq hc]
  split
  · exact hfn.keeps _ s hs
  · exact hfn.stores _ _ s hs

/-- A pass over a cpu in range is one store into that cpu's slot. -/
theorem pass_data (hfn : CpuFn b fn I upd added) {c : Nat}
    (hc : c < msMaxCpus) {s : KState} (hs : I s) :
    (cpuOnlineWrapper b mc fn c s).2.data
      = s.data.slot (b.cpuIndex c)
          ((reach b mc c).slot (upd (b.cpuIndex c))) := by
  rw [cpuOnlineWrapper_eq hc]
  cases hr : reach b mc c with
  | ran =>
      show (fn (b.cpuIndex c) s).data = _
      rw [hfn.data _ s hs, cpuIndex_cpuIndex]
      rfl
  | untouched =>
      rw [cpuIndex_of_not_ran (by rw [hr]; decide)]
      rfl
  | down =>
      rw [cpuIndex_of_not_ran (by rw [hr]; decide)]
      rfl
  | failed =>
      rw [cpuIndex_of_not_ran (by rw [hr]; decide)]
      rfl

theorem pass_trace (hfn : CpuFn b fn I upd added) {c : Nat}
    (hc : c < msMaxCpus) {s : KState} (hs : I s) :
    (cpuOnlineWrapper b mc fn c s).2.trace
      = s.trace ++ passTrace b mc added c := by
  rw [cpuOnlineWrapper_eq hc, passTrace]
  cases hr : reach b mc c with
  | ran => exact hfn.trace _ s hs
  | untouched => rfl
  | down => rfl
  | failed => rfl

-- ============================================================ the loop

/-- What a request makes of the cpu behind slot `j`. -/
def fate (b : Build) (mc : Machine) (pcpu : U32) (j : Nat) : Fate :=
  if b.configSmp then
    if requested pcpu j then reach b mc j else .untouched
  else if j = 0 then .ran
  else .untouched

/-- What a pass makes of any slot: only the running cpu's changes. -/
theorem pass_slot (hfn : CpuFn b fn I upd added) {c : Nat}
    (hc : c < msMaxCpus) {s : KState} (hs : I s) (k : Fin msMaxCpus) :
    (cpuOnlineWrapper b mc fn c s).2.data.results.cpu k
      = if k.val = b.cpuIndex c then
          (reach b mc c).slot (upd (b.cpuIndex c))
            (s.data.results.cpu k)
        else s.data.results.cpu k := by
  rw [pass_data hfn hc hs, slot_cpu]

/-- With CONFIG_SMP each pass has a slot of its own. -/
theorem kick_slot_smp (hfn : CpuFn b fn I upd added)
    (hb : b.configSmp = true) {s : KState} (hp : InRange s.data.pcpu)
    (hs : I s) (j : Fin msMaxCpus) :
    (onEachCpuKick b mc fn s).2.data.results.cpu j
      = if requested s.data.pcpu j then
          (reach b mc j).slot (upd j) (s.data.results.cpu j)
        else s.data.results.cpu j := by
  have hcell : ∀ t, ∀ c ∈ kickCpus s.data.pcpu, I t →
      ∀ k : Fin msMaxCpus,
      (cpuOnlineWrapper b mc fn c t).2.data.results.cpu k
        = if k.val = c then
            (reach b mc k).slot (upd k) (t.data.results.cpu k)
          else t.data.results.cpu k := by
    intro t c hc ht k
    rw [pass_slot hfn (kickCpus_lt hp c hc) ht k, cpuIndex_smp hb]
    split
    · rename_i hk
      rw [hk]
    · rfl
  rw [onEachCpuKick_eq hp]
  have hloop := Base.foldl_cell
    (fun (t : KState) (k : Fin msMaxCpus) => t.data.results.cpu k)
    (fun k => (reach b mc k).slot (upd k)) (fun k => k.val)
    (kickCpus_nodup s.data.pcpu)
    (fun t c hc ht => pass_keeps hfn (kickCpus_lt hp c hc) ht) hcell hs j
  rw [hloop]
  simp only [mem_kickCpus j.isLt]

/-- Without it every pass runs on the one cpu. -/
theorem kick_slot_single (hfn : CpuFn b fn I upd added)
    (hb : b.configSmp = false) {s : KState} (hp : InRange s.data.pcpu)
    (hs : I s) (j : Fin msMaxCpus) :
    (onEachCpuKick b mc fn s).2.data.results.cpu j
      = if j.val = 0 then upd 0 (s.data.results.cpu j)
        else s.data.results.cpu j := by
  have hcell : ∀ t, ∀ c ∈ kickCpus s.data.pcpu, I t →
      (cpuOnlineWrapper b mc fn c t).2.data.results.cpu j
        = if j.val = 0 then upd 0 (t.data.results.cpu j)
          else t.data.results.cpu j := by
    intro t c hc ht
    rw [pass_slot hfn (kickCpus_lt hp c hc) ht j, cpuIndex_single hb,
      reach_single hb]
    rfl
  have hidem : ∀ d, (if j.val = 0 then upd 0 (if j.val = 0 then upd 0 d
      else d) else if j.val = 0 then upd 0 d else d)
      = if j.val = 0 then upd 0 d else d := by
    intro d
    by_cases hj : j.val = 0
    · simp [hj, hfn.idem]
    · simp [hj]
  rw [onEachCpuKick_eq hp]
  exact Base.foldl_idem (fun t : KState => t.data.results.cpu j)
    (fun d => if j.val = 0 then upd 0 d else d) hidem
    (fun t c hc ht => pass_keeps hfn (kickCpus_lt hp c hc) ht) hcell hs
    (kickCpus_ne_nil _)

/-- After a request in range, a slot's content is decided by the fate of
its cpu. -/
theorem kick_slot (hfn : CpuFn b fn I upd added) {s : KState}
    (hp : InRange s.data.pcpu) (hs : I s) (j : Fin msMaxCpus) :
    (onEachCpuKick b mc fn s).2.data.results.cpu j
      = (fate b mc s.data.pcpu j).slot (upd j)
          (s.data.results.cpu j) := by
  unfold fate
  cases hb : b.configSmp with
  | true =>
      rw [kick_slot_smp hfn hb hp hs, if_pos rfl]
      split <;> rfl
  | false =>
      rw [kick_slot_single hfn hb hp hs, if_neg Bool.false_ne_true]
      split
      · rename_i hj
        rw [hj]
        rfl
      · rfl

/-- What a request in range records. -/
theorem kick_trace (hfn : CpuFn b fn I upd added) {s : KState}
    (hp : InRange s.data.pcpu) (hs : I s) :
    (onEachCpuKick b mc fn s).2.trace
      = s.trace
        ++ (kickCpus s.data.pcpu).flatMap (passTrace b mc added) := by
  rw [onEachCpuKick_eq hp]
  exact Base.foldl_log KState.trace
    (fun t c hc ht => pass_keeps hfn (kickCpus_lt hp c hc) ht)
    (fun t c hc ht => pass_trace hfn (kickCpus_lt hp c hc) ht) hs

end Maplesyrup
