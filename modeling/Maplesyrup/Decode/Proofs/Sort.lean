/-
What the sorting makes of a list of requests: the two worklists in closed
form, and from it how often each holds a register.

A register is put on its worklists by the first of its requests that
calls for one of the two levels, and all its later requests are passed
over. So the levels it is read at are those of that request, whatever
the others call for.
-/
import Maplesyrup.Base.Keyed
import Maplesyrup.Decode.Driver

namespace Maplesyrup

open Base

-- ========================================================= the worklists

/-- A worklist entry made from a request. -/
def workOf (r : ResultsInfo) : UsedIoctl :=
  ⟨r.registerUid, r.cpu, r.partNumber⟩

/-- The request calls for the level. -/
def ResultsInfo.callsFor (r : ResultsInfo) (level : U32) : Bool :=
  r.levels &&& level != 0

/-- The request calls for a level that is read. -/
def ResultsInfo.readable (r : ResultsInfo) : Bool :=
  r.callsFor nsPrivilegeLevel0 || r.callsFor nsPrivilegeLevel1

/-- The requests that put their registers on the worklists. -/
def leaders (l : List ResultsInfo) : List ResultsInfo :=
  firsts ResultsInfo.registerUid (l.filter ResultsInfo.readable)

/-- The worklist of a level. -/
def workAt (level : U32) (l : List ResultsInfo) : List UsedIoctl :=
  ((leaders l).filter fun r => r.callsFor level).map workOf

/-- One step of the sorting when no allocation fails. -/
theorem sortStep_ok (r : ResultsInfo) (d u : List UsedIoctl) :
    sortStep ⟨d, u, .ok⟩ r
      = if used d r.registerUid || used u r.registerUid then ⟨d, u, .ok⟩
        else
          ⟨if r.callsFor nsPrivilegeLevel1 then d ++ [workOf r] else d,
          if r.callsFor nsPrivilegeLevel0 then u ++ [workOf r] else u,
          .ok⟩ := by
  unfold sortStep breakoutAddIoctl ResultsInfo.callsFor
  simp only [bne_iff_ne]
  split
  · rfl
  · by_cases h0 : r.levels &&& nsPrivilegeLevel0 = 0 <;>
      by_cases h1 : r.levels &&& nsPrivilegeLevel1 = 0 <;>
      simp only [h0, h1, ne_eq, not_true_eq_false, not_false_eq_true,
        ↓reduceIte, msListAdd_ok] <;> rfl

variable {l : List ResultsInfo} {r : ResultsInfo}

theorem readable_of_mem_leaders (hr : r ∈ leaders l) :
    r.readable = true := by
  have hfirst := mem_firsts.1 hr
  exact (List.mem_filter.1 (List.mem_of_find?_eq_some hfirst)).2

/-- A register is on a worklist iff a leader has put it there. -/
theorem used_work (l : List ResultsInfo) (uid : U32) :
    (used (workAt nsPrivilegeLevel1 l) uid
      || used (workAt nsPrivilegeLevel0 l) uid)
      = (leaders l).any fun r => r.registerUid == uid := by
  rw [Bool.eq_iff_iff, Bool.or_eq_true]
  unfold used workAt
  simp only [List.any_map, List.any_eq_true, List.mem_filter,
    Function.comp]
  constructor
  · intro hcase
    rcases hcase with ⟨r, ⟨hr, -⟩, huid⟩ | ⟨r, ⟨hr, -⟩, huid⟩
    · exact ⟨r, hr, huid⟩
    · exact ⟨r, hr, huid⟩
  · intro hex
    obtain ⟨r, hr, huid⟩ := hex
    have hread := readable_of_mem_leaders hr
    rw [ResultsInfo.readable, Bool.or_eq_true] at hread
    rcases hread with h0 | h1
    · exact Or.inr ⟨r, ⟨hr, h0⟩, huid⟩
    · exact Or.inl ⟨r, ⟨hr, h1⟩, huid⟩

theorem leaders_append (l : List ResultsInfo) (r : ResultsInfo) :
    leaders (l ++ [r])
      = if r.readable then insertKey ResultsInfo.registerUid (leaders l) r
        else leaders l := by
  unfold leaders
  rw [List.filter_append]
  cases hread : r.readable with
  | true =>
      rw [List.filter_cons_of_pos hread, List.filter_nil, if_pos rfl]
      exact firsts_append _ r
  | false =>
      have hnot : ¬ r.readable = true := by simp [hread]
      rw [List.filter_cons_of_neg hnot, List.filter_nil, List.append_nil]
      rfl

/-- The sorting gives the worklists of the two levels. -/
theorem sorted (l : List ResultsInfo) :
    l.foldl sortStep { alloc := .ok }
      = ⟨workAt nsPrivilegeLevel1 l, workAt nsPrivilegeLevel0 l, .ok⟩ := by
  induction l using List.reverseRecOn with
  | nil => rfl
  | append_singleton l r ih =>
      rw [List.foldl_append, ih, List.foldl_cons, List.foldl_nil,
        sortStep_ok, used_work]
      unfold workAt
      rw [leaders_append, insertKey]
      by_cases hseen : ((leaders l).any fun q =>
          q.registerUid == r.registerUid) = true
      · rw [if_pos hseen, if_pos hseen, ite_self]
      · rw [if_neg hseen, if_neg hseen]
        cases hread : r.readable with
        | true =>
            simp only [↓reduceIte, List.filter_append,
              List.filter_singleton]
            cases r.callsFor nsPrivilegeLevel0 <;>
              cases r.callsFor nsPrivilegeLevel1 <;> simp
        | false =>
            rw [ResultsInfo.readable, Bool.or_eq_false_iff] at hread
            simp [hread.1, hread.2]

-- ============================================================ the leader

/-- The first request for the register that calls for one of the two
levels. -/
def leader (l : List ResultsInfo) (uid : U32) : Option ResultsInfo :=
  l.find? fun r => r.registerUid == uid && r.readable

theorem mem_leaders :
    r ∈ leaders l ↔ leader l r.registerUid = some r := by
  have hboth : (fun q : ResultsInfo => q.registerUid == r.registerUid
      && q.readable)
      = fun q => decide (q.readable = true
        ∧ (q.registerUid == r.registerUid) = true) := by
    funext q
    rw [Bool.decide_and, Bool.decide_eq_true, Bool.decide_eq_true,
      Bool.and_comm]
  unfold leaders leader
  rw [mem_firsts, List.find?_filter, hboth]

/-- How often a worklist holds a register. -/
def occurrences (list : List UsedIoctl) (uid : U32) : Nat :=
  list.countP fun u => u.registerUid == uid

/-- A worklist holds a register once if its leader calls for the level,
and not at all otherwise. -/
theorem occurrences_workAt (level : U32) (l : List ResultsInfo)
    (uid : U32) :
    occurrences (workAt level l) uid
      = if (leader l uid).any fun r => r.callsFor level then 1 else 0 := by
  have hcount : occurrences (workAt level l) uid
      = (((leaders l).filter fun r => r.callsFor level).filter
          fun r => uid == r.registerUid).length := by
    unfold occurrences workAt
    rw [List.countP_map, List.countP_eq_length_filter]
    congr 2
    funext r
    exact Bool.beq_comm
  rw [hcount]
  cases hlead : leader l uid with
  | some r =>
      have huid : r.registerUid = uid := by
        have hr := List.find?_some hlead
        rw [Bool.and_eq_true, beq_iff_eq] at hr
        exact hr.1
      subst huid
      have hone := filter_filter_key ResultsInfo.registerUid
        (firsts_nodup _ _) (fun q : ResultsInfo => q.callsFor level)
        (mem_leaders.2 hlead)
      rw [leaders, hone]
      cases hcalls : r.callsFor level <;> simp [hcalls]
  | none =>
      have hempty : ((leaders l).filter fun r => r.callsFor level).filter
          (fun r => uid == r.registerUid) = [] := by
        refine List.filter_eq_nil_iff.2 fun r hr huid => ?_
        have hlead' := mem_leaders.1 (List.mem_filter.1 hr).1
        rw [← beq_iff_eq.1 huid, hlead] at hlead'
        exact absurd hlead' (by simp)
      rw [hempty]
      rfl

-- ================================================================ dispatch

/-- Some request for the register calls for the level. -/
def wanted (l : List ResultsInfo) (uid level : U32) : Bool :=
  l.any fun r => r.registerUid == uid && r.callsFor level

/-- The register is read once at each level that is called for, and at
no other. -/
structure DispatchedOnce (l : List ResultsInfo) (uid : U32) : Prop where
  usermode :
    occurrences (l.foldl sortStep { alloc := .ok }).toUsermode uid
      = if wanted l uid nsPrivilegeLevel0 then 1 else 0
  driver :
    occurrences (l.foldl sortStep { alloc := .ok }).toDriver uid
      = if wanted l uid nsPrivilegeLevel1 then 1 else 0

theorem wanted_of_mem {uid level : U32} (hr : r ∈ l)
    (huid : r.registerUid = uid) (hcalls : r.callsFor level = true) :
    wanted l uid level = true :=
  List.any_eq_true.2 ⟨r, hr, by simp [huid, hcalls]⟩

theorem leader_mem {uid : U32} (hr : leader l uid = some r) :
    r ∈ l ∧ r.registerUid = uid := by
  have hfound := List.find?_some hr
  rw [Bool.and_eq_true, beq_iff_eq] at hfound
  exact ⟨List.mem_of_find?_eq_some hr, hfound.1⟩

/-- A register without a leader is not wanted at all. -/
theorem wanted_of_leader_none {uid level : U32}
    (hlevel : ∀ r : ResultsInfo, r.callsFor level = true →
      r.readable = true)
    (hnone : leader l uid = none) : wanted l uid level = false := by
  rw [Bool.eq_false_iff]
  intro hwanted
  obtain ⟨r, hr, hcalls⟩ := List.any_eq_true.1 hwanted
  rw [Bool.and_eq_true] at hcalls
  refine List.find?_eq_none.1 hnone r hr ?_
  rw [Bool.and_eq_true]
  exact ⟨hcalls.1, hlevel r hcalls.2⟩

/-- One worklist is right iff the leader speaks for all requests of its
register. -/
theorem occurrences_iff {uid level : U32}
    (hlevel : ∀ r : ResultsInfo, r.callsFor level = true →
      r.readable = true) :
    (occurrences (workAt level l) uid
        = if wanted l uid level then 1 else 0)
      ↔ ∀ r, leader l uid = some r → ∀ q ∈ l, q.registerUid = uid →
          q.callsFor level = true → r.callsFor level = true := by
  rw [occurrences_workAt]
  cases hlead : leader l uid with
  | none =>
      rw [wanted_of_leader_none hlevel hlead]
      simp
  | some r =>
      obtain ⟨hr, huid⟩ := leader_mem hlead
      cases hcalls : r.callsFor level with
      | true =>
          rw [wanted_of_mem hr huid hcalls]
          simp [hcalls]
      | false =>
          constructor
          · intro hcount s hs q hq hquid hqcalls
            rw [wanted_of_mem hq hquid hqcalls] at hcount
            simp [hcalls] at hcount
          · intro hspeaks
            have hnot : wanted l uid level = false := by
              rw [Bool.eq_false_iff]
              intro hwanted
              obtain ⟨q, hq, hqcalls⟩ := List.any_eq_true.1 hwanted
              rw [Bool.and_eq_true, beq_iff_eq] at hqcalls
              have hrcalls := hspeaks r rfl q hq hqcalls.1 hqcalls.2
              rw [hcalls] at hrcalls
              exact Bool.noConfusion hrcalls
            rw [hnot]
            simp [hcalls]

theorem readable_of_callsFor {level : U32}
    (hlevel : level ∈ [nsPrivilegeLevel0, nsPrivilegeLevel1])
    (r : ResultsInfo) (hcalls : r.callsFor level = true) :
    r.readable = true := by
  rcases List.mem_pair.1 hlevel with rfl | rfl
  · simp [ResultsInfo.readable, hcalls]
  · simp [ResultsInfo.readable, hcalls]

/-- Where the leader speaks for all, both worklists are right. -/
theorem dispatchedOnce_of_leader {uid : U32}
    (hspeaks : ∀ r, leader l uid = some r → ∀ q ∈ l, q.registerUid = uid →
      ∀ level ∈ [nsPrivilegeLevel0, nsPrivilegeLevel1],
        q.callsFor level = true → r.callsFor level = true) :
    DispatchedOnce l uid := by
  have hlist : ∀ level ∈ [nsPrivilegeLevel0, nsPrivilegeLevel1],
      occurrences (workAt level l) uid
        = if wanted l uid level then 1 else 0 := by
    intro level hlevel
    apply (occurrences_iff (readable_of_callsFor hlevel)).2
    exact fun r hr q hq huid => hspeaks r hr q hq huid level hlevel
  constructor
  · rw [sorted]
    exact hlist _ (List.mem_cons_self ..)
  · rw [sorted]
    exact hlist _ (by simp)

/-- Dispatch is complete and free of duplicates iff the first request of
the register that calls for a level calls for every level another one
calls for. -/
theorem dispatched_once_iff (l : List ResultsInfo) (uid : U32) :
    DispatchedOnce l uid ↔
      ∀ r, leader l uid = some r → ∀ q ∈ l, q.registerUid = uid →
        ∀ level ∈ [nsPrivilegeLevel0, nsPrivilegeLevel1],
          q.callsFor level = true → r.callsFor level = true := by
  constructor
  · rintro ⟨husermode, hdriver⟩ r hr q hq huid level hlevel
    have hreadable := readable_of_callsFor hlevel
    rw [sorted] at husermode hdriver
    rcases List.mem_pair.1 hlevel with rfl | rfl
    · exact (occurrences_iff hreadable).1 husermode r hr q hq huid
    · exact (occurrences_iff hreadable).1 hdriver r hr q hq huid
  · exact dispatchedOnce_of_leader

/-- A query that forces its levels is dispatched right. -/
theorem dispatched_once_forced {pl : U32} (hpl : ∀ r ∈ l, r.pl = pl)
    (hforced : pl &&& preferredPl = 0) (uid : U32) :
    DispatchedOnce l uid := by
  have hlevels : ∀ r ∈ l, r.levels = pl := by
    intro r hr
    rw [ResultsInfo.levels, hpl r hr, if_neg (not_not.2 hforced)]
  apply dispatchedOnce_of_leader
  intro r hr q hq _ level _ hcalls
  rw [ResultsInfo.callsFor, hlevels q hq] at hcalls
  rw [ResultsInfo.callsFor, hlevels r (leader_mem hr).1]
  exact hcalls

/-- The requests for the fields of CPSR, each on its own level. -/
def cpsrRequests : List ResultsInfo :=
  (bitfieldArmv7aTable.filter fun row =>
    row.registerUid == MsSysreg.CPSR).map fun row =>
      { registerUid := row.registerUid
        uid := mscode archArmv7a row.registerUid row.uid
        ppl := row.ppl
        pl := preferredPl
        cpu := msCpuAll
        noparse := 0
        partNumber := archArmv7a
        calcValid := 0
        calcValue := 0 }

/-- The fields of CPSR that user mode may read are not read there. -/
theorem dispatched_once_fails :
    wanted cpsrRequests MsSysreg.CPSR nsPrivilegeLevel0 = true
      ∧ occurrences
          (cpsrRequests.foldl sortStep { alloc := .ok }).toUsermode
          MsSysreg.CPSR = 0
      ∧ ¬ DispatchedOnce cpsrRequests MsSysreg.CPSR := by
  have hwanted : wanted cpsrRequests MsSysreg.CPSR nsPrivilegeLevel0
      = true := by
    decide +kernel
  have hnone : occurrences
      (cpsrRequests.foldl sortStep { alloc := .ok }).toUsermode
      MsSysreg.CPSR = 0 := by
    decide +kernel
  refine ⟨hwanted, hnone, fun honce => ?_⟩
  have hcount := honce.usermode
  rw [hwanted, hnone] at hcount
  exact absurd hcount (by decide)

end Maplesyrup
