/-
What a search leaves alone: the driver when only user level is asked for,
the library's own reads when only the kernel's is, and the whole machine
when a value is supplied.

To leave a part alone is not to depend on it: any other part in its place
gives the same run, the process it leaves included, whichever allocations
fail. The requests of a search all name its level (`searched_pl`), so the
worklist of the other level stays empty (`sorted_spares`), and the loop
over an empty worklist calls nothing (`breakoutSortIoctls_congr`).
-/
import Maplesyrup.Base.Cells
import Maplesyrup.Library.Proofs.Request
import Maplesyrup.Library.Proofs.Stack

namespace Maplesyrup

open Base

variable {δ : Type} {P Q : Platform δ} {H : Host δ}
  {tables : List BitfieldTableEntry}

-- ========================================================== the worklists

/-- The worklist of a level. -/
def Worklists.at (w : Worklists) (level : U32) : List UsedIoctl :=
  if level = nsPrivilegeLevel0 then w.toUsermode
  else if level = nsPrivilegeLevel1 then w.toDriver
  else []

/-- The level is neither named nor left to the rows. -/
def Spares (pl level : U32) : Prop :=
  pl &&& preferredPl = 0 ∧ pl &&& level = 0

theorem sortStep_spares {level : U32} {r : ResultsInfo}
    (hr : Spares r.pl level) {w : Worklists} (hw : w.at level = []) :
    (sortStep w r).at level = [] := by
  have hlevels : r.levels &&& level = 0 := by
    rw [ResultsInfo.levels, if_neg (not_not.2 hr.1)]
    exact hr.2
  unfold sortStep breakoutAddIoctl
  split
  · exact hw
  · unfold Worklists.at at hw ⊢
    by_cases h0 : level = nsPrivilegeLevel0
    · subst h0
      rw [if_pos rfl] at hw ⊢
      rw [if_neg (not_not.2 hlevels)]
      dsimp only
      split
      · exact hw
      · exact hw
    · rw [if_neg h0] at hw ⊢
      by_cases h1 : level = nsPrivilegeLevel1
      · subst h1
        rw [if_pos rfl] at hw ⊢
        rw [if_neg (not_not.2 hlevels)]
        split
        · exact hw
        · exact hw
      · rw [if_neg h1]

theorem sorted_spares {level : U32} {reqs : List ResultsInfo}
    (hreqs : ∀ r ∈ reqs, Spares r.pl level) (a : Alloc) :
    (reqs.foldl sortStep { alloc := a }).at level = [] := by
  refine foldl_keeps (I := fun w : Worklists => w.at level = [])
    (fun w r hr hw => sortStep_spares (hreqs r hr) hw) ?_
  unfold Worklists.at
  simp

/-- All requests of a search name its level. -/
theorem searched_pl (a : Alloc) (heap : List BitfieldInfoHeap)
    (info : MatchInfo) :
    ∀ r ∈ (breakoutSearchTable a heap info []).2.1, r.pl = info.pl := by
  unfold breakoutSearchTable
  refine foldl_keeps
    (I := fun s : List ResultsInfo × Alloc => ∀ r ∈ s.1, r.pl = info.pl)
    (fun s h _ hs => ?_) (fun r hr => absurd hr List.not_mem_nil)
  obtain ⟨list, a⟩ := s
  dsimp only at hs ⊢
  split
  · unfold breakoutAddMatch msListAdd
    cases a 0 with
    | false => exact hs
    | true =>
        intro r hr
        rcases List.mem_append.1 hr with hr | hr
        · exact hs r hr
        · rw [List.mem_singleton.1 hr]
  · exact hs

-- ============================================================== the passes

theorem callDriverStep_congr (hfd : P.msFd = Q.msFd)
    (hioctl : P.ioctl = Q.ioctl) : callDriverStep P = callDriverStep Q := by
  funext s u
  unfold callDriverStep driverResults
  rw [hfd, hioctl]

theorem callUsermodeStep_congr
    (husermode : P.usermodeResults = Q.usermodeResults) :
    callUsermodeStep P = callUsermodeStep Q := by
  funext s u
  unfold callUsermodeStep
  rw [husermode]

/-- The reads call only what there is a worklist for. -/
theorem breakoutSortIoctls_congr {a : Alloc} {reqs : List ResultsInfo}
    (hdriver : callDriverStep P = callDriverStep Q
      ∨ (reqs.foldl sortStep { alloc := a }).toDriver = [])
    (husermode : callUsermodeStep P = callUsermodeStep Q
      ∨ (reqs.foldl sortStep { alloc := a }).toUsermode = [])
    (dev : δ) (out : List IoctlResult) :
    breakoutSortIoctls P a dev reqs out
      = breakoutSortIoctls Q a dev reqs out := by
  unfold breakoutSortIoctls breakoutCallDriver breakoutCallUsermode
  dsimp only
  rcases hdriver with hsame | hnone
  · rw [hsame]
    rcases husermode with hsame | hnone
    · rw [hsame]
    · rw [hnone, List.foldl_nil, List.foldl_nil]
  · rw [hnone, List.foldl_nil, List.foldl_nil]
    rcases husermode with hsame | hnone
    · rw [hsame]
    · rw [hnone, List.foldl_nil, List.foldl_nil]

/-- A platform differs from another, as a search of the level goes, in
what it leaves alone. -/
structure SameFor (pl : U32) (P Q : Platform δ) : Prop where
  driver : callDriverStep P = callDriverStep Q
    ∨ Spares pl nsPrivilegeLevel1
  usermode : callUsermodeStep P = callUsermodeStep Q
    ∨ Spares pl nsPrivilegeLevel0

/-- A search finds the same on both, or it carries a value. -/
theorem findBitfields_congr {info : MatchInfo}
    (hsame : info.calcValid = 0 → SameFor info.pl P Q) (a : Alloc)
    (heap : List BitfieldInfoHeap) (dev : δ)
    (list : List BitfieldInfoPopulated) :
    Stack.findBitfields P a heap dev (some info) (some list)
      = Stack.findBitfields Q a heap dev (some info) (some list) := by
  obtain ⟨r, reqs, a', hsearch⟩ : ∃ r reqs a',
      breakoutSearchTable a heap info [] = (r, reqs, a') :=
    ⟨_, _, _, rfl⟩
  have hpl : ∀ r ∈ reqs, r.pl = info.pl := by
    have hpl := searched_pl a heap info
    rwa [hsearch] at hpl
  by_cases hcalc : info.calcValid = 0
  · obtain ⟨hdriver, husermode⟩ := hsame hcalc
    have hspares : ∀ {level}, Spares info.pl level →
        (reqs.foldl sortStep { alloc := a' }).at level = [] :=
      fun hlevel => sorted_spares (fun r hr => by rwa [hpl r hr]) a'
    have hreads : breakoutSortIoctls P a' dev reqs []
        = breakoutSortIoctls Q a' dev reqs [] := by
      refine breakoutSortIoctls_congr (hdriver.imp_right fun h => ?_)
        (husermode.imp_right fun h => ?_) dev []
      · exact hspares h
      · exact hspares h
    simp only [Stack.findBitfields, hsearch, hcalc, msListInit,
      Stack.breakoutSortIoctls_eq, hreads]
  · simp only [Stack.findBitfields, hsearch, hcalc, ↓reduceIte]

-- ============================================================== the search

/-- One host in place of another, for a call: it opens the device the
same way, and the parts the call does not leave alone are the same. -/
structure StandsIn (c : FindCall) (H H' : Host δ) : Prop where
  clearIllsig : c.key.calcValue = none → H.clearIllsig = H'.clearIllsig
  platform : c.key.calcValue = none → ∀ fd,
    SameFor c.args.pl (H.platform fd) (H'.platform fd)

theorem FindKey.set_pl {key : FindKey} {base info : MatchInfo}
    (h : key.set base = .ok info) : info.pl = base.pl := by
  cases key with
  | bitfield uid =>
      cases h
      rfl
  | register regname calcValue =>
      obtain ⟨name, -, h⟩ := bind_eq_ok.1 h
      cases h
      rfl
  | group groupname =>
      obtain ⟨name, -, h⟩ := bind_eq_ok.1 h
      cases h
      rfl

theorem findStarted_congr (tables : List BitfieldTableEntry)
    {c : FindCall} {H' : Host δ} (hsame : StandsIn c H H')
    (started : Int) (p : Process δ) :
    findStarted H tables c.outcome c.args c.key.calcValue c.key.set
        started p
      = findStarted H' tables c.outcome c.args c.key.calcValue c.key.set
          started p := by
  unfold findStarted
  dsimp only
  split
  · rfl
  · cases hset : setMatchInfo c.outcome.errnoRange c.args.arch
        c.args.impl c.args.cpu c.args.pl c.args.noparse
        c.key.calcValue with
    | none => rfl
    | some base =>
        cases hkey : c.key.set base with
        | error e =>
            dsimp only
            rw [hkey]
            rfl
        | ok info =>
            have hpl : info.pl = c.args.pl := by
              obtain ⟨_, _, _, _, -, -, -, -, rfl⟩ :=
                setMatchInfo_some hset
              exact FindKey.set_pl hkey
            have hvalid : info.calcValid = 0
                ↔ c.key.calcValue = none := by
              rw [FindKey.set_calcValid hkey]
              exact setMatchInfo_calcValid hset
            dsimp only
            rw [hkey, ok_bind, ok_bind]
            unfold findRequest
            dsimp only
            congr 1
            funext heap
            rw [findBitfields_congr fun h => ?_]
            rw [hpl]
            exact hsame.platform (hvalid.1 h) p.msFd

/-- Then the call is the same. -/
theorem FindCall.run_congr {c : FindCall} {H' : Host δ}
    (hsame : StandsIn c H H') (p : Process δ) :
    c.run H tables p = c.run H' tables p := by
  rw [FindCall.run_eq, FindCall.run_eq]
  unfold msFind
  split
  · cases hcalc : c.key.calcValue with
    | some s =>
        have hrun := findStarted_congr tables hsame 0 p
        rwa [hcalc] at hrun
    | none =>
        have hstart : startTest H c.outcome p
            = startTest H' c.outcome p := by
          unfold startTest
          rw [hsame.clearIllsig hcalc]
        have hrun := findStarted_congr tables hsame
          (startTest H' c.outcome p).1 (startTest H' c.outcome p).2
        dsimp only
        rw [hstart]
        rwa [hcalc] at hrun
  · rfl

/-- What a search leaves alone. -/
theorem search_spares (H : Host δ) (tables : List BitfieldTableEntry)
    (c : FindCall) (p : Process δ) :
    (Spares c.args.pl nsPrivilegeLevel1 → ∀ ioctl,
        c.run { H with ioctl := ioctl } tables p = c.run H tables p)
      ∧ (Spares c.args.pl nsPrivilegeLevel0 → ∀ usermodeResults,
        c.run { H with usermodeResults := usermodeResults } tables p
          = c.run H tables p)
      ∧ (c.key.calcValue ≠ none → ∀ H' : Host δ,
        c.run H' tables p = c.run H tables p) := by
  refine ⟨fun hspares ioctl => ?_, fun hspares usermodeResults => ?_,
    fun hcalc H' => ?_⟩
  · have hsame : StandsIn c { H with ioctl := ioctl } H :=
      ⟨fun _ => rfl, fun _ fd =>
        ⟨Or.inr hspares, Or.inl (callUsermodeStep_congr rfl)⟩⟩
    exact FindCall.run_congr hsame p
  · have hsame : StandsIn c { H with usermodeResults := usermodeResults }
        H :=
      ⟨fun _ => rfl, fun _ fd =>
        ⟨Or.inl (callDriverStep_congr rfl rfl), Or.inr hspares⟩⟩
    exact FindCall.run_congr hsame p
  · exact FindCall.run_congr ⟨fun h => absurd h hcalc,
      fun h => absurd h hcalc⟩ p

end Maplesyrup
