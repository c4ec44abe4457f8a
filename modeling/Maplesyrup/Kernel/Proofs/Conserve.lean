/-
What the trap flag keeps and what it loses, over any run of any number of
clients.

A trap is worth one "undefined instruction" in somebody's status. The
flag holds at most one trap, so a trap is lost when the flag is reset or
raised while it is up, and in no other way; none is made up
(`flag_conserved`). Which read an "undefined instruction" goes to is
another matter (`flag_runs_right`).

The statuses themselves are never lost, doubled or put in another order:
a client's log is its own requests' cpus, and its own reads
(`own_log`).
-/
import Maplesyrup.Kernel.Proofs.Flag

namespace Maplesyrup

open Base

variable {κ : Type*} [DecidableEq κ] {s t : FlagState κ}
  {es : List (FlagEvent κ)}

-- ============================================================== the traps

/-- The statuses that say so. -/
def undefinedCount (s : FlagState κ) : Nat :=
  s.verdicts.countP fun v => v.status == msErrorUndefinst

/-- A trap the flag holds. -/
def pending (g : U32) : Nat := if g = 1 then 1 else 0

/-- A read that traps. -/
def FlagEvent.traps : FlagEvent κ → Bool
  | .read _ trapped => trapped
  | _ => false

/-- The step writes the flag without a look at it. -/
def FlagEvent.overwrites : FlagEvent κ → Bool
  | .reset _ _ => true
  | .read _ trapped => trapped
  | _ => false

/-- A trap that nobody has seen is overwritten. -/
def trapLost (s : FlagState κ) (e : FlagEvent κ) : Nat :=
  if e.overwrites then pending s.gUndefFlag else 0

/-- A trap is made. -/
def trapMade (_ : FlagState κ) (e : FlagEvent κ) : Nat :=
  if e.traps then 1 else 0

/-- A test turns a held trap into a status. -/
theorem undefVerdict_pending (g : U32) :
    (if (undefVerdict g).1 == msErrorUndefinst then 1 else 0)
      + pending (undefVerdict g).2 = pending g := by
  by_cases hg : g = 1
  · subst hg
    rfl
  · rw [undefVerdict_lowered hg, pending, if_neg hg]
    rfl

/-- One step's account. -/
theorem flagStep_account {e : FlagEvent κ} (h : flagStep s e = some t) :
    undefinedCount t + pending t.gUndefFlag + trapLost s e
      = undefinedCount s + pending s.gUndefFlag + trapMade s e := by
  rcases flagStep_cases h with ⟨k, cpus, rfl, -, rfl⟩
    | ⟨k, trapped, c, cs, rfl, -, rfl⟩ | ⟨k, c, trapped, cs, rfl, -, rfl⟩
    | ⟨k, rfl, -, rfl⟩
  · show undefinedCount s + 0 + pending s.gUndefFlag
      = undefinedCount s + pending s.gUndefFlag + 0
    omega
  · cases trapped with
    | true =>
        show undefinedCount s + 1 + pending s.gUndefFlag
          = undefinedCount s + pending s.gUndefFlag + 1
        omega
    | false => rfl
  · have htest := undefVerdict_pending s.gUndefFlag
    have hlog : undefinedCount (⟨(undefVerdict s.gUndefFlag).2,
        Function.update s.client k (.kicking cs),
        s.verdicts ++ [⟨k, c, trapped, (undefVerdict s.gUndefFlag).1⟩]⟩
        : FlagState κ) = undefinedCount s
          + if (undefVerdict s.gUndefFlag).1 == msErrorUndefinst then 1
            else 0 := by
      simp only [undefinedCount, List.countP_append,
        List.countP_singleton]
    rw [hlog]
    show _ + pending (undefVerdict s.gUndefFlag).2 + 0
      = undefinedCount s + pending s.gUndefFlag + 0
    omega
  · rfl

/-- A run's account. -/
theorem flag_account (hrun : run flagStep FlagState.boot es = some s) :
    undefinedCount s + pending s.gUndefFlag
        + tally flagStep trapLost FlagState.boot es
      = tally flagStep trapMade FlagState.boot es := by
  have hrule : undefinedCount s + pending s.gUndefFlag
      + tally flagStep trapLost FlagState.boot es
      = 0 + tally flagStep trapMade FlagState.boot es :=
    run_tally (f := fun s => undefinedCount s + pending s.gUndefFlag)
      (fun _ _ _ => flagStep_account) hrun
  rw [hrule, Nat.zero_add]

/-- Every trap is a status, is held by the flag, or was overwritten, and
nothing else is any of these. -/
theorem flag_conserved (hrun : run flagStep FlagState.boot es = some s) :
    undefinedCount s + pending s.gUndefFlag
        + tally flagStep trapLost FlagState.boot es
      = es.countP FlagEvent.traps := by
  rw [flag_account hrun]
  exact tally_countP (fun _ _ => rfl) hrun

theorem flag_conserved_crossed :
    ∃ s, run flagStep FlagState.boot crossedReads = some s
      ∧ undefinedCount s + pending s.gUndefFlag
          + tally flagStep trapLost FlagState.boot crossedReads
        = crossedReads.countP FlagEvent.traps :=
  ⟨_, rfl, flag_conserved rfl⟩

-- ============================================================ the statuses

/-- The statuses of a client. -/
def FlagState.log (s : FlagState κ) (k : κ) : List (Verdict κ) :=
  s.verdicts.filter fun v => v.client = k

/-- The cpus a client's request is still to have a status for. -/
def Client.rest : Client → List Nat
  | .idle => []
  | .kicking cs => cs
  | .reading c _ cs => c :: cs

/-- Its read that has none yet. -/
def Client.inFlight : Client → List Bool
  | .reading _ trapped _ => [trapped]
  | _ => []

/-- The cpus a client asks for. -/
def askedBy (k : κ) : FlagEvent κ → List Nat
  | .reset k' cpus => if k' = k then cpus else []
  | _ => []

/-- What a client's read does. -/
def readBy (k : κ) : FlagEvent κ → List Bool
  | .read k' trapped => if k' = k then [trapped] else []
  | _ => []

/-- The log of a step's client and of the others. -/
theorem log_append (s : FlagState κ) (k k' : κ) (c : Nat) (trapped : Bool)
    (status g : U32) (client : κ → Client) :
    (⟨g, client, s.verdicts ++ [⟨k', c, trapped, status⟩]⟩
        : FlagState κ).log k
      = s.log k ++ if k' = k then [⟨k', c, trapped, status⟩] else [] := by
  unfold FlagState.log
  rw [List.filter_append]
  by_cases hk : k' = k
  · simp [hk]
  · simp [hk]

/-- One step of a log, with the cpus. -/
theorem flagStep_cpus (k : κ) {e : FlagEvent κ}
    (h : flagStep s e = some t) :
    (t.log k).map Verdict.cpu ++ (t.client k).rest
      = (s.log k).map Verdict.cpu ++ (s.client k).rest
        ++ askedBy k e := by
  rcases flagStep_cases h with ⟨k', cpus, rfl, hk', rfl⟩
    | ⟨k', trapped, c, cs, rfl, hk', rfl⟩
    | ⟨k', c, trapped, cs, rfl, hk', rfl⟩ | ⟨k', rfl, hk', rfl⟩
  · rw [List.append_assoc]
    congr 1
    by_cases hk : k' = k
    · subst hk
      simp [hk', Client.rest, askedBy]
    · simp [Ne.symm hk, hk, askedBy]
  · rw [List.append_assoc]
    congr 1
    by_cases hk : k' = k
    · subst hk
      simp [hk', Client.rest, askedBy]
    · simp [Ne.symm hk, askedBy]
  · rw [log_append]
    by_cases hk : k' = k
    · subst hk
      simp [hk', Client.rest, askedBy]
    · simp [Ne.symm hk, hk, askedBy]
  · rw [List.append_assoc]
    congr 1
    by_cases hk : k' = k
    · subst hk
      simp [hk', Client.rest, askedBy]
    · simp [Ne.symm hk, askedBy]

/-- And with what the reads did. -/
theorem flagStep_reads (k : κ) {e : FlagEvent κ}
    (h : flagStep s e = some t) :
    (t.log k).map Verdict.trapped ++ (t.client k).inFlight
      = (s.log k).map Verdict.trapped ++ (s.client k).inFlight
        ++ readBy k e := by
  rcases flagStep_cases h with ⟨k', cpus, rfl, hk', rfl⟩
    | ⟨k', trapped, c, cs, rfl, hk', rfl⟩
    | ⟨k', c, trapped, cs, rfl, hk', rfl⟩ | ⟨k', rfl, hk', rfl⟩
  · rw [List.append_assoc]
    congr 1
    by_cases hk : k' = k
    · subst hk
      simp [hk', Client.inFlight, readBy]
    · simp [Ne.symm hk, readBy]
  · rw [List.append_assoc]
    congr 1
    by_cases hk : k' = k
    · subst hk
      simp [hk', Client.inFlight, readBy]
    · simp [Ne.symm hk, hk, readBy]
  · rw [log_append]
    by_cases hk : k' = k
    · subst hk
      simp [hk', Client.inFlight, readBy]
    · simp [Ne.symm hk, hk, readBy]
  · rw [List.append_assoc]
    congr 1
    by_cases hk : k' = k
    · subst hk
      simp [hk', Client.inFlight, readBy]
    · simp [Ne.symm hk, readBy]

/-- Whatever the others do, a client has one status for each cpu of its
requests and for each of its reads, in their order, but for what is still
to come of its last request. -/
theorem own_log (hrun : run flagStep FlagState.boot es = some s) (k : κ) :
    (s.log k).map Verdict.cpu ++ (s.client k).rest
        = es.flatMap (askedBy k)
      ∧ (s.log k).map Verdict.trapped ++ (s.client k).inFlight
        = es.flatMap (readBy k) := by
  constructor
  · exact run_log (fun s : FlagState κ =>
      (s.log k).map Verdict.cpu ++ (s.client k).rest)
      (fun _ _ _ h => flagStep_cpus k h) hrun
  · exact run_log (fun s : FlagState κ =>
      (s.log k).map Verdict.trapped ++ (s.client k).inFlight)
      (fun _ _ _ h => flagStep_reads k h) hrun

theorem own_log_crossed :
    ∃ s, run flagStep FlagState.boot crossedReads = some s
      ∧ (s.log 0).map Verdict.cpu ++ (s.client 0).rest
        = crossedReads.flatMap (askedBy 0)
      ∧ (s.log 0).map Verdict.trapped ++ (s.client 0).inFlight
        = crossedReads.flatMap (readBy 0) :=
  ⟨_, rfl, own_log rfl 0⟩

end Maplesyrup
