/-
The trap flag under several clients at once.

`g_undef_flag` is one word for every client and every cpu. Three steps
touch it, each atomic: `call_cmd` resets it under the lock, a trapping
read stores 1 through `undef_hook`, `set_undef_flag` tests and clears it
under the lock. No lock spans two of them, so a run is any interleaving
of the clients' steps, and each client's own steps come in the order its
request makes them: one reset, then for each cpu the read and its test
(`smp_call_function_single` waits).

A read that is not tested yet is in flight. Its verdict is its own only
as long as nobody else touches the flag in between (`FlagInv`), and the
runs in which nobody does are the ones `flagAlone` describes.
-/
import Maplesyrup.Kernel.Cmd

namespace Maplesyrup

variable {κ : Type*} [DecidableEq κ]

-- ============================================================ the steps

/-- Where a client stands. -/
inductive Client
  /-- No request. -/
  | idle
  /-- In a request, with these cpus still to read. -/
  | kicking (cpus : List Nat)
  /-- A read on `cpu` is in flight. -/
  | reading (cpu : Nat) (trapped : Bool) (cpus : List Nat)
deriving DecidableEq, Repr

/-- A status written for a read, beside what the read really did. -/
structure Verdict (κ : Type*) where
  client : κ
  cpu : Nat
  trapped : Bool
  status : U32

/-- The flag, the clients, and the statuses written so far. -/
structure FlagState (κ : Type*) where
  gUndefFlag : U32
  client : κ → Client
  verdicts : List (Verdict κ)

/-- No requests yet. -/
def FlagState.boot : FlagState κ := ⟨0, fun _ => .idle, []⟩

/-- What a client does next. -/
inductive FlagEvent (κ : Type*)
  /-- Enter `call_cmd` for these cpus and reset the flag. -/
  | reset (k : κ) (cpus : List Nat)
  /-- Read the register on the next cpu. -/
  | read (k : κ) (trapped : Bool)
  /-- Test and clear the flag into the read's status. -/
  | test (k : κ)
  /-- Leave `call_cmd`. -/
  | done (k : κ)

/-- One atomic step. -/
def flagStep (s : FlagState κ) : FlagEvent κ → Option (FlagState κ)
  | .reset k cpus =>
      match s.client k with
      | .idle =>
          some { s with
            gUndefFlag := 0
            client := Function.update s.client k (.kicking cpus) }
      | _ => none
  | .read k trapped =>
      match s.client k with
      | .kicking (c :: cs) =>
          some { s with
            gUndefFlag := if trapped then 1 else s.gUndefFlag
            client :=
              Function.update s.client k (.reading c trapped cs) }
      | _ => none
  | .test k =>
      match s.client k with
      | .reading c trapped cs =>
          let v := undefVerdict s.gUndefFlag
          some
            { gUndefFlag := v.2
              client := Function.update s.client k (.kicking cs)
              verdicts := s.verdicts ++ [⟨k, c, trapped, v.1⟩] }
      | _ => none
  | .done k =>
      match s.client k with
      | .kicking [] =>
          some { s with client := Function.update s.client k .idle }
      | _ => none

-- ======================================================== the statement

/-- A verdict says of its read exactly what that read did. -/
def Verdict.Right (v : Verdict κ) : Prop :=
  (v.status = msErrorUndefinst ↔ v.trapped = true)
    ∧ (v.status = msErrorSuccess ↔ v.trapped = false)

def VerdictsRight (s : FlagState κ) : Prop := ∀ v ∈ s.verdicts, v.Right

/-- The client has a read in flight. -/
def InFlight (s : FlagState κ) (k : κ) (trapped : Bool) : Prop :=
  ∃ c cs, s.client k = .reading c trapped cs

instance (s : FlagState κ) (k : κ) (trapped : Bool) :
    Decidable (InFlight s k trapped) :=
  match hk : s.client k with
  | .idle => isFalse fun ⟨_, _, h⟩ => by simp [hk] at h
  | .kicking _ => isFalse fun ⟨_, _, h⟩ => by simp [hk] at h
  | .reading c t cs =>
      decidable_of_iff (t = trapped)
        ⟨fun h => ⟨c, cs, h ▸ hk⟩, fun ⟨_, _, h⟩ =>
          (Client.reading.inj (hk.symm.trans h)).2.1⟩

/-- The step does not meet somebody else's read: no trapped read is in
flight when the flag is reset or another read is made, and no read at
all when a read traps. -/
def flagAlone (s : FlagState κ) : FlagEvent κ → Prop
  | .reset _ _ => ∀ k, ¬ InFlight s k true
  | .read _ trapped =>
      (∀ k, ¬ InFlight s k true)
        ∧ (trapped = true → ∀ k, ¬ InFlight s k false)
  | .test _ => True
  | .done _ => True

instance [Fintype κ] (s : FlagState κ) :
    ∀ e, Decidable (flagAlone s e)
  | .reset _ _ => inferInstanceAs (Decidable (∀ _, _))
  | .read _ _ => inferInstanceAs (Decidable (_ ∧ _))
  | .test _ => inferInstanceAs (Decidable True)
  | .done _ => inferInstanceAs (Decidable True)

/-- The flag says whether the read in flight trapped. -/
structure FlagInv (s : FlagState κ) : Prop where
  right : VerdictsRight s
  raised : ∀ k, InFlight s k true → s.gUndefFlag = 1
  alone : ∀ k k' t, InFlight s k true → InFlight s k' t → k' = k
  lowered : (∀ k, ¬ InFlight s k true) → s.gUndefFlag ≠ 1

end Maplesyrup
