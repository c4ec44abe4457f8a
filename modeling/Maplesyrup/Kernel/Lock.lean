/-
The trap flag and its lock, one access at a time.

`call_cmd` and `set_undef_flag` guard `g_undef_flag` with
`g_undef_flag_lock`; here each of their accesses is a step of its own,
and the steps of all clients interleave. Two things take no lock: the
store of `undef_hook`, and `spin_lock_init`, which `call_cmd` makes in
every request before it locks.

# The lock

`spin_lock_init` and `spin_unlock` leave it free, `spin_lock` takes it
when it is free and waits while it is not. So an init while somebody is
inside lets a second one in.
-/
import Maplesyrup.Kernel.Flag

namespace Maplesyrup

variable {κ : Type*} [DecidableEq κ]

-- ============================================================ the clients

/-- Where a client stands in `call_cmd` and `set_undef_flag`. -/
inductive LockClient
  | idle
  /-- Behind `spin_lock_init`. -/
  | initialised (cpus : List Nat)
  /-- Inside, to lower the flag. -/
  | lowering (cpus : List Nat)
  /-- Inside, the flag lowered. -/
  | lowered (cpus : List Nat)
  | kicking (cpus : List Nat)
  /-- A read is made, its status not yet. -/
  | reading (cpu : Nat) (trapped : Bool) (cpus : List Nat)
  /-- Inside, to load the flag. -/
  | loading (cpu : Nat) (trapped : Bool) (cpus : List Nat)
  /-- Inside, having loaded 1: the status is to be written and the flag
  cleared. -/
  | clearing (cpu : Nat) (trapped : Bool) (cpus : List Nat)
  /-- Inside, the status written. -/
  | tested (cpus : List Nat)
deriving DecidableEq

/-- The client is between `spin_lock` and `spin_unlock`. -/
def LockClient.inside : LockClient → Bool
  | .lowering _ => true
  | .lowered _ => true
  | .loading _ _ _ => true
  | .clearing _ _ _ => true
  | .tested _ => true
  | _ => false

/-- The lock, the flag, the clients, and the statuses written so far. -/
structure LockState (κ : Type*) where
  locked : Bool
  gUndefFlag : U32
  client : κ → LockClient
  verdicts : List (Verdict κ)

def LockState.boot : LockState κ := ⟨false, 0, fun _ => .idle, []⟩

-- ============================================================== the steps

/-- What a client does next. -/
inductive LockEvent (κ : Type*)
  /-- Enter `call_cmd` for these cpus and initialise the lock. -/
  | spinLockInit (k : κ) (cpus : List Nat)
  | spinLock (k : κ)
  /-- `g_undef_flag = 0` of `call_cmd`. -/
  | lower (k : κ)
  | spinUnlock (k : κ)
  /-- Read the register on the next cpu; `undef_hook` raises the flag. -/
  | read (k : κ) (trapped : Bool)
  /-- `g_undef_flag == 1` of `set_undef_flag`, and the status when it is
  not. -/
  | load (k : κ)
  /-- The status, and `g_undef_flag = 0` of `set_undef_flag`. -/
  | clear (k : κ)
  /-- Leave `call_cmd`. -/
  | done (k : κ)

/-- The state with a client somewhere else. -/
def LockState.goes (s : LockState κ) (k : κ) (c : LockClient) :
    LockState κ :=
  { s with client := Function.update s.client k c }

/-- One access. -/
def lockStep (s : LockState κ) : LockEvent κ → Option (LockState κ)
  | .spinLockInit k cpus =>
      match s.client k with
      | .idle => some { s.goes k (.initialised cpus) with locked := false }
      | _ => none
  | .spinLock k =>
      if s.locked then none
      else
        match s.client k with
        | .initialised cpus =>
            some { s.goes k (.lowering cpus) with locked := true }
        | .reading c trapped cs =>
            some { s.goes k (.loading c trapped cs) with locked := true }
        | _ => none
  | .lower k =>
      match s.client k with
      | .lowering cpus => some { s.goes k (.lowered cpus) with gUndefFlag := 0 }
      | _ => none
  | .spinUnlock k =>
      match s.client k with
      | .lowered cpus => some { s.goes k (.kicking cpus) with locked := false }
      | .tested cs => some { s.goes k (.kicking cs) with locked := false }
      | _ => none
  | .read k trapped =>
      match s.client k with
      | .kicking (c :: cs) =>
          some { s.goes k (.reading c trapped cs) with
            gUndefFlag := if trapped then 1 else s.gUndefFlag }
      | _ => none
  | .load k =>
      match s.client k with
      | .loading c trapped cs =>
          if s.gUndefFlag = 1 then some (s.goes k (.clearing c trapped cs))
          else
            some { s.goes k (.tested cs) with
              verdicts := s.verdicts
                ++ [⟨k, c, trapped, msErrorSuccess⟩] }
      | _ => none
  | .clear k =>
      match s.client k with
      | .clearing c trapped cs =>
          some { s.goes k (.tested cs) with
            gUndefFlag := 0
            verdicts := s.verdicts
              ++ [⟨k, c, trapped, msErrorUndefinst⟩] }
      | _ => none
  | .done k =>
      match s.client k with
      | .kicking [] => some (s.goes k .idle)
      | _ => none

-- =========================================================== the statement

/-- The lock is held exactly while somebody is inside, and nobody else
is. -/
structure LockOk (s : LockState κ) : Prop where
  held : s.locked = true ↔ ∃ k, (s.client k).inside = true
  alone : ∀ k k', (s.client k).inside = true →
    (s.client k').inside = true → k' = k

/-- A lock is initialised while nobody is inside. -/
def lockAlone (s : LockState κ) : LockEvent κ → Prop
  | .spinLockInit _ _ => ∀ k, (s.client k).inside = false
  | _ => True

-- ============================================================== one level up

/-- What a client is doing, by its last access that counts: a reset has
happened when the flag is lowered, a test when its status is written. -/
def LockClient.abs : LockClient → Client
  | .idle => .idle
  | .initialised _ => .idle
  | .lowering _ => .idle
  | .lowered cpus => .kicking cpus
  | .kicking cpus => .kicking cpus
  | .reading c trapped cs => .reading c trapped cs
  | .loading c trapped cs => .reading c trapped cs
  | .clearing c trapped cs => .reading c trapped cs
  | .tested cs => .kicking cs

def LockState.abs (s : LockState κ) : FlagState κ :=
  ⟨s.gUndefFlag, fun k => (s.client k).abs, s.verdicts⟩

/-- The atomic step an access completes, if it completes one. -/
def lockEmit (s : LockState κ) : LockEvent κ → Option (FlagEvent κ)
  | .lower k =>
      match s.client k with
      | .lowering cpus => some (.reset k cpus)
      | _ => none
  | .read k trapped => some (.read k trapped)
  | .load k => if s.gUndefFlag = 1 then none else some (.test k)
  | .clear k => some (.test k)
  | .done k => some (.done k)
  | _ => none

end Maplesyrup
