/-
The undefined-instruction hook over the life of the device:
`ms_add_undef_instr_hook` and `ms_del_undef_instr_hook` of
module/undef_hook.c, called by `ms_open` and `ms_release`.

There is one static `hook_struct` for all clients and no count of them.
Linux's `register_undef_hook` links the node it is given in front of its
list without looking whether it is linked already;
`unregister_undef_hook` and `list_del` unlink it. The hook list is kept
here as the nodes a walk over it meets, so a node linked twice is met
twice.
-/
import Mathlib

namespace Maplesyrup

variable {κ : Type*} [DecidableEq κ]

/-- A node of the kernel's hook list: the module's, or somebody
else's. -/
inductive HookNode
  | hookStruct
  | other (n : Nat)
deriving DecidableEq, Repr

/-- Which of the two kernel functions `ms_find_undef_hook` found. -/
structure HookEnv where
  regUndefHookP : Bool
  unregUndefHookP : Bool
deriving DecidableEq, Repr

/-- Linux: link a node in front. -/
def registerUndefHook (node : HookNode) (hooks : List HookNode) :
    List HookNode :=
  node :: hooks

/-- Linux: unlink a node. -/
def listDel (node : HookNode) (hooks : List HookNode) : List HookNode :=
  hooks.erase node

/-- Linux: unlink a node, under the list's lock. -/
def unregisterUndefHook (node : HookNode) (hooks : List HookNode) :
    List HookNode :=
  listDel node hooks

/-- Register the hook. -/
def msAddUndefInstrHook (env : HookEnv) (hooks : List HookNode) :
    Int × List HookNode :=
  if !env.regUndefHookP then (-1, hooks)
  else (0, registerUndefHook .hookStruct hooks)

/-- Unregister the hook. -/
def msDelUndefInstrHook (env : HookEnv) (hooks : List HookNode) :
    List HookNode :=
  if env.unregUndefHookP then unregisterUndefHook .hookStruct hooks
  else listDel .hookStruct hooks

/-- The hook list and the clients that have the device open. -/
structure HookState (κ : Type*) where
  hooks : List HookNode
  opened : Finset κ

/-- What a client asks of the device. -/
inductive HookEvent (κ : Type*)
  | msOpen (k : κ)
  | msIoctl (k : κ)
  | msRelease (k : κ)

/-- One call. An open that fails leaves the client without the device;
ioctl and release are of clients that have it. -/
def hookStep (env : HookEnv) (s : HookState κ) :
    HookEvent κ → Option (HookState κ)
  | .msOpen k =>
      if k ∈ s.opened then none
      else
        let (r, hooks) := msAddUndefInstrHook env s.hooks
        if r ≠ 0 then some { s with hooks := hooks }
        else some ⟨hooks, insert k s.opened⟩
  | .msIoctl k => if k ∈ s.opened then some s else none
  | .msRelease k =>
      if k ∈ s.opened then
        some ⟨msDelUndefInstrHook env s.hooks, s.opened.erase k⟩
      else none

/-- The module just loaded, among the hooks of others. -/
def HookState.boot (others : List Nat) : HookState κ :=
  ⟨others.map .other, ∅⟩

/-- The module's node is linked at most once, and linked while anybody
has the device open. -/
def HookOk (s : HookState κ) : Prop :=
  s.hooks.count .hookStruct ≤ 1
    ∧ (s.opened.Nonempty → .hookStruct ∈ s.hooks)

/-- An open finds nobody else inside. -/
def openAlone (s : HookState κ) : HookEvent κ → Prop
  | .msOpen _ => s.opened = ∅
  | .msIoctl _ => True
  | .msRelease _ => True

end Maplesyrup
