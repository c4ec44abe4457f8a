/-
Loading and unloading the module (module/entrypoint.c, with
`ms_find_undef_hook` of module/undef_hook.c and the cleanup of
module/device_tree.c).

Linux calls `maplesyrup_exit` only after a `maplesyrup_init` that
returned 0; after any other the module is gone, and what it still has
mapped stays so.
-/
import Maplesyrup.Kernel.Gic
import Maplesyrup.Kernel.Hook

namespace Maplesyrup

/-- What Linux answers while the module loads. -/
structure LoadEnv where
  /-- `kallsyms_lookup_name` finds the symbol. -/
  kallsymsLookupName : String → Bool
  dt : DtEnv
  /-- `misc_register` succeeds. -/
  miscRegister : Bool

/-- What a load leaves: the hook functions found, the module's
variables, the mappings in force, and whether the device is there. -/
structure Loaded where
  hooks : HookEnv := ⟨false, false⟩
  globals : KGlobals := {}
  mapped : List Nat := []
  msDevice : Bool := false
deriving DecidableEq

/-- Find Linux's hook functions; the second may be missing. -/
def msFindUndefHook (kallsymsLookupName : String → Bool) :
    Int × HookEnv :=
  if !kallsymsLookupName "register_undef_hook" then (-1, ⟨false, false⟩)
  else (0, ⟨true, kallsymsLookupName "unregister_undef_hook"⟩)

/-- Load the module. A GIC map that cannot be built is no failure. -/
def maplesyrupInit (env : LoadEnv) : Int × Loaded :=
  let (r, hooks) := msFindUndefHook env.kallsymsLookupName
  if r ≠ 0 then (-1, { hooks := hooks })
  else
    let (_, s) := msInitDtData env.dt
    let m : Loaded :=
      { hooks := hooks, globals := { gicMap := s.map }, mapped := s.mapped }
    if !env.miscRegister then (-1, m)
    else (0, { m with msDevice := true })

/-- An address for `iounmap`, unless it is NULL. -/
def notNull (a : Nat) : List Nat := if a ≠ 0 then [a] else []

/-- The mappings handed to `iounmap`, in order. -/
def msCleanupGic (m : MsGicMap) : List Nat :=
  notNull m.giccVirt ++ notNull m.gicdVirt ++ notNull m.gichVirt
    ++ notNull m.gicvVirt

def msCleanupDtData (m : MsGicMap) : List Nat := msCleanupGic m

/-- Unload the module: the mappings handed to `iounmap`, and what it
leaves. -/
def maplesyrupExit (m : Loaded) : List Nat × Loaded :=
  let m := { m with msDevice := false }
  let unmapped := msCleanupDtData m.globals.gicMap
  (unmapped, { m with mapped := unmapped.foldl List.erase m.mapped })

end Maplesyrup
