/-
The command line tool under --all (frontend/entrypoint.c): it lists the
functional groups, searches them one after the other, and prints what
each search found.

# Flags

`getopt_long` sets the int behind a flag to 1; here a flag is a `Bool`.
`arg_arch` and `arg_impl` are taken to be given.
-/
import Maplesyrup.Library.Access
import Maplesyrup.Library.Find

namespace Maplesyrup

variable {δ : Type}

-- ============================================================= the results

/-- What a loop up to `ms_get_size` runs over. -/
def elementsOf (results : Option (List MsBitfieldInfo)) :
    List MsBitfieldInfo :=
  (results.getD []).take (msGetSize results).toNat

-- ============================================================ the printing

/-- What a line about an element says. -/
structure Line where
  cpu : Int
  partNumber : String
  partNumberTable : String
  epl : Int
  functionalGroup : String
  registerName : String
  stamp : String
  bitfield : String
  value : U64
  description : String
  status : Int
deriving DecidableEq, Repr

def lineOf (x : MsBitfieldInfo) : Line where
  cpu := x.cpu.toInt
  partNumber := x.partNumber
  partNumberTable := x.partNumberTable
  epl := translateEpl x.epl
  functionalGroup := x.functionalGroup
  registerName := x.registerName
  stamp := x.stamp
  bitfield := x.bitfield
  value := x.value
  description := x.description
  status := x.status.toInt

inductive Printed
  | noResults
  | banner (validElements elements : Int)
  | line (l : Line)
  /-- On leaving the kernel module installed. -/
  | notice
deriving DecidableEq, Repr

/-- Is there nothing to show? With `showerrors` a failed read is shown
too. -/
def noResults (showerrors : Bool)
    (output : Option (List MsBitfieldInfo)) : Int × List Printed :=
  match output with
  | none => (-1, [])
  | some _ =>
      let valid := (elementsOf output).filter fun x => x.status == 0
      if valid ≠ [] ∨ showerrors = true then
        (0, [.banner valid.length (msGetSize output)])
      else (-1, [.noResults])

def showResults (showerrors : Bool)
    (output : Option (List MsBitfieldInfo)) : List Printed :=
  let (r, printed) := noResults showerrors output
  if r ≠ 0 ∧ showerrors = false then printed
  else
    printed ++ ((elementsOf output).filter fun x =>
      x.status == 0 || showerrors).map fun x => .line (lineOf x)

-- ================================================================ the loop

/-- The options `main` has read. -/
structure Options where
  argArch : String
  argImpl : String
  argCore : Int := -1
  flagFbEl0 : Bool := false
  flagFbEl1 : Bool := false
  flagFbNoparse : Bool := false
  flagFbDevices : Bool := false
  flagFbShowerrors : Bool := false

def getPplFromFlag (el0 el1 : Bool) : U32 :=
  if el0 = true ∧ el1 = false then nsPrivilegeLevel0
  else if el0 = false ∧ el1 = true then nsPrivilegeLevel1
  else if el0 = true ∧ el1 = true then
    nsPrivilegeLevel0 ||| nsPrivilegeLevel1
  else preferredPl

/-- The arguments of every search. -/
def Options.findArgs (opts : Options) : FindArgs where
  arch := some opts.argArch
  impl := some opts.argImpl
  cpu := opts.argCore
  pl := getPplFromFlag opts.flagFbEl0 opts.flagFbEl1
  noparse := if opts.flagFbNoparse then 1 else 0
  includeDevices := if opts.flagFbDevices then 1 else 0
  resultsOut := true

/-- A search `main` has made, and what came back. -/
structure GroupCall (δ : Type) where
  group : String
  returned : Returned δ

/-- What is left of a run: the exit status, the searches made, what was
printed, the process. -/
structure AllRun (δ : Type) where
  result : Int
  calls : List (GroupCall δ)
  printed : List Printed
  process : Process δ

/-- Search the groups, and stop at the first search that fails. `o n` is
the operating system's part in search `n`. -/
def findGroups (H : Host δ) (tables : List BitfieldTableEntry)
    (opts : Options) :
    List MsBitfieldInfo → (Nat → Outcome) → Process δ →
      Except Fault (AllRun δ)
  | [], _, p => .ok ⟨0, [], [], p⟩
  | x :: xs, o, p => do
      let r ← msFindByGroup H tables (o 0) opts.findArgs
        (some x.functionalGroup) p
      if r.ret ≠ 0 then
        .ok ⟨-1, [⟨x.functionalGroup, r⟩], [], r.process⟩
      else
        let rest ← findGroups H tables opts xs (fun n => o (n + 1))
          r.process
        .ok { rest with
          calls := ⟨x.functionalGroup, r⟩ :: rest.calls
          printed := showResults opts.flagFbShowerrors r.stored
            ++ rest.printed }

/-- `main` under --all. Behind the loop it shows `output`, which is NULL
again. -/
def mainAll (H : Host δ) (tables : List BitfieldTableEntry)
    (opts : Options) (listing : Outcome) (o : Nat → Outcome)
    (p : Process δ) : Except Fault (AllRun δ) := do
  let toshow ← msGetGroups tables listing true
    (if opts.flagFbDevices then 1 else 0) p
  let run ← findGroups H tables opts (elementsOf toshow.stored) o
    toshow.process
  let shown :=
    if run.result = 0 then showResults opts.flagFbShowerrors none else []
  .ok { run with printed := run.printed ++ shown ++ [.notice] }

end Maplesyrup
