/-
The command line tool (frontend/entrypoint.c): from the words of its
command line to what it prints and what it returns.

# What nobody writes

`arg_arch`, `arg_impl` and `arg_calc` are arrays on the stack. An option
that is not given leaves its array as it is, and `strncpy` fills all of
an array but its last byte, so that a text too long for it has no end
there. `Junk` is what a reader finds in the bytes nobody has written.

# Words

`argv` is the command line without the program's name. What goes to
stderr is left out.
-/
import Maplesyrup.Base.Getopt
import Maplesyrup.Common.Handlers
import Maplesyrup.Frontend.All

namespace Maplesyrup

open Base

variable {δ : Type}

-- ============================================================== the options

/-- The variables that an option sets by itself. -/
inductive Flag
  | group | register | bitfield | all | el0 | el1 | showInfo | showerrors
  | noparse | devices
deriving DecidableEq, Repr

/-- What `getopt_long` returns, or the flag it sets. -/
inductive Opt
  | t | a | i | c | v | h
  | flag (f : Flag) (val : Nat)
deriving DecidableEq, Repr

def flagShowGroups : Nat := 1
def flagShowBitfields : Nat := 2
def flagShowRegisters : Nat := 3

def longOptions : List (LongOption Opt) := [
  ⟨"arch".toList, true, .a⟩,
  ⟨"impl".toList, true, .i⟩,
  ⟨"core".toList, true, .c⟩,
  ⟨"calc".toList, true, .v⟩,
  ⟨"help".toList, false, .h⟩,
  ⟨"group".toList, false, .flag .group 1⟩,
  ⟨"register".toList, false, .flag .register 1⟩,
  ⟨"bitfield".toList, false, .flag .bitfield 1⟩,
  ⟨"all".toList, false, .flag .all 1⟩,
  ⟨"noparse".toList, false, .flag .noparse 1⟩,
  ⟨"showfail".toList, false, .flag .showerrors 1⟩,
  ⟨"el0".toList, false, .flag .el0 1⟩,
  ⟨"el1".toList, false, .flag .el1 1⟩,
  ⟨"devices".toList, false, .flag .devices 1⟩,
  ⟨"show_groups".toList, false, .flag .showInfo flagShowGroups⟩,
  ⟨"show_bitfields".toList, false, .flag .showInfo flagShowBitfields⟩,
  ⟨"show_registers".toList, false, .flag .showInfo flagShowRegisters⟩]

/-- "t:a:i:c:v:" -/
def shortOption (c : Char) : Option (Bool × Opt) :=
  if c = 't' then some (true, .t)
  else if c = 'a' then some (true, .a)
  else if c = 'i' then some (true, .i)
  else if c = 'c' then some (true, .c)
  else if c = 'v' then some (true, .v)
  else none

def grammar : Grammar Opt := ⟨longOptions, shortOption⟩

-- ============================================================== the numbers

/-- The number the leading decimal digits spell. -/
def decNumber : List Char → Nat → Nat
  | [], n => n
  | c :: cs, n =>
      if 48 ≤ c.toNat ∧ c.toNat ≤ 57 then
        decNumber cs (10 * n + (c.toNat - 48))
      else n

def longMax : Target → Int
  | .aarch32 => 2 ^ 31 - 1
  | .aarch64 => 2 ^ 63 - 1

/-- What a `long` can hold of a number. -/
def clampLong (t : Target) (n : Int) : Int :=
  max (-longMax t - 1) (min n (longMax t))

/-- `strtol(s, NULL, 16)`. -/
def strtolHex (t : Target) (s : String) : Int :=
  clampLong t (strtollHex s).1

/-- `atoi`, a `long` cut to an `int`. -/
def atoi (t : Target) (text : Text) : Int :=
  let value : Int :=
    match text.dropWhile isspace with
    | '-' :: cs => -decNumber cs 0
    | '+' :: cs => decNumber cs 0
    | cs => decNumber cs 0
  (BitVec.ofInt 32 (clampLong t value)).toInt

-- =============================================================== the screen

inductive Screen
  /-- The banner that points to --help. -/
  | helpBanner
  | usage
  | table
  /-- A group or a register that there is. -/
  | name (s : String)
  /-- A bitfield that there is, behind its uid. -/
  | bitfield (uid table registerName bitfield : String)
  | printed (x : Printed)
deriving DecidableEq, Repr

/-- `%x` of a digit. -/
def hexChar (d : Nat) : Char :=
  if d < 10 then .ofNat (48 + d) else .ofNat (87 + d)

/-- `0x%08x` -/
def hexWord (n : U32) : String :=
  String.ofList ('0' :: 'x' :: (List.range 8).map fun i =>
    hexChar (n.toNat / 16 ^ (7 - i) % 16))

-- ======================================================= the command line

/-- What `main` has been given so far, and has printed. -/
structure Given where
  argArch : Option Text := none
  argImpl : Option Text := none
  argCalc : Option Text := none
  argCore : Int := -1
  flag : Flag → Nat := fun _ => 0
  screen : List Screen := []

/-- One turn of the loop over the options. It may return from `main`. -/
def Given.read (t : Target) (g : Given) :
    Met Opt → Except (List Screen) Given
  | .unknown => .ok { g with screen := g.screen ++ [.usage] }
  | .option .h _ => .ok { g with screen := g.screen ++ [.usage] }
  | .option .t _ => .error (g.screen ++ [.helpBanner])
  | .option .a optarg => .ok { g with argArch := some (optarg.getD []) }
  | .option .i optarg => .ok { g with argImpl := some (optarg.getD []) }
  | .option .c optarg => .ok { g with argCore := atoi t (optarg.getD []) }
  | .option .v optarg => .ok { g with argCalc := some (optarg.getD []) }
  | .option (.flag f val) _ =>
      .ok { g with flag := Function.update g.flag f val }

def maxArchBuffer : Nat := 16
def maxCalcBuffer : Nat := 32

/-- The text a reader finds in an array nobody has written, and the text
it finds from the last byte on of one that has been. -/
structure Junk where
  whole : String
  last : String

/-- The text in an array of the stack. -/
def arrayText (size : Nat) (junk : Junk) : Option Text → String
  | none => junk.whole
  | some optarg =>
      if optarg.length < size - 1 then String.ofList optarg
      else String.ofList (optarg.take (size - 1)) ++ junk.last

/-- The junk of the three arrays. -/
structure Stale where
  argArch : Junk
  argImpl : Junk
  argCalc : Junk

/-- What the searches are told. The bound of `arg_impl` is that of
`arg_arch`. -/
def Given.options (g : Given) (stale : Stale) : Options where
  argArch := arrayText maxArchBuffer stale.argArch g.argArch
  argImpl := arrayText maxArchBuffer stale.argImpl g.argImpl
  argCore := g.argCore
  flagFbEl0 := g.flag .el0 != 0
  flagFbEl1 := g.flag .el1 != 0
  flagFbNoparse := g.flag .noparse != 0
  flagFbDevices := g.flag .devices != 0
  flagFbShowerrors := g.flag .showerrors != 0

/-- What the operand is the key of. -/
def Given.key (t : Target) (stale : Stale) (g : Given) :
    Option (String → FindKey) :=
  if g.flag .bitfield ≠ 0 then
    some fun s => .bitfield (.ofInt 32 (strtolHex t s))
  else if g.flag .group ≠ 0 then some fun s => .group (some s)
  else if g.flag .register ≠ 0 then
    some fun s => .register (some s)
      (g.argCalc.map fun c =>
        arrayText maxCalcBuffer stale.argCalc (some c))
  else none

-- ===================================================================== main

/-- What is left of a run: the exit status, what was printed, the
process. -/
structure MainRun (δ : Type) where
  result : Int
  screen : List Screen
  process : Process δ

/-- The listings of --show_groups, --show_bitfields and
--show_registers. -/
def mainShowInfo (tables : List BitfieldTableEntry) (opts : Options)
    (info : Nat) (listing : Outcome) (p : Process δ) :
    Except Fault (MainRun δ) := do
  let includeDevices := if opts.flagFbDevices then 1 else 0
  let shows (toshow : Returned δ) (entry : MsBitfieldInfo → Screen) :
      MainRun δ :=
    ⟨-1, (noResults opts.flagFbShowerrors toshow.stored).2.map .printed
      ++ (elementsOf toshow.stored).map entry ++ [.printed .notice],
      toshow.process⟩
  if info = flagShowGroups then
    let toshow ← msGetGroups tables listing true includeDevices p
    .ok (shows toshow fun x => .name x.functionalGroup)
  else if info = flagShowBitfields then
    let toshow ← msGetBitfields tables listing true includeDevices p
    .ok (shows toshow fun x => .bitfield (hexWord x.uid)
      x.partNumberTable x.registerName x.bitfield)
  else if info = flagShowRegisters then
    let toshow ← msGetRegisters tables listing true includeDevices p
    .ok (shows toshow fun x => .name x.registerName)
  else .ok ⟨-1, [.printed .notice], p⟩

/-- One search, shown if it succeeds. -/
def mainFind (H : Host δ) (tables : List BitfieldTableEntry)
    (opts : Options) (o : Outcome) (key : FindKey) (p : Process δ) :
    Except Fault (MainRun δ) := do
  let r ← FindCall.run H tables ⟨o, opts.findArgs, key⟩ p
  if r.ret ≠ 0 then .ok ⟨-1, [.printed .notice], r.process⟩
  else .ok ⟨0, (showResults opts.flagFbShowerrors r.stored
    ++ [Printed.notice]).map .printed, r.process⟩

/-- What `main` does with the options it was given. Without an operand
there is nothing to search for, and NULL to show. -/
def mainSearch (H : Host δ) (tables : List BitfieldTableEntry)
    (t : Target) (stale : Stale) (g : Given) (operand : Option Text)
    (listing : Outcome) (o : Nat → Outcome) (p : Process δ) :
    Except Fault (MainRun δ) :=
  let opts := g.options stale
  match g.key t stale, operand with
  | some key, some s =>
      mainFind H tables opts (o 0) (key (String.ofList s)) p
  | some _, none => .ok ⟨0, (showResults opts.flagFbShowerrors none
      ++ [Printed.notice]).map .printed, p⟩
  | none, _ =>
      if g.flag .all ≠ 0 then do
        let run ← mainAll H tables opts listing o p
        .ok ⟨run.result, run.printed.map .printed, run.process⟩
      else .ok ⟨-1, [.printed .notice], p⟩

/-- `main` behind its options. -/
def mainGiven (H : Host δ) (tables : List BitfieldTableEntry)
    (t : Target) (stale : Stale) (g : Given) (operand : Option Text)
    (listing : Outcome) (o : Nat → Outcome) (p : Process δ) :
    Except Fault (MainRun δ) := do
  if g.flag .showInfo ≠ 0 then
    let run ← mainShowInfo tables (g.options stale) (g.flag .showInfo)
      listing p
    .ok { run with screen := g.screen ++ run.screen }
  else
    -- choosing a level throws the table
    let table :=
      if g.flag .el0 = 0 ∧ g.flag .el1 = 0 then [] else [Screen.table]
    let run ← mainSearch H tables t stale g operand listing o p
    .ok { run with screen := g.screen ++ table ++ run.screen }

/-- Without options. -/
def greeting (argv : List Text) : List Screen :=
  if argv = [] then [.helpBanner] else []

def main (H : Host δ) (tables : List BitfieldTableEntry) (t : Target)
    (stale : Stale) (argv : List Text) (listing : Outcome)
    (o : Nat → Outcome) (p : Process δ) : Except Fault (MainRun δ) :=
  match (getopt grammar argv).1.foldlM (Given.read t)
    { screen := greeting argv } with
  | .error screen => .ok ⟨-1, screen, p⟩
  | .ok g =>
      mainGiven H tables t stale g (getopt grammar argv).2.head? listing
        o p

end Maplesyrup
