/-
The library's own reads (lib/src/cmd_handler.c): the user-mode twin of
the kernel's `call_func_ptr`, with its signal handler in the place of
the kernel's undef hook.

# Reads that trap

An undefined instruction raises SIGILL. `ms_signal_handler` notes it in
`g_illsig` and jumps back into `try_command_*`, behind the call: the
instruction's result is never stored, and the caller's variable keeps
what it had. The reads are made with the handler installed, between
`register_signal_handlers` and `restore_signal_handlers`.

# The disposition

`sigaction` is the process's, so its outcome is the caller's to say. A
failed call leaves the disposition alone, and the saved one zeroed:
`SIG_DFL`.
-/
import Maplesyrup.Common.JumpTable

namespace Maplesyrup

-- ============================================================= the signal

/-- What a process does about SIGILL. -/
inductive Disposition
  | sigDfl
  | sigIgn
  /-- This library's handler. -/
  | msSignalHandler
  /-- Another handler, with its flags and its mask. -/
  | handler (action : Nat)
deriving DecidableEq, Repr

/-- The disposition in force, and the variables that go with it. -/
structure Signals where
  sigill : Disposition := .sigDfl
  savedSigaction : Disposition := .sigDfl
  msRegHandlers : Int := -1
deriving DecidableEq, Repr

/-- Install the handler. `sigaction` is whether the call succeeds. -/
def registerSignalHandlers (sigaction : Bool) (s : Signals) :
    Int × Signals :=
  if sigaction then
    (0, ⟨.msSignalHandler, s.sigill, 0⟩)
  else (-1, { s with savedSigaction := .sigDfl })

/-- Put the saved disposition back, if the handler is registered. -/
def restoreSignalHandlers (sigaction : Bool) (s : Signals) : Signals :=
  if s.msRegHandlers = 0 then
    { s with
      sigill := if sigaction then s.savedSigaction else s.sigill
      msRegHandlers := -1 }
  else s

-- ============================================================== one read

/-- The flag the signal handler raises, and the handlers called. -/
structure UState where
  gIllsig : U32 := 0
  trace : List Handler := []
deriving DecidableEq

/-- Call a function pointer of the table, unless it is NULL. `reg i` is
what instruction `i` delivers at this level. -/
def tryCommand (t : Target) (reg : String → Option U64)
    (pfunc : Option Handler) (args : Args) (s : UState) :
    Locals × UState :=
  match pfunc with
  | none => ({}, s)
  | some h =>
      let e := h.run t reg
      (e.locals args,
        { gIllsig := if e.trapped then 1 else s.gIllsig
          trace := s.trace ++ [h] })

def tryCommand132 (t : Target) (reg : String → Option U64)
    (pfunc : Option Handler) (s : UState) : Locals × UState :=
  tryCommand t reg pfunc .one32 s

def tryCommand164 (t : Target) (reg : String → Option U64)
    (pfunc : Option Handler) (s : UState) : Locals × UState :=
  tryCommand t reg pfunc .one64 s

def tryCommand232 (t : Target) (reg : String → Option U64)
    (pfunc : Option Handler) (s : UState) : Locals × UState :=
  tryCommand t reg pfunc .two32 s

def tryCommandArch02 (t : Target) (reg : String → Option U64)
    (pfunc : Option Handler) (s : UState) : Locals × UState :=
  match t with
  | .aarch64 => tryCommand t reg pfunc .two64 s
  | .aarch32 => tryCommand t reg pfunc .two32 s

/-- The verdict `set_status_flag` reads off the flag, and the flag it
leaves. -/
def illsigVerdict (gIllsig : U32) : U32 × U32 :=
  if 1 ≤ gIllsig then (msErrorIllinst, 0) else (msErrorSuccess, gIllsig)

/-- Test and clear the flag into a result's status. -/
def setStatusFlag (out : MsData) (s : UState) : MsData × UState :=
  let v := illsigVerdict s.gIllsig
  ({ out with status := v.1 }, { s with gIllsig := v.2 })

namespace Usermode

/-- Read the register of a table row. -/
def callFuncPtr (t : Target) (reg : String → Option U64)
    (funcIndex : Nat) (resultOut : MsData) (s : UState) :
    Int × MsData × UState :=
  let resultOut := { resultOut with
    cpu := 0, midr := 0, out64 := 0, out1 := 0, out2 := 0 }
  match funcTable[funcIndex]? with
  | none => (-1, resultOut, s)
  | some e =>
      let table : Int × MsData × UState :=
        (0, { resultOut with status := msErrorTable }, s)
      if e.functionPrototype = functypeOut1 then
        if e.dataSize = functypeBits32 then
          let (l, s) := tryCommand132 t reg e.funcPtr s
          (0, setStatusFlag { resultOut with out1 := l.cmdResult1 } s)
        else if e.dataSize = functypeBits64 then
          let (l, s) := tryCommand164 t reg e.funcPtr s
          (0, setStatusFlag { resultOut with out64 := l.cmdResult64 } s)
        else if e.dataSize = functypeBitsArch then
          match t with
          | .aarch64 =>
              let (l, s) := tryCommand164 t reg e.funcPtr s
              (0, setStatusFlag
                { resultOut with out64 := l.cmdResult64 } s)
          | .aarch32 =>
              let (l, s) := tryCommand132 t reg e.funcPtr s
              (0, setStatusFlag
                { resultOut with out1 := l.cmdResult1 } s)
        else table
      else if e.functionPrototype = functypeOut2 then
        if e.dataSize = functypeBits32 then
          let (l, s) := tryCommand232 t reg e.funcPtr s
          (0, setStatusFlag { resultOut with
            out1 := l.cmdResult1, out2 := l.cmdResult2 } s)
        else if e.dataSize = functypeBitsArch then
          let (l, s) := tryCommandArch02 t reg e.funcPtr s
          match t with
          | .aarch64 =>
              (0, setStatusFlag { resultOut with
                out64 := l.cmdResult64, out2 := l.cmdResult2 } s)
          | .aarch32 =>
              (0, setStatusFlag { resultOut with
                out1 := l.cmdResult1, out2 := l.cmdResult2 } s)
        else table
      else table

end Usermode

/-- Read the register with this code. -/
def usermodeResults (t : Target) (reg : String → Option U64) (cmd : U32)
    (resultOut : MsData) (s : UState) : Int × MsData × UState :=
  let resultOut := { resultOut with status := msErrorNoresult }
  match findFunctionIndex cmd with
  | none => (-1, resultOut, s)
  | some indexOut =>
      let (r, resultOut, s) :=
        Usermode.callFuncPtr t reg indexOut resultOut s
      if r ≠ 0 then (-1, resultOut, s) else (0, resultOut, s)

end Maplesyrup
