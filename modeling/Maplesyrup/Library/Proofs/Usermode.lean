/-
Is an illegal instruction blamed on the read that raised it?

The verdict travels through `g_illsig`, which `ms_signal_handler` raises
and `set_status_flag` tests and clears. Every dispatch case that calls a
handler consumes the flag behind the call, and the cases that call none
leave it alone: down before a call it is down behind it, so a verdict is
of the call's own handler.
-/
import Maplesyrup.Library.Proofs.Cmd

namespace Maplesyrup

variable {t : Target} {s : UState} {e : FuncTableEntry}

-- =========================================================== the statement

/-- A call of `usermode_results`: its code, what every instruction
delivers while it runs, and the caller's result. -/
structure UserCall where
  cmd : U32
  reg : String → Option U64
  resultOut : MsData

def UserCall.run (t : Target) (c : UserCall) (s : UState) :
    Int × MsData × UState :=
  usermodeResults t c.reg c.cmd c.resultOut s

/-- The words a call stores a handler's values in. -/
def MsData.words (d : MsData) : U64 × U32 × U32 :=
  (d.out64, d.out1, d.out2)

theorem UserCall.run_row {c : UserCall} (hrow : rowOf c.cmd = some e)
    (s : UState) :
    c.run t s
      = (0, userSlot t c.reg e s.gIllsig
            { c.resultOut with status := msErrorNoresult },
          userState t c.reg e s) := by
  obtain ⟨index, hidx, he⟩ := findFunctionIndex_rowOf hrow
  rw [UserCall.run, usermodeResults, hidx]
  dsimp only
  rw [Usermode.callFuncPtr_eq he]
  rfl

theorem UserCall.run_unknown {c : UserCall} (hrow : rowOf c.cmd = none)
    (s : UState) :
    c.run t s
      = (-1, { c.resultOut with status := msErrorNoresult }, s) := by
  have hnone : findFunctionIndex c.cmd = none :=
    List.findIdx?_eq_none_iff.2 fun e he =>
      Bool.eq_false_iff.2 (List.find?_eq_none.1 hrow e he)
  rw [UserCall.run, usermodeResults, hnone]

/-- Every case consumes the flag it raised. -/
theorem UserCall.run_flag (c : UserCall) (hs : s.gIllsig = 0) :
    (c.run t s).2.2.gIllsig = 0 := by
  cases hrow : rowOf c.cmd with
  | none => rwa [c.run_unknown hrow]
  | some e =>
      rw [c.run_row hrow]
      show (userState t c.reg e s).gIllsig = 0
      unfold userState
      rw [hs]
      split
      · cases htrap : (tryEffect t c.reg e.funcPtr).trapped with
        | false => simp [raisedFlag, illsigVerdict, htrap]
        | true => simp [raisedFlag, illsigVerdict, htrap]
      · exact hs

end Maplesyrup
