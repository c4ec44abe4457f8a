import Maplesyrup.Kernel.Proofs.Bounds
import Maplesyrup.Kernel.Proofs.Flag
import Maplesyrup.Kernel.Proofs.Hook
import Maplesyrup.Decode.Proofs.Modes
import Maplesyrup.Decode.Proofs.Hardware
import Maplesyrup.Decode.Proofs.Dispatch
import Maplesyrup.Base.Grow
import Maplesyrup.Decode.Proofs.Value
import Maplesyrup.Base.Distinct
import Maplesyrup.Decode.Proofs.Uid
import Maplesyrup.Decode.Proofs.Origin
import Maplesyrup.Decode.Proofs.Names
import Maplesyrup.Decode.Proofs.Failure
import Maplesyrup.Decode.Proofs.Fields
import Maplesyrup.Library.Cmd
import Maplesyrup.Library.Proofs.Cmd
import Maplesyrup.Library.Find
import Maplesyrup.Base.Except
import Maplesyrup.Base.Fields
import Maplesyrup.Library.Proofs.Signals
import Maplesyrup.Library.Proofs.Stack
import Maplesyrup.Base.Sites
import Maplesyrup.Library.Proofs.Memory
import Maplesyrup.Frontend.All
import Maplesyrup.Frontend.Proofs.All
import Maplesyrup.Library.Proofs.Tables
import Maplesyrup.Library.Proofs.Request
import Maplesyrup.Library.Proofs.Access
import Maplesyrup.Library.Proofs.DecodeTable
import Maplesyrup.Decode.Proofs.Stamp
import Maplesyrup.Library.Proofs.Stores
import Maplesyrup.Kernel.Load
import Maplesyrup.Kernel.Proofs.Load
import Maplesyrup.Decode.Proofs.Labels
import Maplesyrup.Decode.Proofs.Power
import Maplesyrup.Library.Proofs.Usermode
import Maplesyrup.Library.Proofs.Calls
import Maplesyrup.Library.Proofs.Listing
import Maplesyrup.Library.Expand
import Maplesyrup.Library.Proofs.Expand
import Maplesyrup.Base.Walk
import Maplesyrup.Library.Links
import Maplesyrup.Library.Proofs.Links
import Maplesyrup.Library.Proofs.Flatten
import Maplesyrup.Library.Proofs.Levels
import Maplesyrup.Kernel.Proofs.Conserve
import Maplesyrup.Kernel.Proofs.Lock
import Maplesyrup.Kernel.Proofs.Return
import Maplesyrup.Frontend.Proofs.Main
import Maplesyrup.System.Proofs.Shown
import Maplesyrup.System.Proofs.CommandLine
import Maplesyrup.System.Proofs.Uids
import Maplesyrup.System.Proofs.AllShown
import Maplesyrup.System.Proofs.Rebuilt
import Maplesyrup.System.Proofs.Devices
import Maplesyrup.System.Proofs.Supplied
import Maplesyrup.System.Proofs.Raw
