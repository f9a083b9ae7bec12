import Ndt.Shell.Grep
import Ndt.Shell.Path
import Ndt.Check.Batches
import Ndt.Check.Whole
import Ndt.Check.Boot
import Ndt.Check.LastRun
import Ndt.Check.Dmesg
import Ndt.Check.Restore
import Ndt.Check.Version
import Ndt.Target.Nvmet
import Ndt.Target.Passthru
import Ndt.Target.Load
import Ndt.Check.Modules
import Ndt.Run.Agreement
import Ndt.Run.IterationCount
import Ndt.Run.Torn
import Ndt.Run.Spelling
import Ndt.Race.LastLook
import Ndt.Race.Socket
import Ndt.Race.Processes
import Ndt.Trace.Reset
import Ndt.Removal.Clock
import Ndt.Removal.Cleanup
import Ndt.Run.Records
import Ndt.Guest.Check
import Ndt.Guest.Sudo
import Ndt.Run.Abort
import Ndt.Run.Format
import Ndt.Run.Reason
import Ndt.Run.Selector
