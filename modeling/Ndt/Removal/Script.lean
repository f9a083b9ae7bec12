/-
**The surprise-removal tests `nvme/069` and `nvme/070`.**

`test_device` of either test is a list of commands, one after the other; what a command does is said where it
matters, in `Removal.Clock` for its time and in `Removal.Cleanup` for its effect. A loop that waits for the
device is one command.
-/

import Mathlib

namespace Ndt.Removal

/-- The commands of `test_device`, in both tests and their signal handlers. -/
inductive Command
  /-- A line for the test's output or for `$FULL`. -/
  | note
  /-- The name of the controller; the test returns 1 where it has none. -/
  | resolve
  /-- `saved_delay="$(cat "${VNVME_CFS}/drain_delay_ms")"` -/
  | saveDelay
  | installTrap
  /-- `echo 5000 > "${VNVME_CFS}/drain_delay_ms"` -/
  | stretchDelay
  /-- `_vnvme_fio >> "$FULL" 2>&1 &` -/
  | forkFio
  | sleep (seconds : ℕ)
  /-- `{ echo 1 > "/sys/class/nvme/${nvmedev}/reset_controller"; } >> "$FULL" 2>&1 &` -/
  | forkReset
  | hotremove
  /-- The loop and the test that want the device gone. -/
  | awaitGone
  /-- `kill` of the background jobs. -/
  | killJobs
  | wait
  | hotplug
  /-- The loop and the test that want the device back. -/
  | awaitBack
  | settle
  /-- `echo "$saved_delay" > "${VNVME_CFS}/drain_delay_ms"` -/
  | restoreDelay
  | clearTrap
  /-- `return $rc` -/
  | finish
  /-- `exit 1` of the handler. -/
  | exit
  deriving DecidableEq, Repr

inductive Test
  | nvme069
  | nvme070
  deriving DecidableEq, Repr

/-- `--runtime` of `_vnvme_fio`. -/
def Test.runtime : Test → ℕ
  | .nvme069 => 20
  | .nvme070 => 30

/-- The body of `test_device`. -/
def Test.script : Test → List Command
  | .nvme069 =>
    [.note, .resolve, .saveDelay, .installTrap, .stretchDelay, .forkFio, .sleep 30, .note, .forkReset,
      .sleep 1, .note, .hotremove, .awaitGone, .killJobs, .wait, .hotplug, .awaitBack, .settle,
      .restoreDelay, .clearTrap, .finish]
  | .nvme070 =>
    [.note, .installTrap, .forkFio, .sleep 30, .note, .hotremove, .awaitGone, .killJobs, .wait, .hotplug,
      .awaitBack, .settle, .clearTrap, .finish]

/-- What `trap` installs for INT and TERM. -/
def Test.handler : Test → List Command
  | .nvme069 => [.restoreDelay, .hotplug, .exit]
  | .nvme070 => [.hotplug, .exit]

end Ndt.Removal
