/-
**The guest's `init`: one test, `K` times, one result line.**

PID 1 of the initramfs, after the mounts and the base `modprobe` chain:

* `parseCmdline` — `ndt.test=` and `ndt.iter=` from `/proc/cmdline`.
* `iteration` — one pass of the test loop: run `./check`, look at the record in every sub-directory of
  `results`, count the iteration as a failure, a pass or a skip, wipe `results`.
* `runLoop` — `for ((i = 1; i <= ndt_iter; i++))`. Arithmetic is 64 bits wide, so the loop has fuel:
  `none` means that it is still running.
* `init` — the whole of it: an interactive shell, `ndt_die` with a reason, or the test loop and its
  `NDT_RESULT` line. Console lines are those `init` echoes itself.

What `./check` leaves behind is given (`Outcome`), and so is the order in which the shell enumerates
the sub-directories (`Listing`).
-/

import Ndt.Shell.Arith

namespace Ndt.Guest

open Shell

/-! ### Result lines -/

/-- `ndt_emit() { echo "=== $* ==="; }` -/
def ndtEmit (message : Text) : Text := "=== ".toList ++ message ++ " ===".toList

/-- The three counters of the test loop. -/
structure Tally where
  pass : ℤ
  fail : ℤ
  skip : ℤ
  deriving DecidableEq, Repr

/-- The counters before the first iteration. -/
def Tally.zero : Tally := ⟨0, 0, 0⟩

/-- The line that reports a finished run. -/
def resultLine (tally : Tally) (ndtIter ndtBlktest : Text) : Text :=
  ndtEmit ("NDT_RESULT pass=".toList ++ showInt tally.pass ++ " fail=".toList ++ showInt tally.fail ++
    " skip=".toList ++ showInt tally.skip ++ " iter=".toList ++ ndtIter ++ " test=".toList ++
    ndtBlktest)

/-- The line that reports why no test was run. -/
def errorLine (reason : Text) : Text :=
  ndtEmit ("NDT_RESULT error='".toList ++ reason ++ "'".toList)

/-! ### The kernel command line -/

/-- What `init` takes from `/proc/cmdline`. -/
structure Request where
  ndtTest : Text
  ndtIter : Text
  deriving DecidableEq, Repr

/-- One word of the command line; the last one of a kind wins. -/
def Request.token (request : Request) (tok : Text) : Request :=
  if startsWith "ndt.test=".toList tok then
    { request with ndtTest := trimPrefix "ndt.test=".toList tok }
  else if startsWith "ndt.iter=".toList tok then
    { request with ndtIter := trimPrefix "ndt.iter=".toList tok }
  else request

/-- `for tok in $(cat /proc/cmdline)` -/
def parseCmdline (names : Pathnames) (cmdline : Text) : Request :=
  (names.words (commandOutput cmdline)).foldl Request.token ⟨[], []⟩

/-! ### Records -/

/-- **A record file of `./check`.** It is written by the shell's `printf` from shell variables, so it
holds no NUL byte. -/
structure Record where
  text : Text
  clean : '\x00' ∉ text
  deriving DecidableEq

/-- `sed -n 's/^status\t//p'`: the rest of every line that starts with `status` and a tab. -/
def Record.statusLines (record : Record) : List Text :=
  (lines record.text).filterMap fun row =>
    if startsWith "status\t".toList row then some (trimPrefix "status\t".toList row) else none

/-- The status a record states, if it states one. -/
def Record.status? (record : Record) : Option Text := record.statusLines.head?

/-- `s=$(sed -n 's/^status\t//p' "$f" | head -1)` -/
def Record.s (record : Record) : Text := commandOutput (unlines (record.statusLines.take 1))

/-- **A sub-directory of `results`** that the glob `results/*/` finds: not hidden. `./check` names
them `nodev` or after a device, with the conditions of the test appended. -/
structure SubDir where
  name : Text
  visible : name ≠ [] ∧ name.head? ≠ some '.' ∧ '/' ∉ name
  deriving DecidableEq

/-- The content of `results`: the sub-directories, each with the record of the test, if there is
one. -/
abbrev Results := List (SubDir × Option Record)

/-- **What one `./check` leaves in `results`**: a finite map from sub-directories to records. A
sub-directory may be left without a record. -/
structure Outcome where
  entries : List (SubDir × Option Record)
  nodup : (entries.map Prod.fst).Nodup

/-- `results` after a `./check`: an old record in a sub-directory it used is gone. -/
def Results.write (results : Results) (outcome : Outcome) : Results :=
  outcome.entries ++ results.filter fun entry => entry.1 ∉ outcome.entries.map Prod.fst

/-- **The order in which a glob enumerates sub-directories.** -/
structure Listing where
  order : Results → Results
  perm : ∀ results, (order results).Perm results

/-- The sub-directories in the order in which they are stored. -/
def Listing.stored : Listing := ⟨id, fun _ => List.Perm.rfl⟩

/-- One iteration, as far as it is not up to `init`. -/
structure Attempt where
  outcome : Outcome
  listing : Listing

/-! ### One iteration -/

/-- What a status counts as. -/
inductive Flag
  | pass | fail | skip
  deriving DecidableEq, Repr

/-- `case "$s" in` -/
def classify (s : Text) : Flag :=
  if s = "pass".toList then .pass
  else if s = "not run".toList ∨ s = "skipped".toList ∨ s = [] then .skip
  else .fail

/-- The three flags of an iteration. -/
structure Flags where
  anyPass : Bool
  anyFail : Bool
  anySkip : Bool
  deriving DecidableEq, Repr

def Flags.clear : Flags := ⟨false, false, false⟩

def Flags.raise (flags : Flags) : Flag → Flags
  | .pass => { flags with anyPass := true }
  | .fail => { flags with anyFail := true }
  | .skip => { flags with anySkip := true }

/-- One round of `for d in /opt/blktests/results/*/`. -/
def Flags.look (flags : Flags) (entry : SubDir × Option Record) : Flags :=
  match entry.2 with
  | none => flags
  | some record => flags.raise (classify record.s)

/-- Any fail wins, else any pass, else skip. -/
def Tally.count (tally : Tally) (flags : Flags) : Tally :=
  if flags.anyFail then { tally with fail := wrap (tally.fail + 1) }
  else if flags.anyPass then { tally with pass := wrap (tally.pass + 1) }
  else { tally with skip := wrap (tally.skip + 1) }

/-- The state of the test loop: the loop variable, the counters, `results`, the lines echoed, and the
number of `./check` runs so far. -/
structure LoopState where
  i : ℤ
  tally : Tally
  results : Results
  console : List Text
  checks : ℕ

/-- The body of the test loop and `i++`. -/
def iteration (ndtIter ndtBlktest : Text) (attempt : Attempt) (state : LoopState) : LoopState :=
  let results := state.results.write attempt.outcome
  let flags := (attempt.listing.order results).foldl Flags.look Flags.clear
  { i := wrap (state.i + 1)
    tally := state.tally.count flags
    results := []
    console := state.console ++ ["[init] iter ".toList ++ showInt state.i ++ "/".toList ++ ndtIter ++
      ": ".toList ++ ndtBlktest]
    checks := state.checks + 1 }

/-- The arithmetic value of a text whose names are all unset; `none`: an error. -/
def textValue (t : Text) : Option ℤ := (arith false t fun _ => none).1.toOption

/-- `i <= ndt_iter` -/
def loopGuard (ndtIter : Text) (state : LoopState) : Bool :=
  (textValue ndtIter).any fun bound => state.i ≤ bound

/-- `for ((i = 1; i <= ndt_iter; i++))`, with fuel. -/
def runLoop (ndtIter ndtBlktest : Text) (attempts : ℕ → Attempt) : ℕ → LoopState → Option LoopState
  | 0, _ => none
  | fuel + 1, state =>
    if loopGuard ndtIter state then
      runLoop ndtIter ndtBlktest attempts fuel
        (iteration ndtIter ndtBlktest (attempts state.checks) state)
    else some state

/-! ### The whole of `init` -/

/-- The guest as `init` finds it. -/
structure Machine where
  /-- `uname -r` -/
  release : Text
  /-- `[[ -f /opt/blktests/tests/... ]]` -/
  testFile : Text → Bool
  /-- `/vnvme_load.sh` succeeds. -/
  vnvmeLoad : Bool
  /-- `/sys/kernel/config/vnvme/hotplug` exists. -/
  hotplug : Bool
  /-- `/dev/nvme0n1` exists after the wait. -/
  nvme0n1 : Bool
  /-- `/opt/blktests/results` at boot. -/
  results : Results

/-- How `init` gives up control. -/
inductive Ending
  | bash | poweroff
  deriving DecidableEq, Repr

/-- A finished boot: the lines echoed, how it ended, how often `./check` ran. -/
structure Boot where
  console : List Text
  ending : Ending
  checks : ℕ

/-- The lines of every boot. -/
def preamble (machine : Machine) : List Text :=
  [[], "=== nvme QEMU rootfs ===".toList, "kernel: ".toList ++ machine.release,
    "[init] udev ready".toList]

/-- The lines of an interactive session. -/
def interactiveNotice : List Text :=
  [[], "[init] no ndt.test on cmdline — interactive session".toList,
    "[init] device NOT loaded; run /vnvme_load.sh by hand to bring up /dev/nvme0n1".toList,
    "[init] 'poweroff -f' to exit".toList, []]

/-- `ndt_die`: one error line, then power off. -/
def ndtDie (console : List Text) (reason : String) : Boot :=
  ⟨console ++ [errorLine reason.toList], .poweroff, 0⟩

/-- `[[ "$ndt_iter" =~ ^[0-9]+$ && "$ndt_iter" -gt 0 ]]` -/
def validIter (ndtIter : Text) : Bool :=
  isNumeral ndtIter && (textValue ndtIter).any fun value => 0 < value

/-- The state in which the test loop starts. -/
def loopStart (machine : Machine) : LoopState := ⟨1, .zero, machine.results, preamble machine, 0⟩

/-- `init`, with fuel for the test loop. -/
def init (names : Pathnames) (machine : Machine) (attempts : ℕ → Attempt) (cmdline : Text)
    (fuel : ℕ) : Option Boot :=
  let request := parseCmdline names cmdline
  let ndtBlktest := "nvme/".toList ++ request.ndtTest
  if request.ndtTest = [] then some ⟨preamble machine ++ interactiveNotice, .bash, 0⟩
  else if request.ndtIter = [] then some (ndtDie (preamble machine) "missing-or-bad-cmdline")
  else if !isNumeral request.ndtTest then some (ndtDie (preamble machine) "missing-or-bad-cmdline")
  else if !validIter request.ndtIter then some (ndtDie (preamble machine) "missing-or-bad-cmdline")
  else if !machine.testFile ndtBlktest then some (ndtDie (preamble machine) "test-not-found")
  else if !machine.vnvmeLoad then some (ndtDie (preamble machine) "vnvme-load-failed")
  else if !machine.hotplug then some (ndtDie (preamble machine) "no-vnvme-configfs")
  else if !machine.nvme0n1 then some (ndtDie (preamble machine) "no-nvme0n1")
  else (runLoop request.ndtIter ndtBlktest attempts fuel (loopStart machine)).map fun final =>
    ⟨final.console ++ [resultLine final.tally request.ndtIter ndtBlktest], .poweroff, final.checks⟩

end Ndt.Guest
