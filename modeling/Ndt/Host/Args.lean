/-
**The host's `ndt.sh`, from the argument vector to the kernel command line.**

* `parseArgs` — the loop over the arguments: options are taken as they come, operands are collected.
* `Options.testNum`, `Options.iters` — operands fill what no option gave.
* `dispatch` — `--last`, KUnit mode, interactive mode, or one test a number of times.
* `Batch` — a run that waits for a result line, with the command line it boots the guest with
  (`Batch.append`) and its wall-clock budget (`Setting.budget`).

`Setting` is what the script takes from its surroundings: the other shell variables, the working
directory, `NDT_PER_ITER_SEC` and `APPEND`.
-/

import Ndt.Shell.Arith

namespace Ndt.Host

open Shell

/-- The surroundings of the script. -/
structure Setting where
  /-- The shell variables that the script does not set itself. -/
  vars : Env
  /-- The files of the working directory. -/
  names : Pathnames
  /-- `$NDT_PER_ITER_SEC` -/
  perIterSec : Option Text
  /-- `$APPEND` -/
  append : Option Text

/-! ### Arguments -/

/-- Why the script ends before any run: help, or an error of usage. -/
inductive Exit
  | help
  | shortSelector
  | unknownOption (arg : Text)
  | badTestNumber (testNum : Text)
  | badIterationCount (iters : Text)
  deriving DecidableEq, Repr

/-- `usage` exits with `0` for `--help` and with `2` otherwise. -/
def Exit.code : Exit → ℕ
  | .help => 0
  | _ => 2

/-- The line before the usage text. -/
def Exit.message : Exit → Text
  | .help => []
  | .shortSelector =>
    "[ndt] use --test=N / --iteration=N, or positional: ndt.sh N [iters]".toList
  | .unknownOption arg => "[ndt] unknown option: ".toList ++ arg
  | .badTestNumber testNum => "[ndt] bad test number: ".toList ++ testNum
  | .badIterationCount iters => "[ndt] bad iteration count: ".toList ++ iters

/-- The variables of the argument loop. -/
structure Options where
  testNum : Text
  iters : Text
  kunitMode : Bool
  follow : Bool
  showLast : Bool
  positional : List Text
  deriving DecidableEq, Repr

def Options.initial : Options := ⟨[], [], false, false, false, []⟩

/-- `case "$arg" in` -/
def Options.arg (options : Options) (arg : Text) : Except Exit Options :=
  if arg = "-h".toList ∨ arg = "--help".toList then .error .help
  else if arg = "--kunit".toList then .ok { options with kunitMode := true }
  else if arg = "-f".toList ∨ arg = "--follow".toList then .ok { options with follow := true }
  else if arg = "--last".toList ∨ arg = "--show".toList then .ok { options with showLast := true }
  else if startsWith "--test=".toList arg then
    .ok { options with testNum := trimPrefix "--test=".toList arg }
  else if startsWith "--iteration=".toList arg then
    .ok { options with iters := trimPrefix "--iteration=".toList arg }
  else if arg = "-t".toList ∨ arg = "-i".toList then .error .shortSelector
  else if startsWith "-".toList arg then .error (.unknownOption arg)
  else .ok { options with positional := options.positional ++ [arg] }

/-- `for arg in "$@"` -/
def parseArgs (args : List Text) : Except Exit Options := args.foldlM Options.arg Options.initial

/-- The test selector, less one leading `nvme/`. -/
def Options.selector (options : Options) : Text :=
  trimPrefix "nvme/".toList
    (if options.testNum = [] then options.positional[0]?.getD [] else options.testNum)

/-- The iteration count: `1` if neither an option nor an operand gives one. -/
def Options.count (options : Options) : Text :=
  let iters := if options.iters = [] then options.positional[1]?.getD [] else options.iters
  if iters = [] then "1".toList else iters

/-! ### Mode dispatch -/

/-- `printf '%03d'` -/
def printf03d (value : ℤ) : Text :=
  match value with
  | .ofNat n => List.replicate (3 - (decimal n).length) '0' ++ decimal n
  | .negSucc n => '-' :: (List.replicate (2 - (decimal (n + 1)).length) '0' ++ decimal (n + 1))

/-- `nn=$(printf '%03d' "$((10#$test_num))")` -/
def Setting.nn (host : Setting) (testNum : Text) : Text :=
  match (arith true ("10#".toList ++ testNum) host.vars).1 with
  | .ok value => printf03d value
  | .error _ => []

/-- `[[ "$iters" =~ ^[0-9]+$ ]]` holds and `(( iters < 1 ))` does not. -/
def Setting.acceptsIters (host : Setting) (iters : Text) : Bool :=
  isNumeral iters &&
    arithCommand true "iters < 1".toList (host.vars.set "iters".toList iters) ≠ some true

/-- What a run in batch mode is about. -/
inductive Subject
  | kunit
  | blktest (nn : Text)
  deriving DecidableEq, Repr

/-- **A run that boots the guest and waits for its result line.** -/
structure Batch where
  subject : Subject
  iters : Text
  follow : Bool
  deriving DecidableEq, Repr

/-- What an invocation does once its arguments are parsed. -/
inductive Mode
  | last
  | interactive
  | batch (batch : Batch)
  deriving DecidableEq, Repr

/-- The mode of an invocation. -/
def Setting.dispatch (host : Setting) (options : Options) : Except Exit Mode :=
  if options.showLast then .ok .last
  else if options.kunitMode then .ok (.batch ⟨.kunit, "1".toList, options.follow⟩)
  else if options.selector = [] then .ok .interactive
  else if !isNumeral options.selector then .error (.badTestNumber options.selector)
  else if !host.acceptsIters options.count then .error (.badIterationCount options.count)
  else .ok (.batch ⟨.blktest (host.nn options.selector), options.count, options.follow⟩)

/-- An invocation up to its mode. -/
def Setting.invoke (host : Setting) (args : List Text) : Except Exit Mode := do
  host.dispatch (← parseArgs args)

/-- `$blktest` -/
def Batch.name (batch : Batch) : Text :=
  match batch.subject with
  | .kunit => "kunit".toList
  | .blktest nn => "nvme/".toList ++ nn

/-! ### The kernel command line and the budget -/

/-- `$cmd_test` -/
def Batch.cmdTest (batch : Batch) : Text :=
  match batch.subject with
  | .kunit => "ndt.kunit=1".toList
  | .blktest nn => "ndt.test=".toList ++ nn ++ " ndt.iter=".toList ++ batch.iters

/-- The base kernel command line. -/
def baseCmdline : Text :=
  "console=ttyS0 panic=-1 memmap=64K$0x100000000 nvme_core.multipath=0".toList

/-- `${APPEND:-"$base_cmdline${extra:+ $extra}"}` -/
def Setting.kernelAppend (host : Setting) (extra : Text) : Text :=
  match host.append with
  | some (c :: rest) => c :: rest
  | _ => if extra = [] then baseCmdline else baseCmdline ++ " ".toList ++ extra

/-- What the guest reads from `/proc/cmdline`. -/
def Setting.procCmdline (host : Setting) (batch : Batch) : Text :=
  host.kernelAppend batch.cmdTest ++ ['\n']

/-- `per_iter=${NDT_PER_ITER_SEC:-600}` -/
def Setting.perIter (host : Setting) : Text :=
  match host.perIterSec with
  | some (c :: rest) => c :: rest
  | _ => "600".toList

/-- `budget=$(( iters * per_iter + 120 ))`; `none`: the expansion fails and `budget` stays unset. -/
def Setting.budget (host : Setting) (iters : Text) : Option ℤ :=
  (arith true "iters * per_iter + 120".toList
    ((host.vars.set "iters".toList iters).set "per_iter".toList host.perIter)).1.toOption

end Ndt.Host
