/-
**`vnvme-trace` over the ftrace control files.**

* `Knob` — a control file that a kernel may lack. One it lacks is never written, so it is at its default in
  every state there is.
* `Ftrace` — the control files as registers; `Ftrace.initial` is the state of a booted kernel.
* `Machine` — what the kernel answers to a write, and `grep`. Opening a filter or graph-root file for a write
  truncates it, so what the file holds afterwards (`Written`) depends on the text, not on what it held.
* `doStart`, `doStop`, `vnvmeTrace` — the script; `Machine.after` adds the modules that come and go between
  its invocations.
-/

import Ndt.Shell.Text

namespace Ndt.Trace

open Shell

/-! ### Control files -/

/-- The optional control files that a kernel has: the `[ -f "$TR/…" ]` of the script. -/
structure Knobs where
  setGraphFunction : Bool
  funcgraphAbstime : Bool
  maxGraphDepth : Bool
  tracingThresh : Bool

/-- **An optional register.** One that is not there keeps its default. -/
@[ext] structure Knob {α : Type} (present : Bool) (initial : α) where
  value : α
  absent : present = false → value = initial

namespace Knob

variable {α : Type} {present : Bool} {initial : α}

/-- The register of a booted kernel. -/
def booted : Knob present initial := ⟨initial, fun _ => rfl⟩

/-- `[ -f file ] && echo value > file` -/
def write (knob : Knob present initial) (value : α) : Knob present initial where
  value := if present then value else knob.value
  absent gone := by
    rw [if_neg (by simp [gone])]
    exact knob.absent gone

/-- A write that the kernel may refuse, and then ignores. -/
def tryWrite (knob : Knob present initial) : Option α → Knob present initial
  | some value => knob.write value
  | none => knob

/-- A change by the kernel that keeps the default. -/
def map (knob : Knob present initial) (change : α → α) (keeps : change initial = initial) :
    Knob present initial where
  value := change knob.value
  absent gone := by rw [knob.absent gone, keeps]

/-- **What was there does not matter** to a write. -/
theorem write_congr (first second : Knob present initial) (value : α) :
    first.write value = second.write value := by
  ext
  show (if present then value else first.value) = if present then value else second.value
  split_ifs with there
  · rfl
  · have gone : present = false := Bool.eq_false_iff.mpr there
    exact (first.absent gone).trans (second.absent gone).symm

theorem write_value (knob : Knob present initial) (value : α) (there : present = true) :
    (knob.write value).value = value :=
  if_pos there

@[simp] theorem write_initial (knob : Knob present initial) : (knob.write initial).value = initial := by
  show (if present then initial else knob.value) = initial
  split_ifs with there
  · rfl
  · exact knob.absent (Bool.eq_false_iff.mpr there)

end Knob

/-- The control files under `$TR`. -/
@[ext] structure Ftrace (knobs : Knobs) where
  tracingOn : Bool
  currentTracer : Text
  setFtraceFilter : List Text
  setGraphFunction : Knob knobs.setGraphFunction ([] : List Text)
  funcgraphAbstime : Knob knobs.funcgraphAbstime 0
  maxGraphDepth : Knob knobs.maxGraphDepth 0
  tracingThresh : Knob knobs.tracingThresh 0
  trace : List Text

variable {knobs : Knobs}

/-- The state of a booted kernel. -/
def Ftrace.initial : Ftrace knobs where
  tracingOn := true
  currentTracer := "nop".toList
  setFtraceFilter := []
  setGraphFunction := .booted
  funcgraphAbstime := .booted
  maxGraphDepth := .booted
  tracingThresh := .booted
  trace := []

/-- What a filter file holds after it was truncated and a text was written to it, and whether the kernel
accepted the text. -/
structure Written where
  functions : List Text
  accepted : Bool
  deriving DecidableEq

/-- The lines of `/proc/modules`, and the control files. -/
structure World (knobs : Knobs) where
  modules : List Text
  ftrace : Ftrace knobs

/-- **The kernel's answers**, and `grep -q`. -/
structure Machine (knobs : Knobs) where
  grep : Text → List Text → Bool
  functionGraph : World knobs → Bool
  filter : List Text → Text → Written
  graph : List Text → Text → Written
  number : Text → Option ℕ

/-! ### Words -/

/-- The environment of an invocation; an unset variable is empty. -/
structure Environment where
  traceMod : Text
  depth : Text
  thresh : Text
  graphFn : Text
  period : Text
  sleeps : Text

/-- `${name:-word}` -/
def orWord (value word : Text) : Text := if value = [] then word else value

def Environment.mod (environment : Environment) : Text := orWord environment.traceMod "vnvme".toList

def Environment.depthText (environment : Environment) : Text := orWord environment.depth "8".toList

def Environment.threshText (environment : Environment) : Text := orWord environment.thresh "0".toList

/-- A word that `echo` takes for an option. -/
def isEchoOption : Text → Bool
  | '-' :: c :: cs => (c :: cs).all fun c => c = 'n' || c = 'e' || c = 'E'
  | _ => false

/-- `echo "$word"` -/
def echo (word : Text) : Text :=
  if isEchoOption word then (if 'n' ∈ word then [] else "\n".toList) else word ++ "\n".toList

/-! ### Start -/

/-- The end of the branches on the mode: the values of `abstime` and `scope`. -/
structure Scope where
  abstime : ℕ
  scope : Text

/-- The branches on the mode, from `abstime=0` on. The script exits where a text is refused. -/
def selectScope (machine : Machine knobs) (environment : Environment) (modules : List Text)
    (ftrace : Ftrace knobs) : Ftrace knobs × Except (List Text) Scope :=
  if environment.sleeps ≠ [] then
    let written := machine.filter modules (echo "usleep_range*".toList)
    ({ ftrace with
        setGraphFunction := ftrace.setGraphFunction.write []
        setFtraceFilter := written.functions },
      if written.accepted then .ok ⟨1, "sleeps:usleep_range*".toList⟩
      else .error ["vnvme-trace: no 'usleep_range*' hookable symbol".toList,
        "vnvme-trace: check: grep usleep_range $TR/available_filter_functions".toList])
  else if environment.period ≠ [] then
    let written := machine.filter modules (echo environment.period)
    ({ ftrace with
        setGraphFunction := ftrace.setGraphFunction.write []
        setFtraceFilter := written.functions },
      if written.accepted then .ok ⟨1, "period:".toList ++ environment.period⟩
      else .error ["vnvme-trace: '".toList ++ environment.period ++
        "' not hookable (inlined?); check $TR/available_filter_functions".toList])
  else if environment.graphFn ≠ [] then
    -- this write is not guarded: without the file the redirection fails
    let written := machine.graph modules (echo environment.graphFn)
    ({ ftrace with
        setFtraceFilter := []
        setGraphFunction := ftrace.setGraphFunction.write written.functions },
      if knobs.setGraphFunction && written.accepted then
        .ok ⟨0, "graph-root:".toList ++ environment.graphFn⟩
      else .error ["vnvme-trace: cannot set graph root '".toList ++ environment.graphFn ++
        "' (inlined?); check $TR/available_filter_functions".toList])
  else
    let written := machine.filter modules (echo (":mod:".toList ++ environment.mod))
    ({ ftrace with
        setGraphFunction := ftrace.setGraphFunction.write []
        setFtraceFilter := written.functions },
      if written.accepted then .ok ⟨0, ":mod:".toList ++ environment.mod⟩
      else .error ["vnvme-trace: cannot set :mod:".toList ++ environment.mod ++ " filter".toList])

/-- The rest of `do_start`. The numbers are the kernel's to refuse; the script goes on. -/
def collect (machine : Machine knobs) (environment : Environment) (scope : Scope) (ftrace : Ftrace knobs) :
    Ftrace knobs :=
  { ftrace with
    funcgraphAbstime := ftrace.funcgraphAbstime.write scope.abstime
    maxGraphDepth := ftrace.maxGraphDepth.tryWrite (machine.number (echo environment.depthText))
    tracingThresh := ftrace.tracingThresh.tryWrite (machine.number (echo environment.threshText))
    trace := []
    tracingOn := true }

def collectingLine (environment : Environment) (scope : Scope) : Text :=
  "vnvme-trace: collecting function_graph (".toList ++ scope.scope ++ ", depth=".toList ++
    environment.depthText ++ " thresh=".toList ++ environment.threshText ++ "us abstime=".toList ++
    (if scope.abstime = 0 then "0".toList else "1".toList) ++ ")".toList

/-- The first two writes of `do_start`. -/
def setTracer (ftrace : Ftrace knobs) : Ftrace knobs :=
  { ftrace with tracingOn := false, currentTracer := "function_graph".toList }

/-- `do_start`: the control files it leaves, and the line it prints or those it fails with. -/
def doStart (machine : Machine knobs) (environment : Environment) (world : World knobs) :
    Ftrace knobs × Except (List Text) Text :=
  if machine.functionGraph world then
    match selectScope machine environment world.modules (setTracer world.ftrace) with
    | (ftrace, .error lines) => (ftrace, .error lines)
    | (ftrace, .ok scope) => (collect machine environment scope ftrace, .ok (collectingLine environment scope))
  else
    ({ world.ftrace with tracingOn := false },
      .error ["vnvme-trace: cannot set function_graph tracer".toList])

/-! ### Stop -/

/-- `do_stop`: the control files it leaves. -/
def doStop (ftrace : Ftrace knobs) : Ftrace knobs :=
  { ftrace with
    tracingOn := false
    currentTracer := "nop".toList
    setFtraceFilter := []
    setGraphFunction := ftrace.setGraphFunction.write []
    funcgraphAbstime := ftrace.funcgraphAbstime.write 0
    tracingThresh := ftrace.tracingThresh.write 0
    maxGraphDepth := ftrace.maxGraphDepth.write 0 }

/-- What `do_stop` prints: the buffer between its markers. -/
def dump (ftrace : Ftrace knobs) : List Text :=
  "=== VNVME_FG_BEGIN ===".toList :: ftrace.trace ++ ["=== VNVME_FG_END ===".toList]

/-- The status of `do_stop`: that of its last line, `[ -f "$TR/max_graph_depth" ] && echo 0 > …`. -/
def stopStatus (knobs : Knobs) : ℕ := if knobs.maxGraphDepth then 0 else 1

/-! ### The script -/

/-- What an invocation leaves behind for its caller; the output of a traced command is not in it. -/
structure Report where
  status : ℕ
  stdout : List Text
  stderr : List Text

/-- What a traced command has left of the script. `"$@"` runs in the script's own shell: the command may end it
too, as `exit` and `exec` do, or change its variables, functions, options or traps, and then what the rest of it
comes to is anything. -/
inductive Behind (knobs : Knobs)
  | goesOn
  | ended
  | meddled (world : World knobs) (report : Report)

/-- What became of a traced command. -/
structure Outcome (knobs : Knobs) where
  world : World knobs
  status : ℕ
  behind : Behind knobs

/-- A traced command. It may do anything to the modules, to the control files and to the script. -/
abbrev Command (knobs : Knobs) := World knobs → Outcome knobs

/-- The words after `vnvme-trace`; `run none` is `run` without a command. -/
inductive Invocation (knobs : Knobs)
  | start
  | stop
  | run (command : Option (Command knobs))
  | help
  | unknown (cmd : Text)

def usage (environment : Environment) : List Text :=
  ["usage: vnvme-trace {start|stop|run CMD...|-h}".toList,
    [],
    "  start         configure function_graph and start tracing".toList,
    "  stop          stop tracing, dump buffer to console, reset tracer".toList,
    "  run CMD...    start, run CMD, then stop+dump (trace one workload)".toList,
    [],
    "modes: VNVME_TRACE_MOD=".toList ++ environment.mod ++ "  DEPTH=".toList ++ environment.depthText ++
      "  THRESH=".toList ++ environment.threshText ++ "us".toList,
    "       GRAPH_FN=".toList ++ environment.graphFn ++ "  PERIOD=".toList ++ environment.period ++
      "  SLEEPS=".toList ++ environment.sleeps,
    "examples:".toList,
    ("  vnvme-trace run fio --name=p --filename=/dev/nvme0n1 --rw=read --bs=64k --size=4m " ++
      "--direct=1").toList,
    "  GRAPH_FN=endpoint_raise_msix vnvme-trace run fio ...   # host ISR inline in the raise".toList,
    "  PERIOD=sm_process            vnvme-trace run fio ...   # poll-loop period (abstime deltas)".toList,
    "  SLEEPS=1                     vnvme-trace run fio ...   # does the poll loop sleep?".toList]

/-- The test of `check_mod`: `grep -q "^${MOD} " /proc/modules` -/
def Machine.checkMod (machine : Machine knobs) (environment : Environment) (modules : List Text) : Bool :=
  machine.grep ("^".toList ++ environment.mod ++ " ".toList) modules

/-- The exit of `check_mod`. -/
def notLoaded (environment : Environment) (modules : List Text) : Report where
  status := 1
  stdout := []
  stderr := ["vnvme-trace: module '".toList ++ environment.mod ++ "' not loaded".toList,
    "vnvme-trace: currently loaded modules:".toList] ++ modules.map fun line => (fields line).headD []

/-- The script. -/
def vnvmeTrace (machine : Machine knobs) (environment : Environment) (world : World knobs) :
    Invocation knobs → World knobs × Report
  | .start =>
    if machine.checkMod environment world.modules then
      match doStart machine environment world with
      | (ftrace, .error lines) => (⟨world.modules, ftrace⟩, ⟨1, [], lines⟩)
      | (ftrace, .ok line) => (⟨world.modules, ftrace⟩, ⟨0, [line], []⟩)
    else (world, notLoaded environment world.modules)
  | .stop =>
    if machine.checkMod environment world.modules then
      (⟨world.modules, doStop world.ftrace⟩, ⟨stopStatus knobs, dump world.ftrace, []⟩)
    else (world, notLoaded environment world.modules)
  | .run none => (world, ⟨1, [], "vnvme-trace: run needs a command".toList :: usage environment⟩)
  | .run (some command) =>
    if machine.checkMod environment world.modules then
      match doStart machine environment world with
      | (ftrace, .error lines) => (⟨world.modules, ftrace⟩, ⟨1, [], lines⟩)
      | (ftrace, .ok line) =>
        let outcome := command ⟨world.modules, ftrace⟩
        match outcome.behind with
        | .goesOn =>
          (⟨outcome.world.modules, doStop outcome.world.ftrace⟩,
            ⟨outcome.status, line :: dump outcome.world.ftrace, []⟩)
        | .ended => (outcome.world, ⟨outcome.status, [line], []⟩)
        | .meddled world report => (world, report)
    else (world, notLoaded environment world.modules)
  | .help => (world, ⟨0, usage environment, []⟩)
  | .unknown cmd =>
    (world, ⟨1, [], ("vnvme-trace: unknown subcommand '".toList ++ cmd ++ "'".toList) :: usage environment⟩)

/-! ### Histories -/

/-- An invocation, or modules that come or go. The functions of a module that goes leave the filters. -/
inductive Event (knobs : Knobs)
  | invoke (environment : Environment) (invocation : Invocation knobs)
  | modules (lines : List Text) (stays : Text → Bool)

/-- The control files when functions leave the kernel. -/
def Ftrace.forget (ftrace : Ftrace knobs) (stays : Text → Bool) : Ftrace knobs :=
  { ftrace with
    setFtraceFilter := ftrace.setFtraceFilter.filter stays
    setGraphFunction := ftrace.setGraphFunction.map (List.filter stays) rfl }

/-- The state after an event. -/
def Machine.after (machine : Machine knobs) (world : World knobs) : Event knobs → World knobs
  | .invoke environment invocation => (vnvmeTrace machine environment world invocation).1
  | .modules lines stays => ⟨lines, world.ftrace.forget stays⟩

/-- The state after a history. -/
def Machine.afterAll (machine : Machine knobs) (world : World knobs) (history : List (Event knobs)) :
    World knobs :=
  history.foldl machine.after world

/-- A booted machine. -/
def World.booted (modules : List Text) : World knobs := ⟨modules, .initial⟩

end Ndt.Trace
