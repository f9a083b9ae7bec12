/-
**What a start selects, and what it does not inherit.**

The four branches of `do_start` differ in the text that they hand to the kernel and in the file that takes it
(`Machine.answer`); the other of the two files is emptied (`selectScope_fst`). All other registers are written
whatever they held, so a start is independent of the history before it (`doStart_congr`).

That exactly one register selects what is traced needs a text that selects something. `echo` takes `-n` for
an option and the kernel reads blanks as no words: such a write is accepted and leaves the file empty
(`start_iff`, `unselective_start`).
-/

import Ndt.Shell.Numeral
import Ndt.Trace.Vnvme

namespace Ndt.Trace

open Shell

variable {knobs : Knobs}

/-! ### Modes -/

/-- The modes, in their order of precedence. -/
inductive Mode
  | sleeps
  | period
  | graphRoot
  | moduleOnly
  deriving DecidableEq

/-- SLEEPS > PERIOD > GRAPH_FN > default -/
def Environment.mode (environment : Environment) : Mode :=
  if environment.sleeps ≠ [] then .sleeps
  else if environment.period ≠ [] then .period
  else if environment.graphFn ≠ [] then .graphRoot
  else .moduleOnly

/-- What a mode names: the sleep glob, the period anchor, the graph root or the module filter. -/
def Environment.pattern (environment : Environment) : Text :=
  match environment.mode with
  | .sleeps => "usleep_range*".toList
  | .period => environment.period
  | .graphRoot => environment.graphFn
  | .moduleOnly => ":mod:".toList ++ environment.mod

/-- The kernel's answer to the text of the mode. -/
def Machine.answer (machine : Machine knobs) (environment : Environment) (modules : List Text) : Written :=
  match environment.mode with
  | .graphRoot =>
    let written := machine.graph modules (echo environment.pattern)
    ⟨written.functions, knobs.setGraphFunction && written.accepted⟩
  | _ => machine.filter modules (echo environment.pattern)

/-- The two registers that select what is traced. -/
structure Selection where
  filter : List Text
  graph : List Text
  deriving DecidableEq

/-- The selection of a mode: one register holds what the kernel made of the text, the other is empty. -/
def Machine.selection (machine : Machine knobs) (environment : Environment) (modules : List Text) :
    Selection :=
  match environment.mode with
  | .graphRoot => ⟨[], (machine.answer environment modules).functions⟩
  | _ => ⟨(machine.answer environment modules).functions, []⟩

/-- **The branches on the mode**: the registers they leave. -/
theorem selectScope_fst (machine : Machine knobs) (environment : Environment) (modules : List Text)
    (ftrace : Ftrace knobs) :
    (selectScope machine environment modules ftrace).1 =
      { ftrace with
        setFtraceFilter := (machine.selection environment modules).filter
        setGraphFunction := ftrace.setGraphFunction.write (machine.selection environment modules).graph } := by
  unfold selectScope Machine.selection Machine.answer Environment.pattern Environment.mode
  split_ifs <;> rfl

/-- They go on exactly where the kernel accepts the text. -/
theorem selectScope_isOk (machine : Machine knobs) (environment : Environment) (modules : List Text)
    (ftrace : Ftrace knobs) :
    (selectScope machine environment modules ftrace).2.isOk =
      (machine.answer environment modules).accepted := by
  have branch : ∀ (accepted : Bool) (scope : Scope) (lines : List Text),
      (if accepted then (.ok scope : Except (List Text) Scope) else .error lines).isOk = accepted := by
    rintro (_ | _) scope lines <;> rfl
  unfold selectScope Machine.answer Environment.pattern Environment.mode
  split_ifs <;> exact branch _ _ _

/-- Nothing they print depends on the registers. -/
theorem selectScope_snd (machine : Machine knobs) (environment : Environment) (modules : List Text)
    (first second : Ftrace knobs) :
    (selectScope machine environment modules first).2 = (selectScope machine environment modules second).2 := by
  unfold selectScope
  split_ifs <;> rfl

/-! ### Starts -/

/-- **A start that goes through**: its registers, for some scope that depends on no register. -/
theorem doStart_ok {machine : Machine knobs} {environment : Environment} {world : World knobs} {line : Text}
    {ftrace : Ftrace knobs} (started : doStart machine environment world = (ftrace, .ok line)) :
    machine.functionGraph world = true ∧
      ∃ scope, (selectScope machine environment world.modules (setTracer world.ftrace)).2 = .ok scope ∧
        ftrace = collect machine environment scope
          { setTracer world.ftrace with
            setFtraceFilter := (machine.selection environment world.modules).filter
            setGraphFunction := world.ftrace.setGraphFunction.write
              (machine.selection environment world.modules).graph } := by
  unfold doStart at started
  split_ifs at started with accepted
  · refine ⟨accepted, ?_⟩
    have registers := selectScope_fst machine environment world.modules (setTracer world.ftrace)
    split at started
    · cases started
    · rename_i left scope chosen
      rw [chosen] at registers
      obtain rfl : left = _ := registers
      obtain rfl := congrArg Prod.fst started
      exact ⟨scope, congrArg Prod.snd chosen, rfl⟩
  · cases started

/-- **A start succeeds** exactly where the module is loaded and the kernel accepts both texts. -/
theorem doStart_isOk (machine : Machine knobs) (environment : Environment) (world : World knobs) :
    (doStart machine environment world).2.isOk =
      (machine.functionGraph world && (machine.answer environment world.modules).accepted) := by
  have branch := selectScope_isOk machine environment world.modules (setTracer world.ftrace)
  unfold doStart
  split_ifs with accepted
  · rw [accepted, Bool.true_and, ← branch]
    split <;> (rename_i chosen; rw [chosen]; rfl)
  · rw [Bool.not_eq_true] at accepted
    rw [accepted]
    rfl

/-- **No history**: two starts under the same modules that go through leave the same registers. -/
theorem doStart_congr {machine : Machine knobs} {environment : Environment} {modules : List Text}
    {first second : Ftrace knobs} (depth : (machine.number (echo environment.depthText)).isSome = true)
    (thresh : (machine.number (echo environment.threshText)).isSome = true) {left right : Ftrace knobs}
    {firstLine secondLine : Text}
    (firstStarted : doStart machine environment ⟨modules, first⟩ = (left, .ok firstLine))
    (secondStarted : doStart machine environment ⟨modules, second⟩ = (right, .ok secondLine)) :
    left = right := by
  obtain ⟨_, scope, chosen, rfl⟩ := doStart_ok firstStarted
  obtain ⟨_, other, chosen', rfl⟩ := doStart_ok secondStarted
  have same : scope = other := Except.ok.inj (chosen.symm.trans
    ((selectScope_snd machine environment modules _ _).trans chosen'))
  subst same
  obtain ⟨depthValue, depth⟩ := Option.isSome_iff_exists.mp depth
  obtain ⟨threshValue, thresh⟩ := Option.isSome_iff_exists.mp thresh
  unfold collect
  rw [depth, thresh]
  ext1
  · rfl
  · rfl
  · rfl
  · exact Knob.write_congr _ _ _
  · exact Knob.write_congr _ _ _
  · exact Knob.write_congr _ _ _
  · exact Knob.write_congr _ _ _
  · rfl

/-- The status of a start: success means that the module was found and `do_start` went through. -/
theorem started_of_status {machine : Machine knobs} {environment : Environment} {world : World knobs}
    (succeeded : (vnvmeTrace machine environment world .start).2.status = 0) :
    ∃ ftrace line, doStart machine environment world = (ftrace, .ok line) ∧
      (vnvmeTrace machine environment world .start).1 = ⟨world.modules, ftrace⟩ := by
  cases loaded : machine.checkMod environment world.modules with
  | false =>
    rw [vnvmeTrace, loaded] at succeeded
    cases succeeded
  | true =>
    rw [vnvmeTrace, loaded, if_pos rfl] at succeeded ⊢
    rcases start : doStart machine environment world with ⟨ftrace, lines | line⟩
    · rw [start] at succeeded
      cases succeeded
    · exact ⟨ftrace, line, rfl, rfl⟩

/-! ### What is traced -/

/-- **Exactly one register selects** what is traced, and it is the one of the mode. -/
def SelectsOne (machine : Machine knobs) (environment : Environment) (modules : List Text)
    (ftrace : Ftrace knobs) : Prop :=
  (⟨ftrace.setFtraceFilter, ftrace.setGraphFunction.value⟩ : Selection) =
      machine.selection environment modules ∧
    Xor (ftrace.setFtraceFilter ≠ []) (ftrace.setGraphFunction.value ≠ [])

/-- After a start that goes through the two registers hold the selection of the mode. -/
theorem selection_of_started {machine : Machine knobs} {environment : Environment} {world : World knobs}
    {ftrace : Ftrace knobs} {line : Text}
    (started : doStart machine environment world = (ftrace, .ok line)) :
    (⟨ftrace.setFtraceFilter, ftrace.setGraphFunction.value⟩ : Selection) =
      machine.selection environment world.modules := by
  have accepted : (machine.answer environment world.modules).accepted = true := by
    have both := doStart_isOk machine environment world
    rw [started] at both
    exact (Bool.and_eq_true_iff.mp both.symm).2
  obtain ⟨_, scope, _, rfl⟩ := doStart_ok started
  have graph : (world.ftrace.setGraphFunction.write
      (machine.selection environment world.modules).graph).value =
        (machine.selection environment world.modules).graph := by
    unfold Machine.selection
    cases mode : environment.mode with
    | graphRoot =>
      rw [Machine.answer, mode] at accepted
      exact Knob.write_value _ _ (Bool.and_eq_true_iff.mp accepted).1
    | sleeps => exact Knob.write_initial _
    | period => exact Knob.write_initial _
    | moduleOnly => exact Knob.write_initial _
  exact congrArg (Selection.mk _) graph

/-- One register of a mode's selection is empty; the other selects where the kernel's answer does. -/
theorem selection_xor (machine : Machine knobs) (environment : Environment) (modules : List Text) :
    Xor ((machine.selection environment modules).filter ≠ [])
        ((machine.selection environment modules).graph ≠ []) ↔
      (machine.answer environment modules).functions ≠ [] := by
  unfold Machine.selection
  cases environment.mode <;> simp [Xor]

/-- **One start**: exactly one register selects, if the kernel finds a function in the text of the mode. -/
theorem selectsOne_iff {machine : Machine knobs} {environment : Environment} {world : World knobs}
    {ftrace : Ftrace knobs} {line : Text}
    (started : doStart machine environment world = (ftrace, .ok line)) :
    SelectsOne machine environment world.modules ftrace ↔
      (machine.answer environment world.modules).functions ≠ [] := by
  have registers := selection_of_started started
  rw [SelectsOne, and_iff_right registers, ← selection_xor, ← registers]

/-- **Two starts in whatever states** of the control files, under the same modules: the registers are the
same, and exactly one of them selects, if the kernel finds a function in the text of the mode. -/
theorem start_iff (machine : Machine knobs) (environment : Environment) (modules : List Text)
    (first second : Ftrace knobs)
    (depth : (machine.number (echo environment.depthText)).isSome = true)
    (thresh : (machine.number (echo environment.threshText)).isSome = true)
    (firstStarted : (vnvmeTrace machine environment ⟨modules, first⟩ .start).2.status = 0)
    (secondStarted : (vnvmeTrace machine environment ⟨modules, second⟩ .start).2.status = 0) :
    (vnvmeTrace machine environment ⟨modules, first⟩ .start).1 =
        (vnvmeTrace machine environment ⟨modules, second⟩ .start).1 ∧
      (SelectsOne machine environment modules
          (vnvmeTrace machine environment ⟨modules, first⟩ .start).1.ftrace ↔
        (machine.answer environment modules).functions ≠ []) := by
  obtain ⟨left, firstLine, firstStart, firstAfter⟩ := started_of_status firstStarted
  obtain ⟨right, secondLine, secondStart, secondAfter⟩ := started_of_status secondStarted
  rw [firstAfter, secondAfter]
  exact ⟨congrArg (World.mk modules) (doStart_congr depth thresh firstStart secondStart),
    selectsOne_iff firstStart⟩

/-! ### A period that selects nothing -/

/-- A machine with every control file and two functions that can be hooked. -/
def allKnobs : Knobs := ⟨true, true, true, true⟩

/-- The function that a word of a filter matches there. -/
def hookable (word : Text) : Option Text :=
  if word = "sm_process".toList ∨ word = ":mod:vnvme".toList then some "sm_process".toList
  else if word = "usleep_range_state".toList ∨ word = "usleep_range*".toList then
    some "usleep_range_state".toList
  else none

/-- The kernel takes a text word by word. -/
def hook (text : Text) : Written :=
  ⟨(fields text).filterMap hookable, (fields text).all fun word => (hookable word).isSome⟩

def sampleMachine : Machine allKnobs where
  grep pattern rows := rows.any (startsWith (pattern.drop 1))
  functionGraph _ := true
  filter _ text := hook text
  graph _ text := hook text
  number text :=
    match fields text with
    | [word] => if isNumeral word then some (decimalValue word) else none
    | _ => none

/-- `/proc/modules` with the module. -/
def sampleModules : List Text := ["vnvme 65536 0 - Live 0x0000000000000000 (O)".toList]

/-- The environment without a mode. -/
def noMode : Environment := ⟨[], [], [], [], [], []⟩

/-- The sleep mode, with a depth and a threshold of its own. -/
def sleepMode : Environment :=
  { noMode with sleeps := "1".toList, depth := "4".toList, thresh := "100".toList }

/-- A start with a period has left its registers behind. -/
def periodStarted : Ftrace allKnobs :=
  (vnvmeTrace sampleMachine { noMode with period := "sm_process".toList, depth := "2".toList }
    (.booted sampleModules) .start).1.ftrace

/-- A start with a graph root that the kernel does not know has failed half-way. -/
def rootRefused : Ftrace allKnobs :=
  (vnvmeTrace sampleMachine { noMode with graphFn := "sm_proces".toList } ⟨sampleModules, periodStarted⟩
    .start).1.ftrace

theorem start_iff_sample :
    (vnvmeTrace sampleMachine sleepMode ⟨sampleModules, periodStarted⟩ .start).1 =
        (vnvmeTrace sampleMachine sleepMode ⟨sampleModules, rootRefused⟩ .start).1 ∧
      (SelectsOne sampleMachine sleepMode sampleModules
          (vnvmeTrace sampleMachine sleepMode ⟨sampleModules, periodStarted⟩ .start).1.ftrace ↔
        (sampleMachine.answer sleepMode sampleModules).functions ≠ []) :=
  start_iff sampleMachine sleepMode sampleModules periodStarted rootRefused (by decide)
    (by decide) (by decide) (by decide)

/-- **`PERIOD=-n`**: the start succeeds, and no register selects anything. -/
theorem unselective_start :
    let environment : Environment := { noMode with period := "-n".toList }
    (vnvmeTrace sampleMachine environment (.booted sampleModules) .start).2.status = 0 ∧
      ¬ SelectsOne sampleMachine environment sampleModules
        (vnvmeTrace sampleMachine environment (.booted sampleModules) .start).1.ftrace := by
  refine ⟨by decide, fun selects => ?_⟩
  have registers : (vnvmeTrace sampleMachine { noMode with period := "-n".toList } (.booted sampleModules)
      .start).1.ftrace.setFtraceFilter = [] ∧
    (vnvmeTrace sampleMachine { noMode with period := "-n".toList } (.booted sampleModules)
      .start).1.ftrace.setGraphFunction.value = [] := by decide
  rcases selects.2 with ⟨filter, _⟩ | ⟨graph, _⟩
  · exact filter registers.1
  · exact graph registers.2

end Ndt.Trace
