/-
**What a stop restores.**

`do_stop` writes its default to every register but `tracing_on` (`doStop_eq`). So

* a stop or a run leaves the tracer reset exactly where it comes to `do_stop`, or had nothing to reset
  (`leavesReset_iff`, over histories `reset_iff`): a module that is gone, a text that the kernel refuses
  after the tracer was set, and a command that ends the script all come before it, and a command that changes
  the script's own shell may do anything to it;
* no number of rounds is neutral for other tools, which find `tracing_on` off (`not_neutral`,
  `rounds_restore`).
-/

import Ndt.Trace.Start

namespace Ndt.Trace

open Shell

variable {knobs : Knobs}

/-! ### The reset state -/

/-- **The tracer is reset.** -/
structure Reset (ftrace : Ftrace knobs) : Prop where
  tracer : ftrace.currentTracer = "nop".toList
  filter : ftrace.setFtraceFilter = []
  graph : ftrace.setGraphFunction.value = []
  abstime : ftrace.funcgraphAbstime.value = 0
  thresh : ftrace.tracingThresh.value = 0
  depth : ftrace.maxGraphDepth.value = 0

theorem tracer_ne : "function_graph".toList ≠ "nop".toList := by decide

/-- **What `do_stop` leaves** does not depend on what it found. -/
theorem doStop_eq (ftrace : Ftrace knobs) :
    doStop ftrace = { Ftrace.initial with tracingOn := false, trace := ftrace.trace } := by
  ext1
  · rfl
  · rfl
  · rfl
  · ext1
    exact Knob.write_initial _
  · ext1
    exact Knob.write_initial _
  · ext1
    exact Knob.write_initial _
  · ext1
    exact Knob.write_initial _
  · rfl

theorem reset_doStop (ftrace : Ftrace knobs) : Reset (doStop ftrace) := by
  rw [doStop_eq]
  exact ⟨rfl, rfl, rfl, rfl, rfl, rfl⟩

/-- Without the tracer there is nothing to reset, whatever `tracing_on` is. -/
theorem reset_tracingOff (ftrace : Ftrace knobs) : Reset { ftrace with tracingOn := false } ↔ Reset ftrace :=
  ⟨fun ⟨tracer, filter, graph, abstime, thresh, depth⟩ => ⟨tracer, filter, graph, abstime, thresh, depth⟩,
    fun ⟨tracer, filter, graph, abstime, thresh, depth⟩ => ⟨tracer, filter, graph, abstime, thresh, depth⟩⟩

/-! ### Starts that fail -/

/-- **A start that fails** leaves the tracer on, unless it was the tracer that the kernel refused. -/
theorem reset_of_failed {machine : Machine knobs} {environment : Environment} {world : World knobs}
    {ftrace : Ftrace knobs} {failure : List Text}
    (failed : doStart machine environment world = (ftrace, .error failure)) :
    Reset ftrace ↔ machine.functionGraph world = false ∧ Reset world.ftrace := by
  unfold doStart at failed
  split_ifs at failed with accepted
  · have registers := selectScope_fst machine environment world.modules (setTracer world.ftrace)
    split at failed
    · rename_i left lines refused
      rw [refused] at registers
      obtain rfl := congrArg Prod.fst failed
      obtain rfl : left = _ := registers
      rw [accepted]
      refine ⟨fun reset => ?_, fun ⟨off, _⟩ => absurd off (by decide)⟩
      exact absurd reset.tracer tracer_ne
    · cases failed
  · obtain rfl := congrArg Prod.fst failed
    rw [Bool.not_eq_true] at accepted
    rw [accepted, and_iff_right rfl]
    exact reset_tracingOff world.ftrace

/-! ### Stops and runs -/

/-- The state in which a run starts its command. -/
def Machine.started (machine : Machine knobs) (environment : Environment) (world : World knobs) :
    World knobs :=
  ⟨world.modules, (doStart machine environment world).1⟩

/-- A run comes to its command. -/
def Machine.Starts (machine : Machine knobs) (environment : Environment) (world : World knobs) : Prop :=
  machine.checkMod environment world.modules = true ∧ (doStart machine environment world).2.isOk = true

/-- **What is asked of an event**: a stop or a run with a command leaves the tracer reset, and a run that
started its command returns the command's status. -/
def Machine.LeavesReset (machine : Machine knobs) (world : World knobs) : Event knobs → Prop
  | .invoke environment .stop => Reset (vnvmeTrace machine environment world .stop).1.ftrace
  | .invoke environment (.run (some command)) =>
    Reset (vnvmeTrace machine environment world (.run (some command))).1.ftrace ∧
      (machine.Starts environment world →
        (vnvmeTrace machine environment world (.run (some command))).2.status =
          (command (machine.started environment world)).status)
  | _ => True

/-- A command after which the script goes on, or one that ends it and itself leaves the tracer reset; either leaves
the script's own shell alone. -/
def Outcome.Resettable (outcome : Outcome knobs) : Prop :=
  match outcome.behind with
  | .goesOn => True
  | .ended => Reset outcome.world.ftrace
  | .meddled _ _ => False

/-- A command that leaves the variables, functions, options and traps of the script alone. -/
def Apart (command : Command knobs) : Prop :=
  ∀ world ended report, (command world).behind ≠ .meddled ended report

/-- The command of an event, if it runs one, is apart from the script. -/
def Event.Apart : Event knobs → Prop
  | .invoke _ (.run (some command)) => Trace.Apart command
  | _ => True

/-- **When that is so**: the module is loaded and the kernel accepts the tracer and the text of the mode, and a
command lets the script go on; or it stops before the tracer is set and the tracer was reset before. -/
def Machine.Resets (machine : Machine knobs) (world : World knobs) : Event knobs → Prop
  | .invoke environment .stop =>
    machine.checkMod environment world.modules = true ∨ Reset world.ftrace
  | .invoke environment (.run (some command)) =>
    if machine.checkMod environment world.modules && machine.functionGraph world then
      (machine.answer environment world.modules).accepted = true ∧
        (command (machine.started environment world)).Resettable
    else Reset world.ftrace
  | _ => True

theorem reset_stop_iff (machine : Machine knobs) (environment : Environment) (world : World knobs) :
    Reset (vnvmeTrace machine environment world .stop).1.ftrace ↔
      machine.checkMod environment world.modules = true ∨ Reset world.ftrace := by
  rw [vnvmeTrace]
  split_ifs with loaded
  · exact ⟨fun _ => .inl loaded, fun _ => reset_doStop _⟩
  · rw [or_iff_right loaded]

/-- A run that starts its command. -/
theorem run_started {machine : Machine knobs} {environment : Environment} {world : World knobs}
    {command : Command knobs} (starts : machine.Starts environment world)
    (apart : ∀ ended report, (command (machine.started environment world)).behind ≠ .meddled ended report) :
    (Reset (vnvmeTrace machine environment world (.run (some command))).1.ftrace ↔
        (command (machine.started environment world)).Resettable) ∧
      (vnvmeTrace machine environment world (.run (some command))).2.status =
        (command (machine.started environment world)).status := by
  obtain ⟨loaded, through⟩ := starts
  rw [vnvmeTrace, if_pos loaded]
  rw [Machine.started] at apart ⊢
  rcases start : doStart machine environment world with ⟨ftrace, failure | line⟩
  · rw [start] at through
    cases through
  · rw [start] at apart
    rw [Outcome.Resettable]
    dsimp only at apart ⊢
    cases behind : (command ⟨world.modules, ftrace⟩).behind with
    | goesOn => exact ⟨iff_of_true (reset_doStop _) trivial, rfl⟩
    | ended => exact ⟨Iff.rfl, rfl⟩
    | meddled ended report => exact absurd behind (apart ended report)

/-- A run that does not. -/
theorem run_not_started {machine : Machine knobs} {environment : Environment} {world : World knobs}
    (command : Command knobs) (stays : ¬ machine.Starts environment world) :
    Reset (vnvmeTrace machine environment world (.run (some command))).1.ftrace ↔
      (machine.checkMod environment world.modules && machine.functionGraph world) = false ∧
        Reset world.ftrace := by
  rw [vnvmeTrace]
  cases loaded : machine.checkMod environment world.modules with
  | false => exact ⟨fun reset => ⟨rfl, reset⟩, fun both => both.2⟩
  | true =>
    rw [if_pos rfl, Bool.true_and]
    rcases start : doStart machine environment world with ⟨ftrace, failure | line⟩
    · exact reset_of_failed start
    · exact absurd ⟨loaded, by rw [start]; rfl⟩ stays

/-- A run whose command, where it is started, is apart from the script. -/
theorem run_leavesReset_iff {machine : Machine knobs} {environment : Environment} {world : World knobs}
    {command : Command knobs} (apart : machine.Starts environment world →
      ∀ ended report, (command (machine.started environment world)).behind ≠ .meddled ended report) :
    machine.LeavesReset world (.invoke environment (.run (some command))) ↔
      machine.Resets world (.invoke environment (.run (some command))) := by
  rw [Machine.LeavesReset, Machine.Resets]
  by_cases starts : machine.Starts environment world
  · obtain ⟨reset, status⟩ := run_started starts (apart starts)
    have accepted := starts.2
    rw [doStart_isOk, Bool.and_eq_true] at accepted
    rw [reset, starts.1, accepted.1, Bool.true_and, if_pos rfl, and_iff_left fun _ => status,
      and_iff_right accepted.2]
  · rw [run_not_started command starts, and_iff_left fun started => absurd started starts]
    split_ifs with tried
    · rw [tried]
      obtain ⟨loaded, accepts⟩ := Bool.and_eq_true_iff.mp tried
      have refused : ¬ (machine.answer environment world.modules).accepted = true := by
        intro accepted
        refine starts ⟨loaded, ?_⟩
        rw [doStart_isOk, accepts, accepted]
        rfl
      exact ⟨fun ⟨off, _⟩ => absurd off (by decide), fun ⟨accepted, _⟩ => absurd accepted refused⟩
    · rw [Bool.not_eq_true] at tried
      rw [tried, and_iff_right rfl]

/-- **One event** whose command is apart from the script. -/
theorem leavesReset_iff (machine : Machine knobs) (world : World knobs) {event : Event knobs}
    (apart : event.Apart) : machine.LeavesReset world event ↔ machine.Resets world event := by
  match event with
  | .invoke environment .stop => exact reset_stop_iff machine environment world
  | .invoke environment (.run (some command)) => exact run_leavesReset_iff fun _ => apart _
  | .invoke _ .start | .invoke _ (.run none) | .invoke _ .help | .invoke _ (.unknown _) | .modules _ _ =>
    exact Iff.rfl

/-- The condition is enough, whatever the command may do elsewhere. -/
theorem leavesReset_of_resets {machine : Machine knobs} {world : World knobs} {event : Event knobs}
    (resets : machine.Resets world event) : machine.LeavesReset world event := by
  match event with
  | .invoke environment (.run (some command)) =>
    refine (run_leavesReset_iff fun starts ended report meddled => ?_).mpr resets
    have accepted := starts.2
    rw [doStart_isOk, Bool.and_eq_true] at accepted
    rw [Machine.Resets, starts.1, accepted.1, Bool.true_and, if_pos rfl] at resets
    have resettable := resets.2
    rw [Outcome.Resettable, meddled] at resettable
    exact resettable
  | .invoke _ .stop | .invoke _ .start | .invoke _ (.run none) | .invoke _ .help | .invoke _ (.unknown _)
    | .modules _ _ => exact (leavesReset_iff machine world (by trivial)).mpr resets

/-! ### Histories -/

/-- Every event of a history meets a condition in the state before it. -/
def Machine.Throughout (machine : Machine knobs) (meets : World knobs → Event knobs → Prop)
    (world : World knobs) (history : List (Event knobs)) : Prop :=
  ∀ before event rest, history = before ++ event :: rest → meets (machine.afterAll world before) event

/-- **Histories of a booted machine**: every stop and every run leaves the tracer reset if every one of them
meets the condition; and only if, where no command meddles with the script. -/
theorem reset_iff (machine : Machine knobs) (modules : List Text) (history : List (Event knobs)) :
    (machine.Throughout machine.Resets (.booted modules) history →
        machine.Throughout machine.LeavesReset (.booted modules) history) ∧
      ((∀ event ∈ history, event.Apart) →
        (machine.Throughout machine.LeavesReset (.booted modules) history ↔
          machine.Throughout machine.Resets (.booted modules) history)) := by
  refine ⟨fun resets before event rest split => leavesReset_of_resets (resets before event rest split), ?_⟩
  intro apart
  refine forall₃_congr fun before event rest => imp_congr_right fun split => ?_
  exact leavesReset_iff machine _ (apart event (by simp [split]))

/-- The histories of `reset_fails`: the module is unloaded between a start and a stop, and a run with a
period that the kernel does not know. -/
def unloadedHistory : List (Event allKnobs) :=
  [.invoke noMode .start, .modules [] fun _ => false, .invoke noMode .stop]

def misspeltHistory : List (Event allKnobs) :=
  [.invoke { noMode with period := "sm_proces".toList } (.run (some fun world => ⟨world, 0, .goesOn⟩))]

/-- **Both leave the tracer on.** -/
theorem reset_fails :
    ¬ sampleMachine.Throughout sampleMachine.LeavesReset (.booted sampleModules) unloadedHistory ∧
      ¬ sampleMachine.Throughout sampleMachine.LeavesReset (.booted sampleModules) misspeltHistory := by
  constructor
  · intro always
    have stopped := always (unloadedHistory.take 2) (.invoke noMode .stop) [] rfl
    exact absurd stopped.tracer (by decide)
  · intro always
    have ran := (always [] _ [] rfl).1
    exact absurd ran.tracer (by decide)

/-! ### Rounds -/

/-- A traced workload: a run, or a start and a stop around it. -/
inductive Round (knobs : Knobs)
  | run (environment : Environment) (command : Command knobs)
  | pair (starting : Environment) (command : Command knobs) (stopping : Environment)

def Round.command : Round knobs → Command knobs
  | .run _ command => command
  | .pair _ command _ => command

/-- A command that does not itself touch the control files or the script. What it does is recorded in the
buffer, and functions of modules that it unloads leave the filters. -/
def Quiet (command : Command knobs) : Prop :=
  Apart command ∧
    ∀ world, ∃ stays trace, (command world).world.ftrace = { world.ftrace.forget stays with trace }

/-- The state in which the stop of a pair begins. -/
def Machine.traced (machine : Machine knobs) (starting : Environment) (command : Command knobs)
    (world : World knobs) : World knobs :=
  (command (vnvmeTrace machine starting world .start).1).world

def Machine.round (machine : Machine knobs) (world : World knobs) : Round knobs → World knobs
  | .run environment command => (vnvmeTrace machine environment world (.run (some command))).1
  | .pair starting command stopping =>
    (vnvmeTrace machine stopping (machine.traced starting command world) .stop).1

/-- The invocations of a round exit with status zero. -/
def Machine.Succeeds (machine : Machine knobs) (world : World knobs) : Round knobs → Prop
  | .run environment command => (vnvmeTrace machine environment world (.run (some command))).2.status = 0
  | .pair starting command stopping =>
    (vnvmeTrace machine starting world .start).2.status = 0 ∧
      (vnvmeTrace machine stopping (machine.traced starting command world) .stop).2.status = 0

/-- All rounds succeed. -/
def Machine.Succeed (machine : Machine knobs) : World knobs → List (Round knobs) → Prop
  | _, [] => True
  | world, round :: rounds => machine.Succeeds world round ∧ machine.Succeed (machine.round world round) rounds

/-- **Neutral for other tools**: every control register has its default. -/
def Neutral (ftrace : Ftrace knobs) : Prop := ftrace = { Ftrace.initial with trace := ftrace.trace }

/-- After a round that succeeds either `do_stop` is done, or the command ended the script with the tracer on. -/
theorem round_cases {machine : Machine knobs} {world : World knobs} {round : Round knobs}
    (apart : Apart round.command) (succeeds : machine.Succeeds world round) :
    (∃ ftrace, (machine.round world round).ftrace = doStop ftrace) ∨
      ∃ started : World knobs, started.ftrace.currentTracer = "function_graph".toList ∧
        (round.command started).behind = .ended ∧ machine.round world round = (round.command started).world := by
  match round with
  | .pair starting command stopping =>
    refine .inl ⟨(machine.traced starting command world).ftrace, ?_⟩
    have stopped := succeeds.2
    show (vnvmeTrace machine stopping (machine.traced starting command world) .stop).1.ftrace = _
    rw [vnvmeTrace] at stopped ⊢
    split_ifs at stopped ⊢ with loaded
    · rfl
    · cases stopped
  | .run environment command =>
    have ran : (vnvmeTrace machine environment world (.run (some command))).2.status = 0 := succeeds
    rw [Machine.round]
    rw [vnvmeTrace] at ran ⊢
    split_ifs at ran ⊢ with loaded
    · rcases start : doStart machine environment world with ⟨ftrace, failure | line⟩
      · rw [start] at ran
        cases ran
      · obtain ⟨_, scope, _, rfl⟩ := doStart_ok start
        dsimp only
        cases behind : (command ⟨world.modules, _⟩).behind with
        | goesOn => exact .inl ⟨_, rfl⟩
        | ended => exact .inr ⟨⟨world.modules, _⟩, rfl, behind, rfl⟩
        | meddled ended report => exact absurd behind (apart _ ended report)
    · cases ran

/-- No round that succeeds is neutral. -/
theorem round_not_neutral {machine : Machine knobs} {world : World knobs} {round : Round knobs}
    (quiet : Quiet round.command) (succeeds : machine.Succeeds world round) :
    ¬ Neutral (machine.round world round).ftrace := by
  intro neutral
  rcases round_cases quiet.1 succeeds with ⟨ftrace, stopped⟩ | ⟨started, tracer, _, ended⟩
  · rw [stopped] at neutral
    exact absurd (congrArg Ftrace.tracingOn neutral) Bool.false_ne_true
  · obtain ⟨stays, trace, untouched⟩ := quiet.2 started
    have left : (machine.round world round).ftrace.currentTracer = "function_graph".toList := by
      rw [ended, untouched]
      exact tracer
    have nop : (machine.round world round).ftrace.currentTracer = "nop".toList :=
      congrArg Ftrace.currentTracer neutral
    exact tracer_ne (left.symm.trans nop)

theorem succeed_append {machine : Machine knobs} {world : World knobs} {rounds : List (Round knobs)}
    {last : Round knobs} (succeed : machine.Succeed world (rounds ++ [last])) :
    machine.Succeeds (rounds.foldl machine.round world) last := by
  induction rounds generalizing world with
  | nil => exact succeed.1
  | cons round rounds ih => exact ih succeed.2

/-- **No rounds are neutral**, however many there are. -/
theorem not_neutral (machine : Machine knobs) (modules : List Text) (rounds : List (Round knobs))
    (nonempty : rounds ≠ []) (quiet : ∀ round ∈ rounds, Quiet round.command)
    (succeed : machine.Succeed (.booted modules) rounds) :
    ¬ Neutral (rounds.foldl machine.round (.booted modules)).ftrace := by
  obtain ⟨first, last, rfl⟩ : ∃ first last, rounds = first ++ [last] :=
    ⟨rounds.dropLast, rounds.getLast nonempty, (List.dropLast_append_getLast nonempty).symm⟩
  rw [List.foldl_append]
  exact round_not_neutral (quiet last (by simp)) (succeed_append succeed)

/-- **All but `tracing_on` is restored** by rounds whose commands let the script go on. -/
theorem rounds_restore {machine : Machine knobs} {world : World knobs} {rounds : List (Round knobs)}
    (nonempty : rounds ≠ [])
    (goesOn : ∀ round ∈ rounds, ∀ started, (round.command started).behind = .goesOn)
    (succeed : machine.Succeed world rounds) :
    ∃ trace, (rounds.foldl machine.round world).ftrace =
      { Ftrace.initial with tracingOn := false, trace } := by
  obtain ⟨first, last, rfl⟩ : ∃ first last, rounds = first ++ [last] :=
    ⟨rounds.dropLast, rounds.getLast nonempty, (List.dropLast_append_getLast nonempty).symm⟩
  rw [List.foldl_append]
  have last' := goesOn last (by simp)
  have apart : Apart last.command := by
    intro started ended report meddled
    exact nomatch (last' started).symm.trans meddled
  rcases round_cases apart (succeed_append succeed) with ⟨ftrace, stopped⟩ | ⟨started, _, ended, _⟩
  · exact ⟨ftrace.trace, stopped.trans (doStop_eq ftrace)⟩
  · exact nomatch (last' started).symm.trans ended

/-- One round of a quiet command. -/
def quietRound : Round allKnobs := .run noMode fun world => ⟨world, 0, .goesOn⟩

theorem quiet_quietRound : Quiet quietRound.command := by
  refine ⟨nofun, fun world => ?_⟩
  refine ⟨fun _ => true, world.ftrace.trace, ?_⟩
  ext1
  · rfl
  · rfl
  · exact (List.filter_true _).symm
  · ext1
    exact (List.filter_true _).symm
  · rfl
  · rfl
  · rfl
  · rfl

theorem succeed_quietRound : sampleMachine.Succeed (.booted sampleModules) [quietRound] := by
  refine ⟨?_, trivial⟩
  show (vnvmeTrace sampleMachine noMode (.booted sampleModules) _).2.status = 0
  decide

theorem not_neutral_once :
    [quietRound] ≠ [] ∧ ¬ Neutral ([quietRound].foldl sampleMachine.round (.booted sampleModules)).ftrace := by
  have quiet : ∀ round ∈ [quietRound], Quiet round.command := by
    intro round listed
    obtain rfl := List.mem_singleton.mp listed
    exact quiet_quietRound
  exact ⟨List.cons_ne_nil _ _,
    not_neutral sampleMachine sampleModules [quietRound] (List.cons_ne_nil _ _) quiet succeed_quietRound⟩

/-- **One quiet run leaves `tracing_on` off.** -/
theorem tracing_left_off :
    Quiet quietRound.command ∧ sampleMachine.Succeed (.booted sampleModules) [quietRound] ∧
      ¬ Neutral (sampleMachine.round (.booted sampleModules) quietRound).ftrace := by
  refine ⟨quiet_quietRound, succeed_quietRound, fun neutral => ?_⟩
  have off : (sampleMachine.round (.booted sampleModules) quietRound).ftrace.tracingOn = false := by
    decide
  rw [neutral] at off
  cases off

end Ndt.Trace
