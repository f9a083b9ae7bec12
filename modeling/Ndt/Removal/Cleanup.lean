/-
**What the tests leave behind.**

`_vnvme_fio … &` forks a shell for the function, and fio is a child of that shell: `kill "$fio_pid"` ends the
shell alone, and `wait` waits for the shell. The handler for INT and TERM, which may come between any two
commands, kills nothing.

* `State`, `Event`, `step` — `test_device` with its two background jobs.
* `Safe` — from here the rest of the script, and the handler wherever it comes in, restore the delay and the
  slot. `environment_restored` — they always do.
* `restored` — **all runs** in which the kill and the handler's exit find fio ended: nothing is left behind.
* `fio_survives` — any other kill or exit can leave fio running.
-/

import Ndt.Removal.Script
import Ndt.Transition.System

namespace Ndt.Removal

open Transition

inductive Request
  | hotremove
  | hotplug
  deriving DecidableEq, Repr

/-- What the foreground changes: `drain_delay_ms`, `$saved_delay`, whether the handler is installed, and the
last request to the slot. -/
structure Env where
  drainDelay : ℕ
  saved : Option ℕ
  trap : Bool
  requested : Option Request
  deriving DecidableEq, Repr

/-- What a command does to it. -/
def Env.command (env : Env) : Command → Env
  | .saveDelay => { env with saved := some env.drainDelay }
  | .installTrap => { env with trap := true }
  | .stretchDelay => { env with drainDelay := 5000 }
  | .hotremove => { env with requested := some .hotremove }
  | .hotplug => { env with requested := some .hotplug }
  | .restoreDelay => { env with drainDelay := env.saved.getD env.drainDelay }
  | .clearTrap => { env with trap := false }
  | _ => env

inductive Process
  | unborn
  | alive
  | dead
  deriving DecidableEq, Repr

/-- The test: the commands still to come, what they changed, `$rc`, the shell around fio, fio, the shell that
writes the reset; and the status with which the test returned or the handler exited. -/
structure State where
  rest : List Command
  env : Env
  rc : ℕ
  shell : Process
  fio : Process
  reset : Process
  status : Option ℕ
  deriving DecidableEq, Repr

inductive Event
  /-- The next command; `yes` is what a test on the device says. -/
  | command (yes : Bool)
  /-- INT or TERM reaches the test. -/
  | signal
  | fioStarts
  | fioEnds
  /-- The shell around fio has no fio to wait for. -/
  | shellEnds
  | resetEnds
  deriving DecidableEq, Repr

namespace State

/-- The next command. -/
def command (state : State) (yes : Bool) : Option State :=
  match state.rest with
  | [] => none
  | .resolve :: rest =>
    some (if yes then { state with rest } else { state with rest := [], status := some 1 })
  | .forkFio :: rest => some { state with rest, shell := .alive }
  | .forkReset :: rest => some { state with rest, reset := .alive }
  | .awaitGone :: rest | .awaitBack :: rest => some { state with rest, rc := if yes then state.rc else 1 }
  -- the writer of the reset sits in the kernel: it ends with its write
  | .killJobs :: rest =>
    some { state with rest, shell := if state.shell = .alive then .dead else state.shell }
  | .wait :: rest => if state.shell = .alive ∨ state.reset = .alive then none else some { state with rest }
  | .finish :: _ => some { state with rest := [], status := some state.rc }
  | .exit :: _ => some { state with rest := [], status := some 1 }
  | command :: rest => some { state with rest, env := state.env.command command }

/-- One event. -/
def step (handler : List Command) (state : State) : Event → Option State
  | .command yes => state.command yes
  | .signal => if state.env.trap ∧ state.rest ≠ [] then some { state with rest := handler } else none
  | .fioStarts =>
    if state.shell = .alive ∧ state.fio = .unborn then some { state with fio := .alive } else none
  | .fioEnds => if state.fio = .alive then some { state with fio := .dead } else none
  | .shellEnds =>
    if state.shell = .alive ∧ state.fio ≠ .alive then some { state with shell := .dead } else none
  | .resetEnds => if state.reset = .alive then some { state with reset := .dead } else none

end State

/-- **A run of a test**, on a device whose drain delay is `delay`. -/
def testSystem (test : Test) (delay : ℕ) : System State Event where
  initial state := state = ⟨test.script, ⟨delay, none, false, none⟩, 0, .unborn, .unborn, .unborn, none⟩
  step := State.step test.handler

variable {test : Test} {delay : ℕ} {state next : State}

/-! ### The drain delay and the slot -/

/-- The delay is what it was, and the last request to the slot, if any, is a hotplug. -/
structure Env.Restored (env : Env) (delay : ℕ) : Prop where
  drain : env.drainDelay = delay
  slot : env.requested ≠ some .hotremove

/-- **A safe rest**: it restores, where it ends early nothing is to be restored, and at each of its commands
the handler restores, if it is installed. -/
def Safe (handler : List Command) (delay : ℕ) : List Command → Env → Prop
  | [], env => env.Restored delay
  | command :: rest, env =>
    (env.trap = true → (handler.foldl Env.command env).Restored delay) ∧
      (command ∈ [.resolve, .finish, .exit] → env.Restored delay) ∧
        Safe handler delay rest (env.command command)

theorem restored_iff (env : Env) (delay : ℕ) :
    env.Restored delay ↔ env.drainDelay = delay ∧ env.requested ≠ some .hotremove :=
  ⟨fun ⟨drain, slot⟩ => ⟨drain, slot⟩, fun ⟨drain, slot⟩ => ⟨drain, slot⟩⟩

theorem safe_script (test : Test) (delay : ℕ) :
    Safe test.handler delay test.script ⟨delay, none, false, none⟩ := by
  cases test <;> simp [Safe, Test.script, Test.handler, Env.command, restored_iff]

/-- The handler is safe itself: it may be interrupted by another signal. -/
theorem safe_handler (env : Env) (restores : (test.handler.foldl Env.command env).Restored delay) :
    Safe test.handler delay test.handler env := by
  obtain ⟨drainDelay, saved, trap, requested⟩ := env
  cases test <;> cases saved <;>
    simp_all [Safe, Test.handler, Env.command, restored_iff]

/-- `wait` returns where no job is left. -/
theorem command_wait {rest : List Command} {env : Env} {rc : ℕ} {shell fio reset : Process}
    {status : Option ℕ} {yes : Bool}
    (step : (State.mk (.wait :: rest) env rc shell fio reset status).command yes = some next) :
    ¬ (shell = .alive ∨ reset = .alive) ∧ State.mk rest env rc shell fio reset status = next := by
  have waited : (if shell = .alive ∨ reset = .alive then none
      else some (State.mk rest env rc shell fio reset status)) = some next := step
  split_ifs at waited with busy
  exact ⟨busy, Option.some.inj waited⟩

/-- **What the next command can do** to the rest and to what is restored. -/
theorem command_cases {yes : Bool} (step : state.command yes = some next) :
    ∃ command rest, state.rest = command :: rest ∧
      (next.rest = [] ∧ next.env = state.env ∧ command ∈ [.resolve, .finish, .exit] ∨
        next.rest = rest ∧ next.env = state.env.command command) := by
  obtain ⟨rest, env, rc, shell, fio, reset, status⟩ := state
  cases rest with
  | nil => cases step
  | cons command rest =>
    refine ⟨command, rest, rfl, ?_⟩
    cases command with
    | resolve =>
      obtain rfl := Option.some.inj step
      cases yes with
      | true => exact .inr ⟨rfl, rfl⟩
      | false => exact .inl ⟨rfl, rfl, by simp⟩
    | finish | exit =>
      obtain rfl := Option.some.inj step
      exact .inl ⟨rfl, rfl, by simp⟩
    | wait =>
      obtain ⟨_, rfl⟩ := command_wait step
      exact .inr ⟨rfl, rfl⟩
    | _ =>
      obtain rfl := Option.some.inj step
      exact .inr ⟨rfl, rfl⟩

/-- The rest of the test is safe. -/
def State.Safe (test : Test) (delay : ℕ) (state : State) : Prop :=
  Removal.Safe test.handler delay state.rest state.env

/-- **One event** leaves a safe rest. -/
theorem safe_of_step {event : Event} (safe : state.Safe test delay)
    (step : state.step test.handler event = some next) : next.Safe test delay := by
  rw [State.Safe] at safe ⊢
  cases event with
  | command yes =>
    obtain ⟨command, rest, here, ⟨done, same, ends⟩ | ⟨later, changed⟩⟩ := command_cases step
    · rw [here] at safe
      rw [done, same]
      exact safe.2.1 ends
    · rw [here] at safe
      rw [later, changed]
      exact safe.2.2
  | signal =>
    rw [State.step] at step
    split at step
    · rename_i caught
      obtain rfl := Option.some.inj step
      obtain ⟨command, rest, here⟩ := List.exists_cons_of_ne_nil caught.2
      rw [here] at safe
      exact safe_handler state.env (safe.1 caught.1)
    · cases step
  | fioStarts | fioEnds | shellEnds | resetEnds =>
    rw [State.step] at step
    split at step
    · obtain rfl := Option.some.inj step
      exact safe
    · cases step

/-- **The delay and the slot are restored on every path**: where the test has returned or its handler exited,
whatever the device did, however long fio ran and wherever signals came in. -/
theorem environment_restored (reached : (testSystem test delay).Reaches (fun _ _ => True) state)
    (ended : state.rest = []) : state.env.Restored delay := by
  have start : ∀ s, (testSystem test delay).initial s → s.Safe test delay := by
    rintro s rfl
    exact safe_script test delay
  have safe : state.Safe test delay :=
    reached.invariant start fun _ _ _ safe _ step => safe_of_step safe step
  rw [State.Safe, ended] at safe
  exact safe

/-! ### fio -/

/-- fio runs, or the shell around it may still start it. -/
def State.Loose (state : State) : Prop :=
  state.fio = .alive ∨ state.shell = .alive ∧ state.fio = .unborn

/-- **The order of a script**: after the fork of fio comes the kill, after the kill no fork, and the controller
is resolved before all that; a test ends at its end. -/
def Ordered : List Command → Prop
  | [] => True
  | .forkFio :: rest => .killJobs ∈ rest ∧ .resolve ∉ rest ∧ Ordered rest
  | .killJobs :: rest => .forkFio ∉ rest ∧ .forkReset ∉ rest ∧ Ordered rest
  | .finish :: rest | .exit :: rest => rest = []
  | _ :: rest => Ordered rest

/-- **The invariant**: where fio runs or may start, a kill or the handler's exit is still to come. -/
structure Sound (state : State) : Prop where
  ordered : Ordered state.rest
  loose : state.Loose → .killJobs ∈ state.rest ∨ .exit ∈ state.rest
  unresolved : .resolve ∈ state.rest → state.shell = .unborn
  unborn : state.shell = .unborn → state.fio = .unborn

/-- **The condition**: the kill does not find fio running, and the handler's exit does not find it running or
about to start. -/
def FioOver (state : State) (event : Event) : Prop :=
  ∀ yes, event = .command yes →
    (state.rest.head? = some .killJobs → state.fio ≠ .alive) ∧
      (state.rest.head? = some .exit → ¬ state.Loose)

theorem ordered_tail {command : Command} {rest : List Command} (ordered : Ordered (command :: rest)) :
    Ordered rest := by
  cases command with
  | forkFio => exact ordered.2.2
  | killJobs => exact ordered.2.2
  | finish | exit =>
    obtain rfl : rest = [] := ordered
    trivial
  | _ => exact ordered

/-- One event leaves an order. -/
theorem ordered_of_step {event : Event} (ordered : Ordered state.rest)
    (step : state.step test.handler event = some next) : Ordered next.rest := by
  cases event with
  | command yes =>
    obtain ⟨command, rest, here, ⟨done, _, _⟩ | ⟨later, _⟩⟩ := command_cases step
    · rw [done]
      trivial
    · rw [here] at ordered
      rw [later]
      exact ordered_tail ordered
  | signal =>
    rw [State.step] at step
    split at step
    · obtain rfl := Option.some.inj step
      cases test <;> simp [Ordered, Test.handler]
    · cases step
  | fioStarts | fioEnds | shellEnds | resetEnds =>
    rw [State.step] at step
    split at step
    · obtain rfl := Option.some.inj step
      exact ordered
    · cases step

theorem sound_start (initial : (testSystem test delay).initial state) : Sound state := by
  obtain rfl := initial
  refine ⟨?_, ?_, fun _ => rfl, fun _ => rfl⟩
  · cases test <;> simp [Ordered, Test.script]
  · rintro (running | ⟨started, _⟩)
    · cases running
    · cases started

/-- **The next command** keeps the invariant. -/
theorem sound_of_command {yes : Bool} (sound : Sound state) (late : FioOver state (.command yes))
    (step : state.command yes = some next) : Sound next := by
  obtain ⟨rest, env, rc, shell, fio, reset, status⟩ := state
  obtain ⟨killed, exits⟩ := late yes rfl
  cases rest with
  | nil => cases step
  | cons command rest =>
    have ordered := ordered_tail sound.ordered
    have unresolved : .resolve ∈ rest → shell = .unborn :=
      fun later => sound.unresolved (List.mem_cons_of_mem _ later)
    have plain : ∀ env rc reset, command ≠ .killJobs → command ≠ .exit →
        Sound ⟨rest, env, rc, shell, fio, reset, status⟩ := by
      intro env rc reset noKill noExit
      refine ⟨ordered, fun loose => ?_, unresolved, sound.unborn⟩
      rcases sound.loose loose with kill | exit
      · exact .inl (List.mem_of_ne_of_mem noKill.symm kill)
      · exact .inr (List.mem_of_ne_of_mem noExit.symm exit)
    have last : ∀ status, ¬ (State.mk (command :: rest) env rc shell fio reset status).Loose →
        Sound ⟨[], env, rc, shell, fio, reset, status⟩ :=
      fun status fixed => ⟨trivial, fun loose => absurd loose fixed, nofun, sound.unborn⟩
    cases command with
    | resolve =>
      obtain rfl := Option.some.inj step
      cases yes with
      | true => exact plain _ _ _ nofun nofun
      | false =>
        have early := sound.unresolved List.mem_cons_self
        refine last (some 1) ?_
        rintro (running | ⟨started, _⟩)
        · exact nomatch (sound.unborn early).symm.trans running
        · exact nomatch early.symm.trans started
    | forkFio =>
      obtain rfl := Option.some.inj step
      exact ⟨ordered, fun _ => .inl sound.ordered.1, fun later => absurd later sound.ordered.2.1, nofun⟩
    | killJobs =>
      obtain rfl := Option.some.inj step
      refine ⟨ordered, ?_, fun later => ?_, fun still => ?_⟩
      · rintro (running | ⟨started, _⟩)
        · exact absurd running (killed rfl)
        · revert started
          split_ifs with alive
          · exact nofun
          · exact fun started => absurd started alive
      · rw [unresolved later]
        rfl
      · revert still
        split_ifs with alive
        · exact nofun
        · exact sound.unborn
    | finish =>
      obtain rfl := Option.some.inj step
      obtain rfl : rest = [] := sound.ordered
      refine last (some rc) fun loose => ?_
      have later := sound.loose loose
      simp at later
    | exit =>
      obtain rfl := Option.some.inj step
      exact last (some 1) (exits rfl)
    | wait =>
      obtain ⟨_, rfl⟩ := command_wait step
      exact plain _ _ _ nofun nofun
    | _ =>
      obtain rfl := Option.some.inj step
      exact plain _ _ _ nofun nofun

/-- **One event** keeps the invariant. -/
theorem sound_of_step {event : Event} (sound : Sound state) (late : FioOver state event)
    (step : state.step test.handler event = some next) : Sound next := by
  have ordered := ordered_of_step sound.ordered step
  cases event with
  | command yes => exact sound_of_command sound late step
  | signal =>
    rw [State.step] at step
    split at step
    · obtain rfl := Option.some.inj step
      refine ⟨ordered, fun _ => .inr ?_, fun later => ?_, sound.unborn⟩
      · cases test <;> simp [Test.handler]
      · cases test <;> simp [Test.handler] at later
    · cases step
  | fioStarts =>
    rw [State.step] at step
    split at step
    · rename_i starts
      obtain rfl := Option.some.inj step
      refine ⟨ordered, fun _ => sound.loose (.inr starts), sound.unresolved, fun unborn => ?_⟩
      exact nomatch unborn.symm.trans starts.1
    · cases step
  | fioEnds =>
    rw [State.step] at step
    split at step
    · rename_i running
      obtain rfl := Option.some.inj step
      refine ⟨ordered, ?_, sound.unresolved, fun unborn => ?_⟩
      · rintro (alive | ⟨_, unborn⟩)
        · cases alive
        · cases unborn
      · exact nomatch (sound.unborn unborn).symm.trans running
    · cases step
  | shellEnds =>
    rw [State.step] at step
    split at step
    · rename_i ends
      obtain rfl := Option.some.inj step
      refine ⟨ordered, ?_, fun early => ?_, nofun⟩
      · rintro (alive | ⟨started, _⟩)
        · exact absurd alive ends.2
        · cases started
      · exact nomatch (sound.unresolved early).symm.trans ends.1
    · cases step
  | resetEnds =>
    rw [State.step] at step
    split at step
    · obtain rfl := Option.some.inj step
      exact ⟨ordered, sound.loose, sound.unresolved, sound.unborn⟩
    · cases step

/-- **Nothing is left behind**, on every path of either test, if the kill and the exit of the handler come after
fio's end: once the test has returned or the handler has exited, no fio runs, the drain delay is what it was,
and the last request to the slot is no hotremove. -/
theorem restored (reached : (testSystem test delay).Reaches FioOver state) (ended : state.rest = []) :
    state.fio ≠ .alive ∧ state.env.Restored delay := by
  have sound : Sound state :=
    reached.invariant (fun _ initial => sound_start initial) fun _ _ _ => sound_of_step
  refine ⟨fun running => ?_, environment_restored (reached.mono fun _ _ _ => trivial) ended⟩
  have later := sound.loose (.inl running)
  rw [ended] at later
  simp at later

/-! ### fio that is left -/

/-- Every script is ordered, whatever happened before. -/
theorem ordered_of_reached (reached : (testSystem test delay).Reaches (fun _ _ => True) state) :
    Ordered state.rest := by
  have start : ∀ s, (testSystem test delay).initial s → Ordered s.rest := by
    rintro s rfl
    cases test <;> simp [Ordered, Test.script]
  exact reached.invariant start fun _ _ _ ordered _ step =>
    ordered_of_step ordered step

/-- A test whose jobs are gone and that starts no more of them goes on. -/
theorem command_of_quiet {command : Command} {rest : List Command} (here : state.rest = command :: rest)
    (noFio : command ≠ .forkFio) (noReset : command ≠ .forkReset) (shell : state.shell ≠ .alive)
    (reset : state.reset ≠ .alive) :
    ∃ next, state.command true = some next ∧ (next.rest = [] ∨ next.rest = rest) ∧ next.shell ≠ .alive ∧
      next.reset ≠ .alive ∧ next.fio = state.fio := by
  obtain ⟨whole, env, rc, process, fio, writer, status⟩ := state
  obtain rfl : whole = command :: rest := here
  cases command with
  | forkFio => exact absurd rfl noFio
  | forkReset => exact absurd rfl noReset
  | finish | exit => exact ⟨_, rfl, .inl rfl, shell, reset, rfl⟩
  | wait => exact ⟨_, if_neg (not_or.mpr ⟨shell, reset⟩), .inr rfl, shell, reset, rfl⟩
  | killJobs =>
    have gone : (if process = .alive then Process.dead else process) ≠ .alive := by
      rw [if_neg shell]
      exact shell
    exact ⟨_, rfl, .inr rfl, gone, reset, rfl⟩
  | _ => exact ⟨_, rfl, .inr rfl, shell, reset, rfl⟩

/-- Such a test ends, and leaves fio alone. -/
theorem ends_of_quiet (noFio : .forkFio ∉ state.rest) (noReset : .forkReset ∉ state.rest)
    (shell : state.shell ≠ .alive) (reset : state.reset ≠ .alive) :
    ∃ events final, (testSystem test delay).Runs (fun _ _ => True) state events final ∧ final.rest = [] ∧
      final.fio = state.fio := by
  induction here : state.rest generalizing state with
  | nil => exact ⟨[], state, rfl, here, rfl⟩
  | cons command rest ih =>
    rw [here] at noFio noReset
    obtain ⟨next, step, rests, shell', reset', same⟩ := command_of_quiet here
      (List.ne_of_not_mem_cons noFio).symm (List.ne_of_not_mem_cons noReset).symm shell reset
    rcases rests with done | later
    · exact ⟨[.command true], next, ⟨trivial, next, step, rfl⟩, done, same⟩
    · have noFio' : .forkFio ∉ next.rest := later ▸ List.not_mem_of_not_mem_cons noFio
      have noReset' : .forkReset ∉ next.rest := later ▸ List.not_mem_of_not_mem_cons noReset
      obtain ⟨events, final, ran, done, same'⟩ := ih noFio' noReset' shell' reset' later
      exact ⟨.command true :: events, final, ⟨trivial, next, step, ran⟩, done, same'.trans same⟩

/-- **Where the condition fails** fio can be left: nothing after a kill of its shell reaches it. -/
theorem fio_survives {event : Event} (reached : (testSystem test delay).Reaches (fun _ _ => True) state)
    (early : ¬ FioOver state event) (step : (testSystem test delay).step state event = some next) :
    ∃ events final, (testSystem test delay).Runs (fun _ _ => True) next events final ∧ final.rest = [] ∧
      final.fio = .alive := by
  have ordered := ordered_of_reached reached
  obtain ⟨yes, rfl, finds⟩ : ∃ yes, event = .command yes ∧
      (state.rest.head? = some .killJobs ∧ state.fio = .alive ∨
        state.rest.head? = some .exit ∧ state.Loose) := by
    by_contra never
    exact early fun yes called => ⟨fun kills running => never ⟨yes, called, .inl ⟨kills, running⟩⟩,
      fun exits loose => never ⟨yes, called, .inr ⟨exits, loose⟩⟩⟩
  obtain ⟨whole, env, rc, shell, fio, reset, status⟩ := state
  rcases finds with ⟨kills, running⟩ | ⟨exits, loose⟩
  · obtain ⟨rest, rfl⟩ := List.head?_eq_some_iff.mp kills
    obtain rfl := Option.some.inj step
    have gone : (if shell = .alive then Process.dead else shell) ≠ .alive := by
      split_ifs with alive
      · exact nofun
      · exact alive
    have quiet : ∀ reset : Process, reset ≠ .alive → ∃ events final,
        (testSystem test delay).Runs (fun _ _ => True)
          ⟨rest, env, rc, if shell = .alive then .dead else shell, fio, reset, status⟩ events final ∧
          final.rest = [] ∧ final.fio = fio :=
      fun reset idle => ends_of_quiet ordered.1 ordered.2.1 gone idle
    by_cases writing : reset = .alive
    · obtain ⟨events, final, ran, done, same⟩ := quiet .dead nofun
      exact ⟨.resetEnds :: events, final, ⟨trivial, _, if_pos writing, ran⟩, done, same.trans running⟩
    · obtain ⟨events, final, ran, done, same⟩ := quiet reset writing
      exact ⟨events, final, ran, done, same.trans running⟩
  · obtain ⟨rest, rfl⟩ := List.head?_eq_some_iff.mp exits
    obtain rfl := Option.some.inj step
    rcases loose with running | starts
    · exact ⟨[], _, rfl, rfl, running⟩
    · exact ⟨[.fioStarts], _, ⟨trivial, _, if_pos starts, rfl⟩, rfl, rfl⟩

/-! ### Short runs -/

instance : Decidable state.Loose := inferInstanceAs (Decidable (_ ∨ _ ∧ _))

instance (event : Event) : Decidable (FioOver state event) :=
  inferInstanceAs (Decidable (∀ yes, event = .command yes → _ ∧ _))

/-- The events of `nvme/069` whose fio ends in the first sleep: the reset and the removal follow, and the test
comes to its end. -/
def fioEnded : List Event :=
  List.replicate 6 (Event.command true) ++ [.fioStarts, .fioEnds, .shellEnds] ++
    List.replicate 8 (Event.command true) ++ [.resetEnds] ++ List.replicate 7 (Event.command true)

theorem restored_fioEnded :
    ∃ state : State, (testSystem .nvme069 100).Reaches FioOver state ∧ state.status = some 0 ∧
      state.env.requested = some .hotplug ∧ state.fio ≠ .alive ∧ state.env.Restored 100 := by
  have ran : (testSystem .nvme069 100).Runs FioOver
      ⟨Test.nvme069.script, ⟨100, none, false, none⟩, 0, .unborn, .unborn, .unborn, none⟩ fioEnded
      ⟨[], ⟨100, some 100, false, some .hotplug⟩, 0, .dead, .dead, .dead, some 0⟩ :=
    System.runs_of_guarded (by decide)
  have reached := (System.Reaches.start rfl).runs _ ran
  exact ⟨_, reached, rfl, rfl, restored reached rfl⟩

/-- The events of `nvme/070` whose fio outlives the removal: it still runs when the test kills its shell. -/
def killedShell : List Event :=
  .command true :: .command true :: .command true :: .fioStarts :: List.replicate 11 (.command true)

/-- The events of `nvme/069` that TERM reaches right before its first sleep, when fio has started. During the sleep
the shell puts the handler off to its end. -/
def signalled : List Event :=
  List.replicate 6 (Event.command true) ++ [Event.fioStarts, Event.signal] ++
    List.replicate 3 (Event.command true)

/-- **fio is left**, after the test has returned 0, and after the handler has exited. -/
theorem fio_left :
    (testSystem .nvme070 100).Reaches (fun _ _ => True)
        ⟨[], ⟨100, none, false, some .hotplug⟩, 0, .dead, .alive, .unborn, some 0⟩ ∧
      (testSystem .nvme069 100).Reaches (fun _ _ => True)
        ⟨[], ⟨100, some 100, true, some .hotplug⟩, 0, .alive, .alive, .unborn, some 1⟩ :=
  ⟨(System.Reaches.start rfl).runs _ (System.runs_of_foldlM (by rfl : killedShell.foldlM _ _ = _)),
    (System.Reaches.start rfl).runs _ (System.runs_of_foldlM (by rfl : signalled.foldlM _ _ = _))⟩

end Ndt.Removal
