/-
**The processes of a batch run.**

`boot_qemu … &` forks a shell for the function, and QEMU is a child of that shell. `$qemu_pid` is the shell:
`kill -0` and `wait` follow the shell, which ends after QEMU, but `kill -9` ends the shell alone.

* `Tree`, `Event`, `Tree.step` — the script from the launch to its exit, with `cleanup` on `INT`, `TERM` and
  `EXIT`, which goes back to where the script was.
* `no_leak` — **all runs** in which `kill -9` comes after QEMU's end: no QEMU is alive once the script has
  exited.
* `orphan_survives` — after any other `kill -9` the script can exit while QEMU is alive.
* `terminated_leak` — a run that is sent `TERM` while it waits for the socket.
-/

import Ndt.Transition.System

namespace Ndt.Race

open Transition

inductive Process
  | unborn | alive | dead
  deriving DecidableEq, Repr

/-- The next command of the script: `boot_qemu &`, `qemu_pid=$!`, the socket wait, the test after it, `socat &`
and the live view, the wait loop, the test before the grace period, this period, `kill -9`, `wait`, parsing
and summary, the `EXIT` trap; or the script has exited. -/
inductive Line
  | launch | record | socketWait (tries : ℕ) | socketTest | socat | loop
  | graceTest | grace (tries : ℕ) | killNine | waitQemu | parse | exitTrap | exited
  deriving DecidableEq, Repr

/-- The script, the shell around `boot_qemu`, and QEMU. -/
structure Tree where
  line : Line
  /-- `[[ -n "$qemu_pid" ]]` -/
  recorded : Bool
  shell : Process
  qemu : Process
  deriving DecidableEq, Repr

inductive Event
  /-- The next command of the script; `yes` is what a test on the world outside says (`-S`, the end of the
  wait loop). -/
  | command (yes : Bool)
  /-- The shell starts QEMU. -/
  | start
  | qemuEnds
  /-- The shell has no QEMU to wait for. -/
  | shellEnds
  /-- `INT` or `TERM` reaches the script. -/
  | signal
  deriving DecidableEq, Repr

namespace Tree

/-- `kill -9 "$qemu_pid"`, where this is set. -/
def killNine (tree : Tree) : Tree :=
  if tree.recorded ∧ tree.shell = .alive then { tree with shell := .dead } else tree

/-- The process and the tree of `cleanup`. The other two processes it kills are left out; `kill -0` before the
`kill -9` changes nothing, since `kill -9` does nothing to a process that is gone. -/
def cleanup (tree : Tree) : Tree := tree.killNine

/-- The next command of the script. -/
def command (tree : Tree) (yes : Bool) : Option Tree :=
  match tree.line with
  | .launch => some { tree with line := .record, shell := .alive }
  | .record => some { tree with line := .socketWait 100, recorded := true }
  | .socketWait 0 => some { tree with line := .socketTest }
  | .socketWait (tries + 1) => some { tree with line := if yes then .socketTest else .socketWait tries }
  | .socketTest => some { tree with line := if yes then .socat else .exitTrap }
  | .socat => some { tree with line := .loop }
  | .loop => some { tree with line := if yes then .graceTest else .loop }
  | .graceTest => some { tree with line := if tree.shell = .alive then .grace 50 else .waitQemu }
  | .grace 0 => some { tree with line := .killNine }
  | .grace (tries + 1) =>
    some { tree with line := if tree.shell = .alive then .grace tries else .killNine }
  | .killNine => some { tree.killNine with line := .waitQemu }
  | .waitQemu => if tree.shell = .alive then none else some { tree with line := .parse }
  | .parse => some { tree with line := .exitTrap }
  | .exitTrap => some { tree.cleanup with line := .exited }
  | .exited => none

/-- One event. A signal ends a `wait` at once. -/
def step (tree : Tree) : Event → Option Tree
  | .command yes => tree.command yes
  | .start =>
    if tree.shell = .alive ∧ tree.qemu = .unborn then some { tree with qemu := .alive } else none
  | .qemuEnds => if tree.qemu = .alive then some { tree with qemu := .dead } else none
  | .shellEnds =>
    if tree.shell = .alive ∧ tree.qemu ≠ .alive then some { tree with shell := .dead } else none
  | .signal =>
    match tree.line with
    | .exited => none
    | .waitQemu => some { tree.cleanup with line := .parse }
    | _ => some tree.cleanup

end Tree

/-- **A batch run**, from the launch on. -/
def treeSystem : System Tree Event where
  initial tree := tree = ⟨.launch, false, .unborn, .unborn⟩
  step := Tree.step

/-! ### Kills that come late -/

variable {tree next : Tree}

/-- The event kills the shell. -/
def Kills (tree : Tree) (event : Event) : Prop :=
  (event = .signal ∨ ∃ yes, event = .command yes ∧ (tree.line = .killNine ∨ tree.line = .exitTrap)) ∧
    tree.recorded ∧ tree.shell = .alive

/-- **The condition on a kill**: QEMU has ended, or has not been started. -/
def KillsLate (tree : Tree) (event : Event) : Prop := Kills tree event → tree.qemu ≠ .alive

/-- **The invariant**: from when on the shell is there and recorded, that it outlives QEMU, and that it is gone
in the end. -/
structure Sound (tree : Tree) : Prop where
  recorded : tree.line ≠ .launch → tree.line ≠ .record → tree.recorded
  unborn : tree.line = .launch ↔ tree.shell = .unborn
  started : tree.shell = .unborn → tree.qemu = .unborn
  outlives : tree.shell = .dead → tree.qemu ≠ .alive
  exited : tree.line = .exited → tree.shell = .dead

namespace Sound

theorem start (initial : treeSystem.initial tree) : Sound tree := by
  obtain rfl := initial
  exact ⟨fun other => absurd rfl other, iff_of_true rfl rfl, fun _ => rfl, nofun, nofun⟩

/-- The script goes on to a later line. -/
theorem goto (sound : Sound tree) (recorded : tree.recorded) {line : Line} (born : tree.line ≠ .launch)
    (later : line ≠ .launch) (ends : line = .exited → tree.shell = .dead) :
    Sound { tree with line := line } where
  recorded _ _ := recorded
  unborn := iff_of_false later fun unborn => born (sound.unborn.mpr unborn)
  started := sound.started
  outlives := sound.outlives
  exited := ends

/-- **A kill** after QEMU's end. -/
theorem killNine (sound : Sound tree)
    (late : tree.recorded → tree.shell = .alive → tree.qemu ≠ .alive) : Sound tree.killNine := by
  rw [Tree.killNine]
  split
  · rename_i kills
    refine ⟨sound.recorded, iff_of_false ?_ nofun, nofun, fun _ => late kills.1 kills.2, fun _ => rfl⟩
    intro launch
    rw [sound.unborn.mp launch] at kills
    cases kills.2
  · exact sound

end Sound

/-- After a kill the shell is gone. -/
theorem killNine_shell (recorded : tree.recorded) (born : tree.shell ≠ .unborn) :
    tree.killNine.shell = .dead := by
  rw [Tree.killNine]
  split
  · rfl
  · rename_i spared
    cases shell : tree.shell with
    | unborn => exact absurd shell born
    | alive => exact absurd ⟨recorded, shell⟩ spared
    | dead => rfl

theorem killNine_line : tree.killNine.line = tree.line := by
  rw [Tree.killNine]
  split <;> rfl

theorem killNine_recorded : tree.killNine.recorded = tree.recorded := by
  rw [Tree.killNine]
  split <;> rfl

/-- **A command of the script** keeps the invariant. -/
theorem sound_of_command {yes : Bool} (sound : Sound tree) (late : KillsLate tree (.command yes))
    (step : tree.command yes = some next) : Sound next := by
  have after : tree.line ≠ .launch → tree.line ≠ .record → ∀ line, line ≠ .launch → line ≠ .exited →
      Sound { tree with line := line } :=
    fun launched recorded line later running =>
      sound.goto (sound.recorded launched recorded) launched later fun ended => absurd ended running
  cases here : tree.line with
  | launch =>
    simp only [Tree.command, here, Option.some.injEq] at step
    subst step
    have unstarted := sound.started (sound.unborn.mp here)
    exact ⟨fun _ other => absurd rfl other, iff_of_false nofun nofun, nofun, nofun, nofun⟩
  | record =>
    simp only [Tree.command, here, Option.some.injEq] at step
    subst step
    have born : tree.shell ≠ .unborn := fun unborn => by
      rw [sound.unborn.mpr unborn] at here
      cases here
    exact ⟨fun _ _ => rfl, iff_of_false nofun born, sound.started, sound.outlives, nofun⟩
  | socketWait tries | grace tries =>
    cases tries with
    | zero =>
      simp only [Tree.command, here, Option.some.injEq] at step
      subst step
      exact after (by simp [here]) (by simp [here]) _ nofun nofun
    | succ tries =>
      simp only [Tree.command, here, Option.some.injEq] at step
      subst step
      refine after (by simp [here]) (by simp [here]) _ ?_ ?_ <;> split <;> exact nofun
  | socketTest | socat | loop | graceTest | parse =>
    simp only [Tree.command, here, Option.some.injEq] at step
    subst step
    refine after (by simp [here]) (by simp [here]) _ ?_ ?_ <;> repeat' split
    all_goals simp
  | waitQemu =>
    simp only [Tree.command, here] at step
    split at step
    · cases step
    · obtain rfl := Option.some.inj step
      exact after (by simp [here]) (by simp [here]) _ nofun nofun
  | killNine =>
    simp only [Tree.command, here, Option.some.injEq] at step
    subst step
    have killed := sound.killNine fun recorded alive => late ⟨.inr ⟨yes, rfl, .inl here⟩, recorded, alive⟩
    refine killed.goto ?_ (by simp [killNine_line, here]) nofun nofun
    rw [killNine_recorded]
    exact sound.recorded (by simp [here]) (by simp [here])
  | exitTrap =>
    simp only [Tree.command, Tree.cleanup, here, Option.some.injEq] at step
    subst step
    have recorded := sound.recorded (by simp [here]) (by simp [here])
    have killed := sound.killNine fun recorded alive => late ⟨.inr ⟨yes, rfl, .inr here⟩, recorded, alive⟩
    refine killed.goto (by rw [killNine_recorded, recorded]) (by simp [killNine_line, here]) nofun ?_
    intro _
    refine killNine_shell recorded fun unborn => ?_
    rw [sound.unborn.mpr unborn] at here
    cases here
  | exited =>
    simp only [Tree.command, here] at step
    cases step

/-- **One event** keeps the invariant. -/
theorem sound_of_step {event : Event} (sound : Sound tree) (late : KillsLate tree event)
    (step : tree.step event = some next) : Sound next := by
  cases event with
  | command yes => exact sound_of_command sound late step
  | start =>
    rw [Tree.step] at step
    split at step
    · rename_i starts
      obtain rfl := Option.some.inj step
      refine ⟨sound.recorded, sound.unborn, fun unborn => ?_, fun dead => ?_, sound.exited⟩
      · rw [unborn] at starts
        cases starts.1
      · rw [dead] at starts
        cases starts.1
    · cases step
  | qemuEnds =>
    rw [Tree.step] at step
    split at step
    · rename_i alive
      obtain rfl := Option.some.inj step
      refine ⟨sound.recorded, sound.unborn, fun unborn => ?_, fun _ => nofun, sound.exited⟩
      rw [sound.started unborn] at alive
      cases alive
    · cases step
  | shellEnds =>
    rw [Tree.step] at step
    split at step
    · rename_i ends
      obtain rfl := Option.some.inj step
      refine ⟨sound.recorded, iff_of_false ?_ nofun, nofun, fun _ => ends.2, fun _ => rfl⟩
      intro launch
      rw [sound.unborn.mp launch] at ends
      cases ends.1
    · cases step
  | signal =>
    have killed : Sound tree.cleanup :=
      sound.killNine fun recorded alive => late ⟨.inl rfl, recorded, alive⟩
    rw [Tree.step] at step
    split at step
    · cases step
    · rename_i here
      obtain rfl := Option.some.inj step
      refine killed.goto ?_ (by simp [Tree.cleanup, killNine_line, here]) nofun nofun
      rw [Tree.cleanup, killNine_recorded]
      exact sound.recorded (by simp [here]) (by simp [here])
    · obtain rfl := Option.some.inj step
      exact killed

/-- **No leaked QEMU**, on every way to the exit of the script (no socket, a sentinel, a timeout, the end of
QEMU, signals at any points), if each `kill -9` comes after QEMU's end. -/
theorem no_leak (reached : treeSystem.Reaches KillsLate tree) (exited : tree.line = .exited) :
    tree.qemu ≠ .alive := by
  have sound : Sound tree :=
    reached.invariant (fun _ initial => .start initial) fun _ _ _ => sound_of_step
  exact sound.outlives (sound.exited exited)

/-! ### Kills that come early -/

/-- How far a script without its shell is from its exit. -/
def Line.rank : Line → ℕ
  | .record => 166
  | .socketWait tries => 64 + tries
  | .socketTest => 63
  | .socat => 62
  | .loop => 61
  | .graceTest => 60
  | .grace tries => 6 + tries
  | .killNine => 5
  | .waitQemu => 4
  | .parse => 3
  | .exitTrap => 2
  | .launch | .exited => 0

/-- **A script without its shell** goes on, and leaves QEMU alone. -/
theorem command_of_dead (dead : tree.shell = .dead) (launched : tree.line ≠ .launch)
    (running : tree.line ≠ .exited) :
    ∃ next, tree.command true = some next ∧ next.shell = .dead ∧ next.qemu = tree.qemu ∧
      next.line ≠ .launch ∧ next.line.rank < tree.line.rank := by
  obtain ⟨line, recorded, shell, qemu⟩ := tree
  obtain rfl : shell = .dead := dead
  cases line with
  | launch => exact absurd rfl launched
  | exited => exact absurd rfl running
  | socketWait tries | grace tries =>
    cases tries with
    | zero => exact ⟨_, rfl, rfl, rfl, nofun, by simp [Line.rank]⟩
    | succ tries =>
      refine ⟨_, rfl, rfl, rfl, nofun, ?_⟩
      show _ + 0 < _ + (tries + 1)
      omega
  | record | socketTest | socat | loop | graceTest | killNine | waitQemu | parse | exitTrap =>
    refine ⟨_, rfl, ?_, ?_, nofun, ?_⟩ <;> simp [Tree.killNine, Tree.cleanup, Line.rank]

/-- A script without its shell can exit, and leaves QEMU alone. -/
theorem exits_of_dead (dead : tree.shell = .dead) (launched : tree.line ≠ .launch) :
    ∃ events final, treeSystem.Runs (fun _ _ => True) tree events final ∧ final.line = .exited ∧
      final.qemu = tree.qemu := by
  induction far : tree.line.rank using Nat.strong_induction_on generalizing tree with
  | _ rank ih =>
    by_cases exited : tree.line = .exited
    · exact ⟨[], tree, rfl, exited, rfl⟩
    · obtain ⟨next, step, dead', same, launched', nearer⟩ := command_of_dead dead launched exited
      obtain ⟨events, final, ran, exits, same'⟩ := ih _ (far ▸ nearer) dead' launched' rfl
      exact ⟨.command true :: events, final, ⟨trivial, next, step, ran⟩, exits, same'.trans same⟩

/-- What a kill does. -/
theorem killNine_of_kills {event : Event} (kills : Kills tree event) :
    tree.killNine = { tree with shell := .dead } := by
  rw [Tree.killNine, if_pos kills.2]

/-- **Where the condition fails**, QEMU can outlive the script: after a kill of its shell nothing of the script
reaches it. -/
theorem orphan_survives {event : Event} (launched : tree.line ≠ .launch) (kills : Kills tree event)
    (alive : tree.qemu = .alive) (step : tree.step event = some next) :
    ∃ events final, treeSystem.Runs (fun _ _ => True) next events final ∧ final.line = .exited ∧
      final.qemu = .alive := by
  have killed := killNine_of_kills kills
  suffices orphan : next.shell = .dead ∧ next.line ≠ .launch ∧ next.qemu = .alive by
    obtain ⟨events, final, ran, exits, same⟩ := exits_of_dead orphan.1 orphan.2.1
    exact ⟨events, final, ran, exits, same.trans orphan.2.2⟩
  rcases kills.1 with rfl | ⟨yes, rfl, here | here⟩
  · rw [Tree.step] at step
    split at step
    · cases step
    all_goals
      obtain rfl := Option.some.inj step
      simp [Tree.cleanup, killed, alive, launched]
  · simp only [Tree.step, Tree.command, here, Option.some.injEq] at step
    subst step
    simp [killed, alive]
  · simp only [Tree.step, Tree.command, here, Option.some.injEq] at step
    subst step
    simp [Tree.cleanup, killed, alive]

/-! ### Two short runs -/

theorem killsLate_of_ended {event : Event} (ended : tree.qemu ≠ .alive) : KillsLate tree event :=
  fun _ => ended

theorem killsLate_of_line {event : Event} (noSignal : event ≠ .signal) (before : tree.line ≠ .killNine)
    (running : tree.line ≠ .exitTrap) : KillsLate tree event := by
  rintro ⟨signal | ⟨_, _, kill | trap⟩, _⟩
  · exact absurd signal noSignal
  · exact absurd kill before
  · exact absurd trap running

theorem no_leak_poweroff :
    ∃ tree : Tree, tree.line = .exited ∧ tree.qemu = .dead ∧ tree.qemu ≠ .alive := by
  have reached : treeSystem.Reaches KillsLate ⟨.exited, true, .dead, .dead⟩ := by
    refine (System.Reaches.start rfl).runs
      [.command true, .command true, .start, .command true, .command true, .command true,
        .qemuEnds, .shellEnds, .command true, .command true, .command true, .command true,
        .command true] ?_
    refine ⟨killsLate_of_ended nofun, _, rfl, killsLate_of_ended nofun, _, rfl,
      killsLate_of_ended nofun, _, rfl, killsLate_of_line nofun nofun nofun, _, rfl,
      killsLate_of_line nofun nofun nofun, _, rfl, killsLate_of_line nofun nofun nofun, _, rfl,
      killsLate_of_line nofun nofun nofun, _, rfl, killsLate_of_ended nofun, _, rfl,
      killsLate_of_ended nofun, _, rfl, killsLate_of_ended nofun, _, rfl, killsLate_of_ended nofun, _, rfl,
      killsLate_of_ended nofun, _, rfl, killsLate_of_ended nofun, _, rfl, rfl⟩
  exact ⟨_, rfl, rfl, no_leak reached rfl⟩

/-- **QEMU leaks**: `TERM` reaches the script while it waits for the socket. The trap kills the shell around QEMU
and goes back into the wait; from then on the script takes QEMU for ended, and exits. -/
theorem terminated_leak :
    treeSystem.Reaches (fun _ _ => True) ⟨.exited, true, .dead, .alive⟩ := by
  refine (System.Reaches.start rfl).runs
    [.command true, .command true, .start, .signal, .command true, .command true, .command true,
      .command true, .command true, .command true, .command true, .command true] ?_
  exact System.runs_of_foldlM rfl

end Ndt.Race
