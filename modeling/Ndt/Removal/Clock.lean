/-
**When the device is removed.**

A `Schedule` resolves all that is left open about time: how much longer than its `sleep` each command takes,
and how long a background command waits before it starts. `Schedule.run` is the run of a script on a clock; it
notes the moment at which each command takes effect.

* `run_effect` — a command takes effect after what was spent on the commands before it.
* `spent_eq` — what was spent are the seconds slept and the slack.
* `exercised_iff` — fio writes at the removal (and at the reset) exactly where it starts late enough to outlive
  the sleeps, and not later than they end: `nvme/069` sleeps 30 s before the reset and runs fio for 20,
  `nvme/070` sleeps as long as fio runs.
-/

import Ndt.Removal.Script

namespace Ndt.Removal

variable {T : Type} [Field T] [LinearOrder T] [IsStrictOrderedRing T]

/-- **All delays of a run**: `overshoot n` is what command number `n` takes beyond its `sleep`. -/
structure Schedule (T : Type) [Field T] [LinearOrder T] [IsStrictOrderedRing T] where
  overshoot : ℕ → T
  fioDelay : T
  resetDelay : T
  overshoot_nonneg : ∀ n, 0 ≤ overshoot n
  fioDelay_nonneg : 0 ≤ fioDelay
  resetDelay_nonneg : 0 ≤ resetDelay

/-- The seconds that a command takes at least. -/
def Command.least : Command → ℕ
  | .sleep seconds => seconds
  | _ => 0

/-- The time on the clock, and the moments at which commands took effect. -/
structure Moments (T : Type) where
  clock : T
  effect : Command → Option T

namespace Schedule

variable (schedule : Schedule T)

/-- How long a command waits in the background before it takes effect. -/
def delay : Command → T
  | .forkFio => schedule.fioDelay
  | .forkReset => schedule.resetDelay
  | _ => 0

/-- One command. -/
def command (index : ℕ) (moments : Moments T) (command : Command) : Moments T where
  clock := moments.clock + (command.least + schedule.overshoot index)
  effect := Function.update moments.effect command (some (moments.clock + schedule.delay command))

/-- The run of a script. -/
def run : ℕ → Moments T → List Command → Moments T
  | _, moments, [] => moments
  | index, moments, command :: rest => run (index + 1) (schedule.command index moments command) rest

/-- The run of a test that comes to its removal. -/
def ofTest (test : Test) : Moments T := schedule.run 0 ⟨0, fun _ => none⟩ test.script

/-! ### Time spent -/

/-- What is spent on commands. -/
def spent : ℕ → List Command → T
  | _, [] => 0
  | index, command :: rest => command.least + schedule.overshoot index + spent (index + 1) rest

/-- What of it is not slept. -/
def slack : ℕ → List Command → T
  | _, [] => 0
  | index, _ :: rest => schedule.overshoot index + slack (index + 1) rest

/-- The seconds that commands sleep. -/
def slept (commands : List Command) : ℕ := (commands.map Command.least).sum

theorem spent_eq (index : ℕ) (commands : List Command) :
    schedule.spent index commands = slept commands + schedule.slack index commands := by
  induction commands generalizing index with
  | nil => exact (by simp [spent, slept, slack])
  | cons command rest ih =>
    rw [spent, slack, slept, List.map_cons, List.sum_cons, Nat.cast_add, ih, slept]
    ring

theorem slack_nonneg (index : ℕ) (commands : List Command) : 0 ≤ schedule.slack index commands := by
  induction commands generalizing index with
  | nil => exact le_rfl
  | cons command rest ih => exact add_nonneg (schedule.overshoot_nonneg index) (ih (index + 1))

theorem spent_append (index : ℕ) (first second : List Command) :
    schedule.spent index (first ++ second) =
      schedule.spent index first + schedule.spent (index + first.length) second := by
  induction first generalizing index with
  | nil => exact (zero_add _).symm
  | cons command rest ih =>
    rw [List.cons_append, spent, spent, ih, List.length_cons, add_assoc _ _ (schedule.spent _ second),
      Nat.add_right_comm, Nat.add_assoc]

/-! ### Moments of effects -/

theorem run_append (index : ℕ) (moments : Moments T) (first second : List Command) :
    schedule.run index moments (first ++ second) =
      schedule.run (index + first.length) (schedule.run index moments first) second := by
  induction first generalizing index moments with
  | nil => rfl
  | cons command rest ih =>
    rw [List.cons_append, run, run, ih, List.length_cons, Nat.add_right_comm, Nat.add_assoc]

/-- **The clock** after commands. -/
theorem run_clock (index : ℕ) (moments : Moments T) (commands : List Command) :
    (schedule.run index moments commands).clock = moments.clock + schedule.spent index commands := by
  induction commands generalizing index moments with
  | nil => exact (add_zero _).symm
  | cons command rest ih => rw [run, ih, spent, Schedule.command, add_assoc]

/-- A command that does not occur takes no effect. -/
theorem run_effect_of_notMem {command : Command} {commands : List Command} (absent : command ∉ commands)
    (index : ℕ) (moments : Moments T) :
    (schedule.run index moments commands).effect command = moments.effect command := by
  induction commands generalizing index moments with
  | nil => rfl
  | cons head rest ih =>
    obtain ⟨different, absent⟩ := not_or.mp (List.mem_cons.not.mp absent)
    rw [run, ih absent]
    exact Function.update_of_ne different _ _

/-- **A command takes effect** after what was spent on the commands before it. -/
theorem run_effect {command : Command} {before after : List Command} (last : command ∉ after)
    (moments : Moments T) :
    (schedule.run 0 moments (before ++ command :: after)).effect command =
      some (moments.clock + schedule.spent 0 before + schedule.delay command) := by
  rw [run_append, run, run_effect_of_notMem schedule last]
  show Function.update _ command _ command = _
  rw [Function.update_self, run_clock]

end Schedule

/-! ### Writes -/

/-- **fio issues writes** from its start until its runtime has elapsed. -/
def Moments.Writing (moments : Moments T) (test : Test) (moment : T) : Prop :=
  ∃ start, moments.effect .forkFio = some start ∧ start ≤ moment ∧ moment < start + test.runtime

/-- **The race is exercised**: fio writes when the reset, if the test has one, and the removal are requested. -/
def Moments.Exercised (moments : Moments T) (test : Test) : Prop :=
  ∀ command ∈ [Command.forkReset, Command.hotremove], ∀ moment,
    moments.effect command = some moment → moments.Writing test moment

namespace Schedule

variable (schedule : Schedule T)

/-- **One request** after the fork of fio: fio has started by then, and its runtime has not elapsed. -/
theorem writing_iff (test : Test) (command : Command) (before between : List Command)
    {after : List Command} (split : test.script = before ++ .forkFio :: (between ++ command :: after))
    (once : Command.forkFio ∉ between ++ command :: after) (last : command ∉ after) :
    (∀ moment, (schedule.ofTest test).effect command = some moment →
        (schedule.ofTest test).Writing test moment) ↔
      slept (.forkFio :: between) + (schedule.slack before.length (.forkFio :: between) +
          schedule.delay command) < schedule.fioDelay + test.runtime ∧
        schedule.fioDelay ≤ slept (.forkFio :: between) +
          (schedule.slack before.length (.forkFio :: between) + schedule.delay command) := by
  have fio : (schedule.ofTest test).effect .forkFio =
      some (0 + schedule.spent 0 before + schedule.fioDelay) := by
    rw [ofTest, split]
    exact run_effect schedule once _
  have request : (schedule.ofTest test).effect command =
      some (0 + (schedule.spent 0 before + (slept (.forkFio :: between) +
        schedule.slack before.length (.forkFio :: between))) + schedule.delay command) := by
    have regroup : before ++ Command.forkFio :: (between ++ command :: after) =
        (before ++ .forkFio :: between) ++ command :: after := by
      rw [List.append_assoc, List.cons_append]
    rw [ofTest, split, regroup, run_effect schedule last, spent_append, spent_eq _ _ (.forkFio :: between),
      Nat.zero_add]
  constructor
  · intro writes
    obtain ⟨start, started, early, late⟩ := writes _ request
    obtain rfl := Option.some.inj (fio.symm.trans started)
    constructor <;> linarith
  · rintro ⟨late, early⟩ moment requested
    obtain rfl := Option.some.inj (request.symm.trans requested)
    exact ⟨_, fio, by linarith, by linarith⟩

theorem nvme069_reset_iff :
    (∀ moment, (schedule.ofTest .nvme069).effect .forkReset = some moment →
        (schedule.ofTest .nvme069).Writing .nvme069 moment) ↔
      30 + (schedule.slack 5 [.forkFio, .sleep 30, .note] + schedule.resetDelay) < schedule.fioDelay + 20 ∧
        schedule.fioDelay ≤ 30 + (schedule.slack 5 [.forkFio, .sleep 30, .note] + schedule.resetDelay) := by
  have reset := schedule.writing_iff .nvme069 .forkReset
    [.note, .resolve, .saveDelay, .installTrap, .stretchDelay] [.sleep 30, .note] rfl (by decide) (by decide)
  have seconds : slept [.forkFio, .sleep 30, .note] = 30 := rfl
  rw [seconds] at reset
  exact reset

theorem nvme069_removal_iff :
    (∀ moment, (schedule.ofTest .nvme069).effect .hotremove = some moment →
        (schedule.ofTest .nvme069).Writing .nvme069 moment) ↔
      31 + schedule.slack 5 [.forkFio, .sleep 30, .note, .forkReset, .sleep 1, .note] <
          schedule.fioDelay + 20 ∧
        schedule.fioDelay ≤
          31 + schedule.slack 5 [.forkFio, .sleep 30, .note, .forkReset, .sleep 1, .note] := by
  have removal := schedule.writing_iff .nvme069 .hotremove
    [.note, .resolve, .saveDelay, .installTrap, .stretchDelay]
    [.sleep 30, .note, .forkReset, .sleep 1, .note] rfl (by decide) (by decide)
  have seconds : slept [.forkFio, .sleep 30, .note, .forkReset, .sleep 1, .note] = 31 := rfl
  have atOnce : schedule.delay .hotremove = 0 := rfl
  rw [seconds, atOnce, add_zero] at removal
  exact removal

theorem nvme070_removal_iff :
    (∀ moment, (schedule.ofTest .nvme070).effect .hotremove = some moment →
        (schedule.ofTest .nvme070).Writing .nvme070 moment) ↔
      30 + schedule.slack 2 [.forkFio, .sleep 30, .note] < schedule.fioDelay + 30 ∧
        schedule.fioDelay ≤ 30 + schedule.slack 2 [.forkFio, .sleep 30, .note] := by
  have removal := schedule.writing_iff .nvme070 .hotremove [.note, .installTrap] [.sleep 30, .note] rfl
    (by decide) (by decide)
  have seconds : slept [.forkFio, .sleep 30, .note] = 30 := rfl
  have atOnce : schedule.delay .hotremove = 0 := rfl
  rw [seconds, atOnce, add_zero] at removal
  exact removal

/-- `nvme/070` requests no reset. -/
theorem no_reset (moment : T) : (schedule.ofTest .nvme070).effect .forkReset ≠ some moment := by
  have absent : Command.forkReset ∉ Test.nvme070.script := by decide
  rw [ofTest, run_effect_of_notMem schedule absent]
  exact nofun

/-- **fio starts in time**: before each request, but not its whole runtime before it. -/
def InTime : Test → Prop
  | .nvme069 =>
    let reset := schedule.slack 5 [.forkFio, .sleep 30, .note] + schedule.resetDelay
    let removal := schedule.slack 5 [.forkFio, .sleep 30, .note, .forkReset, .sleep 1, .note]
    (30 + reset < schedule.fioDelay + 20 ∧ schedule.fioDelay ≤ 30 + reset) ∧
      (31 + removal < schedule.fioDelay + 20 ∧ schedule.fioDelay ≤ 31 + removal)
  | .nvme070 =>
    let removal := schedule.slack 2 [.forkFio, .sleep 30, .note]
    30 + removal < schedule.fioDelay + 30 ∧ schedule.fioDelay ≤ 30 + removal

/-- **The race is exercised exactly by the schedules in which fio starts in time.** -/
theorem exercised_iff (test : Test) : (schedule.ofTest test).Exercised test ↔ schedule.InTime test := by
  rw [Moments.Exercised, List.forall_mem_cons, List.forall_mem_singleton]
  cases test with
  | nvme069 => exact and_congr schedule.nvme069_reset_iff schedule.nvme069_removal_iff
  | nvme070 =>
    rw [and_iff_right fun moment requested => absurd requested (schedule.no_reset moment)]
    exact schedule.nvme070_removal_iff

/-- **Where fio starts at once** its runtime is over at the removal, however long everything else takes. -/
theorem not_exercised_of_prompt (prompt : schedule.fioDelay = 0) (test : Test) :
    ¬ (schedule.ofTest test).Exercised test := by
  intro exercised
  have writes := exercised .hotremove (by simp)
  cases test with
  | nvme069 =>
    have late := (schedule.nvme069_removal_iff.mp writes).1
    have slack := schedule.slack_nonneg 5 [.forkFio, .sleep 30, .note, .forkReset, .sleep 1, .note]
    linarith
  | nvme070 =>
    have late := (schedule.nvme070_removal_iff.mp writes).1
    have slack := schedule.slack_nonneg 2 [.forkFio, .sleep 30, .note]
    linarith

end Schedule

/-- The schedule in which only fio is late. -/
def fioLate (delay : ℚ) (delay_nonneg : 0 ≤ delay) : Schedule ℚ where
  overshoot _ := 0
  fioDelay := delay
  resetDelay := 0
  overshoot_nonneg _ := le_rfl
  fioDelay_nonneg := delay_nonneg
  resetDelay_nonneg := le_rfl

theorem exercised_fifteen :
    ((fioLate 15 (by norm_num)).ofTest .nvme069).Exercised .nvme069 ∧
      ((fioLate 15 (by norm_num)).ofTest .nvme070).Exercised .nvme070 := by
  rw [Schedule.exercised_iff, Schedule.exercised_iff]
  norm_num [Schedule.InTime, Schedule.slack, fioLate]

/-- **Without any delay neither test exercises its race.** -/
theorem prompt_not_exercised :
    ¬ ((fioLate 0 le_rfl).ofTest .nvme069).Exercised .nvme069 ∧
      ¬ ((fioLate 0 le_rfl).ofTest .nvme070).Exercised .nvme070 :=
  ⟨Schedule.not_exercised_of_prompt _ rfl .nvme069, Schedule.not_exercised_of_prompt _ rfl .nvme070⟩

end Ndt.Removal
