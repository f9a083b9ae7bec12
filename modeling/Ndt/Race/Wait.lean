/-
**The wait loop, among the guest, QEMU and `socat`.**

The guest writes the bytes of its serial console; `socat` copies them into `console.log`, in order and in
arbitrary pieces; QEMU exits when the guest powers off, and some time later its process is gone for
`kill -0`; seconds pass; and the script goes through its loop, one command at a time (`poll`).

* `Polled` — what a command of the loop can do, one case for each outcome; `polled_of_step`.
* `step_other`, `Grows` — the other parties leave the script alone, and no step takes back a byte.
* `shows_iff`, `grepSentinel_whole` — what `grep` makes of the bytes copied so far, by where the first
  line with the marker lies in the stream.
-/

import Ndt.Host.Verdict
import Ndt.Transition.System

namespace Ndt.Race

open Shell Host Transition

/-- `$cause` -/
inductive Cause
  | sentinel | qemuExited | timeout
  deriving DecidableEq, Repr

def Cause.text : Cause → Text
  | .sentinel => "sentinel".toList
  | .qemuExited => "qemu-exited-without-sentinel".toList
  | .timeout => "timeout".toList

/-- The next command of the loop: `if grep`, `result_line=$(grep)`, `kill -0`, the last `grep`, the budget
check with the sleep after it; or the loop has been left. -/
inductive Command
  | test | capture | killCheck | lastLook | budgetCheck | left
  deriving DecidableEq, Repr

/-- All parties during the wait. -/
structure Wait where
  /-- The bytes the guest has written, of those it will write. -/
  written : ℕ
  /-- The bytes `socat` has copied into `console.log`. -/
  copied : ℕ
  qemuAlive : Bool
  /-- `kill -0 "$qemu_pid"` fails. -/
  gone : Bool
  /-- `EPOCHSECONDS - t0` -/
  dt : ℕ
  command : Command
  resultLine : Text
  cause : Option Cause
  deriving DecidableEq

/-- Who acts. -/
inductive Act
  | write (n : ℕ)
  | poweroff
  | reap
  | copy (n : ℕ)
  | tick
  | poll
  deriving DecidableEq, Repr

/-- `console.log` after `copied` bytes of a stream. -/
def consoleLog (stream : Text) (wait : Wait) : Text := stream.take wait.copied

/-- The next command of the loop, for a console and a budget. -/
def Wait.poll (stream : Text) (budget : ℤ) (wait : Wait) : Option Wait :=
  match wait.command with
  | .test =>
    if (grepFirst sentinelPrefix (consoleLog stream wait)).isSome then
      some { wait with command := .capture }
    else some { wait with command := .killCheck }
  | .capture =>
    some { wait with
      resultLine := grepSentinel (consoleLog stream wait), cause := some .sentinel, command := .left }
  | .killCheck =>
    if wait.gone then some { wait with command := .lastLook }
    else some { wait with command := .budgetCheck }
  | .lastLook =>
    let resultLine := grepSentinel (consoleLog stream wait)
    some { wait with
      resultLine := resultLine
      cause := some (if resultLine ≠ [] then .sentinel else .qemuExited)
      command := .left }
  | .budgetCheck =>
    if wait.dt > budget then some { wait with cause := some .timeout, command := .left }
    else some { wait with command := .test }
  | .left => none

/-- One action of one party. -/
def Wait.step (stream : Text) (budget : ℤ) (wait : Wait) : Act → Option Wait
  | .write n =>
    if wait.qemuAlive ∧ wait.written + n ≤ stream.length then
      some { wait with written := wait.written + n }
    else none
  | .poweroff => if wait.qemuAlive then some { wait with qemuAlive := false } else none
  | .reap => if wait.qemuAlive then none else some { wait with gone := true }
  | .copy n =>
    if wait.copied + n ≤ wait.written then some { wait with copied := wait.copied + n } else none
  | .tick => some { wait with dt := wait.dt + 1 }
  | .poll => wait.poll stream budget

/-- **The wait**, for the bytes that the guest writes in the run and a budget. It starts with some of them
written and some of these copied. -/
def waitSystem (stream : Text) (budget : ℤ) : System Wait Act where
  initial wait := wait.copied ≤ wait.written ∧ wait.written ≤ stream.length ∧ wait.dt = 0 ∧
    wait.command = .test ∧ wait.resultLine = [] ∧ wait.cause = none
  step := Wait.step stream budget

section Steps

variable {stream : Text} {budget : ℤ} {wait next : Wait}

/-- **The other parties** leave the script alone. -/
theorem step_other {act : Act} (notPoll : act ≠ .poll)
    (step : wait.step stream budget act = some next) :
    next.command = wait.command ∧ next.resultLine = wait.resultLine ∧ next.cause = wait.cause := by
  cases act with
  | poll => exact absurd rfl notPoll
  | tick =>
    obtain rfl := Option.some.inj step
    exact ⟨rfl, rfl, rfl⟩
  | write n | poweroff | copy n =>
    rw [Wait.step] at step
    split at step
    · obtain rfl := Option.some.inj step
      exact ⟨rfl, rfl, rfl⟩
    · cases step
  | reap =>
    rw [Wait.step] at step
    split at step
    · cases step
    · obtain rfl := Option.some.inj step
      exact ⟨rfl, rfl, rfl⟩

/-- **What a command of the loop can do.** -/
inductive Polled (stream : Text) (budget : ℤ) (wait : Wait) : Wait → Prop
  | matched (here : wait.command = .test)
      (shows : (grepFirst sentinelPrefix (consoleLog stream wait)).isSome) :
      Polled stream budget wait { wait with command := .capture }
  | unmatched (here : wait.command = .test)
      (hidden : ¬ (grepFirst sentinelPrefix (consoleLog stream wait)).isSome) :
      Polled stream budget wait { wait with command := .killCheck }
  | captured (here : wait.command = .capture) :
      Polled stream budget wait
        { wait with
          resultLine := grepSentinel (consoleLog stream wait), cause := some .sentinel, command := .left }
  | exited (here : wait.command = .killCheck) (gone : wait.gone) :
      Polled stream budget wait { wait with command := .lastLook }
  | alive (here : wait.command = .killCheck) (there : ¬ wait.gone) :
      Polled stream budget wait { wait with command := .budgetCheck }
  | caught (here : wait.command = .lastLook) (nonempty : grepSentinel (consoleLog stream wait) ≠ []) :
      Polled stream budget wait
        { wait with
          resultLine := grepSentinel (consoleLog stream wait), cause := some .sentinel, command := .left }
  | missed (here : wait.command = .lastLook) (empty : grepSentinel (consoleLog stream wait) = []) :
      Polled stream budget wait
        { wait with
          resultLine := grepSentinel (consoleLog stream wait), cause := some .qemuExited, command := .left }
  | expired (here : wait.command = .budgetCheck) (late : wait.dt > budget) :
      Polled stream budget wait { wait with cause := some .timeout, command := .left }
  | again (here : wait.command = .budgetCheck) (early : ¬ wait.dt > budget) :
      Polled stream budget wait { wait with command := .test }

theorem polled_of_step (step : wait.step stream budget .poll = some next) :
    Polled stream budget wait next := by
  rw [Wait.step, Wait.poll] at step
  cases command : wait.command with
  | test =>
    simp only [command] at step
    split at step
    · rename_i shows
      obtain rfl := Option.some.inj step
      exact .matched command shows
    · rename_i hidden
      obtain rfl := Option.some.inj step
      exact .unmatched command hidden
  | capture =>
    simp only [command] at step
    obtain rfl := Option.some.inj step
    exact .captured command
  | killCheck =>
    simp only [command] at step
    split at step
    · rename_i gone
      obtain rfl := Option.some.inj step
      exact .exited command gone
    · rename_i there
      obtain rfl := Option.some.inj step
      exact .alive command there
  | lastLook =>
    simp only [command] at step
    obtain rfl := Option.some.inj step
    by_cases empty : grepSentinel (consoleLog stream wait) = []
    · rw [if_neg (not_not.mpr empty)]
      exact .missed command empty
    · rw [if_pos empty]
      exact .caught command empty
  | budgetCheck =>
    simp only [command] at step
    split at step
    · rename_i late
      obtain rfl := Option.some.inj step
      exact .expired command late
    · rename_i early
      obtain rfl := Option.some.inj step
      exact .again command early
  | left =>
    simp only [command] at step
    cases step

/-- Later in the run. -/
structure Grows (before after : Wait) : Prop where
  written : before.written ≤ after.written
  copied : before.copied ≤ after.copied
  dt : before.dt ≤ after.dt

theorem Grows.refl (wait : Wait) : Grows wait wait := ⟨le_rfl, le_rfl, le_rfl⟩

theorem Grows.trans {first second third : Wait} (earlier : Grows first second)
    (later : Grows second third) : Grows first third :=
  ⟨earlier.written.trans later.written, earlier.copied.trans later.copied, earlier.dt.trans later.dt⟩

/-- **No step** takes back a byte or a second. -/
theorem grows_of_step {act : Act} (step : wait.step stream budget act = some next) : Grows wait next := by
  cases act with
  | poll => cases polled_of_step step <;> exact ⟨le_rfl, le_rfl, le_rfl⟩
  | tick =>
    obtain rfl := Option.some.inj step
    exact ⟨le_rfl, le_rfl, Nat.le_succ _⟩
  | write n | poweroff | copy n =>
    rw [Wait.step] at step
    split at step
    · obtain rfl := Option.some.inj step
      exact ⟨by simp, by simp, le_rfl⟩
    · cases step
  | reap =>
    rw [Wait.step] at step
    split at step
    · cases step
    · obtain rfl := Option.some.inj step
      exact ⟨le_rfl, le_rfl, le_rfl⟩

end Steps

/-! ### What `grep` shows -/

section Shown

variable {stream : Text} {wait : Wait} {start : ℕ} {line : Text}

theorem sentinelPrefix_ne_nil : sentinelPrefix ≠ [] := List.cons_ne_nil _ _

/-- **The marker shows** once all of it has been copied. -/
theorem shows_iff (located : locate sentinelPrefix stream = some (start, line)) :
    (grepFirst sentinelPrefix (consoleLog stream wait)).isSome ↔
      start + sentinelPrefix.length ≤ wait.copied := by
  rw [consoleLog, grepFirst_take sentinelPrefix_ne_nil, located, Option.bind_some, seen]
  split
  · rename_i copied
    exact iff_of_true rfl copied
  · rename_i short
    exact iff_of_false Bool.false_ne_true short

/-- A marker that shows is a marker in the stream. -/
theorem located_of_shows (shows : (grepFirst sentinelPrefix (consoleLog stream wait)).isSome) :
    ∃ start line, locate sentinelPrefix stream = some (start, line) ∧
      start + sentinelPrefix.length ≤ wait.copied := by
  cases located : locate sentinelPrefix stream with
  | none =>
    rw [consoleLog, grepFirst_take sentinelPrefix_ne_nil, located] at shows
    cases shows
  | some hit => exact ⟨hit.1, hit.2, rfl, (shows_iff located).mp shows⟩

/-- Once the marker shows, `grep` prints what has been copied of the line. -/
theorem seen_grepSentinel (located : locate sentinelPrefix stream = some (start, line))
    (marker : start + sentinelPrefix.length ≤ wait.copied) :
    seen sentinelPrefix start line wait.copied = some (grepSentinel (consoleLog stream wait)) := by
  rw [grepSentinel, consoleLog, grepFirst_take sentinelPrefix_ne_nil, located, Option.bind_some, seen,
    if_pos marker]
  rfl

theorem startsWith_of_located (located : locate sentinelPrefix stream = some (start, line)) :
    startsWith sentinelPrefix line = true := by
  have found : grepFirst sentinelPrefix stream = some line := by
    rw [grepFirst_eq_locate, located]
    rfl
  exact grepFirst_starts found

/-- **The whole line shows** once all of it has been copied. -/
theorem grepSentinel_whole (located : locate sentinelPrefix stream = some (start, line))
    (copied : start + line.length ≤ wait.copied) : grepSentinel (consoleLog stream wait) = line := by
  rw [grepSentinel, consoleLog, grepFirst_take sentinelPrefix_ne_nil, located, Option.bind_some,
    seen_of_le (startsWith_of_located located) copied]
  rfl

end Shown

end Ndt.Race
