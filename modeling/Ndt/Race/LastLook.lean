/-
**The guest powers off: the last look at the console.**

`init` emits its line and powers off. The loop sees QEMU gone, looks once more and gives up; `socat` may
still have bytes to copy.

* `Delivered` — the guest wrote its line, in a stream without a NUL byte, `socat` copies every byte, the budget
  lasts, the host goes on.
* `answered_iff` — **every such run**: the loop ends with the guest's line exactly when the look that ends it
  comes after `socat` has copied the line.
* `lost_result` — a run of this kind that ends without the line.
-/

import Ndt.Race.Whole

namespace Ndt.Race

open Shell Host Transition Run

variable {stream : Text} {budget : ℤ} {result : Result stream}

/-- A look after which the loop is left. -/
def Wait.Takes (wait : Wait) : Prop := wait.command = .capture ∨ wait.command = .lastLook

/-- **The assumptions** on a run: the guest wrote its line with the newline, `socat` copies every byte in the
end, the budget has not run out when it is checked, and the host goes through its loop until it leaves it. -/
structure Delivered (execution : Execution (waitSystem stream budget) fun _ _ => True)
    (result : Result stream) : Prop where
  wrote : ∃ n, result.stop + 1 ≤ (execution.state n).written
  copies : ∀ n, ∃ m, n ≤ m ∧ (execution.state n).written ≤ (execution.state m).copied
  inBudget : ∀ n, execution.action n = some .poll → (execution.state n).command = .budgetCheck →
    ((execution.state n).dt : ℤ) ≤ budget
  polls : ∀ n, (execution.state n).command ≠ .left → ∃ m, n ≤ m ∧ execution.action m = some .poll

/-- **The run is answered**: the loop is left, with the guest's line. -/
def Answered (execution : Execution (waitSystem stream budget) fun _ _ => True)
    (result : Result stream) : Prop :=
  (∃ n, (execution.state n).command = .left) ∧
    ∀ n, (execution.state n).command = .left →
      (execution.state n).cause = some .sentinel ∧ (execution.state n).resultLine = result.line

/-! ### The loop is left with the line -/

/-- The looks that end the loop come after the line, the budget checks before the end of the budget. -/
def LooksLate (budget : ℤ) (result : Result stream) (wait : Wait) (act : Act) : Prop :=
  act = .poll →
    (wait.Takes → result.stop ≤ wait.copied) ∧ (wait.command = .budgetCheck → (wait.dt : ℤ) ≤ budget)

/-- **One step**: the loop is left with the line, or not left. -/
theorem line_of_step {wait next : Wait} {act : Act}
    (before : wait.command = .left → wait.cause = some .sentinel ∧ wait.resultLine = result.line)
    (late : LooksLate budget result wait act) (step : wait.step stream budget act = some next) :
    next.command = .left → next.cause = some .sentinel ∧ next.resultLine = result.line := by
  by_cases isPoll : act = .poll
  · subst isPoll
    obtain ⟨looks, checks⟩ := late rfl
    cases polled_of_step step with
    | matched | unmatched | exited | alive | again => exact nofun
    | captured here => exact fun _ => ⟨rfl, grepSentinel_whole result.located (looks (.inl here))⟩
    | caught here => exact fun _ => ⟨rfl, grepSentinel_whole result.located (looks (.inr here))⟩
    | missed here empty =>
      rw [grepSentinel_whole result.located (looks (.inr here))] at empty
      exact absurd empty result.line_ne_nil
    | expired here past => exact absurd (checks here) (not_le.mpr past)
  · obtain ⟨command, resultLine, cause⟩ := step_other isPoll step
    rw [command, resultLine, cause]
    exact before

theorem line_of_left {wait : Wait}
    (reached : (waitSystem stream budget).Reaches (LooksLate budget result) wait) :
    wait.command = .left → wait.cause = some .sentinel ∧ wait.resultLine = result.line := by
  refine reached.invariant ?_ fun _ _ _ => line_of_step
  intro start initial left
  rw [initial.2.2.2.1] at left
  cases left

/-! ### The loop is left -/

/-- How far the loop is from its end, once the line has been copied. -/
def Command.rank : Command → ℕ
  | .killCheck => 4
  | .budgetCheck => 3
  | .test => 2
  | .capture | .lastLook => 1
  | .left => 0

/-- **One step** once the line has been copied: a command brings the loop nearer to its end, the other
parties leave it where it is. -/
theorem rank_of_step {wait next : Wait} {act : Act} (copied : result.stop ≤ wait.copied)
    (step : wait.step stream budget act = some next) :
    next.command.rank ≤ wait.command.rank ∧
      (act = .poll → next.command.rank < wait.command.rank) := by
  by_cases isPoll : act = .poll
  · subst isPoll
    suffices falls : next.command.rank < wait.command.rank from ⟨falls.le, fun _ => falls⟩
    cases polled_of_step step with
    | unmatched here hidden =>
      have fits := (startsWith_iff.mp result.starts).length_le
      exact absurd ((shows_iff result.located).mpr (by rw [Result.stop] at copied; omega)) hidden
    | matched here | captured here | exited here | alive here | caught here | missed here | expired here
      | again here =>
      simp [here, Command.rank]
  · rw [(step_other isPoll step).1]
    exact ⟨le_rfl, fun poll => absurd poll isPoll⟩

section Runs

variable {execution : Execution (waitSystem stream budget) fun _ _ => True}

/-- From some moment on the line has been copied. -/
theorem Delivered.copied (delivered : Delivered execution result) :
    ∃ onset, ∀ n, onset ≤ n → result.stop ≤ (execution.state n).copied := by
  obtain ⟨n, wrote⟩ := delivered.wrote
  obtain ⟨onset, _, copied⟩ := delivered.copies n
  refine ⟨onset, fun m later => ?_⟩
  refine execution.stable (fun wait => result.stop ≤ wait.copied) ?_ later (by omega)
  intro wait act next kept step
  exact kept.trans (grows_of_step step).copied

/-- **The loop is left.** -/
theorem Delivered.left (delivered : Delivered execution result) :
    ∃ n, (execution.state n).command = .left := by
  obtain ⟨onset, copied⟩ := delivered.copied
  obtain ⟨n, _, left⟩ := execution.eventually (fun wait => wait.command = .left) (fun act => act = .poll)
    (fun wait => wait.command.rank) onset
    (fun n act later _ acted => rank_of_step (copied n later) (execution.next n act acted).2)
    (fun n open' => by
      obtain ⟨m, later, acted⟩ := delivered.polls n open'
      exact ⟨m, .poll, later, acted, rfl⟩)
  exact ⟨n, left⟩

/-- **A look that takes the line** comes after `socat` has copied it. -/
theorem stop_le_of_taken {wait next : Wait} (takes : wait.Takes)
    (step : wait.step stream budget .poll = some next) :
    next.command = .left ∧ (next.resultLine = result.line → result.stop ≤ wait.copied) := by
  have printed : next.command = .left ∧ next.resultLine = grepSentinel (consoleLog stream wait) := by
    cases polled_of_step step with
    | captured | caught | missed => exact ⟨rfl, rfl⟩
    | matched here | unmatched here | exited here | alive here | expired here | again here =>
      rw [Wait.Takes, here] at takes
      cases takes with
      | inl other | inr other => cases other
  refine ⟨printed.1, fun line => ?_⟩
  rw [printed.2] at line
  have shows : (grepFirst sentinelPrefix (consoleLog stream wait)).isSome :=
    shows_of_grepSentinel (line ▸ result.line_ne_nil)
  have marker := (shows_iff result.located).mp shows
  have inside := (seen_eq_some_iff _ (seen_grepSentinel result.located marker)).mp line
  rw [Inside, not_and, not_lt] at inside
  exact inside marker

/-- **No lost result**: a run in which the guest wrote its line, `socat` copies every byte and the budget
lasts ends with the guest's line exactly when the look that ends the loop comes after `socat` has copied the
line to its end. -/
theorem answered_iff (delivered : Delivered execution result) :
    Answered execution result ↔
      ∀ n, execution.action n = some .poll → (execution.state n).Takes →
        result.stop ≤ (execution.state n).copied := by
  constructor
  · rintro ⟨_, ends⟩ n acted takes
    obtain ⟨left, taken⟩ := stop_le_of_taken takes (execution.next n .poll acted).2
    exact taken (ends (n + 1) left).2
  · intro looks
    refine ⟨delivered.left, fun n => ?_⟩
    have late : ∀ n a, execution.action n = some a →
        LooksLate budget result (execution.state n) a := by
      rintro n a acted rfl
      exact ⟨looks n acted, delivered.inBudget n acted⟩
    exact line_of_left ((execution.restrict _ late).reaches n)

end Runs

/-! ### Two short runs -/

/-- A run that stops with the loop left, every written byte copied and time to spare meets the
assumptions. -/
theorem delivered_ofRuns (result : Result stream) {wait final : Wait} (initial : (waitSystem stream budget).initial wait)
    {actions : List Act} (ran : (waitSystem stream budget).Runs (fun _ _ => True) wait actions final)
    (wrote : result.stop + 1 ≤ final.written) (all : final.written ≤ final.copied)
    (left : final.command = .left) (early : (final.dt : ℤ) ≤ budget) :
    Delivered (Execution.ofRuns initial ran) result := by
  have ends : ∀ n, actions.length ≤ n → (Execution.ofRuns initial ran).state n = final :=
    fun n passed => Execution.ofRuns_state initial ran passed
  have grows : ∀ n, Grows ((Execution.ofRuns initial ran).state n) final := by
    intro n
    have later := (Execution.ofRuns initial ran).stable
      (Grows ((Execution.ofRuns initial ran).state n))
      (fun _ _ _ kept step => kept.trans (grows_of_step step)) (le_max_left n actions.length) (.refl _)
    rwa [ends _ (le_max_right _ _)] at later
  refine ⟨⟨actions.length, by rw [ends _ le_rfl]; exact wrote⟩, ?_, ?_, ?_⟩
  · intro n
    refine ⟨max n actions.length, le_max_left _ _, ?_⟩
    rw [ends _ (le_max_right _ _)]
    exact (grows n).written.trans all
  · intro n _ _
    exact le_trans (Nat.cast_le.mpr (grows n).dt) early
  · intro n running
    by_contra idle
    push Not at idle
    have stays : ∀ m, n ≤ m → ((Execution.ofRuns initial ran).state m).command =
        ((Execution.ofRuns initial ran).state n).command := by
      intro m later
      induction m, later using Nat.le_induction with
      | base => rfl
      | succ m later ih =>
        cases acted : (Execution.ofRuns initial ran).action m with
        | none => rw [(Execution.ofRuns initial ran).idle m acted, ih]
        | some act =>
          have notPoll : act ≠ .poll := by
            rintro rfl
            exact idle m later acted
          rw [(step_other notPoll ((Execution.ofRuns initial ran).next m act acted).2).1, ih]
    rw [← stays (max n actions.length) (le_max_left _ _), ends _ (le_max_right _ _)] at running
    exact running left

theorem answered_passing :
    ∃ execution : Execution (waitSystem (passingLine ++ ['\n']) 720) fun _ _ => True,
      Delivered execution passingResult ∧ Answered execution passingResult := by
  have ran : (waitSystem (passingLine ++ ['\n']) 720).Runs (fun _ _ => True) waitStart
      [.write (passingResult.stop + 1), .copy (passingResult.stop + 1), .poll, .poll]
      (takenWait (passingResult.stop + 1) passingLine) :=
    System.runs_of_foldlM rfl
  have delivered := delivered_ofRuns passingResult (waitStart_initial _ _) ran le_rfl le_rfl rfl
    (by decide)
  refine ⟨_, delivered, (answered_iff delivered).mpr ?_⟩
  intro n acted _
  match n with
  | 0 | 1 => cases acted
  | 2 | 3 => exact Nat.le_succ _
  | n + 4 => cases acted

/-- **A result is lost**: the guest writes the line of an iteration that passed and powers off, the loop looks
for QEMU and looks at the console once more, and only then `socat` copies the bytes. -/
theorem lost_result :
    ∃ execution : Execution (waitSystem (passingLine ++ ['\n']) 720) fun _ _ => True,
      Delivered execution passingResult ∧ ¬ Answered execution passingResult ∧
        ∃ n, (execution.state n).command = .left ∧ (execution.state n).cause = some .qemuExited ∧
          (execution.state n).resultLine = [] := by
  let final : Wait :=
    ⟨passingResult.stop + 1, passingResult.stop + 1, false, true, 0, .left, [], some .qemuExited⟩
  have ran : (waitSystem (passingLine ++ ['\n']) 720).Runs (fun _ _ => True) waitStart
      [.write (passingResult.stop + 1), .poweroff, .reap, .poll, .poll, .poll,
        .copy (passingResult.stop + 1)] final :=
    System.runs_of_foldlM rfl
  have delivered := delivered_ofRuns passingResult (waitStart_initial _ _) ran le_rfl le_rfl rfl
    (by decide)
  have ends : (Execution.ofRuns (waitStart_initial _ _) ran).state 7 = final :=
    Execution.ofRuns_state _ ran le_rfl
  refine ⟨_, delivered, ?_, 7, ?_⟩
  · rintro ⟨_, answers⟩
    have answer := (answers 7 (by rw [ends])).1
    rw [ends] at answer
    cases answer
  · rw [ends]
    exact ⟨rfl, rfl, rfl⟩

end Ndt.Race
