/-
**The result line, whole or cut off.**

The loop takes the first line with the marker as soon as the marker is there, and `grep` takes an
unterminated last line for a line. So the loop may stop with a first part of the guest's line. Of a console
with a NUL byte `grep` prints no line at all: a result line is asked for in a text file (`Result.text`).

* `whole_iff_settled` — **one look**: what `grep` shows is the whole line exactly when `socat` has copied the
  line to its end.
* `whole_result_line` — **all runs** in which this holds of each look that takes the result line: the result
  line is whole, and the report is the same for every such run over the same bytes.
* `cut_line_taken` — a run that takes a first part of a passing line, and fails.
-/

import Ndt.Race.Wait
import Ndt.Run.Pass

namespace Ndt.Race

open Shell Host Transition Run

/-! ### The line that the guest wrote -/

/-- **The guest's result line** in the bytes of a console: the first line with the marker, and its newline, of a
text file. -/
structure Result (stream : Text) where
  rows : List Text
  line : Text
  rest : Text
  bytes : stream = unlines rows ++ (line ++ '\n' :: rest)
  text : TextFile stream
  single : ∀ row ∈ rows, '\n' ∉ row
  others : ∀ row ∈ rows, startsWith sentinelPrefix row = false
  lineSingle : '\n' ∉ line
  starts : startsWith sentinelPrefix line = true

namespace Result

variable {stream : Text} (result : Result stream)

/-- The offset of the first byte of the line. -/
def start : ℕ := (unlines result.rows).length

/-- The offset of the newline. -/
def stop : ℕ := result.start + result.line.length

theorem located : locate sentinelPrefix stream = some (result.start, result.line) := by
  conv_lhs => rw [result.bytes]
  exact locate_unlines result.single result.others result.lineSingle result.starts result.rest

theorem line_ne_nil : result.line ≠ [] := by
  intro empty
  have starts := result.starts
  rw [empty, startsWith_iff, List.prefix_nil] at starts
  exact sentinelPrefix_ne_nil starts

theorem line_eq (other : Result stream) : other.line = result.line := by
  have both := other.located.symm.trans result.located
  exact congrArg Prod.snd (Option.some.inj both)

end Result

/-- The text is the guest's result line, all of it. -/
def Whole (stream shown : Text) : Prop := ∃ result : Result stream, shown = result.line

theorem Whole.unique {stream first second : Text} (one : Whole stream first)
    (other : Whole stream second) : first = second := by
  obtain ⟨result, rfl⟩ := one
  obtain ⟨result', rfl⟩ := other
  exact result'.line_eq result

/-! ### One look -/

variable {stream : Text} {budget : ℤ} {wait next : Wait}

/-- **The condition on a look**: the stream is a text file, and if all of the marker has been copied, then the
line is the guest's, with its newline in the stream, and has been copied to its end. -/
def Settled (stream : Text) (wait : Wait) : Prop :=
  TextFile stream ∧ ∀ start line, locate sentinelPrefix stream = some (start, line) →
    start + sentinelPrefix.length ≤ wait.copied → ∃ result : Result stream, result.stop ≤ wait.copied

theorem settled_of_le (result : Result stream) (copied : result.stop ≤ wait.copied) :
    Settled stream wait :=
  ⟨result.text, fun _ _ _ _ => ⟨result, copied⟩⟩

/-- **One look**: the whole line exactly when it has been copied to its end. -/
theorem whole_iff_settled (shows : (grepFirst sentinelPrefix (consoleLog stream wait)).isSome) :
    Whole stream (grepSentinel (consoleLog stream wait)) ↔ Settled stream wait := by
  obtain ⟨start, line, located, marker⟩ := located_of_shows shows
  constructor
  · rintro ⟨result, whole⟩
    refine ⟨result.text, fun _ _ _ _ => ⟨result, ?_⟩⟩
    obtain ⟨rfl, rfl⟩ := Prod.mk.inj (Option.some.inj (located.symm.trans result.located))
    have inside := (seen_eq_some_iff _ (seen_grepSentinel located marker)).mp whole
    rw [Inside, not_and, not_lt] at inside
    exact inside marker
  · rintro ⟨_, settled⟩
    obtain ⟨result, copied⟩ := settled start line located marker
    exact ⟨result, grepSentinel_whole result.located copied⟩

/-! ### All runs -/

/-- The looks that take the result line meet the condition. -/
def TakesSettled (stream : Text) (wait : Wait) (act : Act) : Prop :=
  act = .poll → wait.command = .capture ∨ wait.command = .lastLook → Settled stream wait

/-- **The invariant**: a look that has matched goes on matching, and a result line that was taken is whole. -/
structure Invariant (stream : Text) (wait : Wait) : Prop where
  matched : wait.command = .capture → (grepFirst sentinelPrefix (consoleLog stream wait)).isSome
  taken : wait.cause = some .sentinel → Whole stream wait.resultLine

/-- A marker that shows goes on showing. -/
theorem shows_mono (later : wait.copied ≤ next.copied)
    (shows : (grepFirst sentinelPrefix (consoleLog stream wait)).isSome) :
    (grepFirst sentinelPrefix (consoleLog stream next)).isSome := by
  obtain ⟨_, _, located, marker⟩ := located_of_shows shows
  exact (shows_iff located).mpr (marker.trans later)

/-- A look that shows a line has matched. -/
theorem shows_of_grepSentinel (nonempty : grepSentinel (consoleLog stream wait) ≠ []) :
    (grepFirst sentinelPrefix (consoleLog stream wait)).isSome := by
  rw [grepSentinel] at nonempty
  cases found : grepFirst sentinelPrefix (consoleLog stream wait) with
  | none =>
    rw [found] at nonempty
    exact absurd rfl nonempty
  | some line => rfl

theorem Invariant.start (initial : (waitSystem stream budget).initial wait) : Invariant stream wait := by
  obtain ⟨_, _, _, command, _, cause⟩ := initial
  refine ⟨?_, ?_⟩
  · intro capture
    rw [command] at capture
    cases capture
  · intro sentinel
    rw [cause] at sentinel
    cases sentinel

/-- **One step** keeps the invariant. -/
theorem Invariant.step {act : Act} (invariant : Invariant stream wait)
    (settled : TakesSettled stream wait act) (step : wait.step stream budget act = some next) :
    Invariant stream next := by
  by_cases isPoll : act = .poll
  · subst isPoll
    cases polled_of_step step with
    | matched _ shows => exact ⟨fun _ => shows, invariant.taken⟩
    | unmatched | exited | alive | again => exact ⟨nofun, invariant.taken⟩
    | captured here =>
      have looks := settled rfl (.inl here)
      exact ⟨nofun, fun _ => (whole_iff_settled (invariant.matched here)).mpr looks⟩
    | caught here nonempty =>
      have looks := settled rfl (.inr here)
      exact ⟨nofun, fun _ => (whole_iff_settled (shows_of_grepSentinel nonempty)).mpr looks⟩
    | missed | expired => exact ⟨nofun, nofun⟩
  · obtain ⟨command, resultLine, cause⟩ := step_other isPoll step
    refine ⟨?_, ?_⟩
    · intro capture
      exact shows_mono (grows_of_step step).copied (invariant.matched (command ▸ capture))
    · intro sentinel
      rw [resultLine]
      exact invariant.taken (cause ▸ sentinel)

theorem whole_of_reaches (reached : (waitSystem stream budget).Reaches (TakesSettled stream) wait)
    (sentinel : wait.cause = some .sentinel) : Whole stream wait.resultLine := by
  have invariant : Invariant stream wait :=
    reached.invariant (fun _ initial => .start initial) fun _ _ _ before settled step =>
      before.step settled step
  exact invariant.taken sentinel

/-- **The result line is whole**, in every run whose looks meet the condition; and two such runs over the
same bytes, of whatever pieces and polls, end in the same report. -/
theorem whole_result_line (reached : (waitSystem stream budget).Reaches (TakesSettled stream) wait)
    (sentinel : wait.cause = some .sentinel) :
    Whole stream wait.resultLine ∧
      ∀ (budget' : ℤ) (other : Wait),
        (waitSystem stream budget').Reaches (TakesSettled stream) other →
        other.cause = some .sentinel →
        ∀ (host : Setting) (batch : Batch),
          host.finish batch Cause.sentinel.text other.resultLine =
            host.finish batch Cause.sentinel.text wait.resultLine := by
  have whole := whole_of_reaches reached sentinel
  refine ⟨whole, ?_⟩
  intro budget' other reached' sentinel' host batch
  rw [(whole_of_reaches reached' sentinel').unique whole]

/-! ### A short run -/

/-- The result line of a run of one iteration that passes. -/
def passingLine : Text := "=== NDT_RESULT pass=1 fail=0 skip=0 iter=1 test=nvme/068 ===".toList

/-- The guest writes this line and powers off. -/
def passingResult : Result (passingLine ++ ['\n']) where
  rows := []
  line := passingLine
  rest := []
  bytes := rfl
  text := by decide
  single := nofun
  others := nofun
  lineSingle := by decide
  starts := by decide

/-- The loop starts before the guest has written anything. -/
def waitStart : Wait := ⟨0, 0, true, false, 0, .test, [], none⟩

theorem waitStart_initial (stream : Text) (budget : ℤ) : (waitSystem stream budget).initial waitStart :=
  ⟨le_rfl, Nat.zero_le _, rfl, rfl, rfl, rfl⟩

/-- The loop has taken a line when so many bytes had been copied. -/
def takenWait (copied : ℕ) (resultLine : Text) : Wait :=
  ⟨passingResult.stop + 1, copied, true, false, 0, .left, resultLine, some .sentinel⟩

theorem whole_result_line_passing :
    Whole (passingLine ++ ['\n']) (takenWait (passingResult.stop + 1) passingLine).resultLine ∧
      passingResult.line = passingLine := by
  have reached : (waitSystem (passingLine ++ ['\n']) 720).Reaches (TakesSettled (passingLine ++ ['\n']))
      (takenWait (passingResult.stop + 1) passingLine) := by
    refine (System.Reaches.start (waitStart_initial _ _)).runs
      [.write (passingResult.stop + 1), .copy (passingResult.stop + 1), .poll, .poll] ?_
    refine ⟨nofun, _, rfl, nofun, _, rfl, ?_, _, rfl, ?_, _, rfl, rfl⟩
    · exact fun _ _ => settled_of_le passingResult (Nat.le_succ _)
    · exact fun _ _ => settled_of_le passingResult (Nat.le_succ _)
  exact ⟨(whole_result_line reached rfl).1, rfl⟩

/-- The host reports the pass of this line. -/
theorem banner_passingLine :
    (plainHost.finish (testBatch "068".toList 1 false) Cause.sentinel.text passingLine).banner =
      some .PASS := by
  have bytes : passingLine = Guest.resultLine ⟨(1 : ℕ), (0 : ℕ), (0 : ℕ)⟩ (decimal 1)
      "nvme/068".toList ++ carriage false := by decide
  have passes := @finish_resultLine plainHost (testBatch "068".toList 1 false) "068".toList rfl 1 1 0 0 rfl
    (by norm_num) "nvme/068".toList (by decide) (by decide) Cause.sentinel.text false
  rw [← bytes] at passes
  exact (passes.mpr ⟨rfl, rfl, rfl⟩).2.1

/-- **A cut-off line is taken** when the loop looks while `socat` is inside the line: the guest's line says
that the iteration passed, the run reports a failure. -/
theorem cut_line_taken :
    (waitSystem (passingLine ++ ['\n']) 720).Reaches (fun _ _ => True)
        (takenWait 20 "=== NDT_RESULT pass=".toList) ∧
      ¬ Whole (passingLine ++ ['\n']) "=== NDT_RESULT pass=".toList ∧
      (plainHost.finish (testBatch "068".toList 1 false) Cause.sentinel.text
        "=== NDT_RESULT pass=".toList).banner = some .FAIL ∧
      (plainHost.finish (testBatch "068".toList 1 false) Cause.sentinel.text passingLine).banner =
        some .PASS := by
  refine ⟨?_, ?_, ?_, banner_passingLine⟩
  · refine (System.Reaches.start (waitStart_initial _ _)).runs
      [.write (passingResult.stop + 1), .copy 20, .poll, .poll] ?_
    exact System.runs_of_foldlM rfl
  · intro whole
    have same : "=== NDT_RESULT pass=".toList = passingLine := whole.unique ⟨passingResult, rfl⟩
    exact absurd (congrArg List.length same) (by decide)
  · have parsed : parseSentinel plainHost.names "=== NDT_RESULT pass=".toList =
        .counters ⟨[], "0".toList, "0".toList⟩ := by decide
    have nonempty : "=== NDT_RESULT pass=".toList ≠ [] := by decide
    rw [banner_of_counters plainHost _ nonempty parsed]
    refine (compare_of_unequal rfl (by decide) (by decide) ?_)
    rintro k ⟨empty, one⟩
    exact absurd (Option.some.inj (empty.trans one.symm).symm) (by decide)

end Ndt.Race
