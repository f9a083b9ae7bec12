/-
**What PASS means, end to end.**

A run passes exactly when each of its `K` iterations passes: some record of the iteration has the status
`pass`, and every record has the status `pass`, `not run`, `skipped` or none
(`passes_iff_every_iteration`). The line between the two programs carries three counters; the host reads
back the numbers the guest has written (`finish_resultLine`).
-/

import Ndt.Run.CommandLine
import Ndt.Guest.Answer

namespace Ndt.Run

open Shell Host Guest

/-! ### The line between the programs -/

theorem wrap_inj {first second : ℕ} (small : first < 2 ^ 63) (small' : second < 2 ^ 63) :
    wrap first = wrap second ↔ first = second := by
  rw [wrap_natCast small, wrap_natCast small']
  exact Nat.cast_inj

theorem constant_decimal_eq_zero {n : ℕ} (small : n < 2 ^ 63) :
    constant (decimal n) = some 0 ↔ n = 0 := by
  rw [constant_of_decimal, wrap_natCast small, Option.some_inj]
  exact Nat.cast_eq_zero

/-- Printed numbers below `2 ^ 63` pass exactly when they say that all iterations have passed. -/
theorem compare_decimals (host : Setting) {batch : Batch} {nn : Text}
    (subject : batch.subject = .blktest nn) {k pass fail skip : ℕ} (iters : batch.iters = decimal k)
    (bounds : k < 2 ^ 63 ∧ pass < 2 ^ 63 ∧ fail < 2 ^ 63 ∧ skip < 2 ^ 63) :
    host.compare batch ⟨decimal pass, decimal fail, decimal skip⟩ = some .PASS ↔
      pass = k ∧ fail = 0 ∧ skip = 0 := by
  have same : (∃ n, constant (decimal pass) = some n ∧ constant batch.iters = some n) ↔ pass = k := by
    rw [iters, constant_of_decimal, constant_of_decimal, ← wrap_inj bounds.2.1 bounds.1]
    simp only [Option.some.injEq, exists_eq_left']
    exact eq_comm
  rw [compare_pass_iff subject (digits_decimal pass) (digits_decimal fail) (digits_decimal skip)
    (iters ▸ digits_decimal k), same, constant_decimal_eq_zero bounds.2.2.1,
    constant_decimal_eq_zero bounds.2.2.2]

/-- **The host on the guest's line**: a pass exactly when the passes are as many as the iterations and
nothing else was counted. -/
theorem finish_resultLine (host : Setting) {batch : Batch} {nn : Text}
    (subject : batch.subject = .blktest nn) {k pass fail skip : ℕ} (iters : batch.iters = decimal k)
    (bounds : k < 2 ^ 63 ∧ pass < 2 ^ 63 ∧ fail < 2 ^ 63 ∧ skip < 2 ^ 63) {test : Text}
    (solid : Solid test) (plain : Plain test) (cause : Text) (cr : Bool) :
    (host.finish batch cause (resultLine ⟨pass, fail, skip⟩ (decimal k) test ++ carriage cr)).Passes ↔
      pass = k ∧ fail = 0 ∧ skip = 0 := by
  have parsed := parseSentinel_resultLine host.names ⟨pass, fail, skip⟩ (digits_decimal k) solid plain cr
  have nonempty : resultLine ⟨pass, fail, skip⟩ (decimal k) test ++ carriage cr ≠ [] := by
    rw [resultLine_eq]
    exact List.cons_ne_nil _ _
  have tame : host.Tame (resultLine ⟨pass, fail, skip⟩ (decimal k) test ++ carriage cr) := by
    intro counters same
    obtain rfl := Parsed.counters.inj (parsed.symm.trans same)
    exact ⟨(digits_decimal pass).nameless, (digits_decimal fail).nameless, (digits_decimal skip).nameless⟩
  rw [finish_passes_iff cause tame (iters ▸ (digits_decimal k).nameless), parsed,
    ← compare_decimals host subject iters bounds]
  simp only [Parsed.counters.injEq, exists_eq_left', showInt_natCast]
  exact and_iff_right nonempty

/-! ### The whole run -/

/-- The batch run of one test. -/
def testBatch (nn : Text) (k : ℕ) (follow : Bool) : Batch := ⟨.blktest nn, decimal k, follow⟩

section Whole

variable {host : Setting} {nn : Text} {k : ℕ} (attempts : ℕ → Attempt) (follow : Bool)

/-- **The guest's part**: from an empty `results` on, a ready machine ends with the line of the counters,
each iteration counted by its own records. -/
theorem init_countedTally {machine : Machine} (unset : host.append = none)
    (numeral : isNumeral nn = true) (positive : 1 ≤ k) (room : k < 2 ^ 63 - 1)
    (ready : machine.Ready nn) (fresh : machine.results = []) (names : Pathnames) {fuel : ℕ}
    (enough : k < fuel) :
    ∃ console, init names machine attempts (host.procCmdline (testBatch nn k follow)) fuel =
      some ⟨console ++ [resultLine (countedTally attempts k) (decimal k) ("nvme/".toList ++ nn)],
        .poweroff, k⟩ := by
  have parsed := parseCmdline_blktest unset (testBatch nn k follow) rfl
    (Digits.signed (.of_isNumeral numeral)) (digits_decimal k) names
  have value : constant (decimal k) = some (k : ℤ) := by
    rw [constant_of_decimal, wrap_natCast (by omega)]
  obtain ⟨final, _, reached, boot⟩ := init_runs machine attempts parsed numeral (isNumeral_decimal k)
    value positive room ready enough
  refine ⟨final.console, ?_⟩
  rw [boot, reached.tally, fresh, tallyOf_flagsOf]
  rfl

/-- The counters of `k` iterations add up to `k`. -/
theorem countedTally_sum :
    (countedTally attempts k).pass + (countedTally attempts k).fail + (countedTally attempts k).skip =
      k := by
  have sum := tallyOf_sum ((List.range k).map fun n => flagOf (attempts n).outcome)
  rwa [List.length_map, List.length_range] at sum

/-- **The host's part**: it passes the line of the counters exactly when every iteration passes. -/
theorem finish_countedTally (digits : Digits nn) (small : k < 2 ^ 63) (cause : Text) (cr : Bool) :
    (host.finish (testBatch nn k follow) cause (resultLine (countedTally attempts k) (decimal k)
        ("nvme/".toList ++ nn) ++ carriage cr)).Passes ↔
      ∀ n < k, Passed (attempts n).outcome := by
  let flags : List Flag := (List.range k).map fun n => flagOf (attempts n).outcome
  have count : flags.length = k := by rw [List.length_map, List.length_range]
  have bound : ∀ flag : Flag, flags.count flag < 2 ^ 63 := by
    intro flag
    have most : flags.count flag ≤ flags.length := List.count_le_length
    omega
  have all := tallyOf_all_pass_iff flags
  rw [count] at all
  simp only [tallyOf, Nat.cast_inj, Nat.cast_eq_zero] at all
  have each : (∀ flag ∈ flags, flag = .pass) ↔ ∀ n < k, Passed (attempts n).outcome := by
    simp only [flags, List.forall_mem_map, List.mem_range, flagOf_eq_pass_iff]
  rw [← each, ← all]
  exact finish_resultLine host rfl rfl ⟨small, bound .pass, bound .fail, bound .skip⟩
    (Solid.append (by decide) digits.solid) (Plain.append (by decide) digits.plain) cause cr

end Whole

/-- **The end-to-end meaning of PASS.** From an empty `results` on, for any `K` outcomes of `./check`:
* the guest ends with the same line for all runs with these records, whatever the order in which they
  are enumerated, and each iteration counts by its own records;
* the counters of the line add up to `K`;
* the host passes the run exactly when every iteration passes. -/
theorem passes_iff_every_iteration {host : Setting} {machine : Machine} {nn : Text} {k : ℕ}
    (unset : host.append = none) (numeral : isNumeral nn = true) (positive : 1 ≤ k)
    (room : k < 2 ^ 63 - 1) (ready : machine.Ready nn) (fresh : machine.results = [])
    (attempts : ℕ → Attempt) (follow : Bool) :
    let tally := countedTally attempts k
    let line := resultLine tally (decimal k) ("nvme/".toList ++ nn)
    (∀ others : ℕ → Attempt,
      (∀ n < k, (others n).outcome.entries.Perm (attempts n).outcome.entries) →
      ∀ names fuel, k < fuel → ∃ console,
        init names machine others (host.procCmdline (testBatch nn k follow)) fuel =
          some ⟨console ++ [line], .poweroff, k⟩) ∧
      tally.pass + tally.fail + tally.skip = k ∧
      ∀ cause cr, (host.finish (testBatch nn k follow) cause (line ++ carriage cr)).Passes ↔
        ∀ n < k, Passed (attempts n).outcome := by
  intro tally line
  refine ⟨?_, countedTally_sum attempts, ?_⟩
  · intro others same names fuel enough
    obtain ⟨console, boot⟩ := init_countedTally others follow unset numeral positive room ready fresh
      names enough
    refine ⟨console, ?_⟩
    rw [boot, countedTally_perm same]
  · exact finish_countedTally attempts follow (.of_isNumeral numeral) (by omega)

/-- A `./check` that leaves one record, of a pass. -/
def passingAttempt : Attempt :=
  ⟨⟨[(⟨"nodev".toList, by decide⟩, some ⟨"status\tpass\n".toList, by decide⟩)], by simp⟩, .stored⟩

/-- One iteration with one passing record passes. -/
theorem passes_one_iteration :
    (plainHost.finish (testBatch "068".toList 1 false) "sentinel".toList
      (resultLine (countedTally (fun _ => passingAttempt) 1) (decimal 1) "nvme/068".toList ++
        carriage true)).Passes := by
  have whole := @passes_iff_every_iteration plainHost readyMachine "068".toList 1 rfl rfl le_rfl
    (by decide) (readyMachine_ready _) rfl (fun _ => passingAttempt) false
  refine (whole.2.2 "sentinel".toList true).mpr fun n _ => ⟨⟨_, _, List.mem_cons_self, by decide⟩, ?_⟩
  intro dir record member
  obtain ⟨rfl, same⟩ := Prod.mk.inj (List.mem_singleton.mp member)
  obtain rfl := Option.some.inj same
  decide

end Ndt.Run
