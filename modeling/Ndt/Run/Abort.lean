/-
**Runs in which `./check` is aborted.**

A run is reported as a pass when every iteration is counted as one. Since a condition that was aborted
leaves no record, and `init` looks at records only, an abort behind a recorded pass goes unnoticed:
`masked_abort_passes`. Without such an abort PASS means that every test ran to its end:
`sound_unless_masked`.
-/

import Ndt.Run.Pass
import Ndt.Guest.Check

namespace Ndt.Run

open Shell Host Guest

/-- The iterations of a run in which `./check` goes through checklists. -/
def attemptsOf (checklists : ℕ → Checklist) (listings : ℕ → Listing) (n : ℕ) : Attempt :=
  ⟨(checklists n).outcome, listings n⟩

/-- An iteration that passes is counted as a pass. -/
theorem passed_iff_countsPass (checklist : Checklist) :
    Passed checklist.outcome ↔ checklist.CountsPass := by
  rw [← flagOf_eq_pass_iff, flagOf_outcome_eq_pass_iff, countsPass_iff]

/-- **What a counted pass and a PASS say about aborts.**
* For every checklist: a counted pass means that the whole test ran and nothing failed, exactly when
  the checklist has no masked abort.
* For every run without masked aborts: the guest's line is reported as a pass only if no `./check` was
  aborted. -/
theorem sound_unless_masked {host : Setting} {machine : Machine} {nn : Text} {k : ℕ}
    (unset : host.append = none) (numeral : isNumeral nn = true) (positive : 1 ≤ k)
    (room : k < 2 ^ 63 - 1) (ready : machine.Ready nn) (fresh : machine.results = []) (follow : Bool) :
    (∀ checklist : Checklist, (checklist.CountsPass → checklist.Sound) ↔ ¬ checklist.Masked) ∧
      ∀ (checklists : ℕ → Checklist) (listings : ℕ → Listing),
        (∀ n < k, ¬ (checklists n).Masked) →
        ∃ line, (∀ names fuel, k < fuel → ∃ console,
            init names machine (attemptsOf checklists listings)
              (host.procCmdline (testBatch nn k follow)) fuel =
                some ⟨console ++ [line], .poweroff, k⟩) ∧
          ∀ cause cr, (host.finish (testBatch nn k follow) cause (line ++ carriage cr)).Passes →
            ∀ n < k, (checklists n).Sound ∧ ¬ (checklists n).Aborts := by
  refine ⟨sound_iff_not_masked, fun checklists listings notMasked => ?_⟩
  refine ⟨_, fun names fuel enough => init_countedTally (attemptsOf checklists listings) follow unset
    numeral positive room ready fresh names enough, ?_⟩
  intro cause cr passes n below
  have all := (finish_countedTally (attemptsOf checklists listings) follow (.of_isNumeral numeral)
    (by omega) cause cr).mp passes
  have counted : (checklists n).CountsPass := (passed_iff_countsPass _).mp (all n below)
  have sound := (sound_iff_not_masked (checklists n)).mpr (notMasked n below) counted
  refine ⟨sound, ?_⟩
  rintro ⟨slot, member, abort⟩
  obtain ⟨status, recorded, _⟩ := sound slot member
  rw [abort] at recorded
  cases recorded

/-- A test function that returns with nothing to object to. -/
def cleanReturn : Condition := .returns ⟨false, true, 0, true, true⟩

/-- A test with two conditions, of which one passes and one is skipped. -/
def skippedCheck : Checklist :=
  ⟨[⟨⟨"nodev_a".toList, by decide⟩, cleanReturn, noKeys⟩,
    ⟨⟨"nodev_b".toList, by decide⟩, .skipped, noKeys⟩], by simp⟩

/-- A test with two conditions: the first one passes, the second one calls `exit`. -/
def abortedCheck : Checklist :=
  ⟨[⟨⟨"nodev_a".toList, by decide⟩, cleanReturn, noKeys⟩,
    ⟨⟨"nodev_b".toList, by decide⟩, .exits, noKeys⟩], by simp⟩

/-- The test with a skipped condition is counted as a pass, and is sound. -/
theorem sound_unless_masked_skipped : skippedCheck.CountsPass ∧ skippedCheck.Sound := by
  have whole := @sound_unless_masked plainHost readyMachine "068".toList 1 rfl rfl le_rfl (by decide)
    (readyMachine_ready _) rfl false
  have back : ∀ slot ∈ skippedCheck.slots, slot.condition.recorded ≠ none := by
    rw [skippedCheck, List.forall_mem_cons, List.forall_mem_singleton]
    exact ⟨nofun, nofun⟩
  have notMasked : ¬ skippedCheck.Masked := by
    rintro ⟨before, slot, after, split, abort, _⟩
    exact back slot (by rw [split]; simp) abort
  have counted : skippedCheck.CountsPass := (countsPass_iff _).mpr ⟨by decide, by decide⟩
  exact ⟨counted, (whole.1 skippedCheck).mpr notMasked counted⟩

/-- **A run that passes although its only `./check` was aborted.** -/
theorem masked_abort_passes :
    abortedCheck.CountsPass ∧ ¬ abortedCheck.Sound ∧ abortedCheck.Aborts ∧
      (plainHost.finish (testBatch "068".toList 1 false) "sentinel".toList
        (resultLine (countedTally (attemptsOf (fun _ => abortedCheck) fun _ => .stored) 1) (decimal 1)
          "nvme/068".toList ++ carriage true)).Passes := by
  have counted : abortedCheck.CountsPass := (countsPass_iff _).mpr ⟨by decide, by decide⟩
  have aborts : abortedCheck.Aborts := ⟨_, List.mem_cons_of_mem _ List.mem_cons_self, rfl⟩
  refine ⟨counted, ?_, aborts, ?_⟩
  · intro sound
    obtain ⟨slot, member, abort⟩ := aborts
    obtain ⟨status, recorded, _⟩ := sound slot member
    rw [abort] at recorded
    cases recorded
  · exact (@finish_countedTally plainHost "068".toList 1
      (attemptsOf (fun _ => abortedCheck) fun _ => .stored) false (by decide) (by norm_num)
      "sentinel".toList true).mpr fun _ _ => (passed_iff_countsPass _).mpr counted

end Ndt.Run
