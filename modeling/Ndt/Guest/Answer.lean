/-
**What a boot answers.**

* `Boot.Answers` — the guest powered off after exactly one `NDT_RESULT` line.
* `init_bash` — without a test the guest ends in an interactive shell.
* `init_runs` — on a machine that is `Ready` the guest runs `./check` exactly `k` times and reports the
  counters of these runs.
* `init_answers` — with a test, every path answers, except the loop to the greatest 64-bit value:
  `init_endless`.
-/

import Ndt.Guest.Tally

namespace Ndt.Guest

open Shell

/-- **The guest has answered**: it powered off after exactly one result line. -/
def Boot.Answers (boot : Boot) : Prop :=
  boot.ending = .poweroff ∧ boot.console.countP (startsWith marker) = 1

/-- Nothing fails before the test loop. -/
structure Machine.Ready (machine : Machine) (ndtTest : Text) : Prop where
  testFile : machine.testFile ("nvme/".toList ++ ndtTest) = true
  vnvmeLoad : machine.vnvmeLoad = true
  hotplug : machine.hotplug = true
  nvme0n1 : machine.nvme0n1 = true

/-- A machine on which nothing fails before the test loop. -/
def readyMachine : Machine := ⟨"6.12".toList, fun _ => true, true, true, true, []⟩

theorem readyMachine_ready (ndtTest : Text) : readyMachine.Ready ndtTest := ⟨rfl, rfl, rfl, rfl⟩

/-- A `./check` that leaves nothing behind. -/
def silentAttempt : Attempt := ⟨⟨[], List.nodup_nil⟩, .stored⟩

theorem startsWith_marker_errorLine (reason : Text) : startsWith marker (errorLine reason) = true := by
  have front : "=== ".toList ++ "NDT_RESULT error='".toList = marker ++ "error='".toList := by decide
  rw [errorLine, ndtEmit, List.append_assoc, List.append_assoc, List.append_assoc, ← List.append_assoc,
    front, List.append_assoc]
  exact startsWith_append _ _

theorem startsWith_marker_resultLine (tally : Tally) (ndtIter ndtBlktest : Text) :
    startsWith marker (resultLine tally ndtIter ndtBlktest) = true := by
  have front : "=== ".toList ++ "NDT_RESULT pass=".toList = marker ++ "pass=".toList := by decide
  rw [resultLine, ndtEmit]
  simp only [List.append_assoc]
  rw [← List.append_assoc, front, List.append_assoc]
  exact startsWith_append _ _

/-- One result line after lines that are none. -/
theorem countP_console {console : List Text} {line : Text}
    (quiet : ∀ row ∈ console, startsWith marker row = false) (loud : startsWith marker line = true) :
    (console ++ [line]).countP (startsWith marker) = 1 := by
  have none : console.countP (startsWith marker) = 0 := by
    rw [List.countP_eq_zero]
    intro row member
    rw [quiet row member]
    exact Bool.false_ne_true
  rw [List.countP_append, none, List.countP_singleton, if_pos loud]

theorem ndtDie_answers (machine : Machine) (reason : String) :
    (ndtDie (preamble machine) reason).Answers :=
  ⟨rfl, countP_console (preamble_quiet machine) (startsWith_marker_errorLine _)⟩

section Init

variable {names : Pathnames} (machine : Machine) (attempts : ℕ → Attempt) {cmdline : Text}
  {request : Request}

/-- **Without a test on the command line** the guest ends in an interactive shell. -/
theorem init_bash (parsed : parseCmdline names cmdline = request) (noTest : request.ndtTest = [])
    (fuel : ℕ) :
    init names machine attempts cmdline fuel =
      some ⟨preamble machine ++ interactiveNotice, .bash, 0⟩ := by
  rw [init, parsed, if_pos noTest]

/-- With a test: `init` has given up for a reason, or it runs the test loop. -/
theorem init_cases (parsed : parseCmdline names cmdline = request) (test : request.ndtTest ≠ []) :
    (∃ reason, ∀ fuel, init names machine attempts cmdline fuel =
        some (ndtDie (preamble machine) reason)) ∨
      (isNumeral request.ndtTest = true ∧ validIter request.ndtIter = true ∧
        machine.Ready request.ndtTest ∧
        ∀ fuel, init names machine attempts cmdline fuel =
          (runLoop request.ndtIter ("nvme/".toList ++ request.ndtTest) attempts fuel
            (loopStart machine)).map fun final =>
              ⟨final.console ++ [resultLine final.tally request.ndtIter
                ("nvme/".toList ++ request.ndtTest)], .poweroff, final.checks⟩) := by
  unfold init
  rw [parsed]
  simp only [if_neg test]
  split
  · exact Or.inl ⟨_, fun _ => rfl⟩
  split
  · exact Or.inl ⟨_, fun _ => rfl⟩
  rename_i numeral
  split
  · exact Or.inl ⟨_, fun _ => rfl⟩
  rename_i valid
  split
  · exact Or.inl ⟨_, fun _ => rfl⟩
  rename_i testFile
  split
  · exact Or.inl ⟨_, fun _ => rfl⟩
  rename_i load
  split
  · exact Or.inl ⟨_, fun _ => rfl⟩
  rename_i hotplug
  split
  · exact Or.inl ⟨_, fun _ => rfl⟩
  rename_i device
  simp only [Bool.not_eq_true', Bool.not_eq_false] at numeral valid testFile load hotplug device
  exact Or.inr ⟨numeral, valid, ⟨testFile, load, hotplug, device⟩, fun _ => rfl⟩

/-- On a ready machine nothing stands in the way of the test loop. -/
theorem init_loop (parsed : parseCmdline names cmdline = request)
    (numeral : isNumeral request.ndtTest = true) (valid : validIter request.ndtIter = true)
    (ready : machine.Ready request.ndtTest) (fuel : ℕ) :
    init names machine attempts cmdline fuel =
      (runLoop request.ndtIter ("nvme/".toList ++ request.ndtTest) attempts fuel
        (loopStart machine)).map fun final =>
          ⟨final.console ++ [resultLine final.tally request.ndtIter
            ("nvme/".toList ++ request.ndtTest)], .poweroff, final.checks⟩ := by
  have test : request.ndtTest ≠ [] := (isNumeral_iff.mp numeral).1
  have iter : request.ndtIter ≠ [] := by
    intro empty
    rw [validIter, empty] at valid
    cases valid
  simp only [init, parsed, if_neg test, if_neg iter, numeral, valid, ready.testFile, ready.vnvmeLoad,
    ready.hotplug, ready.nvme0n1, Bool.not_true, Bool.false_eq_true, if_false]

/-- **A ready machine runs `./check` exactly `k` times**, stops, and reports its counters. -/
theorem init_runs (parsed : parseCmdline names cmdline = request)
    (numeral : isNumeral request.ndtTest = true) (iter : isNumeral request.ndtIter = true) {k : ℕ}
    (value : constant request.ndtIter = some (k : ℤ)) (positive : 1 ≤ k) (room : k < 2 ^ 63 - 1)
    (ready : machine.Ready request.ndtTest) {fuel : ℕ} (enough : k < fuel) :
    ∃ final, runLoop request.ndtIter ("nvme/".toList ++ request.ndtTest) attempts fuel
        (loopStart machine) = some final ∧
      Reached machine.results attempts k final ∧
      init names machine attempts cmdline fuel =
        some ⟨final.console ++ [resultLine final.tally request.ndtIter
          ("nvme/".toList ++ request.ndtTest)], .poweroff, k⟩ := by
  have text : textValue request.ndtIter = some (k : ℤ) := by
    rw [textValue_digits (.of_isNumeral iter), value]
  have valid : validIter request.ndtIter = true := by
    rw [validIter, iter, text]
    simp
    omega
  obtain ⟨final, run, reached⟩ := runLoop_finishes machine text room enough
  refine ⟨final, run, reached, ?_⟩
  rw [init_loop machine attempts parsed numeral valid ready, run, ← reached.checks]
  rfl

/-- A valid iteration count is a positive 64-bit value. -/
theorem validIter_value {ndtIter : Text} (valid : validIter ndtIter = true) :
    isNumeral ndtIter = true ∧ ∃ k : ℕ, constant ndtIter = some (k : ℤ) ∧ 1 ≤ k ∧ (k : ℤ) ≤ intMax := by
  rw [validIter, Bool.and_eq_true] at valid
  obtain ⟨numeral, positive⟩ := valid
  refine ⟨numeral, ?_⟩
  rw [textValue_digits (.of_isNumeral numeral)] at positive
  cases value : constant ndtIter with
  | none =>
    rw [value] at positive
    cases positive
  | some n =>
    rw [value, Option.any_some, decide_eq_true_eq] at positive
    have range := constant_range (.of_isNumeral numeral) value
    exact ⟨n.toNat, by rw [Int.toNat_of_nonneg positive.le], by omega, by
      rw [Int.toNat_of_nonneg positive.le]; exact range.2⟩

/-- **With a test every path answers**, if the iteration count is not the greatest 64-bit value. -/
theorem init_answers (parsed : parseCmdline names cmdline = request) (test : request.ndtTest ≠ [])
    (finite : constant request.ndtIter = some intMax → isNumeral request.ndtTest = false) :
    ∃ boot enough, (∀ fuel, enough ≤ fuel → init names machine attempts cmdline fuel = some boot) ∧
      boot.Answers := by
  rcases init_cases machine attempts parsed test with
    ⟨reason, died⟩ | ⟨numeral, valid, ready, _⟩
  · exact ⟨_, 0, fun fuel _ => died fuel, ndtDie_answers machine reason⟩
  · obtain ⟨iter, k, value, positive, bounded⟩ := validIter_value valid
    have room : k < 2 ^ 63 - 1 := by
      have different : (k : ℤ) ≠ intMax := by
        intro same
        rw [finite (by rw [value, same])] at numeral
        cases numeral
      unfold intMax at bounded different
      omega
    obtain ⟨final, run, reached, _⟩ := init_runs machine attempts parsed numeral iter value
      positive room ready (Nat.lt_succ_self k)
    refine ⟨⟨final.console ++ [resultLine final.tally request.ndtIter
      ("nvme/".toList ++ request.ndtTest)], .poweroff, k⟩, k + 1, ?_, rfl,
      countP_console reached.console (startsWith_marker_resultLine _ _ _)⟩
    intro fuel enough
    obtain ⟨other, run', _, boot⟩ := init_runs machine attempts parsed numeral iter value
      positive room ready (Nat.lt_of_succ_le enough)
    rw [boot, runLoop_unique run run']

/-- **The loop to the greatest 64-bit value never ends.** -/
theorem init_endless (parsed : parseCmdline names cmdline = request)
    (numeral : isNumeral request.ndtTest = true) (iter : isNumeral request.ndtIter = true)
    (greatest : constant request.ndtIter = some intMax) (ready : machine.Ready request.ndtTest)
    (fuel : ℕ) : init names machine attempts cmdline fuel = none := by
  have text : textValue request.ndtIter = some intMax := by
    rw [textValue_digits (.of_isNumeral iter), greatest]
  have valid : validIter request.ndtIter = true := by
    rw [validIter, iter, text]
    rfl
  have fits : InRange (loopStart machine).i := show InRange 1 by decide
  rw [init_loop machine attempts parsed numeral valid ready, runLoop_endless text fuel fits]
  rfl

end Init

end Ndt.Guest
